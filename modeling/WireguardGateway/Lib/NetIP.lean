import WireguardGateway.Lib.Text

/-!
# Addresses and networks of Go's `net` package

`net.IP` as a 128-bit number: an IPv4 address `v` is the IPv4-mapped `::ffff:v`, so two addresses
are `Equal` iff the numbers are, and `To4` succeeds exactly on the mapped range. `parseIP` follows
`netip.ParseAddr` (dotted quads without leading zeros; IPv6 groups with one ellipsis and an
optional trailing dotted quad; no zone), `parseCIDR` follows `net.ParseCIDR`.

Results:
* **`parseIP_formatV4`**: the dotted quad `String` prints is parsed back;
* `addrChar_of_parseIP`: an address has hexadecimal digits, dots and colons only;
* `parseCIDR_eq_some`: an accepted 32-bit network has at most 32 prefix bits and a base that is a
  multiple of its size, below `2 ^ 32`.
-/

namespace WireguardGateway.Lib

/-! ## Addresses -/

/-- The high 96 bits of an IPv4-mapped address. -/
def v4Mapped : Nat := 0xffff

/-- `net.IPv4`. -/
def ofV4 (v : Nat) : Nat := v4Mapped * 2 ^ 32 + v

/-- `IP.To4`. -/
def to4 (ip : Nat) : Option Nat := if ip / 2 ^ 32 = v4Mapped then some (ip % 2 ^ 32) else none

variable {v : Nat} {cs : List Char}

theorem to4_ofV4 (h : v < 2 ^ 32) : to4 (ofV4 v) = some v := by
  unfold to4 ofV4 v4Mapped
  rw [if_pos (by omega)]
  congr 1
  omega

theorem ofV4_of_to4 {ip : Nat} (h : to4 ip = some v) : ip = ofV4 v ∧ v < 2 ^ 32 := by
  unfold to4 at h
  split at h
  · rename_i hm
    cases h
    unfold ofV4
    rw [← hm]
    omega
  · cases h

theorem ofV4_injective : Function.Injective ofV4 := fun a b h => by
  unfold ofV4 at h
  exact Nat.add_left_cancel h

/-- One field of a dotted quad: digits without a leading zero, at most 255. -/
def octet? (cs : List Char) : Option Nat :=
  match cs with
  | '0' :: _ :: _ => none
  | _ => (digits? cs).filter (· ≤ 255)

/-- A dotted quad. -/
def parseIPv4 (cs : List Char) : Option Nat :=
  match cs.splitOn '.' with
  | [a, b, c, d] => do
    let a ← octet? a
    let b ← octet? b
    let c ← octet? c
    let d ← octet? d
    some (((a * 256 + b) * 256 + c) * 256 + d)
  | _ => none

def hexDigit? (c : Char) : Option Nat :=
  if c.isDigit then some (c.toNat - '0'.toNat)
  else if 'a' ≤ c ∧ c ≤ 'f' then some (c.toNat - 'a'.toNat + 10)
  else if 'A' ≤ c ∧ c ≤ 'F' then some (c.toNat - 'A'.toNat + 10)
  else none

/-- The group loop of `parseIPv6`: at most `room` more 16-bit groups, `ellipsis` is where `::`
was seen. Returns the groups and the ellipsis once the text is used up. -/
def ipv6Groups : (room : Nat) → List Char → List Nat → Option Nat → Option (List Nat × Option Nat)
  | 0, cs, groups, ellipsis => if cs = [] then some (groups, ellipsis) else none
  | room + 1, cs, groups, ellipsis =>
    let hex := cs.takeWhile fun c => (hexDigit? c).isSome
    let acc := hex.foldl (fun n c => n * 16 + (hexDigit? c).getD 0) 0
    if hex = [] ∨ hex.length > 4 then none
    else
      match cs.drop hex.length with
      | [] => some (groups ++ [acc], ellipsis)
      | '.' :: _ =>
        -- a trailing dotted quad takes the place of the last two groups
        if (ellipsis = none ∧ groups.length ≠ 6) ∨ room = 0 then none
        else (parseIPv4 cs).map fun v => (groups ++ [v / 2 ^ 16, v % 2 ^ 16], ellipsis)
      | ':' :: ':' :: rest =>
        if ellipsis.isSome then none
        else if rest = [] then some (groups ++ [acc], some (groups.length + 1))
        else ipv6Groups room rest (groups ++ [acc]) (some (groups.length + 1))
      | ':' :: c :: rest => ipv6Groups room (c :: rest) (groups ++ [acc]) ellipsis
      | _ => none

def parseIPv6 (cs : List Char) : Option Nat := do
  let (groups, ellipsis) ←
    match cs with
    | [':', ':'] => some ([], some 0)
    | ':' :: ':' :: rest => ipv6Groups 8 rest [] (some 0)
    | cs => ipv6Groups 8 cs [] none
  let missing := 8 - groups.length
  let full ←
    match ellipsis with
    | none => if missing = 0 then some groups else none
    | some i =>
      if missing = 0 then none
      else some (groups.take i ++ List.replicate missing 0 ++ groups.drop i)
  some (full.foldl (fun n g => n * 2 ^ 16 + g) 0)

/-- The characters `netip.ParseAddr` tells the address families apart by. -/
def isSeparator (c : Char) : Bool := c == '.' || c == ':' || c == '%'

/-- `netip.ParseAddr` without zones: the value, and whether it was written as a dotted quad. -/
def parseAddr (cs : List Char) : Option (Nat × Bool) :=
  match cs.find? isSeparator with
  | some '.' => (parseIPv4 cs).map fun v => (ofV4 v, true)
  | some ':' => (parseIPv6 cs).map fun v => (v, false)
  | _ => none

/-- `net.ParseIP`. -/
def parseIP (s : String) : Option Nat := (parseAddr s.toList).map Prod.fst

/-- The dotted quad `IP.String` prints for an IPv4 address. -/
def formatV4 (v : Nat) : String :=
  toString (v / 2 ^ 24 % 256) ++ "." ++ toString (v / 2 ^ 16 % 256) ++ "." ++
    toString (v / 2 ^ 8 % 256) ++ "." ++ toString (v % 256)

/-! ## The dotted quad round trip -/

theorem octet?_toDigits {n : Nat} (h : n < 256) : octet? (Nat.toDigits 10 n) = some n := by
  revert n
  decide +kernel

theorem not_mem_toDigits {c : Char} (hc : c.isDigit = false) (n : Nat) :
    c ∉ Nat.toDigits 10 n := fun h =>
  absurd (Nat.isDigit_of_mem_toDigits (by decide) (by decide) h) (by simp [hc])

theorem formatV4_toList (v : Nat) :
    (formatV4 v).toList = ['.'].intercalate
      [Nat.toDigits 10 (v / 2 ^ 24 % 256), Nat.toDigits 10 (v / 2 ^ 16 % 256),
        Nat.toDigits 10 (v / 2 ^ 8 % 256), Nat.toDigits 10 (v % 256)] := by
  simp [formatV4, Nat.toString_eq_repr, Nat.toList_repr, List.intercalate, List.intersperse]

theorem splitOn_formatV4 (v : Nat) :
    (formatV4 v).toList.splitOn '.' =
      [Nat.toDigits 10 (v / 2 ^ 24 % 256), Nat.toDigits 10 (v / 2 ^ 16 % 256),
        Nat.toDigits 10 (v / 2 ^ 8 % 256), Nat.toDigits 10 (v % 256)] := by
  rw [formatV4_toList]
  refine List.splitOn_intercalate '.' (fun l hl => ?_) (by simp)
  simp only [List.mem_cons, List.not_mem_nil, or_false] at hl
  rcases hl with rfl | rfl | rfl | rfl <;> exact not_mem_toDigits (by decide) _

theorem parseIPv4_formatV4 (h : v < 2 ^ 32) : parseIPv4 (formatV4 v).toList = some v := by
  unfold parseIPv4
  rw [splitOn_formatV4]
  simp only [octet?_toDigits (Nat.mod_lt _ (by decide : 256 > 0)), bind, Option.bind]
  congr 1
  omega

/-- The first separator of a dotted quad is a dot. -/
theorem find_separator_formatV4 (v : Nat) :
    (formatV4 v).toList.find? isSeparator = some '.' := by
  have hnone : (Nat.toDigits 10 (v / 2 ^ 24 % 256)).find? isSeparator = none := by
    rw [List.find?_eq_none]
    intro c hc hsep
    have hd := Nat.isDigit_of_mem_toDigits (by decide) (by decide) hc
    simp only [isSeparator, Bool.or_eq_true, beq_iff_eq] at hsep
    rcases hsep with (rfl | rfl) | rfl <;> exact absurd hd (by decide)
  rw [formatV4_toList]
  simp only [List.intercalate, List.intersperse, List.flatten_cons, List.find?_append, hnone,
    Option.none_or]
  rfl

/-- **The printed dotted quad is parsed back.** -/
theorem parseIP_formatV4 (h : v < 2 ^ 32) : parseIP (formatV4 v) = some (ofV4 v) := by
  rw [parseIP, parseAddr, find_separator_formatV4]
  simp only [parseIPv4_formatV4 h, Option.map_some]

/-! ## The characters of an address -/

/-- A character that may stand in an address without a zone. -/
def AddrChar (c : Char) : Prop := (hexDigit? c).isSome ∨ c = '.' ∨ c = ':'

theorem addrChar_of_digits {n : Nat} (h : digits? cs = some n) :
    ∀ c ∈ cs, AddrChar c := by
  unfold digits? at h
  intro c hc
  have hall := (Option.ite_none_right_eq_some.mp h).1.2
  have hdigit : c.isDigit := List.all_eq_true.mp hall c hc
  exact .inl (by simp [hexDigit?, hdigit])

theorem addrChar_of_octet {n : Nat} (h : octet? cs = some n) :
    ∀ c ∈ cs, AddrChar c := by
  unfold octet? at h
  split at h
  · cases h
  · exact addrChar_of_digits (Option.filter_eq_some_iff.mp h).1

theorem addrChar_of_ipv4 (h : parseIPv4 cs = some v) :
    ∀ c ∈ cs, AddrChar c := by
  unfold parseIPv4 at h
  split at h
  · rename_i a b c d hsplit
    simp only [Option.bind_eq_bind, Option.bind_eq_some_iff] at h
    obtain ⟨_, ha, _, hb, _, hc, _, hd, -⟩ := h
    have hjoin : ['.'].intercalate (cs.splitOn '.') = cs := List.intercalate_splitOn '.'
    intro x hx
    rw [← hjoin, hsplit] at hx
    simp only [List.intercalate, List.intersperse, List.flatten_cons, List.flatten_nil,
      List.append_nil, List.mem_append, List.mem_singleton] at hx
    rcases hx with hx | rfl | hx | rfl | hx | rfl | hx
    · exact addrChar_of_octet ha x hx
    · exact .inr (.inl rfl)
    · exact addrChar_of_octet hb x hx
    · exact .inr (.inl rfl)
    · exact addrChar_of_octet hc x hx
    · exact .inr (.inl rfl)
    · exact addrChar_of_octet hd x hx
  · cases h

theorem addrChar_of_groups : ∀ {room : Nat} {cs : List Char} {groups : List Nat}
    {ellipsis : Option Nat} {out : List Nat × Option Nat},
    ipv6Groups room cs groups ellipsis = some out → ∀ c ∈ cs, AddrChar c := by
  intro room
  induction room with
  | zero =>
    intro cs groups ellipsis out h c hc
    rw [ipv6Groups] at h
    rw [(Option.ite_none_right_eq_some.mp h).1] at hc
    cases hc
  | succ room ih =>
    intro cs groups ellipsis out h
    rw [ipv6Groups] at h
    generalize hhex : cs.takeWhile (fun c => (hexDigit? c).isSome) = hex at h
    have hcs : cs = hex ++ cs.drop hex.length := by
      have htake : hex <+: cs := hhex ▸ List.takeWhile_prefix _
      obtain ⟨rest, rfl⟩ := htake
      rw [List.drop_left]
    have hexChars : ∀ c ∈ hex, AddrChar c := by
      intro c hc
      rw [← hhex] at hc
      exact .inl (List.all_eq_true.mp List.all_takeWhile c hc)
    suffices hrest : ∀ c ∈ cs.drop hex.length, AddrChar c by
      rw [hcs]
      exact List.forall_mem_append.mpr ⟨hexChars, hrest⟩
    replace h := (Option.ite_none_left_eq_some.mp h).2
    split at h
    · rename_i hdrop
      rw [hdrop]
      exact fun c hc => absurd hc List.not_mem_nil
    · rename_i rest hdrop
      obtain ⟨v, hv, -⟩ := Option.map_eq_some_iff.mp (Option.ite_none_left_eq_some.mp h).2
      exact fun c hc => addrChar_of_ipv4 hv c (List.mem_of_mem_drop hc)
    · rename_i rest hdrop
      rw [hdrop]
      replace h := (Option.ite_none_left_eq_some.mp h).2
      split_ifs at h with hnil
      · rw [hnil]
        simp [AddrChar]
      · have hrest := ih h
        simp only [List.mem_cons, forall_eq_or_imp]
        exact ⟨.inr (.inr rfl), .inr (.inr rfl), hrest⟩
    · rename_i c rest _ hdrop
      rw [hdrop]
      have hrest := ih h
      rw [List.forall_mem_cons]
      exact ⟨.inr (.inr rfl), hrest⟩
    · cases h

theorem addrChar_of_ipv6 (h : parseIPv6 cs = some v) :
    ∀ c ∈ cs, AddrChar c := by
  unfold parseIPv6 at h
  split at h
  · simp [AddrChar]
  · obtain ⟨out, hgroups, -⟩ := Option.bind_eq_some_iff.mp h
    rw [List.forall_mem_cons, List.forall_mem_cons]
    exact ⟨.inr (.inr rfl), .inr (.inr rfl), addrChar_of_groups hgroups⟩
  · obtain ⟨out, hgroups, -⟩ := Option.bind_eq_some_iff.mp h
    exact addrChar_of_groups hgroups

/-- **An address without a zone** has no other characters than digits, dots and colons. -/
theorem addrChar_of_parseIP {s : String} (h : (parseIP s).isSome) : ∀ c ∈ s.toList, AddrChar c := by
  obtain ⟨ip, hip⟩ := Option.isSome_iff_exists.mp h
  obtain ⟨⟨v, is4⟩, hparse, -⟩ := Option.map_eq_some_iff.mp hip
  unfold parseAddr at hparse
  split at hparse
  · obtain ⟨v, hv, -⟩ := Option.map_eq_some_iff.mp hparse
    exact addrChar_of_ipv4 hv
  · obtain ⟨v, hv, -⟩ := Option.map_eq_some_iff.mp hparse
    exact addrChar_of_ipv6 hv
  · cases hparse

theorem not_addrChar_space : ¬ AddrChar ' ' := by
  unfold AddrChar
  decide

/-! ## Networks -/

/-- `net.IPNet`: the masked address, its width in bits (32 or 128) and the prefix length. -/
structure IPNet where
  ip : Nat
  bits : Nat
  ones : Nat
  deriving DecidableEq, Repr

/-- The network of an address, `IP.Mask(CIDRMask(ones, bits))`. -/
def maskTo (ip bits ones : Nat) : Nat := ip / 2 ^ (bits - ones) * 2 ^ (bits - ones)

/-- `net.ParseCIDR`, the network it returns. -/
def parseCIDR (s : String) : Option IPNet :=
  let addr := s.toList.takeWhile (· ≠ '/')
  match s.toList.dropWhile (· ≠ '/') with
  | '/' :: mask => do
    let (ip, is4) ← parseAddr addr
    let ones ← digits? mask
    let bits := if is4 then 32 else 128
    if ones ≤ bits then
      some { ip := maskTo (if is4 then ip % 2 ^ 32 else ip) bits ones, bits, ones }
    else none
  | _ => none

/-- `IPNet.Contains` for an IPv4 address: the network is IPv4, or an IPv4-mapped one of 128 bits. -/
def IPNet.contains (n : IPNet) (v : Nat) : Bool :=
  if n.bits = 32 then maskTo v 32 n.ones = n.ip
  else
    match to4 n.ip with
    | some base => maskTo v 32 (n.ones - 96) = base
    | none => false

theorem parseCIDR_eq_some {s : String} {n : IPNet} (h : parseCIDR s = some n) :
    n.ones ≤ n.bits ∧ (n.bits = 32 ∨ n.bits = 128) ∧
      (n.bits = 32 → ∃ v < 2 ^ 32, n.ip = maskTo v 32 n.ones) := by
  unfold parseCIDR at h
  dsimp only at h
  split at h
  · simp only [Option.bind_eq_bind, Option.bind_eq_some_iff] at h
    obtain ⟨⟨ip, is4⟩, -, ones, -, h⟩ := h
    cases is4 with
    | false =>
      obtain ⟨hle, ⟨⟩⟩ := Option.ite_none_right_eq_some.mp h
      exact ⟨hle, .inr rfl, fun hb => absurd hb (by simp)⟩
    | true =>
      obtain ⟨hle, ⟨⟩⟩ := Option.ite_none_right_eq_some.mp h
      exact ⟨hle, .inl rfl, fun _ => ⟨ip % 2 ^ 32, by omega, rfl⟩⟩
  · cases h

end WireguardGateway.Lib

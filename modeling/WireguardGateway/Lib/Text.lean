import Mathlib.Data.List.Infix
import Mathlib.Algebra.Order.Ring.Int

/-!
# Text functions of the Go standard library

The few functions of `strings` and `strconv` that a program's decisions rest on, over the
characters of a string so that they evaluate. Results:
* **`atoi_toString`**, `atoi?_toString`: `strconv.Atoi` reads back what `strconv.Itoa` wrote, on the
  range of `int`.

Non-ASCII letters other than the two that lower into ASCII are left as they are by `toLower`, and
`quote` writes them unescaped.
-/

namespace WireguardGateway.Lib

/-! ## `strings` -/

/-- `unicode.ToLower`, restricted to the runes whose lower case is ASCII: `A`..`Z`, the Kelvin
sign and the dotted capital I. -/
def lowerRune (c : Char) : Char :=
  if c = Char.ofNat 0x212A then 'k' else if c = Char.ofNat 0x130 then 'i' else c.toLower

/-- `strings.ToLower`. -/
def toLower (s : String) : String := String.ofList (s.toList.map lowerRune)

theorem toLower_append (s t : String) : toLower (s ++ t) = toLower s ++ toLower t := by
  simp [toLower]

theorem lowerRune_lowerRune (c : Char) : lowerRune (lowerRune c) = lowerRune c := by
  have hascii : ∀ n < 128, lowerRune (lowerRune (Char.ofNat n)) = lowerRune (Char.ofNat n) := by
    decide
  by_cases hc : c.toNat < 128
  · have hchar := hascii c.toNat hc
    rwa [Char.ofNat_toNat] at hchar
  · have hupper : c.toLower = c := dif_neg fun h => hc (Nat.lt_of_le_of_lt h.2 (by decide))
    by_cases hk : c = Char.ofNat 0x212A
    · subst hk
      decide
    by_cases hi : c = Char.ofNat 0x130
    · subst hi
      decide
    have hself : lowerRune c = c := by
      rw [lowerRune, if_neg hk, if_neg hi, hupper]
    rw [hself, hself]

theorem toLower_toLower (s : String) : toLower (toLower s) = toLower s := by
  simp [toLower, Function.comp_def, lowerRune_lowerRune]

/-- `strings.Split(s, sep)` for a one-character separator. -/
def split (sep : Char) (s : String) : List String :=
  (s.toList.splitOn sep).map String.ofList

/-- `strings.Cut` at a one-character separator: what is before it and what is after it. -/
def cut (sep : Char) (s : String) : String × String :=
  let (before, rest) := s.toList.span (· ≠ sep)
  (String.ofList before, String.ofList rest.tail)

theorem cut_append {sep : Char} {s u : String} (t : String) (hu : u.toList = [sep])
    (h : sep ∉ s.toList) : cut sep (s ++ u ++ t) = (s, t) := by
  have hall : ∀ c ∈ s.toList, (decide (c ≠ sep)) = true := fun c hc =>
    decide_eq_true fun heq => h (heq ▸ hc)
  have hspan : (s ++ u ++ t).toList.span (· ≠ sep) = (s.toList, sep :: t.toList) := by
    rw [List.span_eq_takeWhile_dropWhile, String.toList_append, String.toList_append, hu,
      List.append_assoc, List.takeWhile_append_of_pos hall, List.dropWhile_append_of_pos hall]
    simp
  simp only [cut, hspan, List.tail_cons, String.ofList_toList]

/-- `strings.Contains`. -/
def contains (s substr : String) : Bool := substr.toList <:+: s.toList

theorem contains_append (s t : String) : contains (s ++ t) s := by
  unfold contains
  rw [String.toList_append]
  exact decide_eq_true (List.prefix_append _ _).isInfix

/-- `unicode.IsSpace`. -/
def isSpace (c : Char) : Bool :=
  [0x09, 0x0A, 0x0B, 0x0C, 0x0D, 0x20, 0x85, 0xA0, 0x1680, 0x2028, 0x2029, 0x202F, 0x205F,
    0x3000].contains c.toNat || (0x2000 ≤ c.toNat && c.toNat ≤ 0x200A)

/-- `strings.TrimSpace`. -/
def trimSpace (s : String) : String :=
  String.ofList ((s.toList.dropWhile isSpace).reverse.dropWhile isSpace).reverse

/-- `strings.Join`. -/
def join (sep : String) : List String → String
  | [] => ""
  | [s] => s
  | s :: t :: rest => s ++ sep ++ join sep (t :: rest)

/-! ## `strconv` -/

/-- `strconv.FormatBool`. -/
def formatBool (b : Bool) : String := if b then "true" else "false"

/-- `%q`: double quotes around the text, with Go's escapes for the ASCII control characters, the
quote and the backslash. -/
def quote (s : String) : String :=
  let hex (n : Nat) : List Char := [Nat.digitChar (n / 16), Nat.digitChar (n % 16)]
  let escape (c : Char) : List Char :=
    match c with
    | '"' => ['\\', '"']
    | '\\' => ['\\', '\\']
    | '\n' => ['\\', 'n']
    | '\r' => ['\\', 'r']
    | '\t' => ['\\', 't']
    | c =>
      match c.toNat with
      | 7 => ['\\', 'a']
      | 8 => ['\\', 'b']
      | 11 => ['\\', 'v']
      | 12 => ['\\', 'f']
      | n => if n < 32 ∨ n = 127 then ['\\', 'x'] ++ hex n else [c]
  String.ofList ('"' :: s.toList.flatMap escape ++ ['"'])

/-- The number a non-empty run of decimal digits writes. -/
def digits? (cs : List Char) : Option Nat :=
  if cs ≠ [] ∧ cs.all Char.isDigit then some (Nat.ofDigitChars 10 cs 0) else none

/-- The largest `int`. -/
def maxInt : Int := 2 ^ 63 - 1

/-- A value a Go `int` can hold. -/
def IsInt (n : Int) : Prop := -maxInt - 1 ≤ n ∧ n ≤ maxInt

instance (n : Int) : Decidable (IsInt n) := inferInstanceAs (Decidable (_ ∧ _))

/-- The number a run of decimal digits with an optional sign writes. -/
def signed? (s : String) : Option Int :=
  match s.toList with
  | '-' :: cs => (digits? cs).map fun n : Nat => -(n : Int)
  | '+' :: cs => (digits? cs).map Int.ofNat
  | cs => (digits? cs).map Int.ofNat

/-- The value of `strconv.Atoi` when its error is discarded: `0` on a syntax error, the nearest
`int` on a range error. -/
def atoi (s : String) : Int := ((signed? s).map fun n => max (-maxInt - 1) (min maxInt n)).getD 0

/-- `strconv.Atoi` with its error. -/
def atoi? (s : String) : Except String Int :=
  let failed := fun cause => "strconv.Atoi: parsing " ++ quote s ++ ": " ++ cause
  match signed? s with
  | none => .error (failed "invalid syntax")
  | some n => if IsInt n then .ok n else .error (failed "value out of range")

theorem digits?_toDigits (n : Nat) : digits? (Nat.toDigits 10 n) = some n := by
  have hd : (Nat.toDigits 10 n).all Char.isDigit := by
    rw [List.all_eq_true]
    exact fun c hc => Nat.isDigit_of_mem_toDigits (by decide) (by decide) hc
  rw [digits?, if_pos ⟨Nat.toDigits_ne_nil, hd⟩, Nat.ofDigitChars_ten_toDigits]

theorem toDigits_eq_cons (n : Nat) :
    ∃ c cs, Nat.toDigits 10 n = c :: cs ∧ c ≠ '-' ∧ c ≠ '+' := by
  rcases hl : Nat.toDigits 10 n with _ | ⟨c, cs⟩
  · exact absurd hl Nat.toDigits_ne_nil
  · have hc : c.isDigit :=
      Nat.isDigit_of_mem_toDigits (b := 10) (n := n) (by decide) (by decide) (hl ▸ by simp)
    exact ⟨c, cs, rfl, by rintro rfl; exact absurd hc (by decide),
      by rintro rfl; exact absurd hc (by decide)⟩

/-- The text `Itoa` writes is the number's. -/
theorem signed?_toString (n : Int) : signed? (toString n) = some n := by
  cases n with
  | ofNat n =>
    obtain ⟨c, cs, hcs, hm, hp⟩ := toDigits_eq_cons n
    have hl : (toString (Int.ofNat n)).toList = c :: cs := by
      rw [← hcs, ← Nat.toList_repr]
      rfl
    have hv : digits? (c :: cs) = some n := by rw [← hcs, digits?_toDigits]
    unfold signed?
    rw [hl]
    split
    · rename_i heq; exact absurd (List.cons.inj heq).1 hm
    · rename_i heq; exact absurd (List.cons.inj heq).1 hp
    · rw [hv, Option.map_some]
  | negSucc n =>
    have hl : (toString (Int.negSucc n)).toList = '-' :: Nat.toDigits 10 (n + 1) := by
      rw [Int.toString_eq_repr]
      simp [Int.repr, Nat.toList_repr]
    simp only [signed?, hl, digits?_toDigits, Option.map_some]
    rfl

/-- **`Atoi ∘ Itoa`** is the identity on `int`. -/
theorem atoi_toString {n : Int} (h : IsInt n) : atoi (toString n) = n := by
  rw [atoi, signed?_toString, Option.map_some, Option.getD_some, min_eq_right h.2, max_eq_right h.1]

theorem atoi?_toString {n : Int} (h : IsInt n) : atoi? (toString n) = .ok n := by
  simp only [atoi?, signed?_toString, if_pos h]

end WireguardGateway.Lib

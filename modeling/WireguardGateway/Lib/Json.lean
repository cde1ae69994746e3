import WireguardGateway.Lib.Text

/-!
# JSON as Go's `encoding/json` writes and reads it

`marshal` writes a value without blanks and with the escapes of `json.Marshal`; `unmarshal` reads
any JSON text whose numbers are integers (a fraction or an exponent is refused, and every number
here is decoded into an `int`). Strings are sequences of Unicode characters, so the replacement of
invalid UTF-8 does not arise.

Results:
* **`unmarshal_marshal`**: reading back what was written gives the value that was written;
* `parseRunes_escape`: the same for the characters of a string;
* `Json.size_le`: the text of a value is long enough to pay for the parser's recursion.
-/

namespace WireguardGateway.Lib

/-- A JSON value. The fields of an object are kept in the order in which they are written. -/
inductive Json where
  | null
  | bool (b : Bool)
  | int (n : Int)
  | str (s : String)
  | arr (elems : List Json)
  | obj (fields : List (String × Json))

namespace Json

/-! ## Writing -/

/-- `\u` and four hex digits. -/
def unicodeEscape (n : Nat) : List Char :=
  ['\\', 'u', Nat.digitChar (n / 4096 % 16), Nat.digitChar (n / 256 % 16),
    Nat.digitChar (n / 16 % 16), Nat.digitChar (n % 16)]

/-- The characters `json.Marshal` writes as `\u` escapes: the control characters without a short
escape, the three that are special in HTML, and the two line separators of JavaScript. -/
def isUnicodeEscaped (c : Char) : Bool :=
  c.toNat < 32 || c == '<' || c == '>' || c == '&' || c.toNat == 0x2028 || c.toNat == 0x2029

/-- The characters with a short escape, and its letter. -/
def shortEscape (c : Char) : Option Char :=
  match c with
  | '"' => some '"'
  | '\\' => some '\\'
  | '\n' => some 'n'
  | '\r' => some 'r'
  | '\t' => some 't'
  | c => if c.toNat = 8 then some 'b' else if c.toNat = 12 then some 'f' else none

def escape (c : Char) : List Char :=
  match shortEscape c with
  | some letter => ['\\', letter]
  | none => if isUnicodeEscaped c then unicodeEscape c.toNat else [c]

def stringChars (s : String) : List Char := '"' :: (s.toList.flatMap escape ++ ['"'])

mutual

def chars : Json → List Char
  | .null => ['n', 'u', 'l', 'l']
  | .bool true => ['t', 'r', 'u', 'e']
  | .bool false => ['f', 'a', 'l', 's', 'e']
  | .int n => (toString n).toList
  | .str s => stringChars s
  | .arr elems => '[' :: (elemsChars elems ++ [']'])
  | .obj fields => '{' :: (fieldsChars fields ++ ['}'])

def elemsChars : List Json → List Char
  | [] => []
  | [v] => v.chars
  | v :: u :: vs => v.chars ++ ',' :: elemsChars (u :: vs)

def fieldsChars : List (String × Json) → List Char
  | [] => []
  | [(k, v)] => stringChars k ++ ':' :: v.chars
  | (k, v) :: f :: fs => stringChars k ++ ':' :: (v.chars ++ ',' :: fieldsChars (f :: fs))

end

/-- `json.Marshal`. -/
def marshal (v : Json) : String := String.ofList v.chars

/-! ## Reading -/

def skipBlanks (cs : List Char) : List Char :=
  cs.dropWhile fun c => c == ' ' || c == '\t' || c == '\r' || c == '\n'

/-- The value of a hex digit. -/
def hexDigit? (c : Char) : Option Nat :=
  if c.isDigit then some (c.toNat - '0'.toNat)
  else if 'a'.toNat ≤ c.toNat ∧ c.toNat ≤ 'f'.toNat then some (c.toNat - 'a'.toNat + 10)
  else if 'A'.toNat ≤ c.toNat ∧ c.toNat ≤ 'F'.toNat then some (c.toNat - 'A'.toNat + 10)
  else none

def hex4? (a b c d : Char) : Option Nat := do
  let a ← hexDigit? a
  let b ← hexDigit? b
  let c ← hexDigit? c
  let d ← hexDigit? d
  pure (a * 4096 + b * 256 + c * 16 + d)

/-- The character a short escape stands for. -/
def unescape? (letter : Char) : Option Char :=
  match letter with
  | '"' => some '"'
  | '\\' => some '\\'
  | '/' => some '/'
  | 'b' => some (Char.ofNat 8)
  | 'f' => some (Char.ofNat 12)
  | 'n' => some '\n'
  | 'r' => some '\r'
  | 't' => some '\t'
  | _ => none

/-- A string literal, up to its closing quote: characters, and the code units of `\u` escapes. -/
def parseRunes : List Char → Option (List (Char ⊕ Nat) × List Char)
  | [] => none
  | '"' :: rest => some ([], rest)
  | '\\' :: 'u' :: a :: b :: c :: d :: rest =>
    match hex4? a b c d, parseRunes rest with
    | some n, some (runes, rest) => some (.inr n :: runes, rest)
    | _, _ => none
  | '\\' :: letter :: rest =>
    match unescape? letter, parseRunes rest with
    | some c, some (runes, rest) => some (.inl c :: runes, rest)
    | _, _ => none
  | c :: rest =>
    if c.toNat < 32 ∨ c = '\\' then none
    else (parseRunes rest).map fun (runes, rest) => (.inl c :: runes, rest)

def isSurrogate (n : Nat) : Bool := 0xD800 ≤ n && n < 0xE000

/-- Code units as characters: a surrogate pair is one character, a lone surrogate becomes the
replacement character. -/
def joinRunes : List (Char ⊕ Nat) → List Char
  | [] => []
  | .inl c :: rest => c :: joinRunes rest
  | .inr hi :: .inr lo :: rest =>
    if !isSurrogate hi then Char.ofNat hi :: joinRunes (.inr lo :: rest)
    else if hi < 0xDC00 ∧ 0xDC00 ≤ lo ∧ isSurrogate lo then
      Char.ofNat ((hi - 0xD800) * 1024 + (lo - 0xDC00) + 0x10000) :: joinRunes rest
    else Char.ofNat 0xFFFD :: joinRunes (.inr lo :: rest)
  | .inr n :: rest => (if isSurrogate n then Char.ofNat 0xFFFD else Char.ofNat n) :: joinRunes rest

/-- A string literal after its opening quote. -/
def parseString (cs : List Char) : Option (String × List Char) :=
  (parseRunes cs).map fun (runes, rest) => (String.ofList (joinRunes runes), rest)

/-- An unsigned integer without leading zeros. -/
def parseNat (cs : List Char) : Option (Nat × List Char) :=
  let ds := cs.takeWhile Char.isDigit
  let rest := cs.dropWhile Char.isDigit
  match digits? ds with
  | some n =>
    if Nat.toDigits 10 n ≠ ds ∨ rest.head? ∈ [some '.', some 'e', some 'E'] then none
    else some (n, rest)
  | none => none

def parseInt : List Char → Option (Int × List Char)
  | '-' :: cs => (parseNat cs).map fun (n, rest) => (-(n : Int), rest)
  | cs => (parseNat cs).map fun (n, rest) => ((n : Int), rest)

mutual

/-- A value. The fuel bounds the recursion; twice the length of the text is enough for it. -/
def parseValue : Nat → List Char → Option (Json × List Char)
  | 0, _ => none
  | fuel + 1, cs =>
    match skipBlanks cs with
    | 'n' :: 'u' :: 'l' :: 'l' :: rest => some (.null, rest)
    | 't' :: 'r' :: 'u' :: 'e' :: rest => some (.bool true, rest)
    | 'f' :: 'a' :: 'l' :: 's' :: 'e' :: rest => some (.bool false, rest)
    | '"' :: rest => (parseString rest).map fun (s, rest) => (.str s, rest)
    | '[' :: rest =>
      if (skipBlanks rest).head? = some ']' then some (.arr [], (skipBlanks rest).tail)
      else (parseElems fuel rest).map fun (vs, rest) => (.arr vs, rest)
    | '{' :: rest =>
      if (skipBlanks rest).head? = some '}' then some (.obj [], (skipBlanks rest).tail)
      else (parseFields fuel rest).map fun (fs, rest) => (.obj fs, rest)
    | cs => (parseInt cs).map fun (n, rest) => (.int n, rest)

/-- The elements of an array, up to its closing bracket. -/
def parseElems : Nat → List Char → Option (List Json × List Char)
  | 0, _ => none
  | fuel + 1, cs =>
    match parseValue fuel cs with
    | none => none
    | some (v, rest) =>
      match skipBlanks rest with
      | ']' :: rest => some ([v], rest)
      | ',' :: rest => (parseElems fuel rest).map fun (vs, rest) => (v :: vs, rest)
      | _ => none

/-- The fields of an object, up to its closing brace. -/
def parseFields : Nat → List Char → Option (List (String × Json) × List Char)
  | 0, _ => none
  | fuel + 1, cs =>
    match skipBlanks cs with
    | '"' :: rest =>
      match parseString rest with
      | none => none
      | some (k, rest) =>
        match skipBlanks rest with
        | ':' :: rest =>
          match parseValue fuel rest with
          | none => none
          | some (v, rest) =>
            match skipBlanks rest with
            | '}' :: rest => some ([(k, v)], rest)
            | ',' :: rest => (parseFields fuel rest).map fun (fs, rest) => ((k, v) :: fs, rest)
            | _ => none
        | _ => none
    | _ => none

end

/-- `json.Unmarshal`, up to the conversion into the target type. -/
def unmarshal (s : String) : Option Json :=
  match parseValue (2 * s.toList.length + 2) s.toList with
  | some (v, rest) => if skipBlanks rest = [] then some v else none
  | none => none

/-! ## Strings are read back -/

variable {c : Char} {rest : List Char}

theorem unescape?_shortEscape {letter : Char} (h : shortEscape c = some letter) :
    unescape? letter = some c ∧ letter ≠ 'u' := by
  unfold shortEscape at h
  split at h
  case h_6 =>
    split at h
    · rename_i hc
      cases h
      exact ⟨congrArg some (Char.toNat_inj.mp (by rw [hc]; rfl)), by decide⟩
    · split at h
      · rename_i hc
        cases h
        exact ⟨congrArg some (Char.toNat_inj.mp (by rw [hc]; rfl)), by decide⟩
      · cases h
  all_goals
    cases h
    exact ⟨rfl, by decide⟩

theorem hexDigit?_digitChar : ∀ d < 16, hexDigit? (Nat.digitChar d) = some d := by decide

theorem parseRunes_unicodeEscape {n : Nat} (hn : n < 65536) (rest : List Char) :
    parseRunes (unicodeEscape n ++ rest) =
      (parseRunes rest).map fun (runes, rest) => (.inr n :: runes, rest) := by
  have hd : ∀ m, hexDigit? (Nat.digitChar (m % 16)) = some (m % 16) := fun m =>
    hexDigit?_digitChar _ (Nat.mod_lt _ (by decide))
  have hval : n / 4096 % 16 * 4096 + n / 256 % 16 * 256 + n / 16 % 16 * 16 + n % 16 = n := by
    omega
  simp only [unicodeEscape, List.cons_append, List.nil_append, parseRunes, hex4?, hd,
    Option.bind_eq_bind, Option.bind_some, Option.pure_def, hval]
  cases parseRunes rest <;> rfl

/-- What the reader makes of a written character. -/
def runeOf (c : Char) : Char ⊕ Nat :=
  if shortEscape c = none ∧ isUnicodeEscaped c then .inr c.toNat else .inl c

theorem isUnicodeEscaped_toNat (h : isUnicodeEscaped c) : c.toNat < 0xD800 := by
  simp only [isUnicodeEscaped, Bool.or_eq_true, decide_eq_true_eq, beq_iff_eq] at h
  rcases h with ((((h | rfl) | rfl) | rfl) | h) | h
  · omega
  all_goals first | decide | omega

theorem parseRunes_escape (c : Char) (rest : List Char) :
    parseRunes (escape c ++ rest) =
      (parseRunes rest).map fun (runes, rest) => (runeOf c :: runes, rest) := by
  unfold escape runeOf
  cases hs : shortEscape c with
  | some letter =>
    obtain ⟨hletter, hu⟩ := unescape?_shortEscape hs
    simp only [List.cons_append, List.nil_append, reduceCtorEq, false_and, if_false]
    rw [parseRunes, hletter]
    · cases parseRunes rest <;> rfl
    · rintro a b c' d rest' rfl -
      exact hu rfl
  | none =>
    dsimp only
    split
    · rename_i he
      rw [parseRunes_unicodeEscape (by have := isUnicodeEscaped_toNat he; omega)]
      simp [he]
    · rename_i he
      have hquote : c ≠ '"' := by rintro rfl; cases hs
      have hslash : c ≠ '\\' := by rintro rfl; cases hs
      have hctl : ¬ c.toNat < 32 := fun h => he (by simp [isUnicodeEscaped, h])
      simp only [List.cons_append, List.nil_append, he, Bool.false_eq_true, and_false, if_false]
      rw [parseRunes, if_neg (by simp [hctl, hslash])]
      · rintro rfl
        exact hquote rfl
      · rintro a b c' d rest' rfl
        exact absurd rfl hslash
      · rintro letter rest' rfl
        exact absurd rfl hslash

theorem parseRunes_string : ∀ (cs rest : List Char),
    parseRunes (cs.flatMap escape ++ '"' :: rest) = some (cs.map runeOf, rest)
  | [], rest => rfl
  | c :: cs, rest => by
    rw [List.flatMap_cons, List.append_assoc, parseRunes_escape, parseRunes_string cs rest]
    rfl

theorem joinRunes_inr {n : Nat} (h : isSurrogate n = false) (rest : List (Char ⊕ Nat)) :
    joinRunes (.inr n :: rest) = Char.ofNat n :: joinRunes rest := by
  match rest with
  | [] => simp [joinRunes, h]
  | .inl c :: rest => simp [joinRunes, h]
  | .inr m :: rest => simp [joinRunes, h]

theorem joinRunes_map : ∀ cs : List Char, joinRunes (cs.map runeOf) = cs
  | [] => rfl
  | c :: cs => by
    have ih := joinRunes_map cs
    rw [List.map_cons, runeOf]
    split
    · rename_i hc
      have hlow := isUnicodeEscaped_toNat hc.2
      have hs : isSurrogate c.toNat = false := by simp [isSurrogate]; omega
      rw [joinRunes_inr hs, Char.ofNat_toNat, ih]
    · rw [joinRunes, ih]

/-- A written string is read back. -/
theorem parseString_stringChars (s : String) (rest : List Char) :
    parseString (s.toList.flatMap escape ++ '"' :: rest) = some (s, rest) := by
  simp [parseString, parseRunes_string, joinRunes_map]

/-! ## Values are read back -/

/-- What can follow a value. -/
def Ends (rest : List Char) : Prop := ∀ c ∈ rest.head?, c ∈ [',', ']', '}']

theorem Ends.nil : Ends [] := fun _ h => nomatch h

theorem Ends.cons {c : Char} (h : c ∈ [',', ']', '}']) (rest : List Char) : Ends (c :: rest) := by
  rintro c' h'
  cases h'
  exact h

/-- What follows a value does not continue a number. -/
theorem Ends.head (h : Ends (c :: rest)) :
    c.isDigit = false ∧ some c ∉ [some '.', some 'e', some 'E'] := by
  have hc := h c rfl
  simp only [List.mem_cons, List.not_mem_nil, or_false] at hc
  rcases hc with rfl | rfl | rfl <;> decide

theorem Ends.spanDigits (h : Ends rest) :
    rest.takeWhile Char.isDigit = [] ∧ rest.dropWhile Char.isDigit = rest ∧
      rest.head? ∉ [some '.', some 'e', some 'E'] := by
  cases rest with
  | nil => decide
  | cons c rest =>
    obtain ⟨hd, he⟩ := h.head
    exact ⟨by simp [hd], by simp [hd], he⟩

theorem parseNat_toDigits (n : Nat) (hr : Ends rest) :
    parseNat (Nat.toDigits 10 n ++ rest) = some (n, rest) := by
  have hd : ∀ c ∈ Nat.toDigits 10 n, c.isDigit := fun c hc =>
    Nat.isDigit_of_mem_toDigits (by decide) (by decide) hc
  obtain ⟨htake, hdrop, hhead⟩ := hr.spanDigits
  simp only [parseNat, List.takeWhile_append_of_pos hd, List.dropWhile_append_of_pos hd, htake,
    hdrop, List.append_nil, digits?_toDigits]
  rw [if_neg]
  rintro (h | h)
  · exact h rfl
  · exact hhead h

theorem parseInt_toString (n : Int) (hr : Ends rest) :
    parseInt ((toString n).toList ++ rest) = some (n, rest) := by
  cases n with
  | ofNat n =>
    obtain ⟨c, cs, hcs, hm, -⟩ := toDigits_eq_cons n
    have hl : (toString (Int.ofNat n)).toList = Nat.toDigits 10 n := by
      rw [Int.toString_eq_repr]
      simp [Int.repr, Nat.toList_repr]
    have hnat := parseNat_toDigits n hr
    rw [hl]
    rw [hcs, List.cons_append] at hnat ⊢
    rw [parseInt, hnat]
    · rfl
    · rintro cs' h
      exact hm (List.cons.inj h).1
  | negSucc n =>
    have hl : (toString (Int.negSucc n)).toList = '-' :: Nat.toDigits 10 (n + 1) := by
      rw [Int.toString_eq_repr]
      simp [Int.repr, Nat.toList_repr]
    rw [hl, List.cons_append, parseInt, parseNat_toDigits _ hr]
    rfl

mutual

/-- The recursion the parser needs for a value. -/
def size : Json → Nat
  | .arr elems => elemsSize elems + 1
  | .obj fields => fieldsSize fields + 1
  | _ => 1

def elemsSize : List Json → Nat
  | [] => 0
  | v :: vs => v.size + elemsSize vs + 1

def fieldsSize : List (String × Json) → Nat
  | [] => 0
  | (_, v) :: fs => v.size + fieldsSize fs + 1

end

theorem toString_head (n : Int) :
    ∃ c cs, (toString n).toList = c :: cs ∧ (c = '-' ∨ c.isDigit) := by
  cases n with
  | ofNat n =>
    obtain ⟨c, cs, hcs, -, -⟩ := toDigits_eq_cons n
    refine ⟨c, cs, ?_, .inr ?_⟩
    · rw [Int.toString_eq_repr]
      simp [Int.repr, Nat.toList_repr, hcs]
    · exact Nat.isDigit_of_mem_toDigits (by decide) (by decide) (hcs ▸ List.mem_cons_self)
  | negSucc n =>
    refine ⟨'-', Nat.toDigits 10 (n + 1), ?_, .inl rfl⟩
    rw [Int.toString_eq_repr]
    simp [Int.repr, Nat.toList_repr]

/-- The characters that open a value. -/
def Opens (c : Char) : Prop := c ∈ ['n', 't', 'f', '"', '[', '{', '-'] ∨ c.isDigit

theorem chars_head : ∀ v : Json, ∃ c cs, v.chars = c :: cs ∧ Opens c
  | .null => ⟨_, _, by rw [chars], .inl (by decide)⟩
  | .bool true => ⟨_, _, by rw [chars], .inl (by decide)⟩
  | .bool false => ⟨_, _, by rw [chars], .inl (by decide)⟩
  | .int n => by
    obtain ⟨c, cs, hcs, hc⟩ := toString_head n
    refine ⟨c, cs, by rw [chars, hcs], ?_⟩
    rcases hc with rfl | hc
    · exact .inl (by decide)
    · exact .inr hc
  | .str s => ⟨_, _, by rw [chars, stringChars], .inl (by decide)⟩
  | .arr _ => ⟨_, _, by rw [chars], .inl (by decide)⟩
  | .obj _ => ⟨_, _, by rw [chars], .inl (by decide)⟩

theorem skipBlanks_cons (h : c ∉ [' ', '\t', '\r', '\n']) (cs : List Char) :
    skipBlanks (c :: cs) = c :: cs := by
  simp only [List.mem_cons, List.not_mem_nil, or_false, not_or] at h
  rw [skipBlanks, List.dropWhile_cons_of_neg]
  simp [h]

theorem skipBlanks_of_opens (h : Opens c) (cs : List Char) :
    skipBlanks (c :: cs) = c :: cs ∧ c ≠ ']' := by
  rcases h with h | h
  · simp only [List.mem_cons, List.not_mem_nil, or_false] at h
    rcases h with rfl | rfl | rfl | rfl | rfl | rfl | rfl <;> simp [skipBlanks]
  · have hne : ∀ d : Char, d.isDigit = false → c ≠ d := by
      rintro d hd rfl
      rw [h] at hd
      cases hd
    refine ⟨skipBlanks_cons ?_ cs, hne _ rfl⟩
    simp [hne ' ' rfl, hne '\t' rfl, hne '\r' rfl, hne '\n' rfl]

theorem elemsChars_head (v : Json) (vs : List Json) :
    ∃ c cs, elemsChars (v :: vs) = c :: cs ∧ Opens c := by
  obtain ⟨c, cs, hcs, hc⟩ := chars_head v
  cases vs with
  | nil => exact ⟨c, cs, by rw [elemsChars, hcs], hc⟩
  | cons u vs => exact ⟨c, _, by rw [elemsChars, hcs, List.cons_append], hc⟩

theorem parseValue_int {fuel : Nat} (n : Int) (hr : Ends rest) :
    parseValue (fuel + 1) ((toString n).toList ++ rest) = some (.int n, rest) := by
  obtain ⟨c, cs, hcs, hc⟩ := toString_head n
  have hopens : Opens c := by
    rcases hc with rfl | hc
    · exact .inl (by decide)
    · exact .inr hc
  have hne : ∀ d : Char, d ≠ '-' → d.isDigit = false → c ≠ d := by
    rintro d hm hd rfl
    rcases hc with rfl | hc
    · exact hm rfl
    · rw [hc] at hd
      cases hd
  have hint := parseInt_toString n hr
  rw [hcs, List.cons_append] at hint ⊢
  rw [parseValue, (skipBlanks_of_opens hopens _).1]
  -- a number opens with none of the letters and brackets of the other values
  split
  case h_7 =>
    rw [hint]
    rfl
  all_goals
    rename_i h
    exact absurd (List.cons.inj h).1 (hne _ (by decide) (by decide))

mutual

theorem parseValue_chars : ∀ (v : Json) (fuel : Nat) (rest : List Char), v.size ≤ fuel →
    Ends rest → parseValue fuel (v.chars ++ rest) = some (v, rest)
  | v, 0, rest, hf, _ => by cases v <;> simp [size] at hf
  | .null, fuel + 1, rest, _, _ => by simp [chars, parseValue, skipBlanks]
  | .bool true, fuel + 1, rest, _, _ => by simp [chars, parseValue, skipBlanks]
  | .bool false, fuel + 1, rest, _, _ => by simp [chars, parseValue, skipBlanks]
  | .int n, fuel + 1, rest, _, hr => by
    rw [chars]
    exact parseValue_int n hr
  | .str s, fuel + 1, rest, _, _ => by
    simp [chars, stringChars, parseValue, skipBlanks, parseString_stringChars]
  | .arr [], fuel + 1, rest, _, _ => by simp [chars, elemsChars, parseValue, skipBlanks]
  | .arr (v :: vs), fuel + 1, rest, hf, _ => by
    have ih := parseElems_chars (v :: vs) fuel rest (List.cons_ne_nil v vs)
      (by rw [size] at hf; omega)
    obtain ⟨c, cs, hcs, hc⟩ := elemsChars_head v vs
    rw [chars, List.cons_append, List.append_assoc, List.singleton_append]
    rw [hcs, List.cons_append] at ih ⊢
    obtain ⟨hskip, hclose⟩ := skipBlanks_of_opens hc (cs ++ ']' :: rest)
    simp only [parseValue, skipBlanks_cons (c := '[') (by decide), hskip,
      List.head?_cons, Option.some.injEq, hclose, if_false, ih, Option.map_some]
  | .obj [], fuel + 1, rest, _, _ => by simp [chars, fieldsChars, parseValue, skipBlanks]
  | .obj (f :: fs), fuel + 1, rest, hf, _ => by
    have ih := parseFields_chars (f :: fs) fuel rest (List.cons_ne_nil f fs)
      (by rw [size] at hf; omega)
    obtain ⟨cs, hcs⟩ : ∃ cs, fieldsChars (f :: fs) = '"' :: cs := by
      cases fs <;> simp [fieldsChars, stringChars]
    rw [chars, List.cons_append, List.append_assoc, List.singleton_append]
    rw [hcs, List.cons_append] at ih ⊢
    simp only [parseValue, skipBlanks_cons (c := '{') (by decide),
      skipBlanks_cons (c := '"') (by decide), List.head?_cons, Option.some.injEq, ih,
      Option.map_some]
    rfl

theorem parseElems_chars : ∀ (vs : List Json) (fuel : Nat) (rest : List Char), vs ≠ [] →
    elemsSize vs ≤ fuel → parseElems fuel (elemsChars vs ++ ']' :: rest) = some (vs, rest)
  | [], _, _, hne, _ => absurd rfl hne
  | v :: vs, 0, _, _, hf => by simp [elemsSize] at hf
  | [v], fuel + 1, rest, _, hf => by
    have ih := parseValue_chars v fuel (']' :: rest) (by simp only [elemsSize] at hf; omega)
      (.cons (by decide) rest)
    rw [elemsChars, parseElems, ih]
    rfl
  | v :: u :: vs, fuel + 1, rest, _, hf => by
    have ihv := parseValue_chars v fuel (',' :: (elemsChars (u :: vs) ++ ']' :: rest))
      (by rw [elemsSize] at hf; omega) (.cons (by decide) _)
    have ih := parseElems_chars (u :: vs) fuel rest (List.cons_ne_nil u vs)
      (by rw [elemsSize] at hf; omega)
    rw [elemsChars, List.append_assoc, List.cons_append, parseElems, ihv]
    simp only [skipBlanks_cons (c := ',') (by decide), ih, Option.map_some]

theorem parseFields_chars : ∀ (fs : List (String × Json)) (fuel : Nat) (rest : List Char),
    fs ≠ [] → fieldsSize fs ≤ fuel →
      parseFields fuel (fieldsChars fs ++ '}' :: rest) = some (fs, rest)
  | [], _, _, hne, _ => absurd rfl hne
  | (k, v) :: fs, 0, _, _, hf => by simp [fieldsSize] at hf
  | [(k, v)], fuel + 1, rest, _, hf => by
    have ih := parseValue_chars v fuel ('}' :: rest) (by simp only [fieldsSize] at hf; omega)
      (.cons (by decide) rest)
    simp only [fieldsChars, stringChars, List.cons_append, List.append_assoc, parseFields,
      skipBlanks_cons (c := '"') (by decide), List.nil_append,
      parseString_stringChars, skipBlanks_cons (c := ':') (by decide), ih,
      skipBlanks_cons (c := '}') (by decide)]
  | (k, v) :: f :: fs, fuel + 1, rest, _, hf => by
    have ihv := parseValue_chars v fuel (',' :: (fieldsChars (f :: fs) ++ '}' :: rest))
      (by rw [fieldsSize] at hf; omega) (.cons (by decide) _)
    have ih := parseFields_chars (f :: fs) fuel rest (List.cons_ne_nil f fs)
      (by rw [fieldsSize] at hf; omega)
    simp only [fieldsChars, stringChars, List.cons_append, List.append_assoc, parseFields,
      skipBlanks_cons (c := '"') (by decide), List.nil_append,
      parseString_stringChars, skipBlanks_cons (c := ':') (by decide), ihv,
      skipBlanks_cons (c := ',') (by decide), ih, Option.map_some]

end

mutual

/-- The text of a value is at least as long as the recursion it needs. -/
theorem size_le : ∀ v : Json, v.size ≤ v.chars.length
  | .null | .bool true | .bool false => by simp [size, chars]
  | .int n => by
    obtain ⟨c, cs, hcs, -⟩ := toString_head n
    rw [size, chars, hcs, List.length_cons]
    · omega
    all_goals simp
  | .str s => by simp [size, chars, stringChars]
  | .arr vs => by
    have := elemsSize_le vs
    simp only [size, chars, List.length_cons, List.length_append, List.length_nil]
    omega
  | .obj fs => by
    have := fieldsSize_le fs
    simp only [size, chars, List.length_cons, List.length_append, List.length_nil]
    omega

theorem elemsSize_le : ∀ vs : List Json, elemsSize vs ≤ (elemsChars vs).length + 1
  | [] => by simp [elemsSize]
  | [v] => by
    have := size_le v
    simp only [elemsSize, elemsChars]
    omega
  | v :: u :: vs => by
    have := size_le v
    have := elemsSize_le (u :: vs)
    rw [elemsSize, elemsChars, List.length_append, List.length_cons]
    omega

theorem fieldsSize_le : ∀ fs : List (String × Json), fieldsSize fs ≤ (fieldsChars fs).length + 1
  | [] => by simp [fieldsSize]
  | [(k, v)] => by
    have := size_le v
    simp only [fieldsSize, fieldsChars, List.length_append, List.length_cons]
    omega
  | (k, v) :: f :: fs => by
    have := size_le v
    have := fieldsSize_le (f :: fs)
    rw [fieldsSize, fieldsChars, List.length_append, List.length_cons, List.length_append,
      List.length_cons]
    omega

end

/-- **`json.Unmarshal ∘ json.Marshal`** is the identity. -/
theorem unmarshal_marshal (v : Json) : unmarshal v.marshal = some v := by
  have hsize := size_le v
  have h := parseValue_chars v (2 * v.chars.length + 2) [] (by omega) .nil
  rw [List.append_nil] at h
  rw [unmarshal, marshal, String.toList_ofList, h]
  rfl

end Json

end WireguardGateway.Lib

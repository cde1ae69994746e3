import Mathlib.Tactic.IntervalCases
import WireguardGateway.Lib.Text

/-!
# Numerals inside texts

`%d` and `%08x` as a program writes them into names, and `strtoul` as a tool reads a hexadecimal
constant back. Results:
* **`decimal_append_inj`**: a decimal numeral followed by something other than a digit can be read
  off the front of a text, so names built from numerals determine the numbers;
* **`parseHex_hex08`**: reading back what `0x%08x` wrote.
-/

namespace WireguardGateway.Lib

/-! ## Decimal numerals -/

/-- The text does not go on with a digit. -/
def NoDigit (cs : List Char) : Prop := ∀ c ∈ cs.head?, ¬ c.isDigit

theorem noDigit_nil : NoDigit [] := by
  intro c hc
  cases hc

variable {cs : List Char}

theorem noDigit_cons {c : Char} (h : ¬ c.isDigit) : NoDigit (c :: cs) := by
  intro d hd
  cases hd
  exact h

theorem takeWhile_noDigit (h : NoDigit cs) : cs.takeWhile Char.isDigit = [] := by
  cases cs with
  | nil => rfl
  | cons c cs => exact List.takeWhile_cons_of_neg (h c rfl)

theorem takeWhile_toDigits {n : Nat} (h : NoDigit cs) :
    (Nat.toDigits 10 n ++ cs).takeWhile Char.isDigit = Nat.toDigits 10 n := by
  have hdigits : ∀ c ∈ Nat.toDigits 10 n, c.isDigit := fun c hc =>
    Nat.isDigit_of_mem_toDigits (by decide) (by decide) hc
  rw [List.takeWhile_append_of_pos hdigits, takeWhile_noDigit h, List.append_nil]

theorem toDigits_append_inj {m n : Nat} {xs ys : List Char} (hxs : NoDigit xs) (hys : NoDigit ys)
    (h : Nat.toDigits 10 m ++ xs = Nat.toDigits 10 n ++ ys) : m = n ∧ xs = ys := by
  have hdigits : Nat.toDigits 10 m = Nat.toDigits 10 n := by
    rw [← takeWhile_toDigits (n := m) hxs, h, takeWhile_toDigits hys]
  have hmn : digits? (Nat.toDigits 10 m) = digits? (Nat.toDigits 10 n) := by rw [hdigits]
  rw [digits?_toDigits, digits?_toDigits] at hmn
  exact ⟨Option.some.inj hmn, List.append_cancel_left (hdigits ▸ h)⟩

theorem toList_toString_ofNat (n : Nat) :
    (toString (Int.ofNat n)).toList = Nat.toDigits 10 n := by
  rw [Int.toString_eq_repr]
  simp [Int.repr, Nat.toList_repr]

theorem toList_toString_negSucc (n : Nat) :
    (toString (Int.negSucc n)).toList = '-' :: Nat.toDigits 10 (n + 1) := by
  rw [Int.toString_eq_repr]
  simp [Int.repr, Nat.toList_repr]

/-- **A numeral can be read off the front of a text.** -/
theorem decimal_append_inj {m n : Int} {xs ys : List Char} (hxs : NoDigit xs) (hys : NoDigit ys)
    (h : (toString m).toList ++ xs = (toString n).toList ++ ys) : m = n ∧ xs = ys := by
  cases m with
  | ofNat m =>
    rw [toList_toString_ofNat] at h
    cases n with
    | ofNat n =>
      rw [toList_toString_ofNat] at h
      obtain ⟨rfl, hrest⟩ := toDigits_append_inj hxs hys h
      exact ⟨rfl, hrest⟩
    | negSucc n =>
      obtain ⟨c, cs, hc, hminus, -⟩ := toDigits_eq_cons m
      rw [toList_toString_negSucc, hc] at h
      exact absurd (List.cons.inj h).1 hminus
  | negSucc m =>
    rw [toList_toString_negSucc] at h
    cases n with
    | ofNat n =>
      obtain ⟨c, cs, hc, hminus, -⟩ := toDigits_eq_cons n
      rw [toList_toString_ofNat, hc] at h
      exact absurd (List.cons.inj h).1.symm hminus
    | negSucc n =>
      rw [toList_toString_negSucc] at h
      obtain ⟨hmn, hrest⟩ := toDigits_append_inj hxs hys (List.cons.inj h).2
      obtain rfl : m = n := by omega
      exact ⟨rfl, hrest⟩

theorem decimal_inj {m n : Int} (h : toString m = toString n) : m = n := by
  refine (decimal_append_inj noDigit_nil noDigit_nil ?_).1
  rw [h]

/-! ## Hexadecimal numerals -/

/-- Zeros in front, up to a width. -/
def padZeros (width : Nat) (cs : List Char) : List Char :=
  List.replicate (width - cs.length) '0' ++ cs

/-- `%08x`. -/
def hex08 : Int → String
  | .ofNat n => String.ofList (padZeros 8 (Nat.toDigits 16 n))
  | .negSucc n => String.ofList ('-' :: padZeros 7 (Nat.toDigits 16 (n + 1)))

/-- The value of a hexadecimal digit. -/
def hexValue? (c : Char) : Option Nat :=
  if '0' ≤ c ∧ c ≤ '9' then some (c.toNat - 48)
  else if 'a' ≤ c ∧ c ≤ 'f' then some (c.toNat - 87)
  else if 'A' ≤ c ∧ c ≤ 'F' then some (c.toNat - 55)
  else none

/-- The number a run of hexadecimal digits writes after the ones read into `acc`. -/
def hexDigits? (acc : Nat) : List Char → Option Nat
  | [] => some acc
  | c :: cs => (hexValue? c).bind fun d => hexDigits? (16 * acc + d) cs

/-- `strtoul(s, 0, 0)` on a constant that starts with `0x`. -/
def parseHex (s : String) : Option Nat :=
  match s.toList with
  | '0' :: 'x' :: c :: cs => hexDigits? 0 (c :: cs)
  | _ => none

theorem hexValue?_digitChar {d : Nat} (h : d < 16) : hexValue? (Nat.digitChar d) = some d := by
  interval_cases d <;> decide

theorem hexDigits?_append (xs ys : List Char) :
    ∀ acc, hexDigits? acc (xs ++ ys) = (hexDigits? acc xs).bind fun n => hexDigits? n ys := by
  induction xs with
  | nil => intro acc; rfl
  | cons c xs ih =>
    intro acc
    rw [List.cons_append, hexDigits?, hexDigits?]
    cases hexValue? c with
    | none => rfl
    | some d => exact ih (16 * acc + d)

theorem hexDigits?_toDigits (n : Nat) : hexDigits? 0 (Nat.toDigits 16 n) = some n := by
  induction n using Nat.strong_induction_on with
  | _ n ih =>
    by_cases hn : n < 16
    · rw [Nat.toDigits_of_lt_base hn, hexDigits?, hexValue?_digitChar hn]
      simp [hexDigits?]
    · -- the last digit is split off; the digits before it write the quotient
      have hq : 0 < n / 16 := by omega
      have hr : n % 16 < 16 := Nat.mod_lt n (by decide)
      have hsplit : Nat.toDigits 16 (n / 16) ++ Nat.toDigits 16 (n % 16) = Nat.toDigits 16 n := by
        rw [Nat.toDigits_append_toDigits (by decide) hq hr, Nat.div_add_mod]
      rw [← hsplit, hexDigits?_append, ih (n / 16) (by omega), Nat.toDigits_of_lt_base hr]
      simp only [Option.bind_some, hexDigits?, hexValue?_digitChar hr]
      rw [Nat.div_add_mod]

theorem hexDigits?_padZeros (width : Nat) (cs : List Char) :
    hexDigits? 0 (padZeros width cs) = hexDigits? 0 cs := by
  unfold padZeros
  induction width - cs.length with
  | zero => rfl
  | succ k ih =>
    rw [List.replicate_succ, List.cons_append, hexDigits?]
    exact ih

/-- **Reading back what `0x%08x` wrote.** -/
theorem parseHex_hex08 (n : Nat) : parseHex ("0x" ++ hex08 (Int.ofNat n)) = some n := by
  have hread : hexDigits? 0 (padZeros 8 (Nat.toDigits 16 n)) = some n := by
    rw [hexDigits?_padZeros, hexDigits?_toDigits]
  have htext : ("0x" ++ hex08 (Int.ofNat n)).toList =
      '0' :: 'x' :: padZeros 8 (Nat.toDigits 16 n) := by
    simp [hex08]
  unfold parseHex
  rw [htext]
  cases hcs : padZeros 8 (Nat.toDigits 16 n) with
  | nil =>
    have hdigits : Nat.toDigits 16 n = [] := (List.append_eq_nil_iff.mp hcs).2
    exact absurd hdigits Nat.toDigits_ne_nil
  | cons c cs =>
    rw [hcs] at hread
    exact hread

end WireguardGateway.Lib

import Mathlib.Algebra.Order.Ring.Int
import Mathlib.Data.List.Induction

/-!
# Clocks that run while a condition lasts

Instants are integers, in nanoseconds, and a clock is an instant or none, the zero time. A loop that
looks at something from time to time keeps a clock for a condition: it is started at the first look
that finds the condition, left alone while it lasts, and cleared at the first look that does not
find it. Some looks are skipped.

Results:
* **`clock_window`**: a running clock shows the instant of an earlier look since which every look
  that was not skipped found the condition;
* `le_of_le_elapsed`: what a saturating difference of instants says about the exact one.
-/

namespace WireguardGateway.Lib

/-- `time.Time.Sub`: the difference, saturated to a 64-bit duration. -/
def elapsed (now since : Int) : Int := max (-(2 ^ 63)) (min (2 ^ 63 - 1) (now - since))

theorem le_elapsed {now since : Int} {hold : Int64} (h : hold.toInt ≤ now - since) :
    hold.toInt ≤ elapsed now since := by
  have hmax := hold.toInt_lt
  unfold elapsed
  omega

theorem le_of_le_elapsed {now since : Int} {hold : Int64} (hle : since ≤ now)
    (h : hold.toInt ≤ elapsed now since) : hold.toInt ≤ now - since := by
  have hmax := hold.toInt_lt
  unfold elapsed at h
  omega

variable {α : Type}

/-- The clock after a look. -/
def clockStep (skip cond : α → Bool) (stamp : α → Int) (clock : Option Int) (x : α) : Option Int :=
  if skip x then clock else if cond x then clock.or (some (stamp x)) else none

/-- The clock after a sequence of looks. -/
def clockAfter (skip cond : α → Bool) (stamp : α → Int) (xs : List α) : Option Int :=
  xs.foldl (clockStep skip cond stamp) none

section

variable {skip cond : α → Bool} {stamp : α → Int}

theorem clockAfter_snoc (xs : List α) (x : α) :
    clockAfter skip cond stamp (xs ++ [x]) =
      clockStep skip cond stamp (clockAfter skip cond stamp xs) x := by
  unfold clockAfter
  rw [List.foldl_append]
  rfl

/-- The looks since the one that started a clock. -/
structure Window (skip cond : α → Bool) (xs : List α) (start : α) : Prop where
  skipped : skip start = false
  split : ∃ before after, xs = before ++ start :: after ∧
    ∀ u ∈ start :: after, skip u = false → cond u = true

theorem Window.mem {xs : List α} {start : α} (h : Window skip cond xs start) : start ∈ xs := by
  obtain ⟨before, after, rfl, -⟩ := h.split
  exact List.mem_append_right _ List.mem_cons_self

theorem Window.snoc {xs : List α} {start x : α} (h : Window skip cond xs start)
    (hx : skip x = false → cond x = true) : Window skip cond (xs ++ [x]) start := by
  refine ⟨h.skipped, ?_⟩
  obtain ⟨before, after, rfl, hafter⟩ := h.split
  refine ⟨before, after ++ [x], by simp, ?_⟩
  intro u hu
  rw [← List.cons_append, List.mem_append, List.mem_singleton] at hu
  rcases hu with hu | rfl
  · exact hafter u hu
  · exact hx

/-- **A running clock** shows the instant of the look that began its window. -/
theorem clock_window {xs : List α} {t : Int} (h : clockAfter skip cond stamp xs = some t) :
    ∃ start, stamp start = t ∧ Window skip cond xs start := by
  induction xs using List.reverseRecOn with
  | nil => cases h
  | append_singleton xs x ih =>
    rw [clockAfter_snoc, clockStep] at h
    split_ifs at h with hskip hcond
    · obtain ⟨start, hstart, hwindow⟩ := ih h
      exact ⟨start, hstart, hwindow.snoc fun hx => absurd hskip
        (by rw [hx]; exact Bool.false_ne_true)⟩
    · cases hclock : clockAfter skip cond stamp xs with
      | some s =>
        rw [hclock, Option.some_or] at h
        obtain ⟨start, hstart, hwindow⟩ := ih (hclock.trans h)
        exact ⟨start, hstart, hwindow.snoc fun _ => hcond⟩
      | none =>
        rw [hclock, Option.none_or] at h
        refine ⟨x, Option.some.inj h, Bool.eq_false_iff.mpr hskip, xs, [], rfl, ?_⟩
        intro u hu _
        rw [List.mem_singleton.mp hu]
        exact hcond

end

end WireguardGateway.Lib

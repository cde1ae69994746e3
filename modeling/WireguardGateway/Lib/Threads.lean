import Mathlib.Data.Finset.Card
import Mathlib.Logic.Function.Basic

/-!
# Threads and the counter of those at work

A family of threads is a function from their names to where each one is; a step of one thread is a
`Function.update`. `Tally p threads n` says that exactly `n` threads satisfy `p`: it is what a wait
group counts that a thread enters when it begins to satisfy `p` and leaves when it ceases to,
however many threads there are.

Results:
* `Tally.enter`, `Tally.leave`, `Tally.keep`: the three ways in which one
  thread's step moves the count;
* **`Tally.zero`**: a count of zero means that no thread is left.
-/

namespace WireguardGateway.Lib

open Function

variable {ι φ : Type} {p : φ → Prop} {threads : ι → φ} {n : Nat} {i : ι} {x : φ}

/-- Exactly `n` of the threads satisfy `p`. -/
def Tally (p : φ → Prop) (threads : ι → φ) (n : Nat) : Prop :=
  ∃ members : Finset ι, members.card = n ∧ ∀ i, i ∈ members ↔ p (threads i)

theorem Tally.none (h : ∀ i, ¬ p (threads i)) : Tally p threads 0 :=
  ⟨∅, rfl, fun i => iff_of_false (Finset.notMem_empty i) (h i)⟩

theorem Tally.zero (h : Tally p threads 0) (i : ι) : ¬ p (threads i) := by
  obtain ⟨members, hcard, hmem⟩ := h
  rw [← hmem, Finset.card_eq_zero.mp hcard]
  exact Finset.notMem_empty i

variable [DecidableEq ι]

theorem Tally.enter (h : Tally p threads n) (hi : ¬ p (threads i)) (hx : p x) :
    Tally p (update threads i x) (n + 1) := by
  obtain ⟨members, hcard, hmem⟩ := h
  refine ⟨insert i members, ?_, fun j => ?_⟩
  · rw [Finset.card_insert_of_notMem fun hi' => hi ((hmem i).mp hi'), hcard]
  · by_cases hj : j = i
    · subst hj
      simpa using hx
    · simpa [hj] using hmem j

theorem Tally.leave (h : Tally p threads n) (hi : p (threads i)) (hx : ¬ p x) :
    Tally p (update threads i x) (n - 1) := by
  obtain ⟨members, hcard, hmem⟩ := h
  refine ⟨members.erase i, ?_, fun j => ?_⟩
  · rw [Finset.card_erase_of_mem ((hmem i).mpr hi), hcard]
  · by_cases hj : j = i
    · subst hj
      simpa using hx
    · simpa [hj] using hmem j

theorem Tally.keep (h : Tally p threads n) (hx : p x ↔ p (threads i)) :
    Tally p (update threads i x) n := by
  obtain ⟨members, hcard, hmem⟩ := h
  refine ⟨members, hcard, fun j => ?_⟩
  by_cases hj : j = i
  · subst hj
    simpa [hx] using hmem j
  · simpa [hj] using hmem j

end WireguardGateway.Lib

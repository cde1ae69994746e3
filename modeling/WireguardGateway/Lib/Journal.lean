import Mathlib.Data.List.Infix

/-!
# Journals: a state as the replay of a log of writes

A store that is changed by writes only is the `replay` of its log. `Guarded G s xs` says that every
write of `xs` satisfied the guard `G` in the state it was applied to; it is what a program that
writes under a guard establishes, without saying when it stopped.

Results:
* **`Guarded.invariant`**: what every guarded write preserves holds after every prefix of the log;
* `Guarded.until`: what every guarded write other than a *closing* one preserves holds until the
  first closing write;
* `Guarded.append`, `Guarded.left`, `Guarded.suffix`: logs compose and can be cut anywhere.
-/

namespace WireguardGateway.Lib

variable {σ α : Type}

/-- The state after a log of writes. -/
def replay (commit : σ → α → σ) (s : σ) (xs : List α) : σ := xs.foldl commit s

section

variable {commit : σ → α → σ}

@[simp] theorem replay_nil (s : σ) : replay commit s [] = s := rfl

@[simp] theorem replay_cons (s : σ) (x : α) (xs : List α) :
    replay commit s (x :: xs) = replay commit (commit s x) xs := rfl

theorem replay_append (s : σ) (xs ys : List α) :
    replay commit s (xs ++ ys) = replay commit (replay commit s xs) ys := by
  simp [replay]

/-- Every write of the log met the guard when it was applied. -/
inductive Guarded (commit : σ → α → σ) (G : σ → α → Prop) : σ → List α → Prop
  | nil (s : σ) : Guarded commit G s []
  | cons {s : σ} {x : α} {xs : List α} (head : G s x) (tail : Guarded commit G (commit s x) xs) :
      Guarded commit G s (x :: xs)

variable {G G' : σ → α → Prop} {s : σ} {x : α} {xs ys : List α}

theorem guarded_cons :
    Guarded commit G s (x :: xs) ↔ G s x ∧ Guarded commit G (commit s x) xs :=
  ⟨fun | .cons head tail => ⟨head, tail⟩, fun h => .cons h.1 h.2⟩

instance Guarded.decide [∀ s x, Decidable (G s x)] :
    ∀ (s : σ) (xs : List α), Decidable (Guarded commit G s xs)
  | s, [] => .isTrue (.nil s)
  | s, x :: xs => by
    have := Guarded.decide (commit s x) xs
    exact decidable_of_iff _ guarded_cons.symm

theorem Guarded.single (h : G s x) : Guarded commit G s [x] := .cons h (.nil _)

/-- A log is guarded when every write met the guard after the writes before it. -/
theorem Guarded.of_split : ∀ {xs : List α} {s : σ},
    (∀ us x vs, xs = us ++ x :: vs → G (replay commit s us) x) → Guarded commit G s xs
  | [], s, _ => .nil s
  | x :: xs, s, h => .cons (h [] x xs rfl)
    (of_split fun us y vs hy => h (x :: us) y vs (by rw [hy, List.cons_append]))

theorem Guarded.mono (h : Guarded commit G s xs) (hG : ∀ s x, G s x → G' s x) :
    Guarded commit G' s xs := by
  induction h with
  | nil s => exact .nil s
  | cons head _ ih => exact .cons (hG _ _ head) ih

theorem Guarded.and (h : Guarded commit G s xs) (h' : Guarded commit G' s xs) :
    Guarded commit (fun s x => G s x ∧ G' s x) s xs := by
  induction h with
  | nil s => exact .nil s
  | cons head _ ih =>
    obtain ⟨head', tail'⟩ := guarded_cons.mp h'
    exact .cons ⟨head, head'⟩ (ih tail')

theorem Guarded.append (h : Guarded commit G s xs)
    (h' : Guarded commit G (replay commit s xs) ys) : Guarded commit G s (xs ++ ys) := by
  induction h with
  | nil s => exact h'
  | cons head _ ih => exact .cons head (ih h')

theorem Guarded.suffix : ∀ {xs : List α} {s : σ}, Guarded commit G s (xs ++ ys) →
    Guarded commit G (replay commit s xs) ys
  | [], _, h => h
  | _ :: _, _, .cons _ tail => tail.suffix

theorem Guarded.left : ∀ {xs : List α} {s : σ}, Guarded commit G s (xs ++ ys) →
    Guarded commit G s xs
  | [], s, _ => .nil s
  | _ :: _, _, .cons head tail => .cons head tail.left

/-- **The invariant rule.** -/
theorem Guarded.invariant {I : σ → Prop} (hstep : ∀ s x, I s → G s x → I (commit s x))
    (h : Guarded commit G s xs) (hs : I s) : ∀ {ys : List α}, ys <+: xs →
      I (replay commit s ys) := by
  induction h with
  | nil s =>
    intro ys hys
    rw [List.prefix_nil.mp hys]
    exact hs
  | @cons s x xs head _ ih =>
    intro ys hys
    cases ys with
    | nil => exact hs
    | cons y ys =>
      obtain ⟨rfl, htail⟩ := List.cons_prefix_cons.mp hys
      exact ih (hstep s y hs head) htail

/-- **The until rule**: what every guarded write outside the closing ones `C` preserves holds as
long as no closing write has been applied. -/
theorem Guarded.until {I : σ → Prop} {C : α → Prop}
    (hstep : ∀ s x, I s → G s x → ¬ C x → I (commit s x)) (h : Guarded commit G s xs)
    (hs : I s) (hopen : ∀ x ∈ xs, ¬ C x) : I (replay commit s xs) := by
  induction h with
  | nil s => exact hs
  | @cons s x xs head _ ih =>
    exact ih (hstep s x hs head (hopen x List.mem_cons_self))
      fun y hy => hopen y (List.mem_cons_of_mem _ hy)

/-- The guard holds of any write of the log, in the state before it. -/
theorem Guarded.at (h : Guarded commit G s (xs ++ x :: ys)) : G (replay commit s xs) x := by
  cases h.suffix with
  | cons head _ => exact head

end

end WireguardGateway.Lib

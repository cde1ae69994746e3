import WireguardGateway.Lib.Journal
import WireguardGateway.Lib.Plan

/-!
# Programs under a guard

A `Ledger` of a runner is the part of its host that the events of a run determine: the view after a
run is the `replay` of its events (`Trace.view`). So a run that is cut after any of its events
leaves the replay of the events before the cut.

**`Ledger.Abides G P m Q`**: from `P`, the program `m` ends in `Q`, and each of its events meets the
guard `G` in the view it was run in. There is a rule for every way a program is put together;
`Ledger.Abides.runUntil_cons` and `Ledger.Abides.runUntil_append` are those for plans.
-/

namespace WireguardGateway.Lib.Plan

variable {C σ ν α β : Type} {run : Runner C σ}

theorem runUntil_append (r : Runner C σ) (xs ys : List C) :
    runUntil r (xs ++ ys) = (do
      match ← runUntil r xs with
      | some e => pure (some e)
      | none => runUntil r ys) := by
  induction xs with
  | nil => rfl
  | cons x xs ih =>
    funext s
    rw [List.cons_append, runUntil, runUntil, bind_apply, bind_apply, bind_apply]
    cases r x s with
    | mk e s' =>
      cases e with
      | some e => rfl
      | none =>
        show runUntil r (xs ++ ys) s' = _
        rw [ih]
        rfl

/-- The part of a host that changes by the events of a run only. -/
structure Ledger (run : Runner C σ) (ν : Type) where
  view : σ → ν
  commit : ν → Event C → ν
  view_run : ∀ c s, view (run c s).2 = commit (view s) ⟨c, (run c s).1⟩

theorem Trace.view (L : Ledger run ν) {s s' : σ} {evs : List (Event C)}
    (h : Trace run s evs s') : L.view s' = replay L.commit (L.view s) evs := by
  induction h with
  | nil => rfl
  | cons _ ih => rw [ih, L.view_run, replay_cons]

/-- From `P`, the program ends in `Q` and its events meet the guard `G`. -/
def Ledger.Abides (L : Ledger run ν) (G : ν → Event C → Prop) (P : σ → Prop) (m : StateM σ α)
    (Q : α → σ → Prop) : Prop :=
  ∀ s, P s → Q (m s).1 (m s).2 ∧
    ∃ evs, Trace run s evs (m s).2 ∧ Guarded L.commit G (L.view s) evs

namespace Ledger.Abides

variable {L : Ledger run ν} {G : ν → Event C → Prop} {P : σ → Prop} {m : StateM σ α}
  {Q : α → σ → Prop} {R : β → σ → Prop}

theorem pure {a : α} (h : ∀ s, P s → Q a s) : L.Abides G P (Pure.pure a : StateM σ α) Q := by
  intro s hs
  exact ⟨h s hs, [], .nil s, .nil _⟩

theorem bind {f : α → StateM σ β} (hm : L.Abides G P m Q) (hf : ∀ a, L.Abides G (Q a) (f a) R) :
    L.Abides G P (m >>= f) R := by
  intro s hs
  obtain ⟨hQ, xs, hxs, hguardx⟩ := hm s hs
  obtain ⟨hR, ys, hys, hguardy⟩ := hf _ _ hQ
  rw [hxs.view L] at hguardy
  exact ⟨hR, xs ++ ys, hxs.append hys, hguardx.append hguardy⟩

theorem weaken {P' : σ → Prop} {Q' : α → σ → Prop} (h : L.Abides G P m Q)
    (hP : ∀ s, P' s → P s) (hQ : ∀ a s, Q a s → Q' a s) : L.Abides G P' m Q' := by
  intro s hs
  obtain ⟨hend, hevs⟩ := h s (hP s hs)
  exact ⟨hQ _ _ hend, hevs⟩

theorem command {c : C} {Q : Option String → σ → Prop}
    (h : ∀ s, P s → G (L.view s) ⟨c, (run c s).1⟩ ∧ Q (run c s).1 (run c s).2) :
    L.Abides G P (run c) Q := by
  intro s hs
  exact ⟨(h s hs).2, _, .single c s, .single (h s hs).1⟩

theorem tolerant {tolerate : C → Option String → Option String} {c : C}
    {Q R : Option String → σ → Prop} (h : L.Abides G P (run c) Q)
    (hR : ∀ e s, Q e s → R (tolerate c e) s) :
    L.Abides G P (Plan.tolerant tolerate run c) R :=
  h.bind fun e => .pure (hR e)

/-- A plan: its first command, and the others if that did not fail. -/
theorem runUntil_cons {r : Runner C σ} {c : C} {cs : List C} {Q R : Option String → σ → Prop}
    (hc : L.Abides G P (r c) Q) (hcs : L.Abides G (Q none) (Plan.runUntil r cs) R)
    (hfail : ∀ e s, Q (some e) s → R (some e) s) :
    L.Abides G P (Plan.runUntil r (c :: cs)) R := by
  refine hc.bind fun out => ?_
  cases out with
  | some e => exact .pure (hfail e)
  | none => exact hcs

/-- A plan each command of which keeps `P`. -/
theorem runUntil {tolerate : C → Option String → Option String} {cs : List C}
    (h : ∀ c ∈ cs, L.Abides G P (run c) fun _ => P) :
    L.Abides G P (Plan.runUntil (Plan.tolerant tolerate run) cs) fun _ => P := by
  induction cs with
  | nil => exact .pure fun _ hs => hs
  | cons c cs ih =>
    have hc : L.Abides G P (Plan.tolerant tolerate run c) fun _ => P :=
      (h c List.mem_cons_self).tolerant fun _ _ hs => hs
    exact hc.runUntil_cons (ih fun c hc => h c (List.mem_cons_of_mem _ hc)) fun _ _ hs => hs

/-- A plan in two parts, of which the second runs only if the first did not fail. -/
theorem runUntil_append {r : Runner C σ} {xs ys : List C} {Q R : Option String → σ → Prop}
    (hxs : L.Abides G P (Plan.runUntil r xs) Q) (hys : L.Abides G (Q none) (Plan.runUntil r ys) R)
    (hfail : ∀ e s, Q (some e) s → R (some e) s) :
    L.Abides G P (Plan.runUntil r (xs ++ ys)) R := by
  rw [Plan.runUntil_append]
  refine hxs.bind fun out => ?_
  cases out with
  | some e => exact .pure (hfail e)
  | none => exact hys

/-- A program whose commands meet the guard wherever they run. -/
theorem of_only {S : C → Prop} (h : EmitsOnly run S m)
    (hG : ∀ c, S c → ∀ s, G (L.view s) ⟨c, (run c s).1⟩) :
    L.Abides G (fun _ => True) m fun _ _ => True := by
  intro s _
  obtain ⟨evs, htrace, honly⟩ := h s
  refine ⟨trivial, evs, htrace, ?_⟩
  generalize (m s).2 = s' at htrace
  induction htrace with
  | nil => exact .nil _
  | @cons s s' c evs _ ih =>
    refine .cons (hG c (honly _ List.mem_cons_self) s) ?_
    rw [← L.view_run]
    exact ih fun ev hev => honly ev (List.mem_cons_of_mem _ hev)

end Ledger.Abides

end WireguardGateway.Lib.Plan

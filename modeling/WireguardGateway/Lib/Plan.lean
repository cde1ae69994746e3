import Mathlib.Data.List.Basic

/-!
# Plans of fallible commands

A program that changes its host by running commands, each of which may fail. `Runner C σ` runs one
command on a host `σ` and returns its error, if any; a program over a runner is a `StateM σ`. Plans
are lists of commands: `runUntil` stops at the first failure, `runEach` runs every command and
collects the failures.

Two kinds of statement about a program:
* `Triple P m Q`: from `P`, the program ends in `Q`;
* **`Emits run m Φ`**: the program changes the host only by running commands (`Trace`), and these,
  with their errors, satisfy `Φ`. `EmitsOnly run Q m` is the special case that every command
  satisfies `Q`, and `Returns run Q m R` adds what is known of the value. Each has a rule for every
  way a program is put together. **`EmitsOnly.triple`** is the passage between the two: what every
  command in `Q` preserves, the program preserves. A runner with a log (`Runner.logged`) keeps the
  events of a whole run (`Trace.log`).
-/

namespace WireguardGateway.Lib

/-- Runs a command: its error, if it failed. -/
abbrev Runner (C σ : Type) : Type := C → StateM σ (Option String)

namespace Plan

variable {C σ α β ι : Type}

@[simp] theorem bind_apply (m : StateM σ α) (f : α → StateM σ β) (s : σ) :
    (m >>= f) s = f (m s).1 (m s).2 := rfl

@[simp] theorem pure_apply (a : α) (s : σ) : (pure a : StateM σ α) s = (a, s) := rfl

/-- A runner that takes some failures for success: `tolerate c e` is what is left of the error. -/
def tolerant (tolerate : C → Option String → Option String) (run : Runner C σ) : Runner C σ :=
  fun c => do
    let e ← run c
    pure (tolerate c e)

/-- Run commands up to the first that fails, and return its error. -/
def runUntil (run : Runner C σ) : List C → StateM σ (Option String)
  | [] => pure none
  | c :: cs => do
    match ← run c with
    | some e => pure (some e)
    | none => runUntil run cs

/-- Run every command, and return the errors of those that failed. -/
def runEach (run : Runner C σ) : List C → StateM σ (List String)
  | [] => pure []
  | c :: cs => do
    let e ← run c
    let es ← runEach run cs
    pure (e.toList ++ es)

/-! ## Triples -/

/-- From `P`, the program ends with a value and a state in `Q`. -/
def Triple (P : σ → Prop) (m : StateM σ α) (Q : α → σ → Prop) : Prop :=
  ∀ s, P s → Q (m s).1 (m s).2

section

variable {P : σ → Prop} {m : StateM σ α} {Q : α → σ → Prop} {R : β → σ → Prop}

theorem Triple.pure {a : α} (h : ∀ s, P s → Q a s) : Triple P (Pure.pure a : StateM σ α) Q := h

theorem Triple.bind {f : α → StateM σ β} (hm : Triple P m Q)
    (hf : ∀ a, Triple (Q a) (f a) R) : Triple P (m >>= f) R := by
  intro s hs
  exact hf _ _ (hm s hs)

theorem Triple.weaken {P' : σ → Prop} {Q' : α → σ → Prop} (h : Triple P m Q)
    (hP : ∀ s, P' s → P s) (hQ : ∀ a s, Q a s → Q' a s) : Triple P' m Q' := by
  intro s hs
  exact hQ _ _ (h s (hP s hs))

theorem Triple.pre {P' : σ → Prop} (h : Triple P m Q) (hP : ∀ s, P' s → P s) : Triple P' m Q :=
  fun s hs => h s (hP s hs)

/-- A step whose error ends the run, and what follows its success. -/
theorem Triple.orStop {ε : Type} {m : StateM σ (Option ε)} {Q : Option ε → σ → Prop}
    {f : Option ε → StateM σ β} (hm : Triple P m Q) (hstop : ∀ e, Triple (Q (some e))
      (f (some e)) R)
    (hgo : Triple (Q none) (f none) R) : Triple P (m >>= f) R := by
  refine hm.bind fun e => ?_
  cases e with
  | some e => exact hstop e
  | none => exact hgo

/-- What the precondition says of more than the state is at hand for the rest. -/
theorem Triple.given {p : Prop} (hp : ∀ s, P s → p) (h : p → Triple P m Q) : Triple P m Q :=
  fun s hs => h (hp s hs) s hs

/-- A part of the state before is named. -/
theorem Triple.named (f : σ → β) (h : ∀ b, Triple (fun s => P s ∧ f s = b) m Q) : Triple P m Q :=
  fun s hs => h (f s) s ⟨hs, rfl⟩

variable {run : Runner C σ}

/-- What every command of a plan preserves, failed or not, the plan preserves. -/
theorem Triple.runEach_keeps {cs : List C} (h : ∀ c ∈ cs, Triple P (run c) fun _ => P) :
    Triple P (runEach run cs) fun _ => P := by
  induction cs with
  | nil => exact .pure fun _ hs => hs
  | cons c cs ih =>
    refine (h c List.mem_cons_self).bind fun e => ?_
    refine (ih fun d hd => h d (List.mem_cons_of_mem _ hd)).bind fun es => ?_
    exact .pure fun _ hs => hs

/-- A plan whose commands all succeed returns no errors. -/
theorem Triple.runEach_succeeds {cs : List C}
    (h : ∀ c ∈ cs, Triple P (run c) fun e s => P s ∧ e = none) :
    Triple P (runEach run cs) fun errs s => P s ∧ errs = [] := by
  induction cs with
  | nil => exact .pure fun _ hs => ⟨hs, rfl⟩
  | cons c cs ih =>
    intro s hs
    obtain ⟨hP, hnone⟩ := h c List.mem_cons_self s hs
    obtain ⟨hP', hnil⟩ := ih (fun d hd => h d (List.mem_cons_of_mem _ hd)) _ hP
    refine ⟨hP', ?_⟩
    show (run c s).1.toList ++ _ = []
    rw [hnone]
    exact hnil

/-- **What a plan achieves** when it is run to its end: if each command, when it succeeds, achieves
its `A`, and no command undoes another's, then a plan without failures achieves all. -/
theorem Triple.runEach {cs : List C} {A : C → σ → Prop}
    (hstep : ∀ c ∈ cs, Triple P (run c) fun e s => P s ∧ (e = none → A c s))
    (hkeep : ∀ c ∈ cs, ∀ d, Triple (A d) (run c) fun _ => A d) :
    Triple P (Plan.runEach run cs) fun errs s => P s ∧ (errs = [] → ∀ c ∈ cs, A c s) := by
  induction cs with
  | nil =>
    intro s hs
    exact ⟨hs, fun _ _ hc => absurd hc List.not_mem_nil⟩
  | cons c cs ih =>
    have hrest := ih (fun d hd => hstep d (List.mem_cons_of_mem _ hd))
      fun d hd => hkeep d (List.mem_cons_of_mem _ hd)
    have hkeepAll : Triple (A c) (Plan.runEach run cs) fun _ => A c :=
      Triple.runEach_keeps fun d hd => hkeep d (List.mem_cons_of_mem _ hd) c
    intro s hs
    obtain ⟨hP, hA⟩ := hstep c List.mem_cons_self s hs
    obtain ⟨hP', hA'⟩ := hrest _ hP
    refine ⟨hP', fun herrs d hd => ?_⟩
    obtain ⟨hfirst, hothers⟩ := List.append_eq_nil_iff.mp herrs
    rcases List.mem_cons.mp hd with rfl | hd
    · exact hkeepAll _ (hA (Option.toList_eq_nil_iff.mp hfirst))
    · exact hA' hothers d hd

end

end Plan

/-! ## Traces -/

/-- A command that was run, and the error it ended with. -/
structure Event (C : Type) where
  command : C
  error : Option String
  deriving DecidableEq, Repr

namespace Plan

variable {C σ α β : Type}

/-- The events of running commands one after another, from one host to the next. -/
inductive Trace (run : Runner C σ) : σ → List (Event C) → σ → Prop
  | nil (s : σ) : Trace run s [] s
  | cons {s s' : σ} {c : C} {evs : List (Event C)} (rest : Trace run (run c s).2 evs s') :
      Trace run s (⟨c, (run c s).1⟩ :: evs) s'

section

variable {run : Runner C σ}

theorem Trace.append {s s' s'' : σ} {xs ys : List (Event C)} (hxs : Trace run s xs s')
    (hys : Trace run s' ys s'') : Trace run s (xs ++ ys) s'' := by
  induction hxs with
  | nil => exact hys
  | cons _ ih => exact .cons (ih hys)

theorem Trace.single (c : C) (s : σ) : Trace run s [⟨c, (run c s).1⟩] (run c s).2 :=
  .cons (.nil _)

/-- What every command of a trace preserves holds at its end. -/
theorem Trace.preserves {P : σ → Prop} {s s' : σ} {evs : List (Event C)} (h : Trace run s evs s')
    (hP : ∀ ev ∈ evs, Triple P (run ev.command) fun _ => P) (hs : P s) : P s' := by
  induction h with
  | nil => exact hs
  | @cons s s' c evs rest ih =>
    refine ih (fun ev hev => hP ev (List.mem_cons_of_mem _ hev)) ?_
    exact hP ⟨c, (run c s).1⟩ List.mem_cons_self s hs

end

/-- The program changes the host only by commands, whose events are in `Φ`. -/
def Emits (run : Runner C σ) (m : StateM σ α) (Φ : α → List (Event C) → Prop) : Prop :=
  ∀ s, ∃ evs, Trace run s evs (m s).2 ∧ Φ (m s).1 evs

section

variable {run : Runner C σ} {m : StateM σ α} {Φ : α → List (Event C) → Prop}
  {Ψ : β → List (Event C) → Prop}

theorem Emits.pure {a : α} (h : Φ a []) : Emits run (Pure.pure a : StateM σ α) Φ := by
  intro s
  exact ⟨[], .nil s, h⟩

/-- **Sequencing**: the events of the first program, then those of the second. -/
theorem Emits.bind {f : α → StateM σ β} (hm : Emits run m Φ)
    (hf : ∀ a, Emits run (f a) fun b ys => ∀ xs, Φ a xs → Ψ b (xs ++ ys)) :
    Emits run (m >>= f) Ψ := by
  intro s
  obtain ⟨xs, hxs, hΦ⟩ := hm s
  obtain ⟨ys, hys, hΨ⟩ := hf (m s).1 (m s).2
  exact ⟨xs ++ ys, hxs.append hys, hΨ xs hΦ⟩

theorem Emits.weaken {Φ' : α → List (Event C) → Prop} (h : Emits run m Φ)
    (hΦ : ∀ a evs, Φ a evs → Φ' a evs) : Emits run m Φ' := by
  intro s
  obtain ⟨evs, htrace, hevs⟩ := h s
  exact ⟨evs, htrace, hΦ _ _ hevs⟩

theorem Emits.command {c : C} : Emits run (run c) fun e evs => evs = [⟨c, e⟩] := by
  intro s
  exact ⟨_, .single c s, rfl⟩

end

variable {tolerate : C → Option String → Option String}

variable {run : Runner C σ}

theorem Emits.tolerant {c : C} :
    Emits run (tolerant tolerate run c) fun out evs =>
      ∃ e, evs = [⟨c, e⟩] ∧ out = tolerate c e :=
  Emits.command.bind fun e => .pure fun xs hxs => ⟨e, by simpa using hxs, rfl⟩

/-- The events of a plan run until its first failure: a prefix of the plan, of which only the last
command failed. -/
inductive Prefixed (tolerate : C → Option String → Option String) :
    List C → Option String → List (Event C) → Prop
  | done : Prefixed tolerate [] none []
  | failed {c : C} {cs : List C} {e : Option String} {err : String}
      (h : tolerate c e = some err) : Prefixed tolerate (c :: cs) (some err) [⟨c, e⟩]
  | next {c : C} {cs : List C} {e out : Option String} {evs : List (Event C)}
      (h : tolerate c e = none) (rest : Prefixed tolerate cs out evs) :
      Prefixed tolerate (c :: cs) out (⟨c, e⟩ :: evs)

theorem Emits.runUntil (cs : List C) :
    Emits run (Plan.runUntil (Plan.tolerant tolerate run) cs) (Prefixed tolerate cs) := by
  induction cs with
  | nil => exact .pure .done
  | cons c cs ih =>
    refine Emits.tolerant.bind fun out => ?_
    cases out with
    | some err =>
      refine .pure fun xs hxs => ?_
      obtain ⟨e, rfl, herr⟩ := hxs
      exact .failed herr.symm
    | none =>
      refine ih.weaken fun out evs hevs xs hxs => ?_
      obtain ⟨e, rfl, herr⟩ := hxs
      exact .next herr.symm hevs

section

variable {cs : List C} {out : Option String} {evs : List (Event C)}

theorem Prefixed.mem (h : Prefixed tolerate cs out evs) : ∀ ev ∈ evs, ev.command ∈ cs := by
  induction h with
  | done => intro ev hev; cases hev
  | failed =>
    intro ev hev
    rw [List.mem_singleton.mp hev]
    exact List.mem_cons_self
  | next _ _ ih =>
    intro ev hev
    rcases List.mem_cons.mp hev with rfl | hev
    · exact List.mem_cons_self
    · exact List.mem_cons_of_mem _ (ih ev hev)

/-- A plan that did not fail ran every command, each with a tolerated outcome. -/
theorem Prefixed.complete (h : Prefixed tolerate cs out evs) (hout : out = none) :
    evs.map (·.command) = cs ∧ ∀ ev ∈ evs, tolerate ev.command ev.error = none := by
  induction h with
  | done => exact ⟨rfl, fun ev hev => absurd hev List.not_mem_nil⟩
  | failed => cases hout
  | next h _ ih =>
    obtain ⟨hcommands, htolerated⟩ := ih hout
    refine ⟨by rw [List.map_cons, hcommands], fun ev hev => ?_⟩
    rcases List.mem_cons.mp hev with rfl | hev
    · exact h
    · exact htolerated ev hev

end

/-- What is left of the errors of some events. -/
def remaining (tolerate : C → Option String → Option String) (evs : List (Event C)) :
    List String :=
  evs.flatMap fun ev => (tolerate ev.command ev.error).toList

theorem Emits.runEach (cs : List C) :
    Emits run (Plan.runEach (Plan.tolerant tolerate run) cs) fun errs evs =>
      evs.map (·.command) = cs ∧ errs = remaining tolerate evs := by
  induction cs with
  | nil => exact .pure ⟨rfl, rfl⟩
  | cons c cs ih =>
    refine Emits.tolerant.bind fun out => ?_
    refine ih.bind fun errs => .pure fun ys hys xs hxs => ?_
    obtain ⟨e, rfl, rfl⟩ := hxs
    obtain ⟨rfl, rfl⟩ := hys
    rw [List.append_nil]
    exact ⟨rfl, rfl⟩

/-! ## Which commands a program runs -/

/-- Every command the program runs satisfies `Q`. -/
def EmitsOnly (run : Runner C σ) (Q : C → Prop) (m : StateM σ α) : Prop :=
  Emits run m fun _ evs => ∀ ev ∈ evs, Q ev.command

section

variable {Q : C → Prop} {r : Runner C σ}

theorem EmitsOnly.pure (a : α) : EmitsOnly r Q (Pure.pure a : StateM σ α) :=
  Emits.pure fun _ hev => absurd hev List.not_mem_nil

theorem EmitsOnly.bind {m : StateM σ α} {f : α → StateM σ β}
    (hm : EmitsOnly r Q m) (hf : ∀ a, EmitsOnly r Q (f a)) : EmitsOnly r Q (m >>= f) := by
  refine Emits.bind hm fun a => (hf a).weaken fun b ys hys xs hxs => ?_
  exact List.forall_mem_append.mpr ⟨hxs, hys⟩

theorem EmitsOnly.get : EmitsOnly r Q (get : StateM σ σ) := by
  intro s
  exact ⟨[], .nil s, fun _ hev => absurd hev List.not_mem_nil⟩

theorem EmitsOnly.command {c : C} (hc : Q c) : EmitsOnly r Q (r c) := by
  refine Emits.command.weaken fun e evs hevs ev hev => ?_
  rw [hevs] at hev
  rw [List.mem_singleton.mp hev]
  exact hc

theorem EmitsOnly.tolerant {c : C} (hc : Q c) : EmitsOnly r Q (Plan.tolerant tolerate r c) :=
  (EmitsOnly.command hc).bind fun _ => .pure _

theorem EmitsOnly.runUntil {cs : List C} (hcs : ∀ c ∈ cs, Q c) :
    EmitsOnly r Q (Plan.runUntil (Plan.tolerant tolerate r) cs) :=
  (Emits.runUntil cs).weaken fun _ _ hevs ev hev => hcs _ (hevs.mem ev hev)

theorem EmitsOnly.runEach {cs : List C} (hcs : ∀ c ∈ cs, Q c) :
    EmitsOnly r Q (Plan.runEach (Plan.tolerant tolerate r) cs) :=
  (Emits.runEach cs).weaken fun _ _ hevs _ hev => hcs _ (hevs.1 ▸ List.mem_map_of_mem hev)

/-- Every command the program runs satisfies `Q`, and its value `R`. -/
def Returns (run : Runner C σ) (Q : C → Prop) (m : StateM σ α) (R : α → Prop) : Prop :=
  Emits run m fun a evs => (∀ ev ∈ evs, Q ev.command) ∧ R a

theorem EmitsOnly.returns {m : StateM σ α} (h : EmitsOnly r Q m) :
    Returns r Q m fun _ => True :=
  h.weaken fun _ _ hevs => ⟨hevs, trivial⟩

theorem Returns.pure {a : α} {R : α → Prop} (h : R a) :
    Returns r Q (Pure.pure a : StateM σ α) R :=
  Emits.pure ⟨fun _ hev => absurd hev List.not_mem_nil, h⟩

theorem Returns.bind {m : StateM σ α} {f : α → StateM σ β} {R : α → Prop} {S : β → Prop}
    (hm : Returns r Q m R) (hf : ∀ a, R a → Returns r Q (f a) S) : Returns r Q (m >>= f) S := by
  intro s
  obtain ⟨xs, hxs, honly, hR⟩ := hm s
  obtain ⟨ys, hys, honly', hS⟩ := hf _ hR (m s).2
  exact ⟨xs ++ ys, hxs.append hys, List.forall_mem_append.mpr ⟨honly, honly'⟩, hS⟩

/-- **What every command preserves, the program preserves.** -/
theorem EmitsOnly.triple {P : σ → Prop} {m : StateM σ α} (h : EmitsOnly r Q m)
    (hP : ∀ c, Q c → Triple P (r c) fun _ => P) : Triple P m fun _ => P := by
  intro s hs
  obtain ⟨evs, htrace, hevs⟩ := h s
  exact htrace.preserves (fun ev hev => hP _ (hevs ev hev)) hs

end

end Plan

/-! ## Logs -/

/-- A host with the log of everything run on it, oldest first. -/
structure Logged (C σ : Type) where
  host : σ
  log : List (Event C)

/-- The runner that keeps the log. -/
def Runner.logged {C σ : Type} (run : Runner C σ) : Runner C (Logged C σ) := fun c s =>
  ((run c s.host).1, { host := (run c s.host).2, log := s.log ++ [⟨c, (run c s.host).1⟩] })

namespace Plan

variable {C σ : Type} {run : Runner C σ} {s s' : Logged C σ} {evs : List (Event C)}

/-- The log of a run grows by its events. -/
theorem Trace.log (h : Trace run.logged s evs s') : s'.log = s.log ++ evs := by
  induction h with
  | nil => exact (List.append_nil _).symm
  | cons _ ih =>
    rw [ih]
    simp [Runner.logged]

end Plan

end WireguardGateway.Lib

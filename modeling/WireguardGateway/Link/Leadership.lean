import WireguardGateway.Link.Cycle

/-!
# What holds in every interleaving of an election

The invariant of the process `runElection` (`internal/link/election.go:247-533`),
over any number of cycles:

* `Turns`: one cycle at a time. Only the last cycle has an elector or a callback under way, and
  `runElection` waits for both before it goes on. Late calls of `endCycle` and late observations
  may belong to any cycle;
* `Fences`: one fence at a time, and from a cycle's claim of the pending flag to its own end
  decision the flag is clear and every fence is the cycle's own.

Both support the invariant of each cycle (`LeadershipCycle.Sound`), which needs to know what
a thread finds at `fenceMu` (`Sound.locked`): if the fence of the cycle is skipped there,
its data plane is settled.

Result: **`Sound.of_runs`**, by one lemma for the steps of a cycle, one for observations and one for
`runElection` itself.
-/

namespace WireguardGateway.Link

open Function Lib

/-- `runElection` is in the cycle it created last. -/
def MainPhase.cycling : MainPhase → Bool
  | .electing | .joining => true
  | _ => false

/-! ## The process -/

/-- `runElection` has a cycle. -/
def MainPhase.created : MainPhase → Bool
  | .launching | .electing | .joining | .unwatching | .cancelling => true
  | _ => false

namespace Election

variable {d : ElectionDeps} {s s' : Election} {k : Nat}

/-- The thread is in the middle of a fence. -/
def Running (s : Election) : Fencer → Prop
  | .callback k => (s.cycles k).callback.phase.fences = true
  | .ender k e => ((s.cycles k).enders e).phase = .fencing
  | .notice o => (s.notices o).phase = .fencing
  | .exit => s.main = .exitFencing

/-- One cycle at a time: only the last one has an elector or a callback under way, and only while
`runElection` waits for them. -/
structure Turns (s : Election) : Prop where
  fresh : ∀ k, s.started ≤ k → s.cycles k = {}
  callbacks : ∀ k, (s.cycles k).callback.phase.active = true →
    k + 1 = s.started ∧ s.main.cycling = true
  electors : ∀ k, (s.cycles k).elector.running = true → k + 1 = s.started ∧ s.main = .electing
  created : s.main.created = true → 1 ≤ s.started
  launching : s.main = .launching → s.last.elector = .idle
  notices : ∀ o, (s.notices o).phase = .dispatched → (s.notices o).cycle < s.started

/-- One fence at a time, and whose it is: from its claim to its decision a cycle has the pending
flag clear, and no fence but its own. -/
structure Fences (s : Election) : Prop where
  mutex : ∀ f, s.Running f → s.fenceMu = some f
  fencing : ∀ k, (s.cycles k).planeEnd = .fencing ↔ ∃ f, s.fenceMu = some f ∧ f.cycle = some k
  cleared : ∀ k, (s.cycles k).callback.phase.undecided = true → s.pending = false
  owned : ∀ k, (s.cycles k).callback.phase.undecided = true →
    ∀ f, s.fenceMu = some f → f.cycle = some k

/-- The invariant of an election. -/
structure Sound (d : ElectionDeps) (s : Election) : Prop where
  cycles : ∀ k, (s.cycles k).Sound d
  turns : s.Turns
  fences : s.Fences

theorem Turns.unique (h : s.Turns) {j : Nat} (hj : (s.cycles j).callback.phase.active = true)
    (hk : (s.cycles k).callback.phase.active = true) : j = k := by
  have := (h.callbacks j hj).1
  have := (h.callbacks k hk).1
  omega

/-- Nothing that concerns fences changed. -/
theorem Fences.frame (h : s.Fences) (hmu : s'.fenceMu = s.fenceMu)
    (hpending : s'.pending = s.pending) (hrun : ∀ f, s'.Running f → s.Running f)
    (hplane : ∀ k, (s'.cycles k).planeEnd = .fencing ↔ (s.cycles k).planeEnd = .fencing)
    (hund : ∀ k, (s'.cycles k).callback.phase.undecided = true →
      (s.cycles k).callback.phase.undecided = true) : s'.Fences where
  mutex f hf := hmu ▸ h.mutex f (hrun f hf)
  fencing k := by rw [hplane, hmu]; exact h.fencing k
  cleared k hk := hpending ▸ h.cleared k (hund k hk)
  owned k hk f hf := h.owned k (hund k hk) f (hmu ▸ hf)

variable {f : Fencer} {a : CycleStep} {c : LeadershipCycle} {o : Observer}

/-- `fenceMu` is taken for a fence. -/
theorem Fences.lock (h : s.Fences) (hnone : s.fenceMu = none) (hmu : s'.fenceMu = some f)
    (hpending : s.pending = false → s'.pending = false)
    (hrun : ∀ f', s'.Running f' → s.Running f' ∨ f' = f)
    (hplane : ∀ k, (s'.cycles k).planeEnd = .fencing ↔
      (s.cycles k).planeEnd = .fencing ∨ f.cycle = some k)
    (hund : ∀ k, (s'.cycles k).callback.phase.undecided = true →
      (s.cycles k).callback.phase.undecided = true)
    (hown : ∀ k, (s.cycles k).callback.phase.undecided = true → f.cycle = some k) : s'.Fences where
  mutex f' hf' := by
    rcases hrun f' hf' with hold | rfl
    · rw [h.mutex f' hold] at hnone
      cases hnone
    · exact hmu
  fencing k := by
    rw [hplane, h.fencing k, hnone, hmu]
    simp
  cleared k hk := hpending (h.cleared k (hund k hk))
  owned k hk f' hf' := by
    rw [hmu, Option.some.injEq] at hf'
    exact hf' ▸ hown k (hund k hk)

/-- `fenceMu` is released after a fence. -/
theorem Fences.unlock (h : s.Fences) (hheld : s.fenceMu = some f) (hmu : s'.fenceMu = none)
    (hpending : s'.pending = s.pending) (hrun : ∀ f', s'.Running f' → s.Running f' ∧ f' ≠ f)
    (hplane : ∀ k, (s'.cycles k).planeEnd = .fencing →
      (s.cycles k).planeEnd = .fencing ∧ f.cycle ≠ some k)
    (hund : ∀ k, (s'.cycles k).callback.phase.undecided = true →
      (s.cycles k).callback.phase.undecided = true) : s'.Fences where
  mutex f' hf' := by
    obtain ⟨hold, hne⟩ := hrun f' hf'
    rw [h.mutex f' hold, Option.some.injEq] at hheld
    exact absurd hheld hne
  fencing k := by
    refine iff_of_false (fun hk => ?_) (by simp [hmu])
    obtain ⟨hold, hne⟩ := hplane k hk
    obtain ⟨f', hf', hcycle⟩ := (h.fencing k).mp hold
    rw [hheld, Option.some.injEq] at hf'
    exact hne (hf' ▸ hcycle)
  cleared k hk := hpending ▸ h.cleared k (hund k hk)
  owned k hk f' hf' := by rw [hmu] at hf'; cases hf'

/-- What the threads of a cycle find at the mutex. -/
theorem Sound.locked (h : s.Sound d) (k : Nat) : (s.cycles k).Locked s.fenceMu s.pending where
  skips hnone hrel hskip := by
    have hc := h.cycles k
    have hnot : (s.cycles k).planeEnd ≠ .fencing := by
      rw [Ne, h.fences.fencing k, hnone]
      simp
    rw [LeadershipCycle.skips, Bool.or_eq_true] at hskip
    rcases hskip with hfenced | hpending
    · have hstands := hc.fenced.mp hfenced
      cases hplane : (s.cycles k).planeEnd with
      | standing => exact absurd hplane hstands
      | fencing => exact absurd hplane hnot
      | fenced | handed => rfl
    · -- the flag is clear until the cycle decides, and the decision settles its data plane
      refine hc.settled (.inl (CallbackPhase.decided_of (hc.reloadDone ▸ hrel) fun hund => ?_))
      rw [h.fences.cleared k hund] at hpending
      cases hpending
  callback hf := (h.fences.fencing k).mpr ⟨_, h.fences.mutex (.callback k) hf, rfl⟩
  ender e he := (h.fences.fencing k).mpr ⟨_, h.fences.mutex (.ender k e) he, rfl⟩

/-! ### Steps of a cycle -/

/-- What a step of a cycle does to the rest of the process keeps out of the control flow. -/
theorem effect_frame (s : Election) (k : Nat) (a : CycleStep) :
    (s.effect k a).cycles = s.cycles ∧ (s.effect k a).started = s.started ∧
      (s.effect k a).main = s.main ∧ (s.effect k a).notices = s.notices := by
  cases a with
  | callback a | ender e a =>
    cases a <;> first
      | exact ⟨rfl, rfl, rfl, rfl⟩
      | (simp only [effect]; split_ifs <;> exact ⟨rfl, rfl, rfl, rfl⟩)
  | elector a => cases a <;> exact ⟨rfl, rfl, rfl, rfl⟩
  | lock a => exact ⟨rfl, rfl, rfl, rfl⟩

theorem effect_plain (hplain : a.plain = true) (s : Election) (k : Nat) :
    (s.effect k a).fenceMu = s.fenceMu ∧ (s.effect k a).pending = s.pending := by
  cases a with
  | callback a | ender e a => cases a <;> first | exact ⟨rfl, rfl⟩ | cases hplain
  | elector a => cases a <;> exact ⟨rfl, rfl⟩
  | lock a => exact ⟨rfl, rfl⟩

theorem nextCycle_cycles (s : Election) (k : Nat) (a : CycleStep) :
    (s.nextCycle d k a).cycles = update s.cycles k ((s.cycles k).next d s.ctx s.pending a) := by
  rw [nextCycle, setCycle, (effect_frame s k a).1]

theorem nextCycle_started (s : Election) (k : Nat) (a : CycleStep) :
    (s.nextCycle d k a).started = s.started :=
  (effect_frame s k a).2.1

theorem nextCycle_main (s : Election) (k : Nat) (a : CycleStep) :
    (s.nextCycle d k a).main = s.main :=
  (effect_frame s k a).2.2.1

theorem nextCycle_notices (s : Election) (k : Nat) (a : CycleStep) :
    (s.nextCycle d k a).notices = s.notices :=
  (effect_frame s k a).2.2.2

/-- A cycle that was not created does nothing. -/
theorem not_enabled_initial {ctx : Contexts} {fenceMu : Option Fencer} :
    ¬ LeadershipCycle.Enabled d ctx fenceMu {} a := by
  intro ha
  cases a with
  | lock a =>
    obtain ⟨hen, hwho⟩ := ha
    cases a <;> simp [LockState.Enabled, ElectorPhase.running] at hen hwho
  | elector a =>
    obtain ⟨-, ha⟩ := ha
    cases a <;> simp at ha
  | callback a =>
    have hactive := LeadershipCycle.EnabledCallback.active ha
    cases hactive
  | ender e a =>
    cases a <;> simp [LeadershipCycle.Enabled, LeadershipCycle.EnabledEnd] at ha
    cases e <;> simp [LeadershipCycle.MayEnd] at ha

theorem Turns.cycle (h : s.Turns) (ha : (s.cycles k).Enabled d s.ctx s.fenceMu a) :
    (s.nextCycle d k a).Turns := by
  have hcreated : ¬ s.started ≤ k := fun hle => by
    rw [h.fresh k hle] at ha
    exact not_enabled_initial ha
  constructor
  · intro j hj
    rw [nextCycle_started] at hj
    rw [nextCycle_cycles, update_of_ne (by omega)]
    exact h.fresh j hj
  · intro j
    rw [nextCycle_started, nextCycle_main, nextCycle_cycles]
    by_cases hjk : j = k
    · subst hjk
      rw [update_self]
      intro hact
      rcases LeadershipCycle.next_active ha hact with hold | hrun
      · exact h.callbacks j hold
      · obtain ⟨hlast, hmain⟩ := h.electors j hrun
        exact ⟨hlast, by rw [hmain]; rfl⟩
    · rw [update_of_ne hjk]
      exact h.callbacks j
  · intro j
    rw [nextCycle_started, nextCycle_main, nextCycle_cycles]
    by_cases hjk : j = k
    · subst hjk
      rw [update_self]
      exact fun hrun => h.electors j <|
        (LeadershipCycle.next_elector ha).elim (fun heq => heq ▸ hrun) id
    · rw [update_of_ne hjk]
      exact h.electors j
  · rw [nextCycle_started, nextCycle_main]
    exact h.created
  · rw [nextCycle_main, last, nextCycle_cycles, nextCycle_started]
    intro hmain
    have hidle := h.launching hmain
    by_cases hlast : s.started - 1 = k
    · subst hlast
      have hstill : ¬ s.last.elector.running = true := by
        rw [hidle]
        exact Bool.false_ne_true
      rw [update_self, (LeadershipCycle.next_elector ha).resolve_right hstill]
      exact hidle
    · rw [update_of_ne hlast]
      exact hidle
  · intro o
    rw [nextCycle_notices, nextCycle_started]
    exact h.notices o

/-- The threads of the others are where they were. -/
theorem running_of_other (hf : f.cycle ≠ some k) (hrun : (s.nextCycle d k a).Running f) :
    s.Running f := by
  cases f with
  | callback j | ender j e =>
    have hjk : j ≠ k := fun h => hf (by rw [h]; rfl)
    rw [Running, nextCycle_cycles, update_of_ne hjk] at hrun
    exact hrun
  | notice o =>
    rw [Running, nextCycle_notices] at hrun
    exact hrun
  | exit =>
    rw [Running, nextCycle_main] at hrun
    exact hrun

/-- The threads of the cycle and of the others. -/
theorem running_nextCycle {P : Fencer → Prop} (hnext : (s.cycles k).next d s.ctx s.pending a = c)
    (hcallback : c.callback.phase.fences = true → P (.callback k))
    (hender : ∀ e, (c.enders e).phase = .fencing → P (.ender k e))
    (hother : ∀ f, f.cycle ≠ some k → s.Running f → P f) (f : Fencer)
    (hrun : (s.nextCycle d k a).Running f) : P f := by
  subst hnext
  by_cases hf : f.cycle = some k
  · cases f with
    | callback j =>
      cases hf
      rw [Running, nextCycle_cycles, update_self] at hrun
      exact hcallback hrun
    | ender j e =>
      cases hf
      rw [Running, nextCycle_cycles, update_self] at hrun
      exact hender e hrun
    | notice o | exit => cases hf
  · exact hother f hf (running_of_other hf hrun)

/-- A property of every cycle after a step of one. -/
theorem forall_nextCycle {P : Nat → LeadershipCycle → Prop}
    (hnext : (s.cycles k).next d s.ctx s.pending a = c) (hk : P k c)
    (hother : ∀ j, j ≠ k → P j (s.cycles j)) (j : Nat) : P j ((s.nextCycle d k a).cycles j) := by
  rw [nextCycle_cycles, hnext]
  by_cases hjk : j = k
  · subst hjk
    rw [update_self]
    exact hk
  · rw [update_of_ne hjk]
    exact hother j hjk

/-- A step of a cycle that begins and ends no fence. -/
theorem Fences.cycle_frame (h : s.Fences) (hnext : (s.cycles k).next d s.ctx s.pending a = c)
    (heffect : (s.effect k a).fenceMu = s.fenceMu ∧ (s.effect k a).pending = s.pending)
    (hplane : c.planeEnd = (s.cycles k).planeEnd)
    (hfences : c.callback.phase.fences = true →
      (s.cycles k).callback.phase.fences = true)
    (henders : ∀ e, (c.enders e).phase = .fencing →
      ((s.cycles k).enders e).phase = .fencing)
    (hund : c.callback.phase.undecided = true →
      (s.cycles k).callback.phase.undecided = true) : (s.nextCycle d k a).Fences := by
  refine h.frame heffect.1 heffect.2
    (running_nextCycle (P := s.Running) hnext hfences henders fun _ _ => id) ?_ ?_
  · exact forall_nextCycle (P := fun j c => c.planeEnd = .fencing ↔
      (s.cycles j).planeEnd = .fencing) hnext (by rw [hplane]) fun _ _ => Iff.rfl
  · exact forall_nextCycle (P := fun j c => c.callback.phase.undecided = true →
      (s.cycles j).callback.phase.undecided = true) hnext hund fun _ _ => id

/-- A thread of the cycle takes `fenceMu` and fences. -/
theorem Fences.cycle_lock (h : s.Fences) (hnext : (s.cycles k).next d s.ctx s.pending a = c)
    (hturns : s.Turns) (hnone : s.fenceMu = none)
    (hf : f.cycle = some k) (hmu : (s.effect k a).fenceMu = some f)
    (hpending : (s.effect k a).pending = s.pending)
    (hcallback : c.callback.phase.fences = true →
      s.Running (.callback k) ∨ .callback k = f)
    (hender : ∀ e, (c.enders e).phase = .fencing →
      s.Running (.ender k e) ∨ .ender k e = f)
    (hplane : c.planeEnd = .fencing)
    (hund : c.callback.phase.undecided = true →
      (s.cycles k).callback.phase.undecided = true)
    (hactive : (s.cycles k).callback.phase.active = true) : (s.nextCycle d k a).Fences := by
  refine h.lock hnone hmu (fun hp => hpending.trans hp)
    (running_nextCycle (P := fun f' => s.Running f' ∨ f' = f) hnext hcallback hender
      fun _ _ => .inl) ?_ ?_ ?_
  · refine forall_nextCycle (P := fun j c => c.planeEnd = .fencing ↔
      (s.cycles j).planeEnd = .fencing ∨ f.cycle = some j) hnext (by simp [hplane, hf])
        fun j hjk => ?_
    simp [hf, hjk.symm]
  · exact forall_nextCycle (P := fun j c => c.callback.phase.undecided = true →
      (s.cycles j).callback.phase.undecided = true) hnext hund fun _ _ => id
  · intro j hj
    rw [hf, hturns.unique (CallbackPhase.active_of_undecided hj) hactive]

/-- A thread of the cycle has fenced and leaves `fenceMu`. -/
theorem Fences.cycle_unlock (h : s.Fences) (hnext : (s.cycles k).next d s.ctx s.pending a = c)
    (hrun : s.Running f) (hf : f.cycle = some k)
    (hmu : (s.effect k a).fenceMu = none) (hpending : (s.effect k a).pending = s.pending)
    (hcallback : c.callback.phase.fences = true →
      s.Running (.callback k) ∧ .callback k ≠ f)
    (hender : ∀ e, (c.enders e).phase = .fencing →
      s.Running (.ender k e) ∧ .ender k e ≠ f)
    (hplane : c.planeEnd ≠ .fencing)
    (hund : c.callback.phase.undecided = true →
      (s.cycles k).callback.phase.undecided = true) : (s.nextCycle d k a).Fences := by
  refine h.unlock (h.mutex f hrun) hmu hpending
    (running_nextCycle (P := fun f' => s.Running f' ∧ f' ≠ f) hnext hcallback hender
      fun f' hf' hr => ⟨hr, fun heq => hf' (heq ▸ hf)⟩) ?_ ?_
  · refine forall_nextCycle (P := fun j c => c.planeEnd = .fencing →
      (s.cycles j).planeEnd = .fencing ∧ f.cycle ≠ some j) hnext (fun hp => absurd hp hplane)
        fun j hjk hp => ?_
    refine ⟨hp, fun hj => hjk ?_⟩
    rw [hf, Option.some.injEq] at hj
    exact hj.symm
  · exact forall_nextCycle (P := fun j c => c.callback.phase.undecided = true →
      (s.cycles j).callback.phase.undecided = true) hnext hund fun _ _ => id

theorem Fences.callback_fence (h : s.Sound d)
    (ha : (s.cycles k).Enabled d s.ctx s.fenceMu (.callback .fence)) :
    (s.nextCycle d k (.callback .fence)).Fences := by
  obtain ⟨hp, hnone⟩ := ha
  have hund : (s.cycles k).callback.phase.undecided = true := by
    rcases hp with hp | hp <;> rw [hp] <;> rfl
  by_cases hskip : (s.cycles k).skips s.pending = true
  · refine h.fences.cycle_frame (LeadershipCycle.next_fence_skips hskip)
      (by simp [effect, hskip]) rfl ?_ (fun _ => id) fun _ => hund
    rcases hp with hp | hp <;> rw [hp] <;> exact fun hf => by cases hf
  · exact h.fences.cycle_lock (f := .callback k) (LeadershipCycle.next_fence hskip)
      h.turns hnone rfl
      (by simp [effect, hskip]) (by simp [effect, hskip]) (fun _ => .inr rfl) (fun _ => .inl) rfl
      (fun _ => hund) (CallbackPhase.active_of_undecided hund)

theorem Fences.callback_fenceDone (h : s.Sound d)
    (ha : (s.cycles k).Enabled d s.ctx s.fenceMu (.callback .fenceDone)) :
    (s.nextCycle d k (.callback .fenceDone)).Fences := by
  have hp : (s.cycles k).callback.phase = .failFencing ∨
    (s.cycles k).callback.phase = .fencing := ha
  have hrun : s.Running (.callback k) := by
    show (s.cycles k).callback.phase.fences = true
    rcases hp with hp | hp <;> rw [hp] <;> rfl
  have hund : (s.cycles k).callback.phase.undecided = true := by
    rcases hp with hp | hp <;> rw [hp] <;> rfl
  have hnext : ∃ p, (p = .failCancelling ∨ p = .clearing) ∧
      (s.cycles k).next d s.ctx s.pending (.callback .fenceDone) =
        (s.cycles k).endFence.goto p := by
    simp only [LeadershipCycle.next, LeadershipCycle.nextCallback]
    split_ifs
    · exact ⟨_, .inl rfl, rfl⟩
    · exact ⟨_, .inr rfl, rfl⟩
  obtain ⟨p, hp', hnext⟩ := hnext
  refine h.fences.cycle_unlock hnext hrun rfl rfl rfl ?_ (fun e he => ⟨he, by simp⟩) ?_
    fun _ => hund
  · rcases hp' with rfl | rfl <;> exact fun hf => by cases hf
  · simp [LeadershipCycle.goto, LeadershipCycle.endFence]

/-- The loop has returned and nothing has settled the data plane: the cycle is undecided. -/
theorem Sound.undecided_of_drained (h : s.Sound d) {e : Ender}
    (hp : ((s.cycles k).enders e).phase.drained = true)
    (hskip : ¬ (s.cycles k).skips s.pending = true) :
    (s.cycles k).callback.phase.undecided = true := by
  have hc := h.cycles k
  have hrel := (hc.enders e).drained hp
  by_contra hnot
  have hset := hc.settled (.inl (CallbackPhase.decided_of (hc.reloadDone ▸ hrel) hnot))
  have hfenced : (s.cycles k).fenced = true := hc.fenced.mpr fun hst => by
    rw [hst] at hset
    cases hset
  rw [LeadershipCycle.fenced_of_not_skips hskip] at hfenced
  cases hfenced

theorem Fences.ender_fence (h : s.Sound d) {e : Ender}
    (ha : (s.cycles k).Enabled d s.ctx s.fenceMu (.ender e .fence)) :
    (s.nextCycle d k (.ender e .fence)).Fences := by
  obtain ⟨hp, hnone⟩ := ha
  have hc := h.cycles k
  have hfencing : ∀ {c : LeadershipCycle} {p : EnderPhase}, c.enders = (s.cycles k).enders →
      ∀ e', ((c.move e p).enders e').phase = .fencing → s.Running (.ender k e') ∨
        (e' = e ∧ p = .fencing) := by
    intro c p hc e' he'
    by_cases hee : e' = e
    · subst hee
      simp only [LeadershipCycle.move, update_self] at he'
      exact .inr ⟨rfl, he'⟩
    · simp only [LeadershipCycle.move, update_of_ne hee, hc] at he'
      exact .inl he'
  by_cases hskip : (s.cycles k).skips s.pending = true
  · exact h.fences.cycle_frame (LeadershipCycle.next_ender_fence_skips hskip)
      (by simp [effect, hskip]) rfl id
      (fun e' he' => (hfencing rfl e' he').resolve_right (by simp)) id
  · have hund := h.undecided_of_drained (e := e) (by rw [hp]; rfl) hskip
    exact h.fences.cycle_lock (f := .ender k e) (LeadershipCycle.next_ender_fence hskip)
      h.turns hnone
      rfl (by simp [effect, hskip]) (by simp [effect, hskip]) .inl
      (fun e' he' => (hfencing rfl e' he').imp_right fun hee => by rw [hee.1]) rfl (fun _ => hund)
      (CallbackPhase.active_of_undecided hund)

theorem Fences.ender_fenceDone (h : s.Sound d) {e : Ender}
    (ha : (s.cycles k).Enabled d s.ctx s.fenceMu (.ender e .fenceDone)) :
    (s.nextCycle d k (.ender e .fenceDone)).Fences := by
  have hrun : s.Running (.ender k e) := ha
  have hmu := h.fences.mutex _ hrun
  refine h.fences.cycle_unlock rfl hrun rfl rfl rfl ?_ ?_ ?_ id
  · exact fun hf => ⟨hf, by simp⟩
  · intro e' he'
    by_cases hee : e' = e
    · subst hee
      simp [LeadershipCycle.next, LeadershipCycle.nextEnd, LeadershipCycle.move] at he'
    · simp only [LeadershipCycle.next, LeadershipCycle.nextEnd, LeadershipCycle.move,
        update_of_ne hee] at he'
      exact ⟨he', by simp [hee]⟩
  · simp [LeadershipCycle.next, LeadershipCycle.nextEnd, LeadershipCycle.move,
      LeadershipCycle.endFence]

theorem Fences.claim (h : s.Sound d)
    (ha : (s.cycles k).Enabled d s.ctx s.fenceMu (.callback .claim)) :
    (s.nextCycle d k (.callback .claim)).Fences := by
  obtain ⟨hp, hnone⟩ := ha
  have hmu : (s.nextCycle d k (.callback .claim)).fenceMu = none := hnone
  refine ⟨running_nextCycle (P := fun f => _ = some f) rfl (fun hf => (nomatch hf)) ?_ ?_,
    ?_, ?_, ?_⟩
  · exact fun e he => h.fences.mutex (.ender k e) he
  · exact fun f _ hf => h.fences.mutex f hf
  · exact forall_nextCycle (P := fun j c => c.planeEnd = .fencing ↔
      ∃ f, s.fenceMu = some f ∧ f.cycle = some j) rfl (h.fences.fencing k) fun j _ =>
        h.fences.fencing j
  · exact fun _ _ => rfl
  · intro j _ f hf
    rw [hmu] at hf
    cases hf

theorem Fences.keep (h : s.Sound d)
    (ha : (s.cycles k).Enabled d s.ctx s.fenceMu (.callback .keep)) :
    (s.nextCycle d k (.callback .keep)).Fences := by
  obtain ⟨hp, hnone⟩ := ha
  have hund : (s.cycles k).callback.phase.undecided = true := by rw [hp]; rfl
  have hactive := CallbackPhase.active_of_undecided hund
  by_cases hf : (s.cycles k).fenced = true
  · exact h.fences.cycle_frame (LeadershipCycle.next_keep_fenced hf) (by simp [effect, hf]) rfl
      (fun hf => by cases hf) (fun _ => id) fun _ => hund
  · have hmu : (s.nextCycle d k (.callback .keep)).fenceMu = none := by
      simp [nextCycle, effect, hf, setCycle, hnone]
    -- no other cycle is undecided
    have hnobody : ∀ j, ((s.nextCycle d k (.callback .keep)).cycles j).callback.phase.undecided =
        true → False := by
      exact forall_nextCycle (P := fun j c => c.callback.phase.undecided = true → False)
        (LeadershipCycle.next_keep hf) (fun hu => by cases hu) fun j hjk hj =>
          hjk (h.turns.unique (CallbackPhase.active_of_undecided hj) hactive)
    refine ⟨running_nextCycle (P := fun f => _ = some f) (LeadershipCycle.next_keep hf)
      (fun hf => by cases hf) ?_ ?_, ?_, ?_, ?_⟩
    · rw [hmu, ← hnone]
      exact fun e he => h.fences.mutex (.ender k e) he
    · rw [hmu, ← hnone]
      exact fun f _ hf => h.fences.mutex f hf
    · rw [hmu]
      refine forall_nextCycle (P := fun j c => c.planeEnd = .fencing ↔
        ∃ f : Fencer, none = some f ∧ f.cycle = some j) (LeadershipCycle.next_keep hf) (by simp)
        fun j _ => ?_
      rw [h.fences.fencing j, hnone]
    · exact fun j hj => (hnobody j hj).elim
    · exact fun j hj => (hnobody j hj).elim

/-- **A step of a cycle.** -/
theorem Sound.cycle (h : s.Sound d) (ha : (s.cycles k).Enabled d s.ctx s.fenceMu a) :
    (s.nextCycle d k a).Sound d where
  cycles := forall_nextCycle (P := fun _ c => c.Sound d) rfl ((h.cycles k).step (h.locked k) ha)
    fun j _ => h.cycles j
  turns := h.turns.cycle ha
  fences := by
    by_cases hplain : a.plain = true
    · obtain ⟨hplane, hfences, henders, hund⟩ :=
        LeadershipCycle.next_plain s.pending hplain ha
      exact h.fences.cycle_frame rfl (effect_plain hplain s k) hplane hfences henders hund
    · cases a with
      | lock a | elector a => exact absurd rfl hplain
      | callback a =>
        cases a with
        | claim => exact Fences.claim h ha
        | fence => exact Fences.callback_fence h ha
        | fenceDone => exact Fences.callback_fenceDone h ha
        | keep => exact Fences.keep h ha
        | _ => exact absurd rfl hplain
      | ender e a =>
        cases a with
        | fence => exact Fences.ender_fence h ha
        | fenceDone => exact Fences.ender_fenceDone h ha
        | _ => exact absurd rfl hplain

/-! ### Observations -/

/-- Observations and the steps of `runElection` leave the callbacks, the calls of `endCycle` and
the data planes alone. -/
structure SameCycles (s s' : Election) : Prop where
  callback : ∀ k, (s'.cycles k).callback = (s.cycles k).callback
  enders : ∀ k, (s'.cycles k).enders = (s.cycles k).enders
  planeEnd : ∀ k, (s'.cycles k).planeEnd = (s.cycles k).planeEnd

theorem SameCycles.of_eq (h : s'.cycles = s.cycles) : SameCycles s s' :=
  ⟨fun _ => by rw [h], fun _ => by rw [h], fun _ => by rw [h]⟩

/-- One cycle may change in what the fences do not speak of. -/
theorem SameCycles.one (h : s'.cycles = update s.cycles k c)
    (hcallback : c.callback = (s.cycles k).callback) (henders : c.enders = (s.cycles k).enders)
    (hplane : c.planeEnd = (s.cycles k).planeEnd) : SameCycles s s' := by
  constructor <;> intro j <;> rw [h] <;> by_cases hjk : j = k <;>
    first
      | (subst hjk; rw [update_self]; assumption)
      | rw [update_of_ne hjk]

theorem SameCycles.running (h : SameCycles s s') (hf : f.cycle ≠ none) :
    s'.Running f ↔ s.Running f := by
  cases f with
  | callback j => rw [Running, Running, h.callback]
  | ender j e => rw [Running, Running, h.enders]
  | notice o | exit => exact absurd rfl hf

theorem Fences.same (h : s.Fences) (hsame : SameCycles s s') (hmu : s'.fenceMu = s.fenceMu)
    (hpending : s'.pending = s.pending)
    (hnotices : ∀ o, (s'.notices o).phase = .fencing → (s.notices o).phase = .fencing)
    (hmain : s'.main = .exitFencing → s.main = .exitFencing) : s'.Fences := by
  refine h.frame hmu hpending ?_ (fun k => by rw [hsame.planeEnd]) fun k => by
    rw [hsame.callback]; exact id
  intro f hf
  cases f with
  | callback j => rw [Running, hsame.callback] at hf; exact hf
  | ender j e => rw [Running, hsame.enders] at hf; exact hf
  | notice o => exact hnotices o hf
  | exit => exact hmain hf

/-- `fenceKept` takes the mutex: the flag was set, so no cycle is undecided. -/
theorem Fences.lockKept (h : s.Fences) (hsame : SameCycles s s') (hnone : s.fenceMu = none)
    (hset : s.pending = true) (hmu : s'.fenceMu = some f) (hf : f.cycle = none)
    (hrun : ∀ f', f'.cycle = none → s'.Running f' → s.Running f' ∨ f' = f) : s'.Fences := by
  have hnobody : ∀ k, ¬ (s.cycles k).callback.phase.undecided = true := fun k hk => by
    rw [h.cleared k hk] at hset
    cases hset
  refine h.lock hnone hmu (fun hp => by rw [hp] at hset; cases hset) ?_ (fun k => ?_)
    (fun k => by rw [hsame.callback]; exact id) fun k hk => absurd hk (hnobody k)
  · intro f' hf'
    by_cases hc : f'.cycle = none
    · exact hrun f' hc hf'
    · exact .inl ((hsame.running hc).mp hf')
  · rw [hsame.planeEnd, hf]
    simp

theorem Fences.unlockKept (h : s.Fences) (hsame : SameCycles s s') (hheld : s.Running f)
    (hf : f.cycle = none) (hmu : s'.fenceMu = none) (hpending : s'.pending = s.pending)
    (hrun : ∀ f', f'.cycle = none → s'.Running f' → s.Running f' ∧ f' ≠ f) : s'.Fences := by
  refine h.unlock (h.mutex f hheld) hmu hpending ?_ (fun k hk => ?_) fun k => by
    rw [hsame.callback]; exact id
  · intro f' hf'
    by_cases hc : f'.cycle = none
    · exact hrun f' hc hf'
    · exact ⟨(hsame.running hc).mp hf', fun heq => hc (heq ▸ hf)⟩
  · rw [hsame.planeEnd] at hk
    exact ⟨hk, by rw [hf]; simp⟩

/-- Only the observation `o` moved, and it is not in a fence. -/
theorem Sound.observation (h : s.Sound d) {n : Notice} (hcycles : s'.cycles = s.cycles)
    (hstarted : s'.started = s.started) (hmain : s'.main = s.main) (hmu : s'.fenceMu = s.fenceMu)
    (hpending : s'.pending = s.pending) (hnotices : s'.notices = update s.notices o n)
    (hphase : n.phase ≠ .fencing) (hdispatched : n.phase = .dispatched → n.cycle < s.started) :
    s'.Sound d where
  cycles := hcycles ▸ h.cycles
  turns := by
    refine ⟨?_, ?_, ?_, ?_, ?_, ?_⟩
    · rw [hcycles, hstarted]
      exact h.turns.fresh
    · rw [hcycles, hstarted, hmain]
      exact h.turns.callbacks
    · rw [hcycles, hstarted, hmain]
      exact h.turns.electors
    · rw [hstarted, hmain]
      exact h.turns.created
    · rw [last, hcycles, hstarted, hmain]
      exact h.turns.launching
    · rw [hnotices, hstarted]
      exact forall_update_iff _ (fun _ n => Notice.phase n = .dispatched → n.cycle < s.started)
        |>.mpr ⟨hdispatched, fun o' _ => h.turns.notices o'⟩
  fences := by
    refine h.fences.same (.of_eq hcycles) hmu hpending ?_ (by rw [hmain]; exact id)
    intro o' ho'
    by_cases hoo : o' = o
    · subst hoo
      rw [hnotices, update_self] at ho'
      exact absurd ho' hphase
    · rw [hnotices, update_of_ne hoo] at ho'
      exact ho'

theorem Sound.moveNotice (h : s.Sound d) {p : NoticePhase} (hp : p ≠ .fencing)
    (hp' : p ≠ .dispatched) : (s.moveNotice o p).Sound d :=
  h.observation rfl rfl rfl rfl rfl rfl hp fun hd => absurd hd hp'

theorem Sound.dropNotice (h : s.Sound d) (o : Observer) : (s.dropNotice o).Sound d := by
  unfold Election.dropNotice
  split_ifs
  · exact h.moveNotice (by simp) (by simp)
  · exact h.moveNotice (by simp) (by simp)

/-- Fields of a created cycle that nothing here speaks of may change. -/
theorem Sound.aside (h : s.Sound d) (hk : k < s.started) (hc : c.Sound d)
    (hcallback : c.callback = (s.cycles k).callback) (henders : c.enders = (s.cycles k).enders)
    (hplane : c.planeEnd = (s.cycles k).planeEnd) (helector : c.elector = (s.cycles k).elector) :
    (s.setCycle k c).Sound d where
  cycles := forall_update_iff _ (fun _ c => LeadershipCycle.Sound d c) |>.mpr
    ⟨hc, fun j _ => h.cycles j⟩
  turns := by
    refine ⟨?_, ?_, ?_, h.turns.created, ?_, h.turns.notices⟩
    · intro j hj
      have hj' : s.started ≤ j := hj
      show update s.cycles k _ j = {}
      rw [update_of_ne (by omega)]
      exact h.turns.fresh j hj
    · exact forall_update_iff _ (fun j c => (LeadershipCycle.callback c).phase.active = true →
        j + 1 = s.started ∧ s.main.cycling = true) |>.mpr
        ⟨hcallback ▸ h.turns.callbacks k, fun j _ => h.turns.callbacks j⟩
    · exact forall_update_iff _ (fun j c => (LeadershipCycle.elector c).running = true →
        j + 1 = s.started ∧ s.main = .electing) |>.mpr
        ⟨helector ▸ h.turns.electors k, fun j _ => h.turns.electors j⟩
    · intro hmain
      have hidle := h.turns.launching hmain
      show (update s.cycles k c (s.started - 1)).elector = .idle
      by_cases hlast : s.started - 1 = k
      · subst hlast
        rw [update_self, helector]
        exact hidle
      · rw [update_of_ne hlast]
        exact hidle
  fences := h.fences.same (.one rfl hcallback henders hplane) rfl rfl (fun _ => id) id

/-- **A step of an observation.** -/
theorem Sound.notice (h : s.Sound d) {a : NoticeStep} (ha : s.EnabledNotice o a) :
    (s.nextNotice d o a).Sound d := by
  cases a with
  | dispatch k holder =>
    obtain ⟨-, -, hrun⟩ := ha
    have hk := (h.turns.electors k hrun).1
    exact h.observation rfl rfl rfl rfl rfl rfl (by simp) fun _ => by simp only; omega
  | note =>
    simp only [nextNotice]
    split_ifs
    · have hcycle : LeadershipCycle.Sound d
          { s.cycles (s.notices o).cycle with otherHolder := true } :=
        (h.cycles _).aside
      have hnoted := h.aside (h.turns.notices o ha) hcycle rfl rfl rfl rfl
      exact hnoted.moveNotice (by simp) (by simp)
    · exact h.moveNotice (by simp) (by simp)
  | observe node =>
    simp only [nextNotice]
    split_ifs
    · exact h.observation rfl rfl rfl rfl rfl rfl (by simp) (by simp)
    · exact h.dropNotice o
  | load =>
    simp only [nextNotice]
    split_ifs
    · exact h.moveNotice (by simp) (by simp)
    · exact h.dropNotice o
  | fence =>
    obtain ⟨hp, hnone⟩ := ha
    simp only [nextNotice]
    split_ifs with hset
    · refine ⟨h.cycles, ⟨h.turns.fresh, h.turns.callbacks, h.turns.electors, h.turns.created,
        h.turns.launching, ?_⟩, ?_⟩
      · exact forall_update_iff _ (fun _ n => Notice.phase n = .dispatched → n.cycle < s.started)
          |>.mpr ⟨by simp, fun o' _ => h.turns.notices o'⟩
      · refine h.fences.lockKept (f := .notice o) (.of_eq rfl) hnone hset rfl rfl ?_
        intro f' _ hf'
        cases f' with
        | callback j | ender j e | exit => exact .inl hf'
        | notice o' =>
          by_cases hoo : o' = o
          · exact .inr (by rw [hoo])
          · refine .inl ?_
            simpa [Running, Election.moveNotice, setNotice, fenceKept, update_of_ne hoo] using hf'
    · exact h.dropNotice o
  | fenceDone =>
    have hrun : s.Running (.notice o) := ha
    have hdrop := h.dropNotice o
    refine ⟨hdrop.cycles, ⟨hdrop.turns.fresh, hdrop.turns.callbacks, hdrop.turns.electors,
      hdrop.turns.created, hdrop.turns.launching, hdrop.turns.notices⟩, ?_⟩
    refine h.fences.unlockKept (.of_eq rfl) hrun rfl rfl rfl ?_
    intro f' _ hf'
    cases f' with
    | callback j | ender j e | exit => exact ⟨hf', by simp⟩
    | notice o' =>
      by_cases hoo : o' = o
      · subst hoo
        simp only [Running, nextNotice, Election.dropNotice, Election.moveNotice, setNotice,
          update_self] at hf'
        split_ifs at hf'
      · refine ⟨?_, by simp [hoo]⟩
        simpa [Running, nextNotice, Election.dropNotice, Election.moveNotice, setNotice,
          update_of_ne hoo] using hf'

/-! ### `runElection` itself -/

/-- `runElection` moves on to a phase that fits the cycle under way, if there is one. -/
theorem Sound.atMain (h : s.Sound d) {m : MainPhase}
    (hcallbacks : ∀ k, (s.cycles k).callback.phase.active = true → m.cycling = true)
    (helectors : ∀ k, (s.cycles k).elector.running = true → m = .electing)
    (hcreated : m.created = true → 1 ≤ s.started) (hlaunching : m ≠ .launching)
    (hexit : m ≠ .exitFencing) : Sound d { s with main := m } where
  cycles := h.cycles
  turns :=
    { h.turns with
      callbacks := fun k hk => ⟨(h.turns.callbacks k hk).1, hcallbacks k hk⟩
      electors := fun k hk => ⟨(h.turns.electors k hk).1, helectors k hk⟩
      created := hcreated
      launching := fun hm => absurd hm hlaunching }
  fences := h.fences.same (.of_eq rfl) rfl rfl (fun _ => id) fun hm => absurd hm hexit

/-- Outside a cycle nothing of a cycle is under way. -/
theorem Turns.inactive (h : s.Turns) (hmain : s.main.cycling = false) (k : Nat) :
    ¬ (s.cycles k).callback.phase.active = true ∧ ¬ (s.cycles k).elector.running = true := by
  constructor
  · intro hk
    rw [(h.callbacks k hk).2] at hmain
    cases hmain
  · intro hk
    rw [(h.electors k hk).2] at hmain
    cases hmain

/-- From one phase outside a cycle to another. -/
theorem Sound.outside (h : s.Sound d) (hmain : s.main.cycling = false) {m : MainPhase}
    (hcreated : m.created = true → 1 ≤ s.started) (hlaunching : m ≠ .launching)
    (hexit : m ≠ .exitFencing) : Sound d { s with main := m } :=
  h.atMain (fun k hk => absurd hk (h.turns.inactive hmain k).1)
    (fun k hk => absurd hk (h.turns.inactive hmain k).2) hcreated hlaunching hexit

/-- The elector or the callback under way is that of the last cycle. -/
theorem eq_last (hk : k + 1 = s.started) : s.cycles k = s.last := by
  rw [last, ← hk, Nat.add_sub_cancel]

theorem Sound.create (h : s.Sound d) (hmain : s.main = .creating) :
    (s.nextMain d .create).Sound d := by
  have hnone := h.turns.inactive (by rw [hmain]; rfl)
  refine ⟨?_, ⟨?_, ?_, ?_, fun _ => by simp [nextMain], ?_, ?_⟩, ?_⟩
  · exact forall_update_iff _ (fun _ c => LeadershipCycle.Sound d c) |>.mpr
      ⟨.initial true, fun j _ => h.cycles j⟩
  · intro j hj
    have hj' : s.started + 1 ≤ j := hj
    show update s.cycles s.started _ j = {}
    rw [update_of_ne (by omega)]
    exact h.turns.fresh j (by omega)
  · exact forall_update_iff _
      (fun j c => (LeadershipCycle.callback c).phase.active = true → _) |>.mpr
      ⟨fun hk => (nomatch hk), fun j _ hk => absurd hk (hnone j).1⟩
  · exact forall_update_iff _ (fun j c => (LeadershipCycle.elector c).running = true → _) |>.mpr
      ⟨fun hk => (nomatch hk), fun j _ hk => absurd hk (hnone j).2⟩
  · intro _
    show (update s.cycles s.started _ (s.started + 1 - 1)).elector = .idle
    rw [Nat.add_sub_cancel, update_self]
  · intro o ho
    exact Nat.lt_succ_of_lt (h.turns.notices o ho)
  · have hfresh : s.cycles s.started = {} := h.turns.fresh s.started le_rfl
    refine h.fences.same (.one rfl ?_ ?_ ?_) rfl rfl (fun _ => id) fun hm => (nomatch hm)
    · rw [hfresh]
    · rw [hfresh]
    · rw [hfresh]

theorem Sound.launch (h : s.Sound d) (hmain : s.main = .launching) :
    (s.nextMain d .launch).Sound d := by
  have hnone := h.turns.inactive (by rw [hmain]; rfl)
  have hpos : 1 ≤ s.started := h.turns.created (by rw [hmain]; rfl)
  have hidle : s.last.elector = .idle := h.turns.launching hmain
  have hlast := h.cycles (s.started - 1)
  have hphase : s.last.callback.phase = .idle := hlast.idle.mpr (by
    rw [show (s.cycles (s.started - 1)).elector = .idle from hidle]; simp)
  have hcycle : LeadershipCycle.Sound d { s.last with elector := .acquiring } :=
    { hlast with
      quiet := fun hr => (nomatch hr)
      unlaunched := fun hi => (nomatch hi)
      leading := fun hl => (nomatch hl)
      idle := by simp [hphase]
      enders := fun e => (hlast.enders e).frame rfl rfl id id id }
  refine ⟨?_, ⟨?_, ?_, ?_, fun _ => hpos, fun hm => (nomatch hm), h.turns.notices⟩, ?_⟩
  · exact forall_update_iff _ (fun _ c => LeadershipCycle.Sound d c) |>.mpr
      ⟨hcycle, fun j _ => h.cycles j⟩
  · intro j hj
    have hj' : s.started ≤ j := hj
    show update s.cycles (s.started - 1) _ j = {}
    rw [update_of_ne (by omega)]
    exact h.turns.fresh j hj'
  · refine forall_update_iff _
      (fun j c => (LeadershipCycle.callback c).phase.active = true → _) |>.mpr
      ⟨fun hk => ?_, fun j _ hk => absurd hk (hnone j).1⟩
    rw [hphase] at hk
    cases hk
  · refine forall_update_iff _ (fun j c => (LeadershipCycle.elector c).running = true →
      j + 1 = s.started ∧ _) |>.mpr
      ⟨fun hk => ⟨by omega, rfl⟩, fun j _ hk => absurd hk (hnone j).2⟩
  · exact h.fences.same (.one rfl rfl rfl rfl) rfl rfl (fun _ => id) fun hm => (nomatch hm)

/-- The callback has returned, or there was none: the elector is done, so its
acquisition is settled. -/
theorem Sound.join (h : s.Sound d) (hmain : s.main = .joining)
    (hdone : s.last.lock.lock.acquired = true → s.last.done = true) :
    (s.nextMain d .join).Sound d := by
  have hstill : ∀ k, ¬ (s.cycles k).elector.running = true := fun k hk => by
    rw [(h.turns.electors k hk).2] at hmain
    cases hmain
  refine h.atMain (fun k hk => ?_) (fun k hk => absurd hk (hstill k))
    (fun _ => h.turns.created (by rw [hmain]; rfl)) (by simp) (by simp)
  have hc := h.cycles k
  have hlast := eq_last (h.turns.callbacks k hk).1
  rw [← hlast] at hdone
  by_cases hacq : (s.cycles k).lock.lock.acquired = true
  · exact absurd (hdone hacq) (hc.not_done hk)
  · have hidle : (s.cycles k).callback.phase = .idle := by
      refine hc.idle.mpr ⟨fun hel => hstill k (by rw [hel]; rfl), fun hret => hacq hret.2⟩
    rw [hidle] at hk
    cases hk

/-- `stopShutdownWatch` and the last `cancelElection`. -/
theorem Sound.setLast (h : s.Sound d) (hmain : s.main.created = true) (hc : c.Sound d)
    (hcallback : c.callback = s.last.callback) (henders : c.enders = s.last.enders)
    (hplane : c.planeEnd = s.last.planeEnd) (helector : c.elector = s.last.elector) :
    (s.setLast c).Sound d := by
  have hpos := h.turns.created hmain
  exact h.aside (by omega) hc hcallback henders hplane helector

/-- **A step of `runElection`.** -/
theorem Sound.mainStep (h : s.Sound d) {a : MainStep} (ha : s.EnabledMain a) :
    (s.nextMain d a).Sound d := by
  have hlast := h.cycles (s.started - 1)
  cases a with
  | check =>
    have hmain : s.main = .looping := ha
    simp only [nextMain]
    split_ifs <;> exact h.outside (by rw [hmain]; rfl) (by simp [MainPhase.created])
      (by simp) (by simp)
  | poll =>
    simp only [nextMain]
    split_ifs
    · exact h.moveNotice (by simp) (by simp)
    · exact h
  | read holder =>
    cases holder with
    | none => exact h.moveNotice (by simp) (by simp)
    | some holder => exact h.observation rfl rfl rfl rfl rfl rfl (by simp) (by simp)
  | contend =>
    obtain ⟨hmain, -⟩ := ha
    simp only [nextMain]
    split_ifs <;> exact h.outside (by rw [hmain]; rfl) (by simp [MainPhase.created])
      (by simp) (by simp)
  | create => exact h.create ha
  | launch => exact h.launch ha
  | launchFail =>
    have hmain : s.main = .launching := ha
    have hset : (s.setLast { s.last with unwatched := true, cancelled := true }).Sound d :=
      h.setLast (by rw [hmain]; rfl) hlast.aside rfl rfl rfl rfl
    exact hset.outside (by show s.main.cycling = false; rw [hmain]; rfl)
      (by simp [MainPhase.created]) (by simp) (by simp)
  | ran =>
    obtain ⟨hmain, hreturned⟩ := ha
    refine h.atMain (fun _ _ => rfl) (fun k hk => ?_)
      (fun _ => h.turns.created (by rw [hmain]; rfl)) (by simp) (by simp)
    rw [eq_last (h.turns.electors k hk).1, hreturned] at hk
    cases hk
  | join => exact h.join ha.1 ha.2
  | unwatch =>
    have hmain : s.main = .unwatching := ha
    have hpos := h.turns.created (by rw [hmain]; rfl)
    have hset : (s.setLast { s.last with unwatched := true }).Sound d :=
      h.setLast (by rw [hmain]; rfl) hlast.aside rfl rfl rfl rfl
    exact hset.outside (by show s.main.cycling = false; rw [hmain]; rfl) (fun _ => hpos) (by simp)
      (by simp)
  | cancel =>
    have hmain : s.main = .cancelling := ha
    have hset : (s.setLast { s.last with cancelled := true }).Sound d :=
      h.setLast (by rw [hmain]; rfl) hlast.aside rfl rfl rfl rfl
    simp only [nextMain]
    split_ifs <;> exact hset.outside (by show s.main.cycling = false; rw [hmain]; rfl)
      (by simp [MainPhase.created]) (by simp) (by simp)
  | exit =>
    obtain ⟨hmain, hnone⟩ := ha
    have hinactive := h.turns.inactive (by rw [hmain]; rfl)
    simp only [nextMain]
    split_ifs with hset
    · refine ⟨h.cycles, { h.turns with
        callbacks := fun k hk => absurd hk (hinactive k).1
        electors := fun k hk => absurd hk (hinactive k).2
        created := fun hm => (nomatch hm)
        launching := fun hm => (nomatch hm) }, ?_⟩
      refine h.fences.lockKept (f := .exit) (.of_eq rfl) hnone hset rfl rfl ?_
      intro f' _ hf'
      cases f' with
      | exit => exact .inr rfl
      | _ => exact .inl hf'
    · exact h.outside (by rw [hmain]; rfl) (by simp [MainPhase.created]) (by simp) (by simp)
  | exitDone =>
    have hmain : s.main = .exitFencing := ha
    have hinactive := h.turns.inactive (by rw [hmain]; rfl)
    refine ⟨h.cycles, { h.turns with
      callbacks := fun k hk => absurd hk (hinactive k).1
      electors := fun k hk => absurd hk (hinactive k).2
      created := fun hm => (nomatch hm)
      launching := fun hm => (nomatch hm) }, ?_⟩
    refine h.fences.unlockKept (.of_eq rfl) (f := .exit) hmain rfl rfl rfl ?_
    intro f' _ hf'
    cases f' with
    | exit => cases hf'
    | _ => exact ⟨hf', by simp⟩

/-! ### Every interleaving -/

theorem Sound.initial : (start d).Sound d where
  cycles _ := .initial false
  turns :=
    { fresh := fun _ _ => rfl
      callbacks := fun _ hk => (nomatch hk)
      electors := fun _ hk => (nomatch hk)
      created := fun hm => (nomatch hm)
      launching := fun hm => (nomatch hm)
      notices := fun _ ho => (nomatch ho) }
  fences :=
    { mutex := fun f hf => by cases f <;> cases hf
      fencing := fun k => by simp [start]
      cleared := fun _ hk => (nomatch hk)
      owned := fun _ hk => (nomatch hk) }

/-- **A step of the process.** -/
theorem Sound.step (h : s.Sound d) {a : ElectionStep} (ha : s.Enabled d a) :
    (s.next d a).Sound d := by
  cases a with
  | cycle k a => exact h.cycle ha
  | notice o a => exact h.notice ha
  | main a => exact h.mainStep ha
  | sigterm =>
    exact ⟨h.cycles, { h.turns with }, h.fences.same (.of_eq rfl) rfl rfl (fun _ => id) id⟩
  | siblingFailure =>
    exact ⟨h.cycles, { h.turns with }, h.fences.same (.of_eq rfl) rfl rfl (fun _ => id) id⟩
  | standbyPass => exact h

/-- **Every state of every interleaving.** -/
theorem Sound.of_runs {steps : List ElectionStep} (h : Runs d steps) : (run d steps).Sound d :=
  h.invariant (fun _ _ hs ha => hs.step ha) .initial (List.prefix_refl steps)

/-! ## What a step does to one cycle -/

/-- A step of the cycle itself. -/
theorem next_own (s : Election) (k : Nat) (a : CycleStep) :
    (s.next d (.cycle k a)).cycles k = (s.cycles k).next d s.ctx s.pending a := by
  rw [show s.next d (.cycle k a) = s.nextCycle d k a from rfl, nextCycle_cycles, update_self]

/-- Every other step leaves the lock and the callback of the cycle alone. -/
theorem Sound.next_other (h : s.Sound d) {a : ElectionStep} (ha : ∀ b, a ≠ .cycle k b) :
    ((s.next d a).cycles k).lock = (s.cycles k).lock ∧
      ((s.next d a).cycles k).callback = (s.cycles k).callback := by
  have hset : ∀ {j : Nat} {c : LeadershipCycle}, c.lock = (s.cycles j).lock →
      c.callback = (s.cycles j).callback →
      ((s.setCycle j c).cycles k).lock = (s.cycles k).lock ∧
        ((s.setCycle j c).cycles k).callback = (s.cycles k).callback := by
    intro j c hlock hcallback
    by_cases hkj : k = j
    · subst hkj
      simp [setCycle, hlock, hcallback]
    · simp [setCycle, hkj]
  cases a with
  | cycle j a =>
    have hkj : k ≠ j := by
      rintro rfl
      exact ha a rfl
    rw [show s.next d (.cycle j a) = s.nextCycle d j a from rfl, nextCycle_cycles, update_of_ne hkj]
    exact ⟨rfl, rfl⟩
  | notice o a =>
    cases a with
    | note =>
      simp only [next, nextNotice]
      split_ifs
      · exact hset rfl rfl
      · exact ⟨rfl, rfl⟩
    | observe node | load | fence => simp only [next, nextNotice]; split_ifs <;> exact ⟨rfl, rfl⟩
    | _ => exact ⟨rfl, rfl⟩
  | main a =>
    cases a with
    | create =>
      have hfresh := h.turns.fresh s.started le_rfl
      exact hset (by rw [hfresh]) (by rw [hfresh])
    | launch | launchFail | unwatch | cancel => exact hset rfl rfl
    | poll | exit => simp only [next, nextMain]; split_ifs <;> exact ⟨rfl, rfl⟩
    | read holder => cases holder <;> exact ⟨rfl, rfl⟩
    | _ => exact ⟨rfl, rfl⟩
  | _ => exact ⟨rfl, rfl⟩

/-- No cycle is created while a write of the elector is under way. -/
theorem Sound.next_started (h : s.Sound d) {a : ElectionStep} (ha : s.Enabled d a)
    (hbusy : (s.last.lock.writes ()).phase.resting = false) : (s.next d a).started = s.started := by
  have hrunning : s.last.elector.running = true := by
    by_contra hnot
    have hrest := (h.cycles (s.started - 1)).quiet (Bool.eq_false_iff.mpr hnot)
    exact Bool.false_ne_true (hbusy.symm.trans hrest)
  have hmain := (h.turns.electors _ hrunning).2
  cases a with
  | cycle k a => exact nextCycle_started s k a
  | notice o a =>
    cases a with
    | note | observe node | load | fence => simp only [next, nextNotice]; split_ifs <;> rfl
    | _ => rfl
  | main a =>
    cases a with
    | create => exact absurd (hmain.symm.trans ha) (by decide)
    | poll | exit => simp only [next, nextMain]; split_ifs <;> rfl
    | read holder => cases holder <;> rfl
    | _ => rfl
  | _ => rfl

end Election

end WireguardGateway.Link

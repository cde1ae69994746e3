import WireguardGateway.Link.Election

/-!
# One cycle of the election

What holds in a leadership cycle whatever its goroutines do (`internal/link/election.go:93-145`,
`:287-383`, `:419-463`): the elector, the callback, the three callers of `endCycle` and the lock,
step by step. The invariant is `LeadershipCycle.Sound`; `Sound.step` keeps it, given what a thread
finds at `fenceMu` (`Locked`), which is the business of the process.

The channels and flags say where the callback is. What a caller of `endCycle` learned is not lost:
that `leave` returned true, that the loop is registered, that it has returned, that the data plane
is settled. A call that timed out knows none of it.

Results:
* `LeadershipCycle.Sound.step`: every step of a cycle keeps its invariant;
* `next_plain`, `next_active`, `next_elector`: what a step leaves alone.
-/

namespace WireguardGateway.Link

open Function Lib

/-! ## Phases -/

namespace CallbackPhase

/-- `lead` has run. -/
def registered : CallbackPhase → Bool
  | .idle | .claiming | .starting | .promoting | .registering => false
  | _ => true

/-- The reload loop has returned and `reloadDone` is closed. -/
def reloaded : CallbackPhase → Bool
  | .idle | .claiming | .starting | .promoting | .registering | .reading | .reloading
  | .closingReload => false
  | _ => true

/-- The callback has been started and has not returned. -/
def active : CallbackPhase → Bool
  | .idle | .finished => false
  | _ => true

/-- The cycle has claimed the pending flag. -/
def claimed : CallbackPhase → Bool
  | .idle | .claiming => false
  | _ => true

/-- The cycle has decided what becomes of its data plane. -/
def decided : CallbackPhase → Bool
  | .clearing | .closingTeardown | .demoting | .closingDone | .finished => true
  | _ => false

/-- From the claim to the cycle's own end decision. -/
def undecided (phase : CallbackPhase) : Bool := phase.claimed && !phase.decided

/-- The callback holds `fenceMu`. -/
def fences : CallbackPhase → Bool
  | .failFencing | .fencing => true
  | _ => false

/-- The callback is between its reload loop and its decision, and looks for
the reason of the end. -/
def weighing : CallbackPhase → Bool
  | .consulting | .readingHolder | .locking | .keeping => true
  | _ => false

/-- Between two such phases nothing is due. -/
def leadsTo (p p' : CallbackPhase) : Bool :=
  p.active && p' ≠ .idle && p'.registered == p.registered && p'.reloaded == p.reloaded &&
    !p'.decided && p' ≠ .failCancelling

theorem active_of_undecided {p : CallbackPhase} (h : p.undecided = true) : p.active = true := by
  cases p <;> first | rfl | cases h

theorem of_weighing {p : CallbackPhase} (h : p.weighing = true) :
    p.fences = false ∧ p.claimed = true := by
  cases p <;> first | exact ⟨rfl, rfl⟩ | cases h

theorem decided_of {p : CallbackPhase} (hrel : p.reloaded = true) (hund : ¬ p.undecided = true) :
    p.decided = true := by
  cases p <;> first | rfl | exact absurd rfl hund | cases hrel

end CallbackPhase

/-- The step neither takes nor leaves `fenceMu`. -/
def CycleStep.plain : CycleStep → Bool
  | .callback .claim | .callback .fence | .callback .fenceDone | .callback .keep
  | .ender _ .fence | .ender _ .fenceDone => false
  | _ => true

namespace EnderPhase

/-- `leave` has returned. -/
def left : EnderPhase → Bool
  | .idle | .marking | .leaving => false
  | _ => true

/-- The wait for the reload loop is over. -/
def drained : EnderPhase → Bool
  | .locking | .fencing => true
  | _ => false

/-- What the call waits for, or does, needs no knowledge but that it may have left. -/
def waits : EnderPhase → Bool
  | .marking | .leaving | .asking | .awaiting | .draining => true
  | _ => false

/-- At the cancellation, or past it. -/
def ends : EnderPhase → Bool
  | .cancelling | .returned => true
  | _ => false

end EnderPhase

/-! ## One cycle -/

namespace LeadershipCycle

variable {d : ElectionDeps} {ctx : Contexts} {pending : Bool} {c c' : LeadershipCycle} {e : Ender}

/-- What a call of `endCycle` that did not time out knows in each phase. -/
structure EndSound (c : LeadershipCycle) (e : Ender) : Prop where
  left : (c.enders e).phase.left = true → (c.enders e).timedOut = false →
    c.lock.leaves e = .returned true
  taking : (c.enders e).phase = .taking → (c.enders e).timedOut = false → c.registered = true
  drained : (c.enders e).phase.drained = true → c.reloadDone = true
  settling : (c.enders e).phase = .settling → c.planeEnd.settled = true
  ends : (c.enders e).phase.ends = true → (c.enders e).timedOut = false →
    c.lock.lock.acquired = false ∨ c.planeEnd.settled = true

/-- The channels and flags of a cycle say where its callback is; the callback was started if the
cycle acquired and the elector is past `acquire`; the data plane is fenced or handed over after the
reload loop has returned, and before the callback passes its decision. -/
structure Sound (d : ElectionDeps) (c : LeadershipCycle) : Prop where
  lock : c.lock.Sound d.podName
  quiet : c.elector.running = false → (c.lock.writes ()).phase.resting = true
  unlaunched : c.elector = .idle → c.lock.lock.acquired = false
  leading : c.elector = .leading → c.lock.lock.acquired = true
  idle : c.callback.phase = .idle ↔
    c.elector ≠ .leading ∧ ¬ (c.elector = .returned ∧ c.lock.lock.acquired = true)
  registered : c.registered = c.callback.phase.registered
  reloadDone : c.reloadDone = c.callback.phase.reloaded
  done : c.done = true → c.callback.phase = .finished
  fenced : c.fenced = true ↔ c.planeEnd ≠ .standing
  fencedAfter : c.planeEnd ≠ .standing → c.reloadDone = true
  settled : c.callback.phase.decided = true ∨ c.callback.phase = .failCancelling →
    c.planeEnd.settled = true
  enders : ∀ e, c.EndSound e

theorem Sound.initial (watched : Bool) : Sound d { watched := watched } where
  lock := .initial
  quiet _ := rfl
  unlaunched _ := rfl
  leading h := (nomatch h)
  idle := by simp
  registered := rfl
  reloadDone := rfl
  done h := (nomatch h)
  fenced := by simp
  fencedAfter h := absurd rfl h
  settled h := by simp [CallbackPhase.decided] at h
  enders _ := by constructor <;> simp [EnderPhase.left, EnderPhase.drained, EnderPhase.ends]

/-- What a call of `endCycle` knows is not lost by the others. -/
theorem EndSound.frame (h : c.EndSound e) (hend : c'.enders e = c.enders e)
    (hlock : c'.lock = c.lock) (hreg : c.registered = true → c'.registered = true)
    (hrel : c.reloadDone = true → c'.reloadDone = true)
    (hset : c.planeEnd.settled = true → c'.planeEnd.settled = true) : c'.EndSound e := by
  constructor
  · rw [hend, hlock]
    exact h.left
  · rw [hend]
    exact fun hp ht => hreg (h.taking hp ht)
  · rw [hend]
    exact fun hp => hrel (h.drained hp)
  · rw [hend]
    exact fun hp => hset (h.settling hp)
  · rw [hend, hlock]
    exact fun hp ht => (h.ends hp ht).imp_right hset

/-- The fields that `Sound` does not speak of may change. -/
theorem Sound.aside (h : c.Sound d) {cancelled watched unwatched otherHolder ended stopReload
    teardownDone steppedDown cycleErr : Bool} :
    Sound d { c with
      cancelled := cancelled, watched := watched, unwatched := unwatched,
      otherHolder := otherHolder, ended := ended, stopReload := stopReload,
      teardownDone := teardownDone, steppedDown := steppedDown, cycleErr := cycleErr } :=
  { h with enders := fun e => (h.enders e).frame rfl rfl id id id }

/-! ### The callback -/

/-- The callback moves on. -/
theorem Sound.advance (h : c.Sound d) (hactive : c.callback.phase.active = true)
    (hlock : c'.lock = c.lock) (helector : c'.elector = c.elector) (henders : c'.enders = c.enders)
    (hidle : c'.callback.phase ≠ .idle)
    (hreg : c'.registered = c'.callback.phase.registered)
    (hreg' : c.registered = true → c'.registered = true)
    (hrel : c'.reloadDone = c'.callback.phase.reloaded)
    (hrel' : c.reloadDone = true → c'.reloadDone = true)
    (hdone : c'.done = true → c'.callback.phase = .finished)
    (hfenced : c'.fenced = true ↔ c'.planeEnd ≠ .standing)
    (hafter : c'.planeEnd ≠ .standing → c'.reloadDone = true)
    (hset : c'.callback.phase.decided = true ∨ c'.callback.phase = .failCancelling →
      c'.planeEnd.settled = true)
    (hset' : c.planeEnd.settled = true → c'.planeEnd.settled = true) : c'.Sound d where
  lock := hlock ▸ h.lock
  quiet := by rw [hlock, helector]; exact h.quiet
  unlaunched := by rw [hlock, helector]; exact h.unlaunched
  leading := by rw [hlock, helector]; exact h.leading
  idle := by
    rw [hlock, helector, ← h.idle]
    refine iff_of_false hidle fun hphase => ?_
    rw [hphase] at hactive
    cases hactive
  registered := hreg
  reloadDone := hrel
  done := hdone
  fenced := hfenced
  fencedAfter := hafter
  settled := hset
  enders e := (h.enders e).frame (by rw [henders]) hlock hreg' hrel' hset'

theorem Sound.not_done (h : c.Sound d) (hactive : c.callback.phase.active = true) :
    ¬ c.done = true := by
  intro hdone
  rw [h.done hdone] at hactive
  cases hactive

theorem Sound.standing_of_running (h : c.Sound d) (hrel : c.callback.phase.reloaded = false) :
    c.planeEnd = .standing := by
  by_contra hne
  have hdone := h.fencedAfter hne
  rw [h.reloadDone, hrel] at hdone
  cases hdone

/-- The callback moves on without touching a flag. -/
theorem Sound.recall (h : c.Sound d) {b : Callback} (hactive : c.callback.phase.active = true)
    (hidle : b.phase ≠ .idle) (hreg : b.phase.registered = c.callback.phase.registered)
    (hrel : b.phase.reloaded = c.callback.phase.reloaded)
    (hset : b.phase.decided = true ∨ b.phase = .failCancelling → c.planeEnd.settled = true) :
    Sound d { c with callback := b } :=
  h.advance hactive rfl rfl rfl hidle (h.registered.trans hreg.symm) id
    (h.reloadDone.trans hrel.symm)
    id (fun hdone => absurd hdone (h.not_done hactive)) h.fenced h.fencedAfter hset id

variable {p : CallbackPhase} {a : CycleStep}

/-- A move between two phases of the same kind. -/
theorem Sound.goto (h : c.Sound d) {p' : CallbackPhase} (hp : c.callback.phase = p)
    (hactive : p.active = true) (hidle : p' ≠ .idle) (hreg : p'.registered = p.registered)
    (hrel : p'.reloaded = p.reloaded)
    (hset : p'.decided = true ∨ p' = .failCancelling → c.planeEnd.settled = true) :
    (c.goto p').Sound d := by
  subst hp
  exact h.recall hactive hidle hreg hrel hset

theorem Sound.pass (h : c.Sound d) {b : Callback} (hp : c.callback.phase = p)
    (hmove : p.leadsTo b.phase = true) : Sound d { c with callback := b } := by
  simp only [CallbackPhase.leadsTo, Bool.and_eq_true, decide_eq_true_eq, beq_iff_eq,
    Bool.not_eq_true'] at hmove
  obtain ⟨⟨⟨⟨⟨hactive, hidle⟩, hreg⟩, hrel⟩, hdec⟩, hfail⟩ := hmove
  subst hp
  exact h.recall hactive hidle hreg hrel fun hs => hs.elim (by simp [hdec]) fun hs =>
    absurd hs hfail

theorem Sound.decide (h : c.Sound d) (hp : c.callback.phase = p) (hactive : p.active = true)
    (hreg : p.registered = true) (hrel : p.reloaded = true) (read : Option (String × Int)) :
    (c.decide d read).Sound d := by
  unfold LeadershipCycle.decide
  split_ifs
  · exact h.goto hp hactive (by simp) (by rw [hreg]; rfl) (by rw [hrel]; rfl)
      (by simp [CallbackPhase.decided])
  · exact h.goto hp hactive (by simp) (by rw [hreg]; rfl) (by rw [hrel]; rfl)
      (by simp [CallbackPhase.decided])

theorem Sound.weigh (h : c.Sound d) (hp : c.callback.phase = p) (hactive : p.active = true)
    (hreg : p.registered = true) (hrel : p.reloaded = true)
    (hset : ¬ (p.decided = true ∨ p = .failCancelling)) (stepped : Bool) :
    (c.weigh d stepped).Sound d := by
  have hread : Sound d { c with callback := { c.callback with stepped := stepped } } :=
    h.recall (by rw [hp, hactive]) (by rw [hp]; rintro rfl; cases hactive) rfl rfl
      fun hs => absurd (hp ▸ hs) hset
  unfold LeadershipCycle.weigh
  simp only
  split_ifs
  · exact hread.decide hp hactive hreg hrel none
  · exact hread.goto hp hactive (by simp) (by rw [hreg]; rfl) (by rw [hrel]; rfl)
      (by simp [CallbackPhase.decided])

/-- A fence of the cycle begins: nothing has settled its data plane before. -/
theorem Sound.beginFence (h : c.Sound d) (hrel : c.reloadDone = true) (hfenced : c.fenced = false) :
    c.beginFence.Sound d := by
  have hstands : c.planeEnd = .standing := by
    by_contra hne
    rw [h.fenced.mpr hne] at hfenced
    cases hfenced
  have hnot : ¬ c.planeEnd.settled = true := by
    rw [hstands]
    simp [PlaneEnd.settled]
  exact { h with
    fenced := by simp [LeadershipCycle.beginFence]
    fencedAfter := fun _ => hrel
    settled := fun hs => absurd (h.settled hs) hnot
    enders := fun e => (h.enders e).frame rfl rfl id id fun hs => absurd hs hnot }

/-- A fence of the cycle ends. -/
theorem Sound.endFence (h : c.Sound d) (hrun : c.planeEnd = .fencing) : c.endFence.Sound d :=
  { h with
    fenced := by
      rw [LeadershipCycle.endFence, h.fenced, hrun]
      simp
    fencedAfter := fun _ => h.fencedAfter (by rw [hrun]; simp)
    settled := fun _ => rfl
    enders := fun e => (h.enders e).frame rfl rfl id id fun _ => rfl }

/-- What a thread of the cycle that takes `fenceMu` finds, and what one that holds it knows. -/
structure Locked (fenceMu : Option Fencer) (pending : Bool) (c : LeadershipCycle) : Prop where
  skips : fenceMu = none → c.reloadDone = true → c.skips pending = true → c.planeEnd.settled = true
  callback : c.callback.phase.fences = true → c.planeEnd = .fencing
  ender : ∀ e, (c.enders e).phase = .fencing → c.planeEnd = .fencing

variable {fenceMu : Option Fencer}

theorem fenced_of_not_skips (h : ¬ c.skips pending = true) : c.fenced = false := by
  cases hf : c.fenced with
  | false => rfl
  | true => simp [LeadershipCycle.skips, hf] at h

theorem next_fence_skips (hskip : c.skips pending = true) :
    c.next d ctx pending (.callback .fence) = c.goto (fencePhases c.callback.phase).1 := by
  simp [next, nextCallback, hskip]

theorem next_fence (hskip : ¬ c.skips pending = true) : c.next d ctx pending (.callback .fence) =
    c.beginFence.goto (fencePhases c.callback.phase).2 := by
  simp [next, nextCallback, hskip]

theorem next_keep_fenced (hf : c.fenced = true) : c.next d ctx pending (.callback .keep) =
    c.goto .closingTeardown := by
  simp [next, nextCallback, hf]

theorem next_keep (hf : ¬ c.fenced = true) : c.next d ctx pending (.callback .keep) =
    { c.goto .closingTeardown with fenced := true, planeEnd := .handed } := by
  simp [next, nextCallback, hf]

theorem next_ender_fence_skips (hskip : c.skips pending = true) :
    c.next d ctx pending (.ender e .fence) = c.move e .settling := by
  simp [next, nextEnd, hskip]

theorem next_ender_fence (hskip : ¬ c.skips pending = true) :
    c.next d ctx pending (.ender e .fence) = c.beginFence.move e .fencing := by
  simp [next, nextEnd, hskip]

theorem Sound.fenceCallback (h : c.Sound d) (hl : c.Locked fenceMu pending)
    (ha : c.EnabledCallback fenceMu .fence) : (c.nextCallback d ctx pending .fence).Sound d := by
  obtain ⟨hp, hnone⟩ := ha
  have hrel : c.reloadDone = true := by
    rw [h.reloadDone]
    rcases hp with hp | hp <;> rw [hp] <;> rfl
  simp only [nextCallback]
  split_ifs with hskip
  · have hset := hl.skips hnone hrel hskip
    rcases hp with hp | hp <;> rw [hp]
    · exact h.goto hp rfl (by simp [fencePhases]) rfl rfl fun _ => hset
    · exact h.goto hp rfl (by simp [fencePhases]) rfl rfl fun _ => hset
  · have hbegun := h.beginFence hrel (fenced_of_not_skips hskip)
    rcases hp with hp | hp <;> rw [hp]
    · exact hbegun.goto hp rfl (by simp [fencePhases]) rfl rfl
        (by simp [fencePhases, CallbackPhase.decided])
    · exact hbegun.goto hp rfl (by simp [fencePhases]) rfl rfl
        (by simp [fencePhases, CallbackPhase.decided])

theorem Sound.fenceDoneCallback (h : c.Sound d) (hl : c.Locked fenceMu pending)
    (ha : c.EnabledCallback fenceMu .fenceDone) :
    (c.nextCallback d ctx pending .fenceDone).Sound d := by
  have hp : c.callback.phase = .failFencing ∨ c.callback.phase = .fencing := ha
  have hended : c.endFence.Sound d :=
    h.endFence (hl.callback (by rcases hp with hp | hp <;> rw [hp] <;> rfl))
  simp only [nextCallback]
  split_ifs with hfail
  · exact hended.goto hfail rfl (by simp) rfl rfl fun _ => rfl
  · exact hended.goto (hp.resolve_left hfail) rfl (by simp) rfl rfl fun _ => rfl

theorem Sound.lead (h : c.Sound d) (hp : c.callback.phase = .registering) :
    (c.nextCallback d ctx pending .lead).Sound d := by
  have hactive : c.callback.phase.active = true := by rw [hp]; rfl
  have hrel : c.reloadDone = false := by rw [h.reloadDone, hp]; rfl
  have hstands := h.standing_of_running (by rw [hp]; rfl)
  refine h.advance hactive rfl rfl rfl (by simp [nextCallback, LeadershipCycle.goto]) rfl
    (fun _ => rfl) hrel id (fun hdone => absurd hdone (h.not_done hactive)) h.fenced
      h.fencedAfter ?_ id
  simp [nextCallback, LeadershipCycle.goto, CallbackPhase.decided]

theorem Sound.closeReload (h : c.Sound d) (hp : c.callback.phase = .closingReload) :
    (c.nextCallback d ctx pending .closeReload).Sound d := by
  have hactive : c.callback.phase.active = true := by rw [hp]; rfl
  have hreg : c.registered = true := by rw [h.registered, hp]; rfl
  refine h.advance hactive rfl rfl rfl (by simp [nextCallback, LeadershipCycle.goto]) hreg id rfl
    (fun _ => rfl) (fun hdone => absurd hdone (h.not_done hactive)) h.fenced (fun _ => rfl) ?_ id
  simp [nextCallback, LeadershipCycle.goto, CallbackPhase.decided]

theorem Sound.closeDone (h : c.Sound d) (hp : c.callback.phase = .closingDone) :
    (c.nextCallback d ctx pending .closeDone).Sound d := by
  have hactive : c.callback.phase.active = true := by rw [hp]; rfl
  have hreg : c.registered = true := by rw [h.registered, hp]; rfl
  have hrel : c.reloadDone = true := by rw [h.reloadDone, hp]; rfl
  exact h.advance hactive rfl rfl rfl (by simp [nextCallback, LeadershipCycle.goto]) hreg id hrel id
    (fun _ => rfl) h.fenced h.fencedAfter (fun _ => h.settled (.inl (by rw [hp]; rfl))) id

/-- `keep` settles the data plane: here, or it was fenced before. -/
theorem Sound.keep (h : c.Sound d) (hl : c.Locked fenceMu pending)
    (ha : c.EnabledCallback fenceMu .keep) : (c.nextCallback d ctx pending .keep).Sound d := by
  obtain ⟨hp, hnone⟩ := ha
  have hactive : c.callback.phase.active = true := by rw [hp]; rfl
  have hreg : c.registered = true := by rw [h.registered, hp]; rfl
  have hrel : c.reloadDone = true := by rw [h.reloadDone, hp]; rfl
  simp only [nextCallback]
  split_ifs with hf
  · have hset := hl.skips hnone hrel (by simp [LeadershipCycle.skips, hf])
    exact h.goto hp rfl (by simp) rfl rfl fun _ => hset
  · exact h.advance hactive rfl rfl rfl (by simp [LeadershipCycle.goto]) hreg id hrel id
      (fun hdone => absurd hdone (h.not_done hactive)) (by simp) (fun _ => hrel) (fun _ => rfl)
      fun _ => rfl

/-- **A step of the callback.** -/
theorem Sound.callback (h : c.Sound d) (hl : c.Locked fenceMu pending) {a : CallbackStep}
    (ha : c.EnabledCallback fenceMu a) : (c.nextCallback d ctx pending a).Sound d := by
  cases a with
  | claim | reload failed => exact h.pass ha.1 rfl
  | startLeading | setLeader | readTerm term | readOuter | readGroup => exact h.pass ha rfl
  | lead => exact h.lead ha
  | closeReload => exact h.closeReload ha
  | askLeader =>
    simp only [nextCallback]
    split_ifs
    · exact h.pass ha rfl
    · exact h.pass ha rfl
  | askStopped =>
    simp only [nextCallback]
    split_ifs
    · exact h.pass ha rfl
    · have herr : Sound d { c with cycleErr := true } := h.aside
      exact herr.pass ha rfl
  | fence => exact h.fenceCallback hl ha
  | fenceDone => exact h.fenceDoneCallback hl ha
  | cancel =>
    have hmoved : (c.goto .readingOuter).Sound d := h.pass ha rfl
    exact hmoved.aside
  | loadStepped =>
    simp only [nextCallback]
    split_ifs
    · exact h.weigh ha rfl rfl rfl (by simp [CallbackPhase.decided]) true
    · exact h.pass ha rfl
  | loadStopped => exact h.weigh ha rfl rfl rfl (by simp [CallbackPhase.decided]) c.ended
  | readHolder read => exact h.decide ha rfl rfl rfl read
  | keep => exact h.keep hl ha
  | clear =>
    have hp : c.callback.phase = .clearing := ha
    exact h.goto ha rfl (by simp) rfl rfl fun _ => h.settled (.inl (by rw [hp]; rfl))
  | closeTeardown =>
    have hp : c.callback.phase = .closingTeardown := ha
    have hmoved : (c.goto .demoting).Sound d :=
      h.goto ha rfl (by simp) rfl rfl fun _ => h.settled (.inl (by rw [hp]; rfl))
    exact hmoved.aside
  | unsetLeader =>
    have hp : c.callback.phase = .demoting := ha
    exact h.goto ha rfl (by simp) rfl rfl fun _ => h.settled (.inl (by rw [hp]; rfl))
  | closeDone => exact h.closeDone ha

/-! ### `endCycle` -/

/-- A call of `endCycle` moves on. -/
theorem Sound.redirect (h : c.Sound d) {m : EndCall}
    (hm : EndSound { c with enders := update c.enders e m } e) :
    Sound d { c with enders := update c.enders e m } where
  lock := h.lock
  quiet := h.quiet
  unlaunched := h.unlaunched
  leading := h.leading
  idle := h.idle
  registered := h.registered
  reloadDone := h.reloadDone
  done := h.done
  fenced := h.fenced
  fencedAfter := h.fencedAfter
  settled := h.settled
  enders e' := by
    by_cases he : e' = e
    · subst he
      exact hm
    · exact (h.enders e').frame (update_of_ne he _ _) rfl id id id

/-- What the call must know in the phase it moves to, if it did not time out. -/
theorem Sound.move (h : c.Sound d) {p : EnderPhase}
    (hleft : p.left = true → (c.enders e).timedOut = false → c.lock.leaves e = .returned true)
    (htaking : p = .taking → (c.enders e).timedOut = false → c.registered = true)
    (hdrained : p.drained = true → c.reloadDone = true)
    (hsettling : p = .settling → c.planeEnd.settled = true)
    (hends : p.ends = true → (c.enders e).timedOut = false →
      c.lock.lock.acquired = false ∨ c.planeEnd.settled = true) : (c.move e p).Sound d := by
  refine h.redirect ?_
  constructor <;> simp only [update_self]
  · exact hleft
  · exact htaking
  · exact hdrained
  · exact hsettling
  · exact hends

theorem Sound.wait (h : c.Sound d) {p : EnderPhase} (hp : p.waits = true)
    (hleft : p.left = true → (c.enders e).timedOut = false → c.lock.leaves e = .returned true) :
    (c.move e p).Sound d := by
  refine h.move hleft ?_ ?_ ?_ ?_ <;> intro hnot <;> cases p <;>
    first | (cases hnot; done) | cases hp

/-- After a timeout the call knows only that the loop has returned, if it waited for it. -/
theorem Sound.expire (h : c.Sound d) {p : EnderPhase} (hdrained : p.drained = false)
    (hsettling : p ≠ .settling) : (c.expire e p).Sound d := by
  refine h.redirect ?_
  constructor <;> simp [hdrained, hsettling]

/-- `leave` returned true, and the call has gone past it. -/
theorem EndSound.left_of (h : c.EndSound e) {p : EnderPhase} (hp : (c.enders e).phase = p)
    (hleft : p.left = true) : (c.enders e).timedOut = false → c.lock.leaves e = .returned true := by
  subst hp
  exact h.left hleft

/-- **A step of `endCycle`.** -/
theorem Sound.ender (h : c.Sound d) (hl : c.Locked fenceMu pending) {a : EndStep}
    (ha : c.EnabledEnd d ctx fenceMu e a) : (c.nextEnd pending e a).Sound d := by
  have he := h.enders e
  cases a with
  | call =>
    have hmoved : (c.move e .marking).Sound d := h.wait rfl fun hleft => (nomatch hleft)
    exact hmoved.aside
  | mark =>
    have hmoved : (c.move e .leaving).Sound d := h.wait rfl fun hleft => (nomatch hleft)
    exact hmoved.aside
  | left =>
    simp only [nextEnd]
    split_ifs with hleaves
    · exact h.wait rfl fun _ _ => hleaves
    · exact h.expire rfl (by simp)
  | ask =>
    have hleft := he.left_of ha rfl
    simp only [nextEnd]
    split_ifs with hacq
    · exact h.wait rfl fun _ => hleft
    · exact h.move (fun _ => hleft) (by simp) (by simp [EnderPhase.drained]) (by simp)
        fun _ _ => .inl (Bool.eq_false_of_not_eq_true hacq)
  | await =>
    obtain ⟨hp, hreg⟩ := ha
    exact h.move (fun _ => he.left_of hp rfl) (fun _ _ => hreg) (by simp [EnderPhase.drained])
      (by simp) (by simp [EnderPhase.ends])
  | expire => exact h.expire rfl (by simp)
  | take =>
    have hp : (c.enders e).phase = .taking := ha
    have hleft := he.left_of hp rfl
    simp only [nextEnd]
    split_ifs with hreg
    · have hmoved : (c.move e .draining).Sound d := h.wait rfl fun _ => hleft
      exact hmoved.aside
    · exact h.move (fun _ => hleft) (by simp) (by simp [EnderPhase.drained]) (by simp)
        fun _ htime => absurd (he.taking hp htime) hreg
  | drained =>
    obtain ⟨hp, hrel⟩ := ha
    exact h.move (fun _ => he.left_of hp rfl) (by simp) (fun _ => hrel) (by simp)
      (by simp [EnderPhase.ends])
  | fence =>
    obtain ⟨hp, hnone⟩ := ha
    have hleft := he.left_of hp rfl
    have hrel := he.drained (by rw [hp]; rfl)
    simp only [nextEnd]
    split_ifs with hskip
    · exact h.move (fun _ => hleft) (by simp) (by simp [EnderPhase.drained])
        (fun _ => hl.skips hnone hrel hskip) (by simp [EnderPhase.ends])
    · exact (h.beginFence hrel (fenced_of_not_skips hskip)).move (fun _ => hleft) (by simp)
        (fun _ => hrel) (by simp) (by simp [EnderPhase.ends])
  | fenceDone =>
    have hp : (c.enders e).phase = .fencing := ha
    exact (h.endFence (hl.ender e hp)).move (fun _ => he.left_of hp rfl) (by simp)
      (by simp [EnderPhase.drained]) (fun _ => rfl) (by simp [EnderPhase.ends])
  | settle =>
    obtain ⟨hp, -⟩ := ha
    exact h.move (fun _ => he.left_of hp rfl) (by simp) (by simp [EnderPhase.drained]) (by simp)
      fun _ _ => .inr (he.settling hp)
  | cancel =>
    have hp : (c.enders e).phase = .cancelling := ha
    have hmoved : (c.move e .returned).Sound d :=
      h.move (fun _ => he.left_of hp rfl) (by simp) (by simp [EnderPhase.drained]) (by simp)
        fun _ => he.ends (by rw [hp]; rfl)
    exact hmoved.aside

/-! ### The elector and the lock -/

theorem Sound.elector (h : c.Sound d) {a : ElectorStep} (ha : c.EnabledElector a) :
    (c.nextElector a).Sound d := by
  obtain ⟨hrest, ha⟩ := ha
  cases a with
  | win =>
    obtain ⟨hacquiring, hacq⟩ := ha
    have hidle : c.callback.phase = .idle := h.idle.mpr (by simp [hacquiring])
    have hrel : c.reloadDone = false := by rw [h.reloadDone, hidle]; rfl
    have hnot := h.standing_of_running (by rw [hidle]; rfl)
    exact
      { lock := h.lock
        quiet := fun hr => (nomatch hr)
        unlaunched := fun hi => (nomatch hi)
        leading := fun _ => hacq
        idle := by simp [nextElector, LeadershipCycle.goto]
        registered := by
          show c.registered = _
          rw [h.registered, hidle]
          rfl
        reloadDone := hrel
        done := fun hdone => by
          have := h.done hdone
          rw [hidle] at this
          cases this
        fenced := h.fenced
        fencedAfter := h.fencedAfter
        settled := by simp [nextElector, LeadershipCycle.goto, CallbackPhase.decided]
        enders := fun e => (h.enders e).frame rfl rfl id id id }
  | lose =>
    obtain ⟨hacquiring, hacq, -⟩ := ha
    have hidle : c.callback.phase = .idle := h.idle.mpr (by simp [hacquiring])
    exact { h with
      quiet := fun _ => hrest
      unlaunched := fun hi => (nomatch hi)
      leading := fun hl => (nomatch hl)
      idle := by simp [nextElector, hidle, hacq]
      enders := fun e => (h.enders e).frame rfl rfl id id id }
  | stop =>
    have hleading : c.elector = .leading := ha
    have hacq := h.leading hleading
    have hidle : c.callback.phase ≠ .idle := fun hp => (h.idle.mp hp).1 hleading
    exact { h with
      quiet := fun _ => hrest
      unlaunched := fun hi => (nomatch hi)
      leading := fun hl => (nomatch hl)
      idle := by simp [nextElector, hidle, hacq]
      enders := fun e => (h.enders e).frame rfl rfl id id id }

/-- A write at rest is moved by a new write only, which the elector makes while it runs. -/
theorem EnabledLock.resting {a : LockStep Unit Ender} (ha : c.EnabledLock a)
    (hrun : c.elector.running = false) (hrest : (c.lock.writes ()).phase.resting = true) :
    ((c.lock.next d.podName a).writes ()).phase.resting = true ∧
      (c.lock.next d.podName a).lock.acquired = c.lock.lock.acquired := by
  obtain ⟨hen, hwho⟩ := ha
  have hbusy : ∀ {p : WritePhase}, (c.lock.writes ()).phase = p → p.resting = true := by
    rintro p rfl
    exact hrest
  cases a with
  | start i holder =>
    rw [hrun] at hwho
    cases hwho
  | check i | enter i | send i | done i => cases hbusy hen
  | answer i ok => rcases hen with hp | ⟨hp, -⟩ <;> cases hbusy hp
  | observe i =>
    obtain ⟨ok, hp⟩ := hen
    cases hbusy hp
  | leave e | drain e | finish e | timeout e => exact ⟨hrest, rfl⟩

/-- What a call of `endCycle` learned from `leave` lasts. -/
theorem EndSound.lock (h : c.EndSound e) (hc : c.Sound d) {a : LockStep Unit Ender}
    (ha : c.EnabledLock a) : EndSound { c with lock := c.lock.next d.podName a } e where
  left hp ht := LockState.next_leaves_returned (h.left hp ht) ha.1
  taking := h.taking
  drained := h.drained
  settling := h.settling
  ends hp ht := by
    have hleft : (c.enders e).phase.left = true := by
      cases hphase : (c.enders e).phase <;> rw [hphase] at hp <;> first | rfl | cases hp
    rw [hc.lock.next_left (h.left hleft ht) a]
    exact h.ends hp ht

theorem Sound.lockStep (h : c.Sound d) {a : LockStep Unit Ender} (ha : c.EnabledLock a) :
    Sound d { c with lock := c.lock.next d.podName a } :=
  { h with
    lock := h.lock.step ha.1
    quiet := fun hrun => (ha.resting hrun (h.quiet hrun)).1
    unlaunched := fun hi => by
      have hrun : c.elector.running = false := by rw [hi]; rfl
      rw [(ha.resting hrun (h.quiet hrun)).2, h.unlaunched hi]
    leading := fun hl => LockState.next_acquired_of (h.leading hl) a
    idle := by
      rw [h.idle]
      cases hel : c.elector with
      | idle | acquiring | leading => simp
      | returned =>
        have hrun : c.elector.running = false := by rw [hel]; rfl
        rw [(ha.resting (d := d) hrun (h.quiet hrun)).2]
    enders := fun e => (h.enders e).lock h ha }

/-- **A step of the cycle.** -/
theorem Sound.step (h : c.Sound d) (hl : c.Locked fenceMu pending) (ha : c.Enabled d ctx fenceMu a)
    : (c.next d ctx pending a).Sound d := by
  cases a with
  | lock a => exact h.lockStep ha
  | elector a => exact h.elector ha
  | callback a => exact h.callback hl ha
  | ender e a => exact h.ender hl ha

/-! ### What a step leaves alone -/

/-- The steps that look for the reason of the end. -/
def weighs : CallbackStep → Bool
  | .loadStepped | .loadStopped | .readHolder _ => true
  | _ => false

/-- They move the callback, and nothing else. -/
theorem nextCallback_weighs (d : ElectionDeps) (ctx : Contexts) (pending : Bool)
    (c : LeadershipCycle) {a : CallbackStep} (ha : weighs a = true) :
    ∃ b, c.nextCallback d ctx pending a = { c with callback := b } ∧ b.phase.weighing = true := by
  have hdecide : ∀ (b : Callback) read, ∃ b', decide d { c with callback := b } read =
      { c with callback := b' } ∧ b'.phase.weighing = true := by
    intro b read
    unfold LeadershipCycle.decide
    split_ifs <;> exact ⟨_, rfl, rfl⟩
  have hweigh : ∀ stepped, ∃ b, c.weigh d stepped = { c with callback := b } ∧
      b.phase.weighing = true := by
    intro stepped
    unfold LeadershipCycle.weigh
    simp only
    split_ifs
    · exact hdecide _ none
    · exact ⟨_, rfl, rfl⟩
  cases a with
  | loadStepped =>
    simp only [nextCallback]
    split_ifs
    · exact hweigh true
    · exact ⟨_, rfl, rfl⟩
  | loadStopped => exact hweigh c.ended
  | readHolder read => exact hdecide c.callback read
  | _ => cases ha

theorem EnabledCallback.active {a : CallbackStep} (ha : c.EnabledCallback fenceMu a) :
    c.callback.phase.active = true := by
  have hof : ∀ {p : CallbackPhase}, c.callback.phase = p → p.active = true →
      c.callback.phase.active = true := fun hp h => hp ▸ h
  cases a with
  | claim | reload failed | keep => exact hof ha.1 rfl
  | fence => rcases ha.1 with hp | hp <;> exact hof hp rfl
  | fenceDone => rcases ha with hp | hp <;> exact hof hp rfl
  | _ => exact hof ha rfl

/-- What a step of `endCycle` leaves alone. -/
theorem nextEnd_frame (a : EndStep) :
    (c.nextEnd pending e a).lock = c.lock ∧ (c.nextEnd pending e a).elector = c.elector ∧
      (c.nextEnd pending e a).callback = c.callback := by
  cases a <;> first
    | exact ⟨rfl, rfl, rfl⟩
    | (simp only [nextEnd]; split_ifs <;> exact ⟨rfl, rfl, rfl⟩)

theorem nextEnd_enders_of_ne {e' : Ender} (he : e' ≠ e) (a : EndStep) :
    (c.nextEnd pending e a).enders e' = c.enders e' := by
  cases a <;> first
    | exact update_of_ne he _ _
    | (simp only [nextEnd]; split_ifs <;> exact update_of_ne he _ _)

/-- What a step of the callback leaves alone. -/
theorem nextCallback_frame (a : CallbackStep) :
    (c.nextCallback d ctx pending a).lock = c.lock ∧
      (c.nextCallback d ctx pending a).elector = c.elector ∧
      (c.nextCallback d ctx pending a).enders = c.enders := by
  have hweighs : weighs a = true → _ := nextCallback_weighs d ctx pending c
  cases a with
  | loadStepped | loadStopped | readHolder read =>
    obtain ⟨b, hb, -⟩ := hweighs rfl
    rw [hb]
    exact ⟨rfl, rfl, rfl⟩
  | askLeader | askStopped | fence | fenceDone
  | keep => simp only [nextCallback]; split_ifs <;> exact ⟨rfl, rfl, rfl⟩
  | _ => exact ⟨rfl, rfl, rfl⟩

/-- A plain step of the callback: the data plane and the claim are left alone, no fence begins, and
the callback is past its decision only if it was. -/
theorem nextCallback_plain (d : ElectionDeps) (ctx : Contexts) (pending : Bool) {a : CallbackStep}
    (hplain : (CycleStep.callback a).plain = true)
    (ha : c.EnabledCallback fenceMu a) :
    let c' := c.nextCallback d ctx pending a
    (c'.planeEnd = c.planeEnd ∧ c'.callback.phase.fences = false ∧
      (c'.callback.phase.undecided = true → c.callback.phase.undecided = true)) ∧
    c'.callback.phase.claimed = c.callback.phase.claimed ∧ c'.fenced = c.fenced := by
  have hof : ∀ {p : CallbackPhase}, c.callback.phase = p → p.claimed = true →
      true = c.callback.phase.claimed := fun hp h => by rw [hp, h]
  have hund : ∀ {p : CallbackPhase}, c.callback.phase = p → p.undecided = true →
      c.callback.phase.undecided = true := fun hp h => hp ▸ h
  have hweighs : weighs a = true → _ := nextCallback_weighs d ctx pending c
  cases a with
  | claim | fence | fenceDone | keep => cases hplain
  | reload failed => exact ⟨⟨rfl, rfl, fun _ => hund ha.1 rfl⟩, hof ha.1 rfl, rfl⟩
  | askLeader | askStopped =>
    simp only [nextCallback]
    split_ifs <;> exact ⟨⟨rfl, rfl, fun _ => hund ha rfl⟩, hof ha rfl, rfl⟩
  | loadStepped | loadStopped | readHolder read =>
    obtain ⟨b, hb, hphase⟩ := hweighs rfl
    obtain ⟨hfences, hclaimed⟩ := CallbackPhase.of_weighing hphase
    simp only [hb]
    exact ⟨⟨trivial, hfences, fun _ => hund ha rfl⟩, hclaimed.trans (hof ha rfl), trivial⟩
  | clear | closeTeardown | unsetLeader | closeDone =>
    exact ⟨⟨rfl, rfl, fun hu => (nomatch hu)⟩, hof ha rfl, rfl⟩
  | _ => exact ⟨⟨rfl, rfl, fun _ => hund ha rfl⟩, hof ha rfl, rfl⟩

/-- A plain step of `endCycle`. -/
theorem nextEnd_plain (c : LeadershipCycle) (pending : Bool) {a : EndStep}
    (hplain : (CycleStep.ender e a).plain = true) :
    (c.nextEnd pending e a).planeEnd = c.planeEnd ∧
      ((c.nextEnd pending e a).enders e).phase ≠ .fencing := by
  cases a with
  | fence | fenceDone => cases hplain
  | left => simp only [nextEnd]; split_ifs <;> simp [LeadershipCycle.move, LeadershipCycle.expire]
  | ask | take => simp only [nextEnd]; split_ifs <;> simp [LeadershipCycle.move]
  | expire => simp [nextEnd, LeadershipCycle.expire]
  | _ => simp [nextEnd, LeadershipCycle.move]

/-- **A plain step of a cycle**, as far as the fences are concerned. -/
theorem next_plain (pending : Bool) (hplain : a.plain = true) (ha : c.Enabled d ctx fenceMu a) :
    (c.next d ctx pending a).planeEnd = c.planeEnd ∧
      ((c.next d ctx pending a).callback.phase.fences = true → c.callback.phase.fences = true) ∧
      (∀ e, ((c.next d ctx pending a).enders e).phase = .fencing → (c.enders e).phase = .fencing) ∧
      ((c.next d ctx pending a).callback.phase.undecided = true →
        c.callback.phase.undecided = true) := by
  cases a with
  | lock a => exact ⟨rfl, id, fun _ => id, id⟩
  | elector a =>
    cases a with
    | win => exact ⟨rfl, fun h => (nomatch h), fun _ => id, fun h => (nomatch h)⟩
    | lose | stop => exact ⟨rfl, id, fun _ => id, id⟩
  | callback a =>
    obtain ⟨⟨hplane, hfences, hund⟩, -⟩ := nextCallback_plain d ctx pending hplain ha
    refine ⟨hplane, fun hf => ?_, fun e he => ?_, hund⟩
    · rw [LeadershipCycle.next, hfences] at hf
      cases hf
    · rw [LeadershipCycle.next, (nextCallback_frame a).2.2] at he
      exact he
  | ender e a =>
    obtain ⟨hplane, hphase⟩ := nextEnd_plain c pending hplain
    refine ⟨hplane, ?_, fun e' he' => ?_, ?_⟩
    · rw [LeadershipCycle.next, (nextEnd_frame a).2.2]
      exact id
    · by_cases he : e' = e
      · subst he
        exact absurd he' hphase
      · rw [LeadershipCycle.next, nextEnd_enders_of_ne he] at he'
        exact he'
    · rw [LeadershipCycle.next, (nextEnd_frame a).2.2]
      exact id

/-- A callback is under way only if it was, or if the elector is running. -/
theorem next_active (ha : c.Enabled d ctx fenceMu a)
    (hact : (c.next d ctx pending a).callback.phase.active = true) :
    c.callback.phase.active = true ∨ c.elector.running = true := by
  cases a with
  | lock a => exact .inl hact
  | elector a =>
    cases a with
    | win =>
      obtain ⟨-, hel, -⟩ := ha
      exact .inr (by rw [hel]; rfl)
    | lose | stop => exact .inl hact
  | callback a => exact .inl (EnabledCallback.active ha)
  | ender e a =>
    rw [LeadershipCycle.next, (nextEnd_frame a).2.2] at hact
    exact .inl hact

/-- The elector moves only while it runs. -/
theorem next_elector (ha : c.Enabled d ctx fenceMu a) :
    (c.next d ctx pending a).elector = c.elector ∨ c.elector.running = true := by
  cases a with
  | lock a => exact .inl rfl
  | elector a =>
    obtain ⟨-, ha⟩ := ha
    cases a with
    | win | lose => exact .inr (by rw [ha.1]; rfl)
    | stop => exact .inr (by rw [show c.elector = .leading from ha]; rfl)
  | callback a => exact .inl (nextCallback_frame a).2.1
  | ender e a => exact .inl (nextEnd_frame a).2.1

/-- The step moves no data plane from one owner to another, and begins no fence. -/
def transfersNone : CycleStep → Bool
  | .callback .claim | .callback .fence | .callback .keep | .ender _ .fence => false
  | _ => true

/-- A step that moves no data plane leaves the claim and `fenced` alone. -/
theorem next_claimed_fenced (pending : Bool) (hnone : transfersNone a = true)
    (ha : c.Enabled d ctx fenceMu a) (hidle : c.elector = .acquiring → c.callback.phase = .idle) :
    (c.next d ctx pending a).callback.phase.claimed = c.callback.phase.claimed ∧
      (c.next d ctx pending a).fenced = c.fenced := by
  cases a with
  | lock a => exact ⟨rfl, rfl⟩
  | elector a =>
    cases a with
    | win =>
      obtain ⟨-, hel, -⟩ := ha
      exact ⟨by rw [hidle hel]; rfl, rfl⟩
    | lose | stop => exact ⟨rfl, rfl⟩
  | callback a =>
    have ha : c.EnabledCallback fenceMu a := ha
    cases a with
    | claim | fence | keep => cases hnone
    | fenceDone =>
      simp only [next, nextCallback]
      split_ifs <;> rcases ha with hp | hp <;> exact ⟨by rw [hp]; rfl, rfl⟩
    | _ => exact (nextCallback_plain d ctx pending rfl ha).2
  | ender e a =>
    refine ⟨by rw [LeadershipCycle.next, (nextEnd_frame a).2.2], ?_⟩
    cases a with
    | fence => cases hnone
    | left | ask | take => simp only [next, nextEnd]; split_ifs <;> rfl
    | _ => rfl

end LeadershipCycle

end WireguardGateway.Link

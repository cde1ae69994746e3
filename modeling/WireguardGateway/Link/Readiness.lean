import WireguardGateway.Link.Leadership

/-!
# Readiness across terms

`readiness` (`internal/link/readiness.go`) says whether the holder's tunnel is up. The leadership
callback writes it: `setLeader` clears the last pass and then stores the flag, at the beginning and
at the end of the callback, and `setPass` records every pass of the reload loop, `applied` last. The
elector reads it while it writes the Lease: the closure of `Run` (`internal/link/link.go:69-75`)
asks for the flag first and for the pass after it, without a lock around the two.

`Contender` is the election of `Link/Election.lean` with these fields, cut at the same accesses:
`setPass` stores `applied` in a step of its own, and the closure takes three steps. A call of the
closure belongs to a write that `begin` admitted and that has not reached the API yet.

Results:
* **`Contender.Sound.step`** with its clause `stamped`: whenever the closure has answered that the
  tunnel is ready, the callback of the *same* cycle has completed an apply without an error.

`completed` is bookkeeping. The slots, the keepalive interval and what `wg show` answers decide
whether a handshake is fresh: `fresh` is an argument of the step that asks. Faults are left out; the
closure does not read them.
-/

namespace WireguardGateway.Link

open Function Lib

/-! ## The process -/

def bodyNoHandshake : String := "no recent handshake"

def bodyNoPeers : String := "no peers configured"

def notLeader : String := "not leader"

/-- `tunnelStatus` after it has read `applied` as true; `fresh` is `anyFreshSlot` in Local mode and
`freshClusterInterface` in Cluster mode. -/
def tunnelStatus (isLocal : Bool) (peers : Nat) (fresh : Bool) : Bool × String :=
  if isLocal then
    if peers == 0 || fresh then (true, "") else (false, bodyNoHandshake)
  else if peers == 0 then (false, bodyNoPeers)
  else if fresh then (true, "")
  else (false, bodyNoHandshake)

/-- Where the callback is in `setPass` and in `setLeader`. -/
inductive PassPhase
  | idle
  /-- `setPass` after a pass of the reload loop is about to store `applied`. -/
  | storing (applied : Bool)
  /-- `setPass` in `setLeader` is about to store `applied`. -/
  | clearing
  /-- `setLeader` is about to store the flag. -/
  | cleared
  deriving DecidableEq, Repr

/-- Where the closure of `Run` is. -/
inductive SamplePhase
  | idle
  /-- `isLeader`. -/
  | askingLeader
  /-- `tunnelStatus` is about to load `applied`. -/
  | askingApplied
  | askingTunnel
  | answered (ready : Bool) (reason : String)
  deriving DecidableEq, Repr

/-- What the closure has seen or answered needs a pass that applied. -/
def SamplePhase.claims : SamplePhase → Bool
  | .askingTunnel | .answered true _ => true
  | _ => false

/-- A replica's process: its election and its readiness, whose flag `leader` is
part of the election. -/
structure Contender where
  election : Election
  applied : Bool := false
  peers : Nat := 0
  pass : PassPhase := .idle
  sample : SamplePhase := .idle
  /-- *Bookkeeping*: the cycles whose callback has completed an apply without an error. -/
  completed : Nat → Bool := fun _ => false

/-- The steps of a process. -/
inductive ContenderStep
  | election (a : ElectionStep)
  /-- The reload loop of the cycle `k` has completed a pass; `setPass` stores all but `applied`. -/
  | pass (k : Nat) (peers : Nat) (applied : Bool)
  /-- `setLeader`, in the callback of the cycle `k`, clears all but `applied`. -/
  | clear (k : Nat)
  /-- `setPass` stores `applied`. -/
  | passed
  /-- The Lease lock calls the closure. -/
  | sample
  | askLeader
  | askApplied
  | askTunnel (fresh : Bool)
  deriving DecidableEq, Repr

namespace Contender

/-- The write of the elector, in the cycle created last. -/
def write (s : Contender) : LockWrite := s.election.last.lock.writes ()

/-- What a step of the election waits for: the elector names its own replica or nobody, it calls the
API with what the closure answered, and the callback goes on when it is through with `setPass`. -/
def Allows (d : ElectionDeps) (s : Contender) : ElectionStep → Prop
  | .cycle _ (.lock (.start _ holder)) => holder = d.podName ∨ holder = ""
  | .cycle _ (.lock (.send _)) => ∃ ready reason, s.sample = .answered ready reason
  | .cycle _ (.lock (.answer _ _)) => s.sample = .idle
  | .cycle _ (.callback .setLeader) | .cycle _ (.callback .unsetLeader) => s.pass = .cleared
  | .cycle _ (.callback _) => s.pass = .idle
  | _ => True

def Enabled (d : ElectionDeps) (s : Contender) : ContenderStep → Prop
  | .election a => s.election.Enabled d a ∧ s.Allows d a
  | .pass k _ _ => (s.election.cycles k).callback.phase = .reloading ∧ s.pass = .idle
  | .clear k =>
    ((s.election.cycles k).callback.phase = .promoting ∨
      (s.election.cycles k).callback.phase = .demoting) ∧ s.pass = .idle
  | .passed => s.pass ≠ .idle ∧ s.pass ≠ .cleared
  | .sample => s.write.phase = .admitted ∧ s.sample = .idle
  | .askLeader => s.sample = .askingLeader
  | .askApplied => s.sample = .askingApplied
  | .askTunnel _ => s.sample = .askingTunnel

/-- What a step of the election does to the two threads beside it. -/
def beside (s : Contender) : ElectionStep → Contender
  | .cycle _ (.lock (.send _)) => { s with sample := .idle }
  | .cycle _ (.callback .setLeader) | .cycle _ (.callback .unsetLeader) => { s with pass := .idle }
  | _ => s

/-- `setPass` stores `applied`. -/
def storeApplied (s : Contender) : Contender :=
  match s.pass with
  | .storing applied => { s with applied := applied, pass := .idle }
  | .clearing => { s with applied := false, pass := .cleared }
  | _ => s

def next (d : ElectionDeps) (s : Contender) : ContenderStep → Contender
  | .election a => { s.beside a with election := s.election.next d a }
  | .pass k peers applied =>
    { s with
      peers := peers
      pass := .storing applied
      completed := update s.completed k (s.completed k || applied) }
  | .clear _ => { s with peers := 0, pass := .clearing }
  | .passed => s.storeApplied
  | .sample => { s with sample := .askingLeader }
  | .askLeader =>
    { s with sample := if s.election.leader then .askingApplied else .answered false notLeader }
  | .askApplied =>
    { s with sample := if s.applied then .askingTunnel else .answered false bodyNoHandshake }
  | .askTunnel fresh =>
    { s with
      sample := .answered (tunnelStatus d.watching s.peers fresh).1
        (tunnelStatus d.watching s.peers fresh).2 }

/-- The process as `Run` starts it. -/
def start (d : ElectionDeps) : Contender := { election := .start d }

instance (d : ElectionDeps) (s : Contender) : (a : ElectionStep) → Decidable (s.Allows d a)
  | .cycle _ (.lock a) =>
    match a with
    | .start _ _ => inferInstanceAs (Decidable (_ ∨ _))
    | .send _ =>
      match h : s.sample with
      | .answered ready reason => .isTrue ⟨ready, reason, h⟩
      | .idle | .askingLeader | .askingApplied | .askingTunnel =>
        .isFalse fun ⟨_, _, h'⟩ => SamplePhase.noConfusion (h.symm.trans h')
    | .answer _ _ => inferInstanceAs (Decidable (_ = _))
    | .check _ | .enter _ | .observe _ | .done _ | .leave _ | .drain _ | .finish _ | .timeout _ =>
      .isTrue trivial
  | .cycle _ (.callback a) =>
    match a with
    | .setLeader | .unsetLeader => inferInstanceAs (Decidable (_ = _))
    | .claim | .startLeading | .lead | .readTerm _ | .reload _ | .closeReload | .askLeader
    | .askStopped | .fence | .fenceDone | .cancel | .readOuter | .readGroup | .loadStepped
    | .loadStopped | .readHolder _ | .keep | .clear | .closeTeardown | .closeDone =>
      inferInstanceAs (Decidable (_ = _))
  | .cycle _ (.elector _) | .cycle _ (.ender _ _) | .notice _ _ | .main _ | .sigterm
  | .siblingFailure | .standbyPass => .isTrue trivial

instance (d : ElectionDeps) (s : Contender) : (a : ContenderStep) → Decidable (s.Enabled d a)
  | .election a => inferInstanceAs (Decidable (s.election.Enabled d a ∧ s.Allows d a))
  | .pass _ _ _ | .sample => inferInstanceAs (Decidable (_ = _ ∧ _ = _))
  | .clear _ => inferInstanceAs (Decidable ((_ = _ ∨ _ = _) ∧ _ = _))
  | .passed => inferInstanceAs (Decidable (_ ≠ _ ∧ _ ≠ _))
  | .askLeader | .askApplied | .askTunnel _ => inferInstanceAs (Decidable (_ = _))

end Contender

/-! ## From one term to the next -/

/-- The callback is past the `setLeader` at its beginning and not past the one at its end. -/
def CallbackPhase.serving : CallbackPhase → Bool
  | .idle | .claiming | .starting | .promoting | .closingDone | .finished => false
  | _ => true

theorem CallbackPhase.serving_of_weighing {p : CallbackPhase} (h : p.weighing = true) :
    p.serving = true := by
  cases p <;> first | rfl | cases h

theorem CallbackPhase.active_of_serving {p : CallbackPhase} (h : p.serving = true) :
    p.active = true := by
  cases p <;> first | rfl | cases h

/-- A callback serves until `unsetLeader`. -/
theorem LeadershipCycle.next_serving {d : ElectionDeps} {ctx : Contexts} {pending : Bool}
    {fenceMu : Option Fencer} {c : LeadershipCycle} {a : CycleStep} (hc : c.Sound d)
    (ha : c.Enabled d ctx fenceMu a) (hserving : c.callback.phase.serving = true)
    (hne : a ≠ .callback .unsetLeader) :
    (c.next d ctx pending a).callback.phase.serving = true := by
  have hnot : ∀ {p : CallbackPhase}, c.callback.phase = p → p.serving = false → False := fun hp h =>
    Bool.false_ne_true (h.symm.trans (hp ▸ hserving))
  cases a with
  | lock a => exact hserving
  | elector a =>
    cases a with
    | win =>
      -- the callback of an elector that still acquires has not been started
      obtain ⟨-, hel, -⟩ := ha
      exact (hnot (hc.idle.mpr ⟨by simp [hel], by simp [hel]⟩) rfl).elim
    | lose | stop => exact hserving
  | callback a =>
    have hweighs : weighs a = true → _ := nextCallback_weighs d ctx pending c
    cases a with
    | claim => exact (hnot ha.1 rfl).elim
    | startLeading | closeDone => exact (hnot ha rfl).elim
    | unsetLeader => exact absurd rfl hne
    | askLeader | askStopped | fenceDone | keep => simp only [next, nextCallback]; split_ifs <;> rfl
    | fence =>
      simp only [next, nextCallback]
      split_ifs <;> rcases ha.1 with hp | hp <;> rw [hp] <;> rfl
    | loadStepped | loadStopped | readHolder read =>
      obtain ⟨b, hb, hphase⟩ := hweighs rfl
      rw [next, hb]
      exact CallbackPhase.serving_of_weighing hphase
    | _ => rfl
  | ender e a =>
    rw [LeadershipCycle.next, (nextEnd_frame _).2.2]
    exact hserving

/-- An admitted write stays so until it is sent or answered. -/
theorem LockState.next_admitted {identity : String} {s : LockState Unit Ender}
    {a : LockStep Unit Ender}
    (ha : s.Enabled a) (hadm : (s.writes ()).phase = .admitted) (hsend : ∀ i, a ≠ .send i)
    (hanswer : ∀ i ok, a ≠ .answer i ok) : ((s.next identity a).writes ()).phase = .admitted := by
  cases a with
  | start i holder => simp [LockState.Enabled, hadm, WritePhase.resting] at ha
  | check i | enter i | observe i | done i => simp [LockState.Enabled, hadm] at ha
  | send i => exact absurd rfl (hsend i)
  | answer i ok => exact absurd rfl (hanswer i ok)
  | _ => exact hadm

/-- A write names the holder it was started with. -/
theorem LockState.next_holder (identity : String) (s : LockState Unit Ender)
    (a : LockStep Unit Ender) :
    ((s.next identity a).writes ()).holder = (s.writes ()).holder ∨ ∃ i, a = .start i
      ((s.next identity a).writes ()).holder := by
  cases a with
  | start i holder => exact .inr ⟨i, by simp [LockState.next]⟩
  | check i => simp only [LockState.next, LockState.check]; split_ifs <;> exact .inl rfl
  | enter i => simp only [LockState.next, LockState.enter]; split_ifs <;> exact .inl rfl
  | observe i => simp only [LockState.next, LockState.observe]; split_ifs <;> exact .inl rfl
  | done i => simp only [LockState.next, LockState.done]; split_ifs <;> exact .inl rfl
  | _ => exact .inl rfl

namespace Election

variable {d : ElectionDeps} {s : Election} {k : Nat} {a : ElectionStep}

theorem Sound.next_holder (h : s.Sound d) (k : Nat) :
    (((s.next d a).cycles k).lock.writes ()).holder = ((s.cycles k).lock.writes ()).holder ∨
      ∃ i, a = .cycle k (.lock (.start i (((s.next d a).cycles k).lock.writes ()).holder)) := by
  by_cases hown : ∃ b, a = .cycle k b
  · obtain ⟨b, rfl⟩ := hown
    rw [next_own]
    cases b with
    | lock l =>
      rcases LockState.next_holder d.podName (s.cycles k).lock l with hsame | ⟨i, hl⟩
      · exact .inl hsame
      · exact .inr ⟨i, congrArg (fun l => ElectionStep.cycle k (.lock l)) hl⟩
    | elector b => cases b <;> exact .inl rfl
    | callback b =>
      rw [LeadershipCycle.next, (LeadershipCycle.nextCallback_frame b).1]
      exact .inl rfl
    | ender e b =>
      rw [LeadershipCycle.next, (LeadershipCycle.nextEnd_frame b).1]
      exact .inl rfl
  · rw [(h.next_other fun b hb => hown ⟨b, hb⟩).1]
    exact .inl rfl

theorem Sound.next_serving (h : s.Sound d) (ha : s.Enabled d a)
    (hserving : (s.cycles k).callback.phase.serving = true)
    (hne : a ≠ .cycle k (.callback .unsetLeader)) :
    ((s.next d a).cycles k).callback.phase.serving = true := by
  by_cases hown : ∃ b, a = .cycle k b
  · obtain ⟨b, rfl⟩ := hown
    rw [next_own]
    exact LeadershipCycle.next_serving (h.cycles k) ha hserving fun hb => hne (by rw [hb])
  · rw [(h.next_other fun b hb => hown ⟨b, hb⟩).2]
    exact hserving

theorem Sound.next_admitted (h : s.Sound d) (ha : s.Enabled d a)
    (hadm : ((s.cycles k).lock.writes ()).phase = .admitted)
    (hsend : ∀ i, a ≠ .cycle k (.lock (.send i)))
    (hanswer : ∀ i ok, a ≠ .cycle k (.lock (.answer i ok))) :
    (((s.next d a).cycles k).lock.writes ()).phase = .admitted := by
  by_cases hown : ∃ b, a = .cycle k b
  · obtain ⟨b, rfl⟩ := hown
    rw [next_own]
    cases b with
    | lock l =>
      exact LockState.next_admitted ha.1 hadm (fun i hl => hsend i (by rw [hl]))
        fun i ok hl => hanswer i ok (by rw [hl])
    | elector b => cases b <;> exact hadm
    | callback b =>
      rw [LeadershipCycle.next, (LeadershipCycle.nextCallback_frame b).1]
      exact hadm
    | ender e b =>
      rw [LeadershipCycle.next, (LeadershipCycle.nextEnd_frame b).1]
      exact hadm
  · rw [(h.next_other fun b hb => hown ⟨b, hb⟩).1]
    exact hadm

end Election

namespace Contender

variable {d : ElectionDeps} {s : Contender} {k : Nat} {a : ElectionStep}

/-- Some callback that serves has completed an apply. -/
def Served (s : Contender) : Prop :=
  ∃ k, (s.election.cycles k).callback.phase.serving = true ∧ s.completed k = true

/-- The invariant of a process. -/
structure Sound (d : ElectionDeps) (s : Contender) : Prop where
  election : s.election.Sound d
  holder : ∀ k, ((s.election.cycles k).lock.writes ()).holder = d.podName ∨
    ((s.election.cycles k).lock.writes ()).holder = ""
  cleared : s.pass = .cleared → s.applied = false
  served : s.applied = true ∨ s.pass = .storing true → s.Served
  calling : s.sample ≠ .idle → s.write.phase = .admitted
  stamped : s.sample.claims = true → s.completed (s.election.started - 1) = true

/-- The pass on record is one of the cycle created last. -/
theorem Sound.completed_last (h : s.Sound d) (happlied : s.applied = true) :
    s.completed (s.election.started - 1) = true := by
  obtain ⟨k, hserving, hcompleted⟩ := h.served (.inl happlied)
  have hk := (h.election.turns.callbacks k (CallbackPhase.active_of_serving hserving)).1
  rw [show s.election.started - 1 = k by omega]
  exact hcompleted

theorem beside_frame (s : Contender) (a : ElectionStep) :
    (s.beside a).applied = s.applied ∧ (s.beside a).completed = s.completed := by
  unfold beside
  split <;> exact ⟨rfl, rfl⟩

theorem beside_pass (ha : s.Allows d a) :
    (s.beside a).pass = s.pass ∨ s.pass = .cleared ∧ (s.beside a).pass = .idle := by
  unfold beside
  split
  · exact .inl rfl
  · exact .inr ⟨ha, rfl⟩
  · exact .inr ⟨ha, rfl⟩
  · exact .inl rfl

theorem beside_sample (s : Contender) (a : ElectionStep) :
    (s.beside a).sample = .idle ∨
      (s.beside a).sample = s.sample ∧ ∀ k i, a ≠ .cycle k (.lock (.send i)) := by
  unfold beside
  split
  · exact .inl rfl
  · exact .inr ⟨rfl, fun _ _ h => (nomatch h)⟩
  · exact .inr ⟨rfl, fun _ _ h => (nomatch h)⟩
  · rename_i hsend _ _
    exact .inr ⟨rfl, fun k i h => hsend k i h⟩

theorem Sound.electionStep (h : s.Sound d) {a : ElectionStep} (ha : s.election.Enabled d a)
    (hallows : s.Allows d a) : (s.next d (.election a)).Sound d := by
  have hframe := s.beside_frame a
  have hcalling : (s.beside a).sample ≠ .idle → s.sample = (s.beside a).sample ∧
      s.write.phase = .admitted ∧ (∀ k i, a ≠ .cycle k (.lock (.send i))) ∧
        (s.election.next d a).started = s.election.started := by
    intro hne
    obtain ⟨hsame, hsend⟩ := (s.beside_sample a).resolve_left hne
    have hadm := h.calling (hsame ▸ hne)
    exact ⟨hsame.symm, hadm, hsend, h.election.next_started ha (by rw [show
      (s.election.last.lock.writes ()).phase = .admitted from hadm]; rfl)⟩
  constructor
  case election => exact h.election.step ha
  case holder =>
    intro k
    rcases h.election.next_holder (a := a) k with hsame | ⟨i, hstart⟩
    · rw [show (s.next d (.election a)).election = s.election.next d a from rfl, hsame]
      exact h.holder k
    · rw [hstart] at hallows
      exact hallows
  case cleared =>
    intro hpass
    rw [show (s.next d (.election a)).applied = s.applied from hframe.1]
    rcases beside_pass hallows with hsame | ⟨-, hidle⟩
    · exact h.cleared (hsame ▸ hpass)
    · exact absurd (hidle.symm.trans hpass) (by decide)
  case served =>
    intro hof
    rw [show (s.next d (.election a)).applied = s.applied from hframe.1] at hof
    have hofs : s.applied = true ∨ s.pass = .storing true := by
      refine hof.imp_right fun hpass => ?_
      rcases beside_pass hallows with hsame | ⟨-, hidle⟩
      · exact hsame ▸ hpass
      · exact absurd (hidle.symm.trans hpass) (by decide)
    obtain ⟨k, hserving, hcompleted⟩ := h.served hofs
    refine ⟨k, h.election.next_serving ha hserving ?_, ?_⟩
    · -- before `unsetLeader` the pass was cleared
      rintro rfl
      have hclear : s.pass = .cleared := hallows
      rcases hofs with happlied | hpass
      · exact Bool.false_ne_true ((h.cleared hclear).symm.trans happlied)
      · exact absurd (hclear.symm.trans hpass) (by decide)
    · rw [show (s.next d (.election a)).completed = s.completed from hframe.2]
      exact hcompleted
  case calling =>
    intro hne
    obtain ⟨hsame, hadm, hsend, hstarted⟩ := hcalling hne
    show (((s.election.next d a).cycles
      ((s.election.next d a).started - 1)).lock.writes ()).phase = _
    rw [hstarted]
    refine h.election.next_admitted ha hadm (hsend _) fun i ok hanswer => ?_
    rw [hanswer] at hallows
    exact hne (hsame ▸ hallows)
  case stamped =>
    intro hclaims
    have hne : (s.beside a).sample ≠ .idle := by
      intro hidle
      rw [show (s.next d (.election a)).sample = (s.beside a).sample from rfl, hidle] at hclaims
      cases hclaims
    obtain ⟨hsame, -, -, hstarted⟩ := hcalling hne
    rw [show (s.next d (.election a)).completed = s.completed from hframe.2,
      show (s.next d (.election a)).election = s.election.next d a from rfl, hstarted]
    exact h.stamped (hsame ▸ hclaims)

theorem Sound.passStep (h : s.Sound d) {peers : Nat} {applied : Bool}
    (hphase : (s.election.cycles k).callback.phase = .reloading) :
    (s.next d (.pass k peers applied)).Sound d := by
  have hmono : ∀ {j : Nat}, s.completed j = true →
      update s.completed k (s.completed k || applied) j = true := by
    intro j hj
    by_cases hjk : j = k
    · subst hjk
      simp [hj]
    · simp [hjk, hj]
  refine
    { h with
      cleared := fun hpass => (nomatch hpass)
      served := ?_
      stamped := fun hc => hmono (h.stamped hc) }
  rintro (happlied | hpass)
  · obtain ⟨j, hserving, hcompleted⟩ := h.served (.inl happlied)
    exact ⟨j, hserving, hmono hcompleted⟩
  · have hserving : (s.election.cycles k).callback.phase.serving = true := by rw [hphase]; rfl
    cases hpass
    exact ⟨k, hserving, by simp [next]⟩

theorem Sound.passedStep (h : s.Sound d) : (s.next d .passed).Sound d := by
  show s.storeApplied.Sound d
  unfold storeApplied
  split
  · rename_i applied hpass
    refine { h with cleared := fun hc => (nomatch hc), served := ?_ }
    rintro (rfl | hc)
    · exact h.served (.inr hpass)
    · cases hc
  · refine { h with cleared := fun _ => rfl, served := ?_ }
    rintro (hc | hc) <;> cases hc
  · exact h

/-- **A step of the process.** -/
theorem Sound.step (h : s.Sound d) {a : ContenderStep} (ha : s.Enabled d a) :
    (s.next d a).Sound d := by
  cases a with
  | election a => exact h.electionStep ha.1 ha.2
  | pass k peers applied => exact h.passStep ha.1
  | clear k =>
    refine { h with cleared := fun hc => (nomatch hc), served := ?_ }
    rintro (happlied | hc)
    · exact h.served (.inl happlied)
    · cases hc
  | passed => exact h.passedStep
  | sample => exact { h with calling := fun _ => ha.1, stamped := fun hc => (nomatch hc) }
  | askLeader =>
    have hadm := h.calling (by rw [show s.sample = .askingLeader from ha]; decide)
    refine { h with calling := fun _ => hadm, stamped := fun hc => ?_ }
    simp only [next] at hc
    split_ifs at hc <;> cases hc
  | askApplied =>
    have hadm := h.calling (by rw [show s.sample = .askingApplied from ha]; decide)
    refine { h with calling := fun _ => hadm, stamped := fun hc => ?_ }
    simp only [next] at hc
    split_ifs at hc with happlied
    · exact h.completed_last happlied
    · cases hc
  | askTunnel fresh =>
    have hsample : s.sample = .askingTunnel := ha
    have hadm := h.calling (by rw [hsample]; decide)
    have hstamped := h.stamped (by rw [hsample]; rfl)
    exact { h with calling := fun _ => hadm, stamped := fun _ => hstamped }

theorem Sound.initial : (start d).Sound d where
  election := Election.Sound.initial
  holder _ := .inr rfl
  cleared := fun h => (nomatch h)
  served := by rintro (h | h) <;> cases h
  calling h := absurd rfl h
  stamped := fun h => (nomatch h)

end Contender

end WireguardGateway.Link

import WireguardGateway.Link.Leadership

/-!
# Fence before release, and one owner for every data plane

Two properties of every interleaving of an election (`internal/link/election.go:247-533`). A
voluntary end releases the Lease by cancelling the elector's context; before that the data plane
must be gone, or be somebody else's. And a data plane that outlives its cycle must have exactly one
owner, or it would be fenced twice, or under a new leader, or never.

Results:
* **`fenced_before_release`**: when a voluntary end that hit no timeout cancels the elector's
  context, the reload loop has returned and the data plane is fenced to the end or handed over;
* **`planes_owned`**: whose every fence is, that a cycle and a plane are fenced once, that
  every plane which was not fenced has exactly one owner, and that a new cycle starts only
  after every earlier one is settled;
* **`terms_exclusive`**: one term and one fence at a time.

The books on owners are those of `Custody`; the election keeps them sound (`Custodial`).
-/

namespace WireguardGateway.Link

open Function Lib

/-! ## Fence before release -/

namespace Election

variable {d : ElectionDeps} {s : Election} {k : Nat}

/-- A step of the process does nothing to the lock of a cycle, or takes a step of it. -/
theorem Sound.next_lock (h : s.Sound d) {a : ElectionStep} (ha : s.Enabled d a) (k : Nat) :
    ((s.next d a).cycles k).lock = (s.cycles k).lock ∨
      ∃ l, (s.cycles k).EnabledLock l ∧
        ((s.next d a).cycles k).lock = (s.cycles k).lock.next d.podName l := by
  by_cases hown : ∃ b, a = .cycle k b
  · obtain ⟨b, rfl⟩ := hown
    rw [next_own]
    cases b with
    | lock l => exact .inr ⟨l, ha, rfl⟩
    | elector b => cases b <;> exact .inl rfl
    | callback b => exact .inl (LeadershipCycle.nextCallback_frame b).1
    | ender e b => exact .inl (LeadershipCycle.nextEnd_frame b).1
  · exact .inl (h.next_other fun b hb => hown ⟨b, hb⟩).1

/-- A cycle that left the election without the Lease never acquires it. -/
theorem Sound.run_left {steps : List ElectionStep} (h : s.Sound d)
    (hruns : Guarded (next d) (Enabled d) s steps) {e : Ender}
    (hleft : (s.cycles k).lock.leaves e = .returned true)
    (hacq : (s.cycles k).lock.lock.acquired = false) {us : List ElectionStep} (hus : us <+: steps) :
    ((replay (next d) s us).cycles k).lock.lock.acquired = false := by
  refine (hruns.invariant (I := fun t => t.Sound d ∧ (t.cycles k).lock.leaves e = .returned true ∧
    (t.cycles k).lock.lock.acquired = false) ?_ ⟨h, hleft, hacq⟩ hus).2.2
  rintro t a ⟨ht, htleft, htacq⟩ ha
  refine ⟨ht.step ha, ?_⟩
  rcases ht.next_lock ha k with hsame | ⟨l, hl, hnext⟩
  · rw [hsame]
    exact ⟨htleft, htacq⟩
  · rw [hnext, (ht.cycles k).lock.next_left htleft l]
    exact ⟨LockState.next_leaves_returned htleft hl.1, htacq⟩

end Election

/-- A data plane that is settled was served by a reload loop that has returned. -/
theorem LeadershipCycle.Sound.of_settled {d : ElectionDeps} {c : LeadershipCycle}
    (h : c.Sound d) (hset : c.planeEnd.settled = true) :
    c.registered = true ∧ c.reloadDone = true ∧ (c.planeEnd = .fenced ∨ c.planeEnd = .handed) := by
  have hne : c.planeEnd ≠ .standing := fun hst => by rw [hst] at hset; cases hset
  have hrel := h.fencedAfter hne
  refine ⟨?_, hrel, ?_⟩
  · rw [h.reloadDone] at hrel
    rw [h.registered]
    cases hp : c.callback.phase <;> rw [hp] at hrel <;> first | rfl | cases hrel
  · cases hplane : c.planeEnd <;> rw [hplane] at hset <;> simp_all [PlaneEnd.settled]

/-- The step by which a voluntary end cancels the elector's context: that of a call of `endCycle`
that hit none of its timeouts, or that of the callback whose reload loop failed. -/
def LeadershipCycle.Releases (c : LeadershipCycle) (a : CycleStep) : Prop :=
  a = .callback .cancel ∨ ∃ e, a = .ender e .cancel ∧ (c.enders e).timedOut = false

/-- **Fence before release.** In every interleaving, when a voluntary end cancels the
elector's context of a cycle that has acquired the Lease, or acquires it later, the cycle's
reload loop is registered and has returned, and its data plane has been fenced to the end or
handed to the pending flag. -/
theorem fenced_before_release (d : ElectionDeps) {before after : List ElectionStep} {k : Nat}
    {a : CycleStep} (hruns : Election.Runs d (before ++ .cycle k a :: after))
    (hend : ((Election.run d before).cycles k).Releases a) {us : List ElectionStep}
    (hus : us <+: .cycle k a :: after)
    (hacq : ((Election.run d (before ++ us)).cycles k).lock.lock.acquired = true) :
    ((Election.run d before).cycles k).registered = true ∧
      ((Election.run d before).cycles k).reloadDone = true ∧
      (((Election.run d before).cycles k).planeEnd = .fenced ∨
        ((Election.run d before).cycles k).planeEnd = .handed) := by
  have hs := Election.Sound.of_runs hruns.left
  have hc := hs.cycles k
  have ha : ((Election.run d before).cycles k).Enabled d _ _ a := hruns.at
  refine hc.of_settled ?_
  rcases hend with rfl | ⟨e, rfl, htime⟩
  · exact hc.settled (.inr ha)
  · have hp : (((Election.run d before).cycles k).enders e).phase = .cancelling := ha
    rcases (hc.enders e).ends (by rw [hp]; rfl) htime with hnot | hset
    · have hleft := (hc.enders e).left (by rw [hp]; rfl) htime
      rw [Election.run, replay_append, hs.run_left hruns.suffix hleft hnot hus] at hacq
      cases hacq
    · exact hset

/-- A replica in Cluster mode on a clean node. -/
def sampleDeps : ElectionDeps :=
  { podName := "link-0", nodeName := "node-a", watching := false, inheritedDataPlane := false }

/-- The first cycle acquires the Lease and starts the callback. -/
def acquiringSteps : List ElectionStep :=
  [.main .check, .main .create, .main .launch] ++
    ([.start () "link-0", .check (), .enter (), .send (), .answer () true, .observe (), .done ()]
      : List (LockStep Unit Ender)).map (fun l => .cycle 0 (.lock l)) ++
    [.cycle 0 (.elector .win)]

/-- The callback registers its reload loop. -/
def leadingSteps : List ElectionStep :=
  ([.claim, .startLeading, .setLeader, .lead, .readTerm (some 1)] : List CallbackStep).map fun a =>
    .cycle 0 (.callback a)

/-- A shutdown up to the step that cancels the elector's context: the two threads take turns. -/
def shutdownSteps : List ElectionStep :=
  [.sigterm, .cycle 0 (.ender .shutdown .call), .cycle 0 (.ender .shutdown .mark),
    .cycle 0 (.lock (.leave .shutdown)), .cycle 0 (.lock (.drain .shutdown)),
    .cycle 0 (.lock (.finish .shutdown)), .cycle 0 (.ender .shutdown .left),
    .cycle 0 (.ender .shutdown .ask), .cycle 0 (.ender .shutdown .await),
    .cycle 0 (.ender .shutdown .take), .cycle 0 (.callback (.reload false)),
    .cycle 0 (.callback .closeReload), .cycle 0 (.callback .askLeader),
    .cycle 0 (.ender .shutdown .drained), .cycle 0 (.ender .shutdown .fence),
    .cycle 0 (.callback .askStopped), .cycle 0 (.callback .readOuter),
    .cycle 0 (.callback .readGroup), .cycle 0 (.callback .loadStepped),
    .cycle 0 (.callback .loadStopped), .cycle 0 (.ender .shutdown .fenceDone),
    .cycle 0 (.callback .fence), .cycle 0 (.callback .clear), .cycle 0 (.callback .closeTeardown),
    .cycle 0 (.ender .shutdown .settle)]

theorem fenced_before_release_shutdown :
    Election.Runs sampleDeps (acquiringSteps ++ leadingSteps ++ shutdownSteps ++
        [.cycle 0 (.ender .shutdown .cancel)]) ∧
      ((Election.run sampleDeps
        (acquiringSteps ++ leadingSteps ++ shutdownSteps)).cycles 0).reloadDone = true := by
  have hruns : Election.Runs sampleDeps (acquiringSteps ++ leadingSteps ++ shutdownSteps ++
      [.cycle 0 (.ender .shutdown .cancel)]) := by decide +kernel
  have hacq : ((Election.run sampleDeps (acquiringSteps ++ leadingSteps ++ shutdownSteps ++
      [.cycle 0 (.ender .shutdown .cancel)])).cycles 0).lock.lock.acquired = true := by
    decide +kernel
  exact ⟨hruns, (fenced_before_release sampleDeps hruns
    (.inr ⟨.shutdown, rfl, by decide +kernel⟩) (List.prefix_refl _) hacq).2.1⟩

/-! ## One owner for every data plane -/

namespace Election

variable {d : ElectionDeps} {s s' : Election} {k : Nat}

/-- The books of the election, and where its cycles are. -/
def Custodial (d : ElectionDeps) (s : Election) : Prop :=
  s.custody.Sound d.inheritedDataPlane s.pending (fun k => (s.cycles k).callback.phase.claimed)
    fun k => (s.cycles k).fenced

/-- Nothing changed hands. -/
theorem Custodial.frame (h : s.Custodial d) (hcustody : s'.custody = s.custody)
    (hpending : s'.pending = s.pending)
    (hclaimed : ∀ k, (s'.cycles k).callback.phase.claimed = (s.cycles k).callback.phase.claimed)
    (hfenced : ∀ k, (s'.cycles k).fenced = (s.cycles k).fenced) : s'.Custodial d := by
  unfold Custodial
  rw [hcustody, hpending, funext hclaimed, funext hfenced]
  exact h

/-- A cycle with something to answer for is undecided. -/
theorem Custodial.undecided (h : s.Custodial d) (hs : s.Sound d) (hk : s.custody.cycles k ≠ []) :
    (s.cycles k).callback.phase.undecided = true := by
  obtain ⟨hclaimed, hfenced⟩ := (h.cycles k).mp hk
  have hc := hs.cycles k
  rw [CallbackPhase.undecided, hclaimed, Bool.true_and]
  cases hdec : (s.cycles k).callback.phase.decided with
  | false => rfl
  | true =>
    have hset := hc.settled (.inl hdec)
    rw [hc.fenced.mpr fun hst => by rw [hst] at hset; cases hset] at hfenced
    cases hfenced

/-- While the callback of a cycle is under way, no other cycle has anything. -/
theorem Custodial.alone (h : s.Custodial d) (hs : s.Sound d)
    (hactive : (s.cycles k).callback.phase.active = true) (j : Nat) (hjk : j ≠ k) :
    s.custody.cycles j = [] := by
  by_contra hj
  exact hjk (hs.turns.unique (CallbackPhase.active_of_undecided (h.undecided hs hj)) hactive)

variable {a : CycleStep} {c : LeadershipCycle}

/-- What a field of the cycles is after a step of one. -/
theorem field_nextCycle {β : Type} (field : LeadershipCycle → β)
    (hnext : (s.cycles k).next d s.ctx s.pending a = c) :
    (fun j => field ((s.nextCycle d k a).cycles j)) =
      update (fun j => field (s.cycles j)) k (field c) := by
  funext j
  rw [nextCycle_cycles, hnext]
  by_cases hjk : j = k
  · subst hjk
    rw [update_self, update_self]
  · rw [update_of_ne hjk, update_of_ne hjk]

/-- A step after which the cycle is as claimed and as fenced as `claimed` and `fenced` say. -/
theorem Custodial.of_nextCycle {claimed fenced : Bool}
    (hnext : (s.cycles k).next d s.ctx s.pending a = c)
    (hclaimed : c.callback.phase.claimed = claimed) (hfenced : c.fenced = fenced)
    (h : (s.effect k a).custody.Sound d.inheritedDataPlane (s.effect k a).pending
      (update (fun j => (s.cycles j).callback.phase.claimed) k claimed)
      (update (fun j => (s.cycles j).fenced) k fenced)) : (s.nextCycle d k a).Custodial d := by
  unfold Custodial
  rw [field_nextCycle (fun c => c.callback.phase.claimed) hnext, field_nextCycle (·.fenced) hnext,
    hclaimed, hfenced]
  exact h

/-- A fence of the cycle that runs: by a thread of the cycle that found nothing settled. -/
theorem Custodial.fence (h : s.Custodial d) (hs : s.Sound d)
    (hnext : (s.cycles k).next d s.ctx s.pending a = c)
    (hund : (s.cycles k).callback.phase.undecided = true)
    (hskip : ¬ (s.cycles k).skips s.pending = true)
    (hcustody : (s.effect k a).custody = s.custody.fence k)
    (hpending : (s.effect k a).pending = s.pending)
    (hclaimed : c.callback.phase.claimed = true) (hfenced : c.fenced = true) :
    (s.nextCycle d k a).Custodial d := by
  have hclaimed' : (s.cycles k).callback.phase.claimed = true := by
    rw [CallbackPhase.undecided, Bool.and_eq_true] at hund
    exact hund.1
  refine .of_nextCycle hnext (hclaimed.trans hclaimed'.symm) hfenced ?_
  rw [hcustody, hpending, update_eq_self k fun j => (s.cycles j).callback.phase.claimed]
  refine Custody.Sound.fence h (h.alone hs (CallbackPhase.active_of_undecided hund)) hclaimed' ?_
  rw [LeadershipCycle.skips, Bool.or_eq_true, not_or] at hskip
  exact Bool.eq_false_of_not_eq_true hskip.1

theorem effect_transfersNone (hnone : LeadershipCycle.transfersNone a = true) (s : Election)
    (k : Nat) :
    (s.effect k a).custody = s.custody ∧ (s.effect k a).pending = s.pending := by
  cases a with
  | callback a | ender e a => cases a <;> first | exact ⟨rfl, rfl⟩ | cases hnone
  | elector a => cases a <;> exact ⟨rfl, rfl⟩
  | lock a => exact ⟨rfl, rfl⟩

/-- A step of the cycle in which nothing changes hands. -/
theorem Custodial.cycle_frame (h : s.Custodial d)
    (hnext : (s.cycles k).next d s.ctx s.pending a = c)
    (heffect : (s.effect k a).custody = s.custody ∧ (s.effect k a).pending = s.pending)
    (hclaimed : c.callback.phase.claimed = (s.cycles k).callback.phase.claimed)
    (hfenced : c.fenced = (s.cycles k).fenced) :
    (s.nextCycle d k a).Custodial d := by
  refine .of_nextCycle hnext hclaimed hfenced ?_
  rw [heffect.1, heffect.2, update_eq_self k fun j => (s.cycles j).callback.phase.claimed,
    update_eq_self k fun j => (s.cycles j).fenced]
  exact h

theorem Custodial.claim (h : s.Custodial d) (hs : s.Sound d)
    (ha : (s.cycles k).Enabled d s.ctx s.fenceMu (.callback .claim)) :
    (s.nextCycle d k (.callback .claim)).Custodial d := by
  obtain ⟨hp, -⟩ := ha
  have hfenced : (s.cycles k).fenced = false := by
    have hstands := (hs.cycles k).standing_of_running (by rw [hp]; rfl)
    rw [← Bool.not_eq_true, (hs.cycles k).fenced, hstands]
    simp
  refine .of_nextCycle rfl rfl rfl ?_
  rw [show ((s.cycles k).next d s.ctx s.pending (.callback .claim)).fenced = (s.cycles k).fenced
    from rfl, update_eq_self k fun j => (s.cycles j).fenced]
  exact Custody.Sound.claim h (h.alone hs (by rw [hp]; rfl)) (by rw [hp]; rfl) hfenced

theorem Custodial.keep (h : s.Custodial d) (hs : s.Sound d)
    (ha : (s.cycles k).Enabled d s.ctx s.fenceMu (.callback .keep)) :
    (s.nextCycle d k (.callback .keep)).Custodial d := by
  obtain ⟨hp, -⟩ := ha
  have hclaimed : (s.cycles k).callback.phase.claimed = true := by rw [hp]; rfl
  by_cases hf : (s.cycles k).fenced = true
  · exact h.cycle_frame (LeadershipCycle.next_keep_fenced hf)
      (by simp [effect, hf]) hclaimed.symm rfl
  · refine .of_nextCycle (LeadershipCycle.next_keep hf) hclaimed.symm rfl ?_
    rw [update_eq_self k fun j => (s.cycles j).callback.phase.claimed,
      show s.effect k (.callback .keep) = { s with pending := true, custody := s.custody.keep k } by
        simp [effect, hf]]
    exact Custody.Sound.keep h (h.alone hs (by rw [hp]; rfl)) hclaimed
      (Bool.eq_false_of_not_eq_true hf)

theorem Custodial.callback_fence (h : s.Custodial d) (hs : s.Sound d)
    (ha : (s.cycles k).Enabled d s.ctx s.fenceMu (.callback .fence)) :
    (s.nextCycle d k (.callback .fence)).Custodial d := by
  obtain ⟨hp, -⟩ := ha
  have hund : (s.cycles k).callback.phase.undecided = true := by
    rcases hp with hp | hp <;> rw [hp] <;> rfl
  have hclaimed : (s.cycles k).callback.phase.claimed = true := by
    rcases hp with hp | hp <;> rw [hp] <;> rfl
  by_cases hskip : (s.cycles k).skips s.pending = true
  · refine h.cycle_frame (LeadershipCycle.next_fence_skips hskip) (by simp [effect, hskip]) ?_ rfl
    rw [hclaimed]
    rcases hp with hp | hp <;> rw [hp] <;> rfl
  · refine h.fence hs (LeadershipCycle.next_fence hskip) hund hskip (by simp [effect, hskip])
      (by simp [effect, hskip]) ?_ rfl
    rcases hp with hp | hp <;> rw [hp] <;> rfl

theorem Custodial.ender_fence (h : s.Custodial d) (hs : s.Sound d) {e : Ender}
    (ha : (s.cycles k).Enabled d s.ctx s.fenceMu (.ender e .fence)) :
    (s.nextCycle d k (.ender e .fence)).Custodial d := by
  by_cases hskip : (s.cycles k).skips s.pending = true
  · exact h.cycle_frame (LeadershipCycle.next_ender_fence_skips hskip)
      (by simp [effect, hskip]) rfl rfl
  · have hund := hs.undecided_of_drained (e := e) (by rw [ha.1]; rfl) hskip
    have hclaimed : (s.cycles k).callback.phase.claimed = true := by
      rw [CallbackPhase.undecided, Bool.and_eq_true] at hund
      exact hund.1
    exact h.fence hs (LeadershipCycle.next_ender_fence hskip) hund hskip (by simp [effect, hskip])
      (by simp [effect, hskip]) hclaimed rfl

theorem Custodial.cycle (h : s.Custodial d) (hs : s.Sound d)
    (ha : (s.cycles k).Enabled d s.ctx s.fenceMu a) : (s.nextCycle d k a).Custodial d := by
  by_cases hnone : LeadershipCycle.transfersNone a = true
  · obtain ⟨hclaimed, hfenced⟩ := LeadershipCycle.next_claimed_fenced s.pending hnone ha
      fun hel => (hs.cycles k).idle.mpr (by simp [hel])
    exact h.cycle_frame rfl (effect_transfersNone hnone s k) hclaimed hfenced
  · cases a with
    | lock a | elector a => exact absurd rfl hnone
    | callback a =>
      cases a with
      | claim => exact h.claim hs ha
      | fence => exact h.callback_fence hs ha
      | keep => exact h.keep hs ha
      | _ => exact absurd rfl hnone
    | ender e a =>
      cases a with
      | fence => exact h.ender_fence hs ha
      | _ => exact absurd rfl hnone

/-- A cycle changes in a field that the books do not speak of. -/
theorem Custodial.setCycle (h : s.Custodial d) {c : LeadershipCycle}
    (hcallback : c.callback = (s.cycles k).callback) (hfenced : c.fenced = (s.cycles k).fenced) :
    (s.setCycle k c).Custodial d := by
  refine h.frame rfl rfl (fun j => ?_) fun j => ?_
  all_goals
    by_cases hjk : j = k
    · subst hjk
      simp [Election.setCycle, hcallback, hfenced]
    · simp [Election.setCycle, hjk]

/-- **A step of the process.** -/
theorem Custodial.step (h : s.Custodial d) (hs : s.Sound d) {a : ElectionStep}
    (ha : s.Enabled d a) : (s.next d a).Custodial d := by
  cases a with
  | cycle k a => exact h.cycle hs ha
  | notice o a =>
    cases a with
    | note =>
      simp only [next, nextNotice]
      split_ifs
      · exact h.setCycle (k := (s.notices o).cycle) rfl rfl
      · exact h
    | observe node | load => simp only [next, nextNotice]; split_ifs <;> exact h
    | fence =>
      simp only [next, nextNotice]
      split_ifs with hpending
      · exact Custody.Sound.fenceKept h hpending
      · exact h
    | _ => exact h
  | main a =>
    cases a with
    | create =>
      have hfresh : s.cycles s.started = {} := hs.turns.fresh s.started le_rfl
      exact h.setCycle (k := s.started) (by rw [hfresh]) (by rw [hfresh])
    | launch | launchFail | unwatch | cancel => exact h.setCycle (k := s.started - 1) rfl rfl
    | poll => simp only [next, nextMain]; split_ifs <;> exact h
    | read holder => cases holder <;> exact h
    | exit =>
      simp only [next, nextMain]
      split_ifs with hpending
      · exact Custody.Sound.fenceKept h hpending
      · exact h
    | _ => exact h
  | _ => exact h

theorem Custodial.initial : (start d).Custodial d := Custody.Sound.initial

theorem Custodial.of_runs {steps : List ElectionStep} (h : Runs d steps) :
    (run d steps).Custodial d :=
  (h.invariant (I := fun s => s.Sound d ∧ s.Custodial d)
    (fun _ _ hs ha => ⟨hs.1.step ha, hs.2.step hs.1 ha⟩) ⟨.initial, .initial⟩
    (List.prefix_refl steps)).2

/-- The data plane exists, or once existed: an earlier process left it, or its cycle has begun. -/
def Born (d : ElectionDeps) (s : Election) : Plane → Prop
  | .inherited => d.inheritedDataPlane = true
  | .own k => (s.cycles k).callback.phase.claimed = true

/-- What an owner owns: the pending flag while it is set, a cycle from its claim to its decision. -/
def Owns (s : Election) : Owner → Plane → Prop
  | .pending, p => s.pending = true ∧ p ∈ s.custody.kept
  | .cycle k, p => (s.cycles k).callback.phase.undecided = true ∧ p ∈ s.custody.cycles k

/-- A data plane that was not fenced has exactly one owner. -/
theorem Custodial.owner (h : s.Custodial d) (hs : s.Sound d) {p : Plane} (hborn : Born d s p)
    (hfenced : p ∉ s.custody.fenced) : ∃! o, s.Owns o p := by
  have hholds : s.custody.Holds p := by
    cases p with
    | inherited => exact Custody.Sound.inherited h hborn
    | own k => exact Custody.Sound.own h k hborn
  have hund : ∀ {k}, p ∈ s.custody.cycles k → (s.cycles k).callback.phase.undecided = true :=
    fun hk => h.undecided hs (List.ne_nil_of_mem hk)
  rcases Custody.Sound.held_once h hholds hfenced with ⟨hkept, hnone⟩ | ⟨hkept, k, hk⟩
  · refine ⟨.pending, ⟨(Custody.Sound.flag h).mpr (List.ne_nil_of_mem hkept), hkept⟩, ?_⟩
    rintro (_ | j) hj
    · rfl
    · exact absurd hj.2 (hnone j)
  · refine ⟨.cycle k, ⟨hund hk, hk⟩, ?_⟩
    rintro (_ | j) hj
    · exact absurd hj.2 hkept
    · rw [hs.turns.unique (CallbackPhase.active_of_undecided hj.1)
        (CallbackPhase.active_of_undecided (hund hk))]

/-- Between two cycles every cycle that acquired is settled. -/
theorem Sound.settled_between (h : s.Sound d) (hmain : s.main.cycling = false)
    (hacq : (s.cycles k).lock.lock.acquired = true) :
    (s.cycles k).planeEnd.settled = true := by
  have hc := h.cycles k
  obtain ⟨hcallback, helector⟩ := h.turns.inactive hmain k
  have hreturned : (s.cycles k).elector = .returned := by
    cases hel : (s.cycles k).elector with
    | idle => rw [hc.unlaunched hel] at hacq; cases hacq
    | acquiring | leading => rw [hel] at helector; exact absurd rfl helector
    | returned => rfl
  have hidle : (s.cycles k).callback.phase ≠ .idle := fun hp => (hc.idle.mp hp).2 ⟨hreturned, hacq⟩
  refine hc.settled (.inl ?_)
  cases hp : (s.cycles k).callback.phase with
  | idle => exact absurd hp hidle
  | finished => rfl
  | _ => rw [hp] at hcallback; exact absurd rfl hcallback

end Election

/-- **Every data plane has one owner and is fenced at most once.** In every state of every
interleaving: a fence that runs between a cycle's claim and its own end decision is that cycle's
own; of the fences that were begun, at most one is of each cycle, each is for some plane, and no two
are for the same; a plane that was not fenced is owned by exactly one of the pending flag and the
cycle that claimed it. And when `runElection` starts a cycle, every cycle that acquired has fenced
its data plane to the end or handed it over. -/
theorem planes_owned (d : ElectionDeps) {steps : List ElectionStep}
    (hruns : Election.Runs d steps) :
    (∀ us, us <+: steps →
      (∀ k f, ((Election.run d us).cycles k).callback.phase.undecided = true →
        (Election.run d us).fenceMu = some f → f.cycle = some k) ∧
      ((∀ k, (Election.run d us).custody.fencesBy (.cycle k) ≤ 1) ∧
        (∀ f ∈ (Election.run d us).custody.fences, f.2 ≠ []) ∧
        ∀ p, (Election.run d us).custody.fenced.count p ≤ 1) ∧
      (∀ p, Election.Born d (Election.run d us) p → p ∉ (Election.run d us).custody.fenced →
        ∃! o, (Election.run d us).Owns o p)) ∧
    (∀ us vs, steps = us ++ .main .create :: vs → ∀ k,
      ((Election.run d us).cycles k).lock.lock.acquired = true →
      ((Election.run d us).cycles k).planeEnd = .fenced ∨
        ((Election.run d us).cycles k).planeEnd = .handed) := by
  constructor
  · rintro us ⟨vs, rfl⟩
    have hs := Election.Sound.of_runs hruns.left
    have hbooks := Election.Custodial.of_runs hruns.left
    exact ⟨fun k f hk hf => hs.fences.owned k hk f hf,
      Custody.Sound.fences_once hbooks,
      fun p hborn hfenced => hbooks.owner hs hborn hfenced⟩
  · rintro us vs rfl k hacq
    have hs := Election.Sound.of_runs hruns.left
    have hmain : (Election.run d us).main = .creating := hruns.at
    exact ((hs.cycles k).of_settled (hs.settled_between (by rw [hmain]; rfl) hacq)).2.2

/-- The first term ends without explanation: renewals fail, the Lease cannot be read, and
the data plane is kept. -/
def keepingSteps : List ElectionStep :=
  .cycle 0 (.elector .stop) ::
    (([.reload false, .closeReload, .askLeader, .readOuter, .readGroup, .loadStepped, .loadStopped,
        .readHolder none, .keep, .closeTeardown, .unsetLeader, .closeDone] : List CallbackStep).map
      fun a => .cycle 0 (.callback a)) ++
    [.main .ran, .main .join, .main .unwatch, .main .cancel, .main .check, .main .create]

theorem planes_owned_kept :
    Election.Runs sampleDeps (acquiringSteps ++ leadingSteps ++ keepingSteps) ∧
      ∃! o, (Election.run sampleDeps (acquiringSteps ++ leadingSteps ++ keepingSteps)).Owns o
        (.own 0) := by
  have hruns : Election.Runs sampleDeps (acquiringSteps ++ leadingSteps ++ keepingSteps) := by
    decide +kernel
  exact ⟨hruns, ((planes_owned sampleDeps hruns).1 _ (List.prefix_refl _)).2.2 (.own 0)
    (by unfold Election.Born; decide +kernel) (by decide +kernel)⟩

/-- **One term and one fence at a time**: the callbacks under way and the elector are of one cycle,
and no two threads fence. -/
theorem terms_exclusive (d : ElectionDeps) {steps : List ElectionStep}
    (hruns : Election.Runs d steps) :
    let s := Election.run d steps
    (∀ j k, (s.cycles j).callback.phase.active = true →
      (s.cycles k).callback.phase.active = true ∨ (s.cycles k).elector.running = true → j = k) ∧
    ∀ f f', s.Running f → s.Running f' → f = f' := by
  have hs := Election.Sound.of_runs hruns
  refine ⟨fun j k hj hk => ?_, fun f f' hf hf' => ?_⟩
  · have hlast := (hs.turns.callbacks j hj).1
    have := hk.elim (fun hk => (hs.turns.callbacks k hk).1) fun hk => (hs.turns.electors k hk).1
    omega
  · exact Option.some.inj ((hs.fences.mutex f hf).symm.trans (hs.fences.mutex f' hf'))

/-- The second cycle contends for the Lease: the callback of the first is not under way. -/
theorem terms_exclusive_leading :
    let s := Election.run sampleDeps
      (acquiringSteps ++ leadingSteps ++ keepingSteps ++ [.main .launch])
    (s.cycles 1).elector.running = true ∧ ¬ (s.cycles 0).callback.phase.active = true :=
  ⟨by decide +kernel, fun h => Nat.zero_ne_one <|
    (terms_exclusive sampleDeps (by decide +kernel)).1 0 1 h (.inr (by decide +kernel))⟩

end WireguardGateway.Link

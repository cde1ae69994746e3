import WireguardGateway.Link.Skip

/-!
# What the Lease says of the holder

Two publishes follow each apply of the reload loop (`link.go:189-205`): the slot states, whose
failure is only logged, and the fault, whose failure makes the invocation fail. An invocation that
finds nothing changed publishes nothing (`reconcile.go:84-86`).

`lease_says` is for every invocation that *settles*: it recorded its digests, or it found
nothing changed. What the Lease says then was written at the last apply, which need not be the
one the digests stand for:
* the slot states are those of the last apply if that publish was answered;
* there is a fault exactly if a forward is unsatisfied, when the last apply is the recorded one;
* otherwise, with the fault's publish answered, this holds iff the last apply was as clean as the
  present snapshot: a failed one that was reverted since leaves its fault behind.

`lease_stale` has a run for each way this fails.
-/

namespace WireguardGateway.Link

open Lib Lib.Plan
open Controller (RuntimeConfig)

variable {σ : Type} {run : Runner Command σ} {cfg : LoopConfig σ}

/-! ## The last apply -/

/-- An apply: the snapshot it was for, its results and its error. -/
structure Apply where
  snap : Snapshot
  results : List SlotResult
  err : Option String
  deriving DecidableEq, Repr

/-- The apply of an invocation that got to it. -/
def Outcome.pass? : Outcome σ → Option Apply
  | .reconciled _ snap r => r.pass.map fun pass => { snap, results := pass.1, err := pass.2 }
  | _ => none

/-- The snapshot of an invocation that recorded its digests or found nothing changed. -/
def Outcome.settled? : Outcome σ → Option Snapshot
  | .unchanged _ snap => some snap
  | .reconciled _ snap r => if r.records then some snap else none
  | _ => none

def Step.applies (st : Step σ) : Bool := st.outcome.pass?.isSome

/-- The last invocation that got to its apply. -/
def lastApply : List (Step σ) → Option (Step σ) := lastOf Step.applies

variable {st : Step σ} {past : List (Step σ)} {i : Invocation} {lease : Lease} {process : Process σ}
  {rc : RuntimeConfig} {snap : Snapshot} {s : Reload σ}

theorem Step.applies_of_records (h : st.records = true) : st.applies = true := by
  unfold Step.records at h
  unfold Step.applies
  cases houtcome : st.outcome with
  | reconciled rc snap r =>
    rw [houtcome] at h
    obtain ⟨-, pass, hpass, -⟩ := Reconciled.records_iff.mp h
    simp [Outcome.pass?, hpass]
  | notLoaded cause | waitingSync rc snap | unchanged rc snap
  | waitingEndpoint rc snap => rw [houtcome] at h; cases h

/-- If the last apply was recorded, it is the last one recorded. -/
theorem lastRecorded_of_lastApply (h : lastApply past = some st) (hrecords : st.records = true) :
    lastRecorded past = some st := by
  induction past using List.reverseRecOn with
  | nil => cases h
  | append_singleton past last ih =>
    rw [lastApply, lastOf_snoc] at h
    rw [lastRecorded, lastOf_snoc]
    by_cases happlies : last.applies = true
    · rw [if_pos happlies] at h
      cases h
      rw [if_pos hrecords]
    · rw [if_neg happlies] at h
      rw [if_neg fun hlast => happlies (Step.applies_of_records hlast)]
      exact ih h

theorem exists_lastApply (h : lastRecorded past = some st) :
    ∃ st', lastApply past = some st' := by
  have hmem : st ∈ past.filter Step.records := List.mem_of_getLast? h
  obtain ⟨hst, hrecords⟩ := List.mem_filter.mp hmem
  have hne : past.filter Step.applies ≠ [] :=
    List.ne_nil_of_mem (List.mem_filter.mpr ⟨hst, Step.applies_of_records hrecords⟩)
  exact ⟨_, List.getLast?_eq_some_getLast hne⟩

/-! ## What an apply leaves on the Lease -/

/-- An invocation without an error had none from its apply. -/
theorem leaderReconcile_err {pass : List SlotResult × Option String}
    (hnone : (leaderReconcile run cfg i rc snap process lease).err = none)
    (hpass : (leaderReconcile run cfg i rc snap process lease).pass = some pass) :
    pass.2 = none := by
  unfold leaderReconcile at hnone hpass
  split_ifs at hnone hpass with hcheck
  generalize linkApply run process.dp rc (cfg.env i) snap.resolved process.host = out
    at hnone hpass
  obtain ⟨⟨dp, results, applyErr⟩, host⟩ := out
  simp only at hnone hpass
  cases hpass
  cases applyErr with
  | none => rfl
  | some e => simp at hnone

/-- What is known of the Lease after an apply, until the next. -/
structure Written (cfg : LoopConfig σ) (i : Invocation) (a : Apply) (records : Bool)
    (lease : Lease) : Prop where
  checked : cfg.preCheck.reason = ""
  slots : Delivers i.slotAttempts.1 = true → lease.slotState? = slotStateValue a.results
  fault : records = true ∨ Delivers i.faultAttempts.1 = true →
    (lease.fault? = none ↔ a.err = none ∧ a.snap.unsatisfied = [])

theorem leaderReconcile_written {r : Reconciled σ}
    (hr : r = leaderReconcile run cfg i rc snap process lease) (hheld : lease.HeldBy cfg.lease.self)
    {pass : List SlotResult × Option String} (hpass : r.pass = some pass) :
    Written cfg i { snap, results := pass.1, err := pass.2 } r.records r.lease := by
  unfold leaderReconcile at hr
  split_ifs at hr with hcheck
  · rw [hr] at hpass
    cases hpass
  · generalize linkApply run process.dp rc (cfg.env i) snap.resolved process.host = out at hr
    obtain ⟨⟨dp, results, applyErr⟩, host⟩ := out
    simp only at hr
    -- the two publishes: the states of the slots, then the fault
    have hstates : Delivers i.slotAttempts.1 = true →
        (publishSlotState cfg.lease results i.slotAttempts lease).1.slotState? =
          slotStateValue results :=
      fun hdelivers => publishSlotState_success hheld (delivers_success hdelivers)
    have hheld' : (publishSlotState cfg.lease results i.slotAttempts lease).1.HeldBy
        cfg.lease.self := by
      unfold Lease.HeldBy
      rw [publishSlotState_holder]
      exact hheld
    generalize (publishSlotState cfg.lease results i.slotAttempts lease).1 = lease'
      at hr hstates hheld'
    rw [hr] at hpass ⊢
    cases hpass
    refine ⟨not_not.mp hcheck, fun hdelivers => ?_, fun hpublished => ?_⟩
    · exact publishFault_slotState.trans (hstates hdelivers)
    · have hsuccess : (publishFault cfg.lease (leaderFault cfg.nodeName applyErr
          snap.unsatisfied).1 (leaderFault cfg.nodeName applyErr snap.unsatisfied).2 i.faultAttempts
            lease').2 = none := by
        rcases hpublished with hrecords | hdelivers
        · -- an invocation that records returned no error, from the apply or from the publish
          obtain ⟨hnone, -⟩ := Reconciled.records_iff.mp hrecords
          simp only at hnone
          cases hpublish : (publishFault cfg.lease (leaderFault cfg.nodeName applyErr
              snap.unsatisfied).1 (leaderFault cfg.nodeName applyErr snap.unsatisfied).2
                i.faultAttempts lease').2 with
          | none => rfl
          | some e =>
            rw [hpublish] at hnone
            cases applyErr with
            | none | some e' => cases hnone
        · exact delivers_success hdelivers
      exact (publishFault_success hheld' hsuccess).trans leaderFault_reason

/-! ## Over a run -/

theorem leaderReconcile_holder :
    (leaderReconcile run cfg i rc snap process lease).lease.holder = lease.holder := by
  unfold leaderReconcile
  split_ifs
  · exact publishFault_holder
  · exact publishFault_holder.trans publishSlotState_holder

theorem finish_lease {p : Reload σ} {r : Reconciled σ} :
    (p.finish cfg rc snap r).lease = r.lease := by
  unfold Reload.finish
  simp only
  split_ifs <;> rfl

theorem step_holder :
    (s.step run cfg i).1.lease.holder = s.lease.holder := by
  by_cases h : ∃ rc snap r, (s.step run cfg i).2 = .reconciled rc snap r
  · obtain ⟨rc, snap, r, hr⟩ := h
    obtain ⟨p, hp, -, rfl, hafter⟩ := reconciled_step hr
    rw [hafter, finish_lease, leaderReconcile_holder, hp.lease]
  · rw [step_lease fun rc snap r hr => h ⟨rc, snap, r, hr⟩]

/-- The Lease of the loop is as the last apply left it. -/
def LeaseKept (cfg : LoopConfig σ) (s : Reload σ) (past : List (Step σ)) : Prop :=
  ∀ st, lastApply past = some st → ∃ a, st.outcome.pass? = some a ∧
    Written cfg st.invocation a st.records s.lease

/-- An invocation that reconciled without an apply met the pre-check's fault. -/
theorem preCheck_of_pass_none (h : (leaderReconcile run cfg i rc snap process lease).pass = none) :
    cfg.preCheck.reason ≠ "" := by
  unfold leaderReconcile at h
  split_ifs at h with hcheck
  · exact hcheck
  · cases h

theorem step_leaseKept (hheld : s.lease.HeldBy cfg.lease.self) (h : LeaseKept cfg s past) :
    LeaseKept cfg (s.step run cfg i).1 (past ++ [Reload.taken run cfg s i]) := by
  intro st hst
  rw [lastApply, lastOf_snoc] at hst
  by_cases hr : ∃ rc snap r, (s.step run cfg i).2 = .reconciled rc snap r
  · obtain ⟨rc, snap, r, houtcome⟩ := hr
    obtain ⟨p, hp, -, hr, hafter⟩ := reconciled_step houtcome
    have hp' : p.lease.HeldBy cfg.lease.self := by
      rw [hp.lease]
      exact hheld
    rw [hafter, finish_lease]
    have htaken : (Reload.taken run cfg s i).outcome = .reconciled rc snap r := houtcome
    cases hpass : r.pass with
    | some pass =>
      have happlies : (Reload.taken run cfg s i).applies = true := by
        rw [Step.applies, htaken]
        simp [Outcome.pass?, hpass]
      rw [if_pos happlies] at hst
      cases hst
      refine ⟨{ snap, results := pass.1, err := pass.2 }, ?_, ?_⟩
      · rw [htaken, Outcome.pass?, hpass]
        rfl
      · rw [Step.records, htaken]
        exact leaderReconcile_written hr hp' hpass
    | none =>
      have happlies : ¬ (Reload.taken run cfg s i).applies = true := by
        rw [Step.applies, htaken]
        simp [Outcome.pass?, hpass]
      rw [if_neg happlies] at hst
      obtain ⟨a, -, hwritten⟩ := h st hst
      rw [hr] at hpass
      exact absurd hwritten.checked (preCheck_of_pass_none hpass)
  · have hnot : ∀ rc snap r, (s.step run cfg i).2 ≠ .reconciled rc snap r :=
      fun rc snap r houtcome => hr ⟨rc, snap, r, houtcome⟩
    have happlies : ¬ (Reload.taken run cfg s i).applies = true := by
      unfold Step.applies Reload.taken
      simp only
      cases houtcome : (s.step run cfg i).2 with
      | reconciled rc snap r => exact absurd houtcome (hnot rc snap r)
      | notLoaded cause | waitingSync rc snap | unchanged rc snap
      | waitingEndpoint rc snap => simp [Outcome.pass?]
    rw [if_neg happlies] at hst
    rw [step_lease hnot]
    exact h st hst

theorem loop_leaseKept (hheld : s.lease.HeldBy cfg.lease.self) (is : List Invocation) :
    LeaseKept cfg (s.loop run cfg is) (s.steps run cfg is) := by
  have hboth : (s.loop run cfg is).lease.HeldBy cfg.lease.self ∧
      LeaseKept cfg (s.loop run cfg is) (s.steps run cfg is) := by
    refine Reload.loop_induction
      (P := fun past s => s.lease.HeldBy cfg.lease.self ∧ LeaseKept cfg s past)
      ⟨hheld, fun st hst => nomatch hst⟩ ?_ is
    rintro past s i ⟨hs, hkept⟩
    refine ⟨?_, step_leaseKept hs hkept⟩
    unfold Lease.HeldBy
    rw [step_holder]
    exact hs
  exact hboth.2

/-! ## At an invocation that settles -/

/-- A recorded apply had no error. -/
theorem err_of_records {is : List Invocation} (hst : st ∈ s.steps run cfg is) {a : Apply}
    (ha : st.outcome.pass? = some a) (hrecords : st.records = true) : a.err = none := by
  obtain ⟨js, htaken⟩ := Reload.exists_of_mem_steps hst
  unfold Step.records at hrecords
  cases houtcome : st.outcome with
  | reconciled rc snap r =>
    rw [houtcome] at ha hrecords
    obtain ⟨pass, hpass, rfl⟩ := Option.map_eq_some_iff.mp ha
    obtain ⟨hnone, -⟩ := Reconciled.records_iff.mp hrecords
    rw [htaken] at houtcome
    obtain ⟨p, -, -, hr, -⟩ := reconciled_step houtcome
    rw [hr] at hnone hpass
    exact leaderReconcile_err hnone hpass
  | notLoaded cause | waitingSync rc snap | unchanged rc snap
  | waitingEndpoint rc snap => rw [houtcome] at ha; cases ha

/-- The snapshots of two invocations with the same digests are satisfied alike. -/
theorem unsatisfied_of_unchanged (hs : s.Started cfg) {is : List Invocation}
    (h : ((s.loop run cfg is).step run cfg i).2 = .unchanged rc snap)
    (hst : lastRecorded (s.steps run cfg is) = some st) {a : Apply}
    (ha : st.outcome.pass? = some a) :
    a.snap.unsatisfied = [] ↔ snap.unsatisfied = [] := by
  obtain ⟨hp, hconfig, hruleset⟩ := unchanged_step h
  have hwatching : (s.loop run cfg is).Watching cfg := loop_watching hs.watching is
  have hremembers : Remembers cfg (s.loop run cfg is) (lastRecorded (s.steps run cfg is)) :=
    loop_remembers hs is
  rw [hst] at hremembers
  obtain ⟨rc', snap', r, hr, hrc, hsnap⟩ := hremembers
  obtain rfl : rc = rc' := configDigest_inj (hconfig.trans hrc)
  obtain rfl : snap' = a.snap := by
    rw [hr] at ha
    obtain ⟨pass, -, rfl⟩ := Option.map_eq_some_iff.mp ha
    rfl
  obtain ⟨-, js, htaken⟩ := lastRecorded_taken hst
  have hwatching' : (s.loop run cfg js).Watching cfg := loop_watching hs.watching js
  rw [htaken] at hr
  obtain ⟨p, hp', -, -, -⟩ := reconciled_step hr
  by_cases hlocal : isLocal rc
  · have hwatcher : (s.loop run cfg is).watcher.isSome := by
      rw [hwatching.mode, ← isLocal_of_load hp.load]
      exact hlocal
    obtain ⟨-, raw, hvalid⟩ := load_valid hp.load
    exact (rulesetDigest_inj hvalid hlocal (hp'.plain hwatching') (hp.plain hwatching)
      ((hsnap hwatcher).symm.trans (hruleset hwatcher).symm)).2
  · -- a Cluster snapshot is empty
    have hempty : ∀ {s p : Reload σ} {i : Invocation} {snap : Snapshot},
        s.Watching cfg → Prepared run cfg s i rc p snap → snap.unsatisfied = [] := by
      intro s p i snap hs hp
      have hnone : p.watcher = none := by
        rw [← Option.not_isSome_iff_eq_none, hp.watching, hs.mode, ← isLocal_of_load hp.load]
        exact hlocal
      rw [hp.snapshot, hnone]
      rfl
    exact ⟨fun _ => hempty hwatching hp, fun _ => hempty hwatching' hp'⟩

/-- **What the Lease says.** At an invocation that recorded its digests or found nothing changed,
with `snap` its snapshot and `a` the last apply of the run. -/
theorem lease_says (run : Runner Command σ) (cfg : LoopConfig σ) (s : Reload σ)
    (hs : s.Started cfg) (hheld : s.lease.HeldBy cfg.lease.self) (is : List Invocation)
    (i : Invocation) (snap : Snapshot)
    (h : ((s.loop run cfg is).step run cfg i).2.settled? = some snap) :
    ∃ st a, lastApply (s.steps run cfg (is ++ [i])) = some st ∧ st.outcome.pass? = some a ∧
      (Delivers st.invocation.slotAttempts.1 = true →
        (s.loop run cfg (is ++ [i])).lease.slotState? = slotStateValue a.results) ∧
      (st.records = true →
        ((s.loop run cfg (is ++ [i])).lease.fault? = none ↔ snap.unsatisfied = [])) ∧
      (st.records = false → Delivers st.invocation.faultAttempts.1 = true →
        (((s.loop run cfg (is ++ [i])).lease.fault? = none ↔ snap.unsatisfied = []) ↔
          ((a.err = none ∧ a.snap.unsatisfied = []) ↔ snap.unsatisfied = []))) := by
  have hkept : LeaseKept cfg (s.loop run cfg (is ++ [i])) (s.steps run cfg (is ++ [i])) :=
    loop_leaseKept hheld (is ++ [i])
  suffices hlast : ∃ st, lastApply (s.steps run cfg (is ++ [i])) = some st ∧
      ∀ a, st.outcome.pass? = some a → st.records = true →
        a.err = none ∧ (a.snap.unsatisfied = [] ↔ snap.unsatisfied = []) by
    obtain ⟨st, hst, hrecorded⟩ := hlast
    obtain ⟨a, ha, hwritten⟩ := hkept st hst
    refine ⟨st, a, hst, ha, hwritten.slots, fun hrecords => ?_, fun _ hdelivers => ?_⟩
    · obtain ⟨herr, hsatisfied⟩ := hrecorded a ha hrecords
      rw [hwritten.fault (.inl hrecords), ← hsatisfied]
      exact ⟨fun hclean => hclean.2, fun hnone => ⟨herr, hnone⟩⟩
    · rw [hwritten.fault (.inr hdelivers)]
  have hend : ∀ {rc : RuntimeConfig} {snap' : Snapshot} {r : Reconciled σ},
      ((s.loop run cfg is).step run cfg i).2 = .reconciled rc snap' r → r.records = true →
        (Reload.taken run cfg (s.loop run cfg is) i).records = true := by
    intro rc snap' r houtcome hrecords
    show (match ((s.loop run cfg is).step run cfg i).2 with
      | .reconciled _ _ r => r.records
      | _ => false) = true
    rw [houtcome]
    exact hrecords
  cases houtcome : ((s.loop run cfg is).step run cfg i).2 with
  | notLoaded cause | waitingSync rc snap' | waitingEndpoint rc snap' => rw [houtcome] at h; cases h
  | unchanged rc snap' =>
    rw [houtcome] at h
    cases h
    obtain ⟨recorded, hrecorded⟩ := exists_lastRecorded hs houtcome
    obtain ⟨st, hst⟩ := exists_lastApply hrecorded
    have hnot : ¬ (Reload.taken run cfg (s.loop run cfg is) i).applies = true := by
      show ¬ (Outcome.pass? ((s.loop run cfg is).step run cfg i).2).isSome = true
      rw [houtcome]
      exact Bool.false_ne_true
    refine ⟨st, ?_, fun a ha hrecords => ?_⟩
    · rw [Reload.steps_snoc, lastApply, lastOf_snoc, if_neg hnot]
      exact hst
    · exact ⟨err_of_records (List.mem_filter.mp (List.mem_of_getLast? hst)).1 ha hrecords,
        unsatisfied_of_unchanged hs houtcome (lastRecorded_of_lastApply hst hrecords) ha⟩
  | reconciled rc snap' r =>
    rw [houtcome] at h
    have hrecords : r.records = true ∧ snap' = snap := by
      simpa [Outcome.settled?, Option.ite_none_right_eq_some] using h
    obtain ⟨hrecords, rfl⟩ := hrecords
    refine ⟨Reload.taken run cfg (s.loop run cfg is) i, ?_, fun a ha hrecords' => ?_⟩
    · rw [Reload.steps_snoc, lastApply, lastOf_snoc,
        if_pos (Step.applies_of_records (hend houtcome hrecords))]
    · have hmem : Reload.taken run cfg (s.loop run cfg is) i ∈ s.steps run cfg (is ++ [i]) := by
        rw [Reload.steps_snoc]
        exact List.mem_append_right _ (List.mem_singleton_self _)
      refine ⟨err_of_records hmem ha hrecords', ?_⟩
      have hsnap : a.snap = snap' := by
        have houtcome' : (Reload.taken run cfg (s.loop run cfg is) i).outcome =
            .reconciled rc snap' r := houtcome
        rw [houtcome'] at ha
        obtain ⟨pass, -, rfl⟩ := Option.map_eq_some_iff.mp ha
        rfl
      rw [hsnap]

/-- After the second of two invocations over one config the Lease has the slot states of the first
one's apply, and no fault. -/
theorem lease_says_second :
    ∃ a, firstStep.outcome.pass? = some a ∧
      (begun.loop scripted.logged (sampleLoop none) ([rereading] ++ [rereading])).lease.slotState? =
        slotStateValue a.results ∧
      (begun.loop scripted.logged (sampleLoop none) ([rereading] ++ [rereading])).lease.fault? =
        none := by
  have hunchanged :=
    (recordedOnce_holding.unchanged clusterConfig_applicable.1 (i := rereading) rfl).1
  have hheld : begun.lease.HeldBy (sampleLoop none).lease.self := .inr rfl
  have hsettled : (recordedOnce.step scripted.logged (sampleLoop none) rereading).2.settled? =
      some .empty := by
    rw [hunchanged]
    rfl
  obtain ⟨st, a, hst, ha, hslots, hfault, -⟩ := lease_says scripted.logged (sampleLoop none) begun
    begun_started hheld [rereading] rereading .empty hsettled
  obtain rfl : st = firstStep := by
    rw [lastApply, Reload.steps_snoc, recordedOnce_steps] at hst
    have hmem := (List.mem_filter.mp (List.mem_of_getLast? hst)).1
    rcases List.mem_cons.mp hmem with hfirst | hsecond
    · exact hfirst
    · -- the second invocation applied nothing
      have houtcome : st.outcome = .unchanged (clusterConfig "10.96.0.1") .empty := by
        rw [List.mem_singleton.mp hsecond, Reload.taken, ← recordedOnce, hunchanged]
      rw [houtcome] at ha
      cases ha
  have hrecords : firstStep.records = true := by
    obtain ⟨st, hrecorded⟩ := exists_lastRecorded begun_started hunchanged
    rw [lastRecorded, recordedOnce_steps] at hrecorded
    obtain ⟨hmem, hrecords⟩ := List.mem_filter.mp (List.mem_of_getLast? hrecorded)
    exact List.mem_singleton.mp hmem ▸ hrecords
  exact ⟨a, ha, hslots rfl, (hfault hrecords).mpr rfl⟩

/-- The API server does not answer the publish of the slot states. -/
def unheard : Invocation :=
  { reading (memberConfig 7) with
    slotAttempts :=
      ⟨List.replicate 5 { renewals := [], get := some "timeout", update := .stored }, rfl⟩ }

/-- The invocation recorded, and the Lease does not have the slot states of its apply. -/
def losesStates (out : Reload σ × Outcome σ) : Bool :=
  match out.2 with
  | .reconciled _ _ r =>
    r.records && r.pass.any fun pass => out.1.lease.slotState? ≠ slotStateValue pass.1
  | _ => false

theorem exists_of_losesStates {out : Reload σ × Outcome σ} (h : losesStates out = true) :
    ∃ snap a, out.2.settled? = some snap ∧ out.2.pass? = some a ∧
      out.1.lease.slotState? ≠ slotStateValue a.results := by
  unfold losesStates at h
  split at h
  · rename_i rc snap r houtcome
    rw [Bool.and_eq_true, Option.any_eq_true] at h
    obtain ⟨hrecords, pass, hpass, hstates⟩ := h
    refine ⟨snap, { snap, results := pass.1, err := pass.2 }, ?_, ?_, of_decide_eq_true hstates⟩
    · rw [houtcome, Outcome.settled?, if_pos hrecords]
    · rw [houtcome, Outcome.pass?, hpass]
      rfl
  · cases h

/-- A publish of the slot states that is lost at the invocation which records, and a fault that
outlives the revert of the edit it was for. -/
theorem lease_stale :
    (∃ snap a,
      ((beginning (memberConfig 7) []).step scripted.logged webLoop unheard).2.settled? =
        some snap ∧
      ((beginning (memberConfig 7) []).step scripted.logged webLoop unheard).2.pass? = some a ∧
      ((beginning (memberConfig 7) []).step scripted.logged webLoop unheard).1.lease.slotState? ≠
        slotStateValue a.results) ∧
    (failed.step scripted.logged (sampleLoop none)
      (reading (clusterConfig "10.96.0.1"))).2.settled? = some .empty ∧
      (failed.step scripted.logged (sampleLoop none)
        (reading (clusterConfig "10.96.0.1"))).1.lease.fault? = some faultApplyFailed := by
  have hload : webLoop.load unheard.file = .ok (memberConfig 7) :=
    load_marshal rfl (by decide +kernel)
  have hloses : losesStates (((beginning (memberConfig 7) []).observe webLoop unheard).loaded
      scripted.logged webLoop unheard (memberConfig 7)) = true := by
    decide +kernel
  have hfault : editApply.lease.fault? = some faultApplyFailed := by
    decide +kernel
  obtain ⟨hunchanged, -, hlease⟩ := failed_holding.unchanged clusterConfig_applicable.1
    (i := reading (clusterConfig "10.96.0.1")) rfl
  rw [step_of_load hload, hunchanged, hlease]
  exact ⟨exists_of_losesStates hloses, rfl, hfault⟩

end WireguardGateway.Link

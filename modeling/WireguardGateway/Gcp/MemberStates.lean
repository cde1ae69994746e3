import WireguardGateway.Gcp.Debounce

/-!
# The states of the members

The status gives each member a state. A name without an adopted record is `Pending`, whatever it is
listed as and even if it is not listed; every other name has the state of its `Fate`. What the
documentation says the states mean (`StatesAsDocumented`) speaks of the listings instead. The
Gateway of a run may change its project between two rounds (`ProjectRound`): the records of the
former project stay tracked and are no longer adopted.

Results:
* `NameEnd.member_state`: the state one iteration reports;
* `CompletedLoops.documented_iff`: one name of a completed pass;
* **`member_states_iff`**: exactly when the states mean what the documentation says.
-/

namespace WireguardGateway.Gcp

open Lib

variable {g : Gateway} {e : Env} {snap : Snapshot} {w w' : World} {n : String}

/-! ## The state of one name -/

/-- The state a branch of the walk reports. -/
def Fate.state : Fate → MemberState
  | .resume l _ => resumeState l
  | .depart _ | .lapse | .confirm => .departed
  | .advance => .departing

/-- The state of a name, from the record adopted under it and its listing. -/
def stateOf (adopted : Option Record) (listed : Option ListedMember) : MemberState :=
  match adopted with
  | none => .pending
  | some rec => (fate rec listed).state

/-- **The state one iteration reports.** -/
theorem NameEnd.member_state {names : ManagedResourceNames} {adopted : Option Record}
    {o : NameOutcome} (h : NameEnd g e snap n names adopted w (.ok o) w') {m : MemberStatus}
    (hm : o.member = some m) : m.state = stateOf adopted (snap.listedByName.lookup n) := by
  have hfate : ∀ {rec : Record} {f : Fate}, (f.outcome rec snap names).member = some m →
      m.state = f.state := by
    intro rec f hm
    cases f <;> (cases hm; rfl)
  cases h with
  | unadopted => cases hm; rfl
  | quiet hf | relabelled hf =>
    rw [stateOf, hf]
    exact hfate hm
  | blocked hf | blockedDeleted hf =>
    cases hm
    rw [stateOf, hf]
    rfl
  | released | gone => cases hm

theorem resumeState_eq (l : ListedMember) :
    (resumeState l = .active ∨ resumeState l = .recreating) ∧
      (resumeState l = .recreating ↔ l.action = .recreating) := by
  unfold resumeState
  split
  · exact ⟨.inr rfl, iff_of_true rfl (by assumption)⟩
  · exact ⟨.inl rfl, iff_of_false (by simp) (by assumption)⟩

/-- The release of a record that is pending confirmation goes through. -/
def Released (e : Env) (n : String) (r : Record) : Prop :=
  r.pendingConfirmation = true ∧ releaseBlocked e n = none ∧ e.delete n = .ok

/-- **A name is left out when its record is released.** -/
theorem NameEnd.member_eq_none_iff_released {names : ManagedResourceNames} {rec r : Record}
    {o : NameOutcome} (h : NameEnd g e snap n names (some rec) w (.ok o) w')
    (hl : w.store.lookup names.kubernetesSecretName = some r)
    (hcur : rec.pendingConfirmation = true → r = rec) :
    o.member = none ↔ fate rec (snap.listedByName.lookup n) = .confirm ∧ Released e n rec := by
  have hfate : ∀ f : Fate, (f.outcome rec snap names).member ≠ none := by
    intro f
    cases f <;> exact Option.some_ne_none _
  cases h with
  | quiet hf hne | relabelled hf hne =>
    exact iff_of_false (hfate _) fun h => hne (hf.symm.trans h.1)
  | blocked hf hwhy =>
    refine iff_of_false (Option.some_ne_none _) fun h => hwhy h.2.2.1 h.2.2.2 ?_
    exact Store.isCurrent_iff.mpr ⟨r, hl, by rw [hcur h.2.1], by rw [hcur h.2.1]⟩
  | blockedDeleted hf _ _ hfailed =>
    exact iff_of_false (Option.some_ne_none _) fun h => hfailed h.2.2.2
  | released hf hfree _ hok =>
    exact iff_of_true rfl ⟨hf, (fate_eq_confirm hf).1, hfree, hok⟩
  | gone _ hnone => rw [hnone] at hl; cases hl

/-! ## The members of a result -/

namespace CompletedLoops

variable {a₀ a : Adoption} {new : List (String × Record)} {w₁ : World} {os : List NameOutcome}

/-- A record that is pending confirmation was there before the pass. -/
theorem recordOf_of_pending (h : CompletedLoops g e snap w w' a₀ a new w₁ os) {rec : Record}
    (hrec : a.adopted.lookup n = some rec) (hpending : rec.pendingConfirmation = true) :
    g.recordOf w.store n = some rec := by
  rcases h.lookup_adopted_iff.mp hrec with ⟨key, hp, -⟩ | hbefore
  · obtain ⟨-, l, slot, address, priv, -, -, hfresh⟩ := h.alloc.allocation.fresh _ hp
    rw [show rec = freshRecord g rec.name l snap slot address priv from hfresh] at hpending
    cases hpending
  · exact hbefore

/-- Which name an iteration leaves out. -/
theorem member_eq_none_iff (h : CompletedLoops g e snap w w' a₀ a new w₁ os) {o : NameOutcome}
    (hvisit : Visit g e snap a.adopted w₁ w' n o) :
    o.member = none ↔ ∃ r, g.recordOf w.store n = some r ∧
      fate r (snap.listedByName.lookup n) = .confirm ∧ Released e n r := by
  obtain ⟨names, v₁, v₂, hns, hend, hobj⟩ := hvisit
  cases hrec : a.adopted.lookup n with
  | none =>
    rw [hrec] at hend
    cases hend.eq_of_unadopted.2
    refine iff_of_false (Option.some_ne_none _) ?_
    rintro ⟨r, hr, -⟩
    rw [h.recordOf_of_unadopted hrec] at hr
    cases hr
  | some rec =>
    obtain ⟨key, r, hkey, hl, -, hcase⟩ := h.alloc.stored h.live h.adopted hrec
    obtain rfl : names.kubernetesSecretName = key :=
      Except.ok.inj ((secretName_of_resolveNames hns).symm.trans hkey)
    have hcur : rec.pendingConfirmation = true → r = rec := by
      intro hpending
      rcases hcase with ⟨hp, -⟩ | ⟨hr, -⟩
      · have hbefore := h.recordOf_of_pending hrec hpending
        have hnone := (h.candidate_of_new hp).2
        rw [owns_name (h.alloc.owns h.adopted hrec), hbefore] at hnone
        cases hnone
      · exact hr
    obtain ⟨hbefore, -⟩ := hobj rec hrec
    rw [hrec] at hend
    rw [hend.member_eq_none_iff_released (hbefore.trans hl) hcur]
    constructor
    · rintro ⟨hf, hreleased⟩
      exact ⟨rec, h.recordOf_of_pending hrec hreleased.1, hf, hreleased⟩
    · rintro ⟨r', hr', hf, hreleased⟩
      obtain rfl := Option.some.inj (hrec.symm.trans (h.lookup_adopted_iff.mpr (.inr hr')))
      exact ⟨hf, hreleased⟩

end CompletedLoops

/-! ## What a listing says about a name -/

theorem Round.verdict_eq_departed {r : Round} {s : Store} (hs : r.snapshot g s = some snap)
    {l : ListedMember} (hl : snap.listedByName.lookup n = some l) :
    l.verdict = .departed ↔ l.action.departing := by
  obtain ⟨api, records, -, -, hlist⟩ := Round.snapshot_eq_some hs
  rw [list_members hlist (Snapshot.mem_of_lookup hl).1]
  exact classify_eq_departed

/-- A listed name with a record is on its way out or present: discovery was
told about the record. -/
theorem Round.verdict_recordOf {r : Round} {s : Store} (hs : r.snapshot g s = some snap)
    {rec : Record} (hr : g.recordOf s n = some rec) {l : ListedMember}
    (hl : snap.listedByName.lookup n = some l) (hdep : l.action.departing = false) :
    l.verdict = .present := by
  obtain ⟨api, records, -, hrecs, hlist⟩ := Round.snapshot_eq_some hs
  obtain ⟨hmem, hname⟩ := Snapshot.mem_of_lookup hl
  have htold : ((recordedByName (discoveryRecorded records)).lookup n).isSome := by
    rw [recordedByName, GoMap.lookup_foldl_insert_isSome]
    refine ⟨_, List.mem_map_of_mem (f := fun r : Record => _) (?_ : rec ∈ records), ?_⟩
    · obtain ⟨key, hkey, hlookup, -⟩ := recordOf_eq_some.mp hr
      unfold Gateway.trackedRecords at hrecs
      dsimp only at hrecs
      split at hrecs
      · cases hrecs
        refine List.mem_filterMap.mpr ⟨n, mem_recordNames_of_recordOf hr, ?_⟩
        rw [hkey]
        exact hlookup
      · cases hrecs
    · obtain ⟨-, -, -, hrn⟩ := holds_of_recordOf hr
      exact hrn
  have hverdict := list_members hlist hmem
  rw [hname, htold] at hverdict
  cases hv : l.verdict with
  | present => rfl
  | departed =>
    rw [(r.verdict_eq_departed hs hl).mp hv] at hdep
    cases hdep
  | pending =>
    rw [hv] at hverdict
    exact absurd (classify_eq_pending.mp hverdict.symm).2.2.2 (by simp)

/-! ## The documented states -/

/-- Some record of the Gateway has the name, in whichever project it was made. -/
def HasRecord (g : Gateway) (s : Store) (n : String) : Prop := ∃ key r, g.Holds s key r ∧ r.name = n

/-- What the documentation says of the state of `n` in the result of a pass over `snap` that found
the records `s` and left `s'`. `hist` are the usable listings up to and including `snap`. -/
structure StateAsDocumented (g : Gateway) (hist : List Snapshot) (snap : Snapshot) (s s' : Store)
    (n : String) (state : MemberState) : Prop where
  /-- Pending: listed, without a slot. -/
  pending : state = .pending → (snap.listedByName.lookup n).isSome ∧ g.recordOf s' n = none
  /-- Listed as `DELETING` or `ABANDONING`: Departed. -/
  leaving : ∀ l, snap.listedByName.lookup n = some l → l.action.departing → state = .departed
  /-- Departing: recorded, and missing from the last one or two listings. -/
  departing : state = .departing ↔ HasRecord g s n ∧ 1 ≤ missed hist n ∧ missed hist n ≤ 2
  /-- Active or Recreating: listed (and not on its way out), with a slot. -/
  serving : (state = .active ∨ state = .recreating) ↔
    (∃ l, snap.listedByName.lookup n = some l ∧ l.action.departing = false) ∧
      (g.recordOf s' n).isSome
  /-- Recreating: the listed action says so. -/
  recreating : state = .recreating ↔
    (∃ l, snap.listedByName.lookup n = some l ∧ l.action = .recreating) ∧ (g.recordOf s' n).isSome

/-- What the state of `n` needs beside the listing: `hist` are the usable listings before `snap`,
`s` the records the pass finds. -/
structure StateCovered (g : Gateway) (e : Env) (hist : List Snapshot) (snap : Snapshot) (s : Store)
    (n : String) : Prop where
  /-- A name without a record of its own is listed, and not on its way out. -/
  unrecorded : g.recordOf s n = none →
    ∃ l, snap.listedByName.lookup n = some l ∧ l.action.departing = false
  /-- A recorded name that is not listed has been missing as long as its
  labels say, or is released. -/
  counted : ∀ r, g.recordOf s n = some r → snap.listedByName.lookup n = none → ¬ Released e n r →
    ((r.pendingConfirmation = true ∨ 2 ≤ r.departureCount) ↔ 2 ≤ missed hist n)

theorem fate_unlisted_state (rec : Record) :
    (fate rec none).state =
      if rec.pendingConfirmation = true ∨ 2 ≤ rec.departureCount then .departed
        else .departing := by
  cases hp : rec.pendingConfirmation with
  | true => simp [fate, hp, Fate.state]
  | false =>
    by_cases hc : 2 ≤ rec.departureCount
    · have : rec.departureCount + 1 ≥ 3 := by omega
      simp [fate, hp, hc, this, Fate.state]
    · have : ¬ rec.departureCount + 1 ≥ 3 := by omega
      simp [fate, hp, hc, this, Fate.state]

section

variable {a₀ a : Adoption} {new : List (String × Record)} {w₁ : World} {os : List NameOutcome}
  {hist : List Snapshot} {r : Round} {o : NameOutcome}

theorem missed_snoc_listed {l : ListedMember} (hl : snap.listedByName.lookup n = some l) :
    missed (hist ++ [snap]) n = 0 := by
  rw [missed_snoc, hl]
  rfl

theorem missed_snoc_unlisted (hl : snap.listedByName.lookup n = none) :
    missed (hist ++ [snap]) n = missed hist n + 1 := by
  rw [missed_snoc, hl]
  rfl

namespace CompletedLoops

/-- A name without an adopted record. -/
theorem unadopted_documented_iff (h : CompletedLoops g e snap w w' a₀ a new w₁ os)
    (hrec : a.adopted.lookup n = none) :
    StateAsDocumented g (hist ++ [snap]) snap w.store w'.store n .pending ↔
      StateCovered g e hist snap w.store n := by
  have hbefore := h.recordOf_of_unadopted hrec
  have hafter := h.recordOf_after_of_unadopted hrec
  constructor
  · intro hdoc
    refine ⟨fun _ => ?_, fun r hr => ?_⟩
    · obtain ⟨l, hl⟩ := Option.isSome_iff_exists.mp (hdoc.pending rfl).1
      refine ⟨l, hl, ?_⟩
      by_contra hdep
      rw [Bool.not_eq_false] at hdep
      cases hdoc.leaving l hl hdep
    · rw [hbefore] at hr
      cases hr
  · intro hcov
    obtain ⟨l, hl, hdep⟩ := hcov.unrecorded hbefore
    have hnot : ¬ (g.recordOf w'.store n).isSome := by rw [hafter]; exact Bool.false_ne_true
    refine ⟨fun _ => ⟨by rw [hl]; rfl, hafter⟩, fun l' hl' hdep' => ?_, ?_, ?_, ?_⟩
    · obtain rfl := Option.some.inj (hl.symm.trans hl')
      rw [hdep] at hdep'
      cases hdep'
    · rw [missed_snoc_listed hl]
      exact iff_of_false (by simp) (by simp)
    · exact iff_of_false (by simp) fun h => hnot h.2
    · exact iff_of_false (by simp) fun h => hnot h.2

/-- A recorded name that is not listed. -/
theorem unlisted_documented_iff {rec : Record} (hbefore : g.recordOf w.store n = some rec)
    (hl : snap.listedByName.lookup n = none) (hnot : ¬ Released e n rec) :
    StateAsDocumented g (hist ++ [snap]) snap w.store w'.store n (fate rec none).state ↔
      StateCovered g e hist snap w.store n := by
  obtain ⟨key, -, hheld, hname⟩ := holds_of_recordOf hbefore
  have hhas : HasRecord g w.store n := ⟨key, rec, hheld, hname⟩
  rw [fate_unlisted_state]
  constructor
  · intro hdoc
    refine ⟨fun hnone => absurd (hbefore.symm.trans hnone) (by simp), fun r hr _ _ => ?_⟩
    obtain rfl := Option.some.inj (hbefore.symm.trans hr)
    have hdeparting := hdoc.departing
    rw [missed_snoc_unlisted hl] at hdeparting
    by_cases hgone : rec.pendingConfirmation = true ∨ 2 ≤ rec.departureCount
    · rw [if_pos hgone] at hdeparting
      refine iff_of_true hgone ?_
      by_contra hlt
      cases hdeparting.mpr ⟨hhas, by omega, by omega⟩
    · rw [if_neg hgone] at hdeparting
      refine iff_of_false hgone ?_
      have := (hdeparting.mp rfl).2.2
      omega
  · intro hcov
    have hcounted := hcov.counted rec hbefore hl hnot
    have hunlisted : ∀ {l : ListedMember}, snap.listedByName.lookup n ≠ some l := by simp [hl]
    by_cases hgone : rec.pendingConfirmation = true ∨ 2 ≤ rec.departureCount
    · rw [if_pos hgone]
      have hmissed := hcounted.mp hgone
      refine ⟨(fun h => nomatch h), fun l hl' => absurd hl' hunlisted, ?_, ?_, ?_⟩
      · rw [missed_snoc_unlisted hl]
        exact iff_of_false (by simp) fun h => by omega
      · exact iff_of_false (by simp) fun ⟨⟨_, hl', _⟩, _⟩ => hunlisted hl'
      · exact iff_of_false (by simp) fun ⟨⟨_, hl', _⟩, _⟩ => hunlisted hl'
    · rw [if_neg hgone]
      have hmissed := mt hcounted.mpr hgone
      refine ⟨(fun h => nomatch h), fun l hl' => absurd hl' hunlisted, ?_, ?_, ?_⟩
      · rw [missed_snoc_unlisted hl]
        exact iff_of_true rfl ⟨hhas, by omega, by omega⟩
      · exact iff_of_false (by simp) fun ⟨⟨_, hl', _⟩, _⟩ => hunlisted hl'
      · exact iff_of_false (by simp) fun ⟨⟨_, hl', _⟩, _⟩ => hunlisted hl'

/-- A listed name with an adopted record: nothing else is needed. -/
theorem listed_documented_iff (h : CompletedLoops g e snap w w' a₀ a new w₁ os)
    (hs : r.snapshot g w.store = some snap) {rec : Record} {l : ListedMember}
    (hrec : a.adopted.lookup n = some rec) (hl : snap.listedByName.lookup n = some l)
    (hvisit : Visit g e snap a.adopted w₁ w' n o) :
    StateAsDocumented g (hist ++ [snap]) snap w.store w'.store n (fate rec (some l)).state ↔
      StateCovered g e hist snap w.store n := by
  suffices hboth : StateAsDocumented g (hist ++ [snap]) snap w.store w'.store n
      (fate rec (some l)).state ∧ StateCovered g e hist snap w.store n from
    iff_of_true hboth.1 hboth.2
  have hlisted : ∀ {l'}, snap.listedByName.lookup n = some l' → l' = l := fun hl' =>
    Option.some.inj (hl'.symm.trans hl)
  have hcreated : g.recordOf w.store n = none → l.verdict = .present := by
    intro hnone
    rcases h.lookup_adopted_iff.mp hrec with ⟨key, hp, rfl⟩ | hbefore
    · obtain ⟨⟨l', hl', hv⟩, -⟩ := h.candidate_of_new hp
      exact hlisted hl' ▸ hv
    · rw [hnone] at hbefore
      cases hbefore
  cases hdep : l.action.departing with
  | true =>
    have hv := (r.verdict_eq_departed hs hl).mpr hdep
    have hstate : (fate rec (some l)).state = .departed := by
      cases hp : rec.pendingConfirmation <;> simp [fate, hp, hv, Option.filter_some, Fate.state]
    rw [hstate]
    refine ⟨⟨(fun h => by cases h), fun _ _ _ => rfl, ?_, ?_, ?_⟩, fun hnone => ?_,
      fun _ _ hnone => ?_⟩
    · rw [missed_snoc_listed hl]
      exact iff_of_false (by simp) (by simp)
    · refine iff_of_false (by simp) ?_
      rintro ⟨⟨l', hl', hdep'⟩, -⟩
      rw [hlisted hl', hdep] at hdep'
      cases hdep'
    · refine iff_of_false (by simp) ?_
      rintro ⟨⟨l', hl', haction⟩, -⟩
      rw [hlisted hl'] at haction
      rw [haction] at hdep
      cases hdep
    · rw [hcreated hnone] at hv
      cases hv
    · rw [hl] at hnone
      cases hnone
  | false =>
    have hv : l.verdict = .present := by
      cases hbefore : g.recordOf w.store n with
      | none => exact hcreated hbefore
      | some r' => exact r.verdict_recordOf hs hbefore hl hdep
    obtain ⟨-, r', -, hafter, -⟩ := h.present_after hl hv hrec hvisit
    have hsome : (g.recordOf w'.store n).isSome := by rw [hafter]; rfl
    obtain ⟨hserving, hrecreating⟩ := resumeState_eq l
    rw [show (fate rec (some l)).state = resumeState l from by rw [fate_present hv]; rfl]
    refine ⟨⟨fun hp => ?_, fun l' hl' hdep' => ?_, ?_, ?_, ?_⟩, fun _ => ⟨l, hl, hdep⟩,
      fun _ _ hnone => ?_⟩
    · rw [hp] at hserving
      simp at hserving
    · rw [hlisted hl', hdep] at hdep'
      cases hdep'
    · rw [missed_snoc_listed hl]
      refine iff_of_false (fun hd => ?_) (by simp)
      rw [hd] at hserving
      simp at hserving
    · exact iff_of_true hserving ⟨⟨l, hl, hdep⟩, hsome⟩
    · rw [hrecreating]
      refine ⟨fun haction => ⟨⟨l, hl, haction⟩, hsome⟩, ?_⟩
      rintro ⟨⟨l', hl', haction⟩, -⟩
      rw [← hlisted hl']
      exact haction
    · rw [hl] at hnone
      cases hnone

/-- **The state of one name.** -/
theorem documented_iff (h : CompletedLoops g e snap w w' a₀ a new w₁ os)
    (hs : r.snapshot g w.store = some snap) (hvisit : Visit g e snap a.adopted w₁ w' n o) :
    (∀ m, o.member = some m →
      StateAsDocumented g (hist ++ [snap]) snap w.store w'.store m.name m.state) ↔
      StateCovered g e hist snap w.store n := by
  have hnone := h.member_eq_none_iff hvisit
  cases hm : o.member with
  | none =>
    obtain ⟨r, hr, -, hreleased⟩ := hnone.mp hm
    refine iff_of_true (fun m hm => nomatch hm) ⟨fun hr' => ?_, fun r' hr' _ hnot => ?_⟩
    · rw [hr] at hr'
      cases hr'
    · rw [Option.some.inj (hr.symm.trans hr')] at hreleased
      exact absurd hreleased hnot
  | some m =>
    have ⟨names, v₁, v₂, hns, hend, _⟩ := hvisit
    obtain rfl : m.name = n :=
      hend.member_name (fun rec hrec => owns_name (h.alloc.owns h.adopted hrec)) hm
    have hstate := hend.member_state hm
    have hone : ∀ P : MemberStatus → Prop, (∀ m', some m = some m' → P m') ↔ P m := fun P =>
      ⟨fun hP => hP m rfl, fun hP m' hm' => Option.some.inj hm' ▸ hP⟩
    rw [hone, hstate]
    cases hrec : a.adopted.lookup m.name with
    | none => exact h.unadopted_documented_iff hrec
    | some rec =>
      cases hl : snap.listedByName.lookup m.name with
      | some l => exact h.listed_documented_iff hs hrec hl hvisit
      | none =>
        have hbefore : g.recordOf w.store m.name = some rec := by
          rcases h.lookup_adopted_iff.mp hrec with ⟨key, hp, hname⟩ | hbefore
          · obtain ⟨⟨l, hl', -⟩, -⟩ := h.candidate_of_new hp
            rw [hname, hl] at hl'
            cases hl'
          · exact hbefore
        refine unlisted_documented_iff hbefore hl fun hreleased => ?_
        have hconfirm : fate rec (snap.listedByName.lookup m.name) = .confirm := by
          rw [hl]
          simp [fate, hreleased.1]
        rw [hnone.mpr ⟨rec, hbefore, hconfirm, hreleased⟩] at hm
        cases hm

end CompletedLoops

/-- The states of all members of a result. -/
def StatesAsDocumented (g : Gateway) (hist : List Snapshot) (snap : Snapshot) (s s' : Store)
    (members : List MemberStatus) : Prop :=
  ∀ m ∈ members, StateAsDocumented g hist snap s s' m.name m.state

/-- Every name of the pass. -/
def StatesCovered (g : Gateway) (e : Env) (hist : List Snapshot) (snap : Snapshot)
    (s : Store) : Prop :=
  ∀ n ∈ allNames snap (g.recordNames s), StateCovered g e hist snap s n

/-- **The states of one completed pass.** -/
theorem PassEnd.documented_iff (he : r.env.Live) (hs : r.snapshot g w.store = some snap)
    {targetSize : Int} {res : Result} (h : PassEnd g r.env snap targetSize w (.ok res) w') :
    StatesAsDocumented g (hist ++ [snap]) snap w.store w'.store res.members ↔
      StatesCovered g r.env hist snap w.store := by
  obtain ⟨a₀, a, new, w₁, os, hpass, rfl⟩ := h.loops he
  rw [Result.foldl_add]
  constructor
  · intro hdoc n hn
    obtain ⟨o, ho, hvisit⟩ := hpass.visit_of_name hn
    exact (hpass.documented_iff hs hvisit).mp fun m hm =>
      hdoc m (List.mem_filterMap.mpr ⟨o, ho, hm⟩)
  · intro hcov m hm
    obtain ⟨o, ho, hom⟩ := List.mem_filterMap.mp hm
    obtain ⟨n, hn, hvisit⟩ := hpass.visit_of_outcome ho
    exact (hpass.documented_iff hs hvisit).mpr (hcov n hn) m hom

end

/-! ## Runs in which the project may change -/

/-- A round in the project the Gateway has at the time. -/
structure ProjectRound where
  project : String
  round : Round

namespace ProjectRound

/-- The Gateway of the round. -/
def gateway (g : Gateway) (x : ProjectRound) : Gateway := { g with project := x.project }

def exec (g : Gateway) (x : ProjectRound) (w : World) : Except PassError Result × World :=
  x.round.exec (x.gateway g) w

def step (g : Gateway) (w : World) (x : ProjectRound) : World := (x.exec g w).2

def snapshot (g : Gateway) (x : ProjectRound) (s : Store) : Option Snapshot :=
  x.round.snapshot (x.gateway g) s

end ProjectRound

/-- The world after a run. -/
def runProjects (g : Gateway) (w : World) (xs : List ProjectRound) : World :=
  replay (ProjectRound.step g) w xs

/-- The usable listings of a run, oldest first. -/
def listings (g : Gateway) : World → List ProjectRound → List Snapshot
  | _, [] => []
  | w, x :: xs => (x.snapshot g w.store).toList ++ listings g (x.step g w) xs

/-- **The member states mean what the documentation says** in the result of a completed round, from
any store a run reaches, exactly when every name is covered: a name without a record of the current
project is listed and not on its way out, and a recorded name that is not listed is released or has
been missing from three listings in a row if and only if its labels say it is gone. -/
theorem member_states_iff (g : Gateway) (w₀ : World) (xs : List ProjectRound) (x : ProjectRound)
    (he : x.round.env.Live) (snap : Snapshot) (res : Result) (w' : World)
    (hs : x.snapshot g (runProjects g w₀ xs).store = some snap)
    (hok : x.exec g (runProjects g w₀ xs) = (.ok res, w')) :
    StatesAsDocumented (x.gateway g) (listings g w₀ xs ++ [snap]) snap (runProjects g w₀ xs).store
        w'.store res.members ↔
      StatesCovered (x.gateway g) x.round.env (listings g w₀ xs) snap
        (runProjects g w₀ xs).store := by
  rcases x.round.exec_cases (x.gateway g) (runProjects g w₀ xs) with
    ⟨hnone, -⟩ | ⟨snap', ts, hs', hend⟩
  · rw [show x.round.snapshot (x.gateway g) _ = some snap from hs] at hnone
    cases hnone
  · obtain rfl := Option.some.inj (hs.symm.trans hs')
    rw [show x.round.exec (x.gateway g) _ = (.ok res, w') from hok] at hend
    exact hend.documented_iff he hs

/-- A round of the small fleet in its own project. -/
def inProject (r : Round) : ProjectRound := { project := fleet.project, round := r }

/-- `a` is listed once. -/
def listedRun : List ProjectRound := [inProject (seesA (.calm .live) .none)]

/-- Missing for the first time, `a` is reported as documented. -/
theorem member_states_iff_listedRun :
    ∃ snap res w', (inProject (seesNothing (.calm .live))).exec fleet
        (runProjects fleet emptyWorld listedRun) = (.ok res, w') ∧
      res.members.map (fun m => (m.name, m.state)) = [("a", .departing)] ∧
      StatesAsDocumented fleet (listings fleet emptyWorld listedRun ++ [snap]) snap
        (runProjects fleet emptyWorld listedRun).store w'.store res.members := by
  have hnames : ((inProject (seesNothing (.calm .live))).snapshot fleet
      (runProjects fleet emptyWorld listedRun).store).map (fun snap =>
        allNames snap (fleet.recordNames (runProjects fleet emptyWorld listedRun).store)) =
      some ["a"] := by decide +kernel
  have hstates : ((inProject (seesNothing (.calm .live))).exec fleet
      (runProjects fleet emptyWorld listedRun)).1.map (fun res =>
        res.members.map fun m => (m.name, m.state)) = .ok [("a", .departing)] := by decide +kernel
  have hrecord : (fleet.recordOf (runProjects fleet emptyWorld listedRun).store "a").map
      (fun r => (r.pendingConfirmation, r.departureCount)) = some (false, 0) := by decide +kernel
  obtain ⟨snap, hs, hall⟩ := Option.map_eq_some_iff.mp hnames
  rcases hok : (inProject (seesNothing (.calm .live))).exec fleet
    (runProjects fleet emptyWorld listedRun) with ⟨err | res, w'⟩
  · rw [hok] at hstates
    cases hstates
  rw [hok] at hstates
  refine ⟨snap, res, w', rfl, Except.ok.inj hstates,
    (member_states_iff fleet emptyWorld listedRun _ EnvOf.calm_live snap res w' hs hok).mpr ?_⟩
  intro n hn
  have hn' : n ∈ ["a"] := hall ▸ hn
  obtain rfl := List.mem_singleton.mp hn'
  obtain ⟨r, hr, hlabels⟩ := Option.map_eq_some_iff.mp hrecord
  refine ⟨fun hnone => absurd (hr.symm.trans hnone) (by simp), fun r' hr' _ _ => ?_⟩
  obtain rfl := Option.some.inj (hr.symm.trans hr')
  obtain ⟨hpending, hcount⟩ := Prod.mk.inj hlabels
  refine iff_of_false ?_ (by decide +kernel)
  rw [hpending, hcount]
  decide

/-! ## Where the states mean something else -/

/-- A round from the end of a run completes with a state the documentation does not give it. -/
def Misreports (xs : List ProjectRound) (x : ProjectRound) : Prop :=
  ∃ snap res w', x.snapshot fleet (runProjects fleet emptyWorld xs).store = some snap ∧
    x.exec fleet (runProjects fleet emptyWorld xs) = (.ok res, w') ∧
    ¬ StatesAsDocumented (x.gateway fleet) (listings fleet emptyWorld xs ++ [snap]) snap
      (runProjects fleet emptyWorld xs).store w'.store res.members

/-- The listed action of `a` in the round, the listings that `a` was missing
from, and the states. -/
def observed (xs : List ProjectRound) (x : ProjectRound) :
    Option (Option MemberAction × Nat × List (String × MemberState)) :=
  (x.snapshot fleet (runProjects fleet emptyWorld xs).store).bind fun snap =>
    (x.exec fleet (runProjects fleet emptyWorld xs)).1.toOption.map fun res =>
      ((snap.listedByName.lookup "a").map (·.action),
        missed (listings fleet emptyWorld xs ++ [snap]) "a",
        res.members.map fun m => (m.name, m.state))

theorem misreports_of_observed {xs : List ProjectRound} {x : ProjectRound}
    {action : Option MemberAction} {k : Nat} {state : MemberState}
    (h : observed xs x = some (action, k, [("a", state)]))
    (hbad : ∀ snap s', (snap.listedByName.lookup "a").map (·.action) = action →
      missed (listings fleet emptyWorld xs ++ [snap]) "a" = k →
      ¬ StateAsDocumented (x.gateway fleet) (listings fleet emptyWorld xs ++ [snap]) snap
        (runProjects fleet emptyWorld xs).store s' "a" state) : Misreports xs x := by
  obtain ⟨snap, hs, h⟩ := Option.bind_eq_some_iff.mp h
  rcases hok : x.exec fleet (runProjects fleet emptyWorld xs) with ⟨err | res, w'⟩
  · rw [hok] at h
    cases h
  rw [hok] at h
  obtain ⟨haction, h⟩ := Prod.mk.inj (Option.some.inj h)
  obtain ⟨hmissed, hstates⟩ := Prod.mk.inj h
  refine ⟨snap, res, w', hs, hok, fun hdoc => hbad snap w'.store haction hmissed ?_⟩
  obtain ⟨m, hm, hpair⟩ : ∃ m ∈ res.members, (m.name, m.state) = ("a", state) := by
    have hmem : ("a", state) ∈ res.members.map fun m => (m.name, m.state) := by
      rw [hstates]
      exact List.mem_singleton_self _
    exact List.mem_map.mp hmem
  obtain ⟨hname, hstate⟩ := Prod.mk.inj hpair
  rw [← hname, ← hstate]
  exact hdoc m hm

/-- A round after the Gateway moved to another project; nothing is listed there. -/
def movedRound : ProjectRound := { project := "q", round := seesNothing (.calm .live) }

/-- `a` is listed, then twice as `DELETING`: its record is marked and then released. -/
def releasedRun : List ProjectRound :=
  listedRun ++ [inProject (seesA (.calm .live) .deleting),
    inProject (seesA (.calm .live) .deleting)]

/-- `a` is listed, and then as `DELETING`. -/
def leavingRun : List ProjectRound := listedRun ++ [inProject (seesA (.calm .live) .deleting)]

/-- `a` is no longer listed, and its resources are still there. -/
def vanishedRound : ProjectRound :=
  inProject (seesNothing { EnvOf.calm .live with confirm := fun _ => .ok (false, "still there") })

/-- **Three states that mean something else.** After the Gateway moved to another project, `a` is
`Pending` though nothing lists it. Once its record is released, `a` is `Pending` though it is still
listed as `DELETING`. And `a` is `Departed` in the first listing it is missing from, because it was
listed as `DELETING` before. -/
theorem states_misreported :
    Misreports listedRun movedRound ∧
      Misreports releasedRun (inProject (seesA (.calm .live) .deleting)) ∧
      Misreports leavingRun vanishedRound := by
  refine ⟨?_, ?_, ?_⟩
  · refine misreports_of_observed
      (by decide +kernel : observed listedRun _ = some (none, 1, [("a", .pending)])) ?_
    intro snap s' haction _ hdoc
    have hlisted := (hdoc.pending rfl).1
    rw [Option.map_eq_none_iff.mp haction] at hlisted
    cases hlisted
  · refine misreports_of_observed
      (by decide +kernel : observed releasedRun _ = some (some .deleting, 0, [("a", .pending)])) ?_
    intro snap s' haction _ hdoc
    obtain ⟨l, hl, hdeleting⟩ := Option.map_eq_some_iff.mp haction
    cases hdoc.leaving l hl (by rw [hdeleting]; rfl)
  · refine misreports_of_observed
      (by decide +kernel : observed leavingRun _ = some (none, 1, [("a", .departed)])) ?_
    intro snap s' _ hmissed hdoc
    have hrecord : (fleet.recordOf (runProjects fleet emptyWorld leavingRun).store "a").isSome := by
      decide +kernel
    obtain ⟨r, hr⟩ := Option.isSome_iff_exists.mp hrecord
    obtain ⟨key, -, hheld, hname⟩ := holds_of_recordOf hr
    cases hdoc.departing.mpr ⟨⟨key, r, hheld, hname⟩, by omega, by omega⟩

end WireguardGateway.Gcp

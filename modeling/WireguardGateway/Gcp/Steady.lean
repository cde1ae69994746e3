import WireguardGateway.Gcp.PassResult

/-!
# A steady fleet

A pass over a snapshot that lists every recorded member as present refreshes each record once. Run
again over the same snapshot, it finds every label as reported, no candidate it has a slot for, and
nothing to confirm.

Results:
* `resumeEdits_settled`: a refreshed record needs no further label;
* `CompletedLoops.settled`: what a pass reports of a name can be read off the record it leaves;
* `reconcileSnapshot_idle`: a pass over settled records writes nothing;
* **`reconcile_again`**: the second of two passes over one snapshot returns what the first returned,
  and leaves the world as it is.
-/

namespace WireguardGateway.Gcp

open Lib Lib.Prog

variable {g : Gateway} {e : Env} {snap : Snapshot} {w w' : World} {n : String} {o o' : NameOutcome}

/-! ## A refreshed record -/

theorem changed_applied (recorded reported : String) :
    changed ((changed recorded reported).getD recorded) reported = none := by
  by_cases h : reported ≠ "" ∧ reported ≠ recorded
  · rw [show changed recorded reported = some reported from if_pos h]
    exact changed_self reported
  · rw [show changed recorded reported = none from if_neg h]
    exact if_neg h

/-- **Nothing is left to write to a record that was just refreshed.** -/
theorem resumeEdits_settled {rec r : Record} {l : ListedMember}
    (h : r.content = (resumeEdits rec l snap rec.pendingConfirmation).record.content) :
    r.pendingConfirmation = false ∧ (resumeEdits r l snap false).labels = [] := by
  rw [resumeEdits_record_eq] at h
  have hname : r.content.name = rec.name := by rw [h]; rfl
  have hpending : r.content.pendingConfirmation = false := by rw [h]; exact Bool.and_not_self _
  have hcount : r.content.departureCount = 0 := by rw [h]; rfl
  have haddress : r.content.externalAddress = ((snap.details.lookup rec.name).bind fun d =>
      changed rec.externalAddress d.externalAddress).getD rec.externalAddress := by rw [h]; rfl
  have hid : r.content.instanceID = (changed rec.instanceID l.instanceID).getD rec.instanceID := by
    rw [h]; rfl
  have hzone : r.content.zone = (changed rec.zone l.zone).getD rec.zone := by rw [h]; rfl
  have hrevision : r.content.revision =
      (changed rec.revision l.templateRevision).getD rec.revision := by rw [h]; rfl
  simp only [Record.content] at hname hpending hcount haddress hid hzone hrevision
  have hdetail : ((snap.details.lookup r.name).bind fun d =>
      changed r.externalAddress d.externalAddress) = none := by
    rw [hname, haddress]
    cases snap.details.lookup rec.name with
    | none => rfl
    | some d => exact changed_applied _ _
  refine ⟨hpending, ?_⟩
  have hid' : changed r.instanceID l.instanceID = none := by rw [hid, changed_applied]
  have hzone' : changed r.zone l.zone = none := by rw [hzone, changed_applied]
  have hrevision' : changed r.revision l.templateRevision = none := by
    rw [hrevision, changed_applied]
  simp [resumeEdits, Edits.put, hcount, hdetail, hid', hzone', hrevision']

/-! ## What a pass reports, from the record it leaves -/

/-- A record the walk leaves alone: listed as present, with every label as reported. -/
def Quiet (snap : Snapshot) (n : String) (r : Record) : Prop :=
  ∃ l, snap.listedByName.lookup n = some l ∧ l.verdict = .present ∧
    r.pendingConfirmation = false ∧ (resumeEdits r l snap false).labels = []

/-- What a pass that lists every recorded member as present reports of `n`. -/
inductive Settled (g : Gateway) (snap : Snapshot) (s : Store) (n : String) : NameOutcome → Prop
  | pending (hnone : g.recordOf s n = none) :
      Settled g snap s n { member := some (pendingMember n), rendered := none }
  | present {r : Record} {l : ListedMember} {names : ManagedResourceNames}
      (hr : g.recordOf s n = some r) (hl : snap.listedByName.lookup n = some l)
      (hns : g.resolveNames n = .ok names) :
      Settled g snap s n
        { member := some (buildMemberStatus r l.zone l.templateRevision (resumeState l) "")
          rendered := some (buildPeer r, rosterEntry r names) }

theorem Settled.unique {s : Store} (h : Settled g snap s n o) (h' : Settled g snap s n o') :
    o = o' := by
  cases h with
  | pending hnone =>
    cases h' with
    | pending => rfl
    | present hr => exact absurd (hnone.symm.trans hr) (by simp)
  | present hr hl hns =>
    cases h' with
    | pending hnone => exact absurd (hnone.symm.trans hr) (by simp)
    | present hr' hl' hns' =>
      obtain rfl := Option.some.inj (hr.symm.trans hr')
      obtain rfl := Option.some.inj (hl.symm.trans hl')
      obtain rfl := Except.ok.inj (hns.symm.trans hns')
      rfl

/-- The report of a refresh depends on the content of the record it leaves. -/
theorem settled_resume {s : Store} {rec r : Record} {l : ListedMember}
    {names : ManagedResourceNames}
    {p : Bool} (hr : g.recordOf s n = some r) (hl : snap.listedByName.lookup n = some l)
    (hns : g.resolveNames n = .ok names)
    (hcontent : r.content = (resumeEdits rec l snap p).record.content) :
    Settled g snap s n ((Fate.resume l p).outcome rec snap names) := by
  have houtcome : (Fate.resume l p).outcome rec snap names =
      { member := some (buildMemberStatus r l.zone l.templateRevision (resumeState l) "")
        rendered := some (buildPeer r, rosterEntry r names) } := by
    simp only [Fate.outcome]
    rw [show buildMemberStatus (resumeEdits rec l snap p).record _ _ _ _ =
        buildMemberStatus (resumeEdits rec l snap p).record.content l.zone l.templateRevision
          (resumeState l) "" from rfl,
      show buildPeer (resumeEdits rec l snap p).record =
        buildPeer (resumeEdits rec l snap p).record.content from rfl,
      show rosterEntry (resumeEdits rec l snap p).record names =
        rosterEntry (resumeEdits rec l snap p).record.content names from rfl, ← hcontent]
    rfl
  rw [houtcome]
  exact .present hr hl hns

/-- Every recorded name is listed as present. -/
def AllPresent (snap : Snapshot) (names : List String) : Prop :=
  ∀ n ∈ names, ∃ l, snap.listedByName.lookup n = some l ∧ l.verdict = .present

namespace CompletedLoops

variable {a₀ a : Adoption} {new : List (String × Record)} {w₁ : World} {os : List NameOutcome}
  (h : CompletedLoops g e snap w w' a₀ a new w₁ os)
    (hpresent : AllPresent snap (g.recordNames w.store))

include h hpresent

theorem present_of_adopted {rec : Record}
    (hrec : a.adopted.lookup n = some rec) :
    ∃ l, snap.listedByName.lookup n = some l ∧ l.verdict = .present := by
  rcases h.lookup_adopted_iff.mp hrec with ⟨key, hp, rfl⟩ | hbefore
  · exact (h.candidate_of_new hp).1
  · exact hpresent n (mem_recordNames_of_recordOf hbefore)

/-- **What the first pass reports**, from the records it leaves. -/
theorem settled (hvisit : Visit g e snap a.adopted w₁ w' n o) : Settled g snap w'.store n o := by
  cases hrec : a.adopted.lookup n with
  | none =>
    have ⟨names, v₁, v₂, _, hend, _⟩ := hvisit
    rw [hrec] at hend
    cases hend.eq_of_unadopted.2
    exact .pending (h.recordOf_after_of_unadopted hrec)
  | some rec =>
    obtain ⟨l, hl, hv⟩ := h.present_of_adopted hpresent hrec
    obtain ⟨names, r, hns, hr, hcontent, rfl⟩ := h.present_after hl hv hrec hvisit
    exact settled_resume hr hl hns hcontent

/-- The records the first pass leaves need nothing. -/
theorem quiet_after {r : Record}
    (hr : g.recordOf w'.store n = some r) :
    Quiet snap n r := by
  cases hrec : a.adopted.lookup n with
  | none => exact absurd ((h.recordOf_after_of_unadopted hrec).symm.trans hr) (by simp)
  | some rec =>
    obtain ⟨l, hl, hv⟩ := h.present_of_adopted hpresent hrec
    obtain ⟨o, -, hvisit⟩ := h.visit_of_name (h.name_of_adopted hrec)
    obtain ⟨names, r', -, hr', hcontent, -⟩ := h.present_after hl hv hrec hvisit
    obtain rfl := Option.some.inj (hr.symm.trans hr')
    obtain ⟨hpending, hlabels⟩ := resumeEdits_settled hcontent
    exact ⟨l, hl, hv, hpending, hlabels⟩

/-- The names of the records the first pass leaves are listed. -/
theorem listed_after (hn : n ∈ g.recordNames w'.store) :
    (snap.listedByName.lookup n).isSome := by
  obtain ⟨hne, r, hr, huid, rfl⟩ := Gateway.mem_recordNames.mp hn
  obtain ⟨key, hl⟩ := Store.mem_records.mp hr
  by_cases hnew : key ∈ new.map Prod.fst
  · obtain ⟨p, hp, rfl⟩ := List.mem_map.mp hnew
    obtain ⟨c, hc⟩ := h.lookup_new hp
    obtain rfl := Option.some.inj (hl.symm.trans hc)
    obtain ⟨⟨l, hlisted, -⟩, -⟩ := h.candidate_of_new hp
    rw [show (p.2.assign c).name = p.2.name from rfl, hlisted]
    rfl
  · obtain ⟨r₀, hr₀, hid⟩ := h.walk.origin hl
    rw [h.alloc.allocation.lookup_of_notMem hnew] at hr₀
    obtain ⟨l, hlisted, -⟩ := hpresent r.name (Gateway.mem_recordNames.mpr
      ⟨hne, r₀, Store.mem_records.mpr ⟨key, hr₀⟩, hid.gatewayUID.symm.trans huid, hid.name.symm⟩)
    rw [hlisted]
    rfl

/-- **A candidate of the second pass finds no slot.** -/
theorem slot_after (hown : Unshared g snap w.store) {l : ListedMember}
    (hl : snap.listedByName.lookup n = some l) (hv : l.verdict = .present)
    (hnone : g.recordOf w'.store n = none) {i : Nat} (hi : i < g.capacity) :
    ∃ m r, g.recordOf w'.store m = some r ∧ r.slot = (i : Int) := by
  have hrec : a.adopted.lookup n = none := by
    cases hrec : a.adopted.lookup n with
    | none => rfl
    | some rec =>
      obtain ⟨o, -, hvisit⟩ := h.visit_of_name (h.name_of_adopted hrec)
      obtain ⟨-, r, -, hr, -⟩ := h.present_after hl hv hrec hvisit
      exact absurd (hnone.symm.trans hr) (by simp)
  obtain ⟨m, rec, hm, hslot⟩ := h.slot_adopted (h.exhausted_of_unadopted hown hl hv hrec) hi
  obtain ⟨l', hl', hv'⟩ := h.present_of_adopted hpresent hm
  obtain ⟨o, -, hvisit⟩ := h.visit_of_name (h.name_of_adopted hm)
  obtain ⟨-, r, -, hr, hcontent, -⟩ := h.present_after hl' hv' hm hvisit
  refine ⟨m, r, hr, ?_⟩
  rw [(Record.identity_of_content hcontent).2.1, resumeEdits_record_eq]
  exact hslot

end CompletedLoops

/-! ## A pass that finds nothing to do -/

theorem allocate_exhausted {a : Adoption} (hfree : freeSlots a.occupied g.capacity = [])
    (n : String) (w : World) : allocate g e snap a n w = (.ok a, w) := by
  unfold allocate
  cases snap.listedByName.lookup n with
  | none => rfl
  | some l => simp only [tryAllocate, lowestFreeSlot_eq, hfree]; rfl

theorem foldlM_allocate_exhausted {a : Adoption} (hfree : freeSlots a.occupied g.capacity = []) :
    ∀ (ns : List String) (w : World), ns.foldlM (allocate g e snap) a w = (.ok a, w)
  | [], _ => rfl
  | n :: ns, w => by
    rw [foldlM_cons, allocate_exhausted hfree]
    exact foldlM_allocate_exhausted hfree ns w

/-- The walk over quiet records changes nothing. -/
theorem Walk.quiet {adopted : GoMap String Record} {ns : List String} {os : List NameOutcome}
    {u : Except PassError Unit} (h : Walk g e snap adopted ns w os u w')
    (hadopted : ∀ n, adopted.lookup n = g.recordOf w.store n)
    (hquiet : ∀ n r, g.recordOf w.store n = some r → Quiet snap n r) :
    w' = w ∧ u = .ok () ∧ List.Forall₂ (Settled g snap w.store) ns os := by
  have hone : ∀ {n names} {v v' : World} {x : Except PassError NameOutcome},
      g.resolveNames n = .ok names → NameEnd g e snap n names (adopted.lookup n) v x v' →
      v' = v ∧ ∃ o, x = .ok o ∧ Settled g snap w.store n o := by
    intro n names v v' x hns hend
    cases hr : g.recordOf w.store n with
    | none =>
      rw [hadopted, hr] at hend
      obtain ⟨rfl, rfl⟩ := hend.eq_of_unadopted
      exact ⟨rfl, _, rfl, .pending hr⟩
    | some r =>
      obtain ⟨l, hl, hv, hpending, hlabels⟩ := hquiet n r hr
      have hf : fate r (snap.listedByName.lookup n) = .resume l false := by
        rw [hl, fate_present hv, hpending]
      rw [hadopted, hr] at hend
      obtain ⟨rfl, rfl⟩ := hend.eq_of_quiet hf (by simp) hlabels
      refine ⟨rfl, _, rfl, settled_resume hr hl hns ?_⟩
      rw [resumeEdits_record, hlabels]
      rfl
  clear hadopted hquiet
  induction h with
  | nil => exact ⟨rfl, rfl, .nil⟩
  | cons hns head _ ih =>
    obtain ⟨rfl, o, ho, hsettled⟩ := hone hns head
    cases ho
    obtain ⟨hw, hu, hos⟩ := ih hone
    exact ⟨hw, hu, .cons hsettled hos⟩
  | stop hns head =>
    obtain ⟨-, o, ho, -⟩ := hone hns head
    cases ho

/-- **A pass over quiet records writes nothing**, when no candidate has a slot. -/
theorem reconcileSnapshot_idle (hlist : e.listRead = .live) (hget : ∀ n, e.getRead n = .live)
    (hnames : ∀ n ∈ allNames snap (g.recordNames w.store), ∃ names, g.resolveNames n = .ok names)
    (hquiet : ∀ n r, g.recordOf w.store n = some r → Quiet snap n r)
    (hfull : ∀ n l, snap.listedByName.lookup n = some l → l.verdict = .present →
      g.recordOf w.store n = none → ∀ i < g.capacity,
        ∃ m r, g.recordOf w.store m = some r ∧ r.slot = (i : Nat)) (targetSize : Int) :
    ∃ os, reconcileSnapshot g e snap targetSize w =
        (.ok (os.foldl Result.add (Result.start targetSize)), w) ∧
      List.Forall₂ (Settled g snap w.store)
        ((allNames snap (g.recordNames w.store)).insertionSort (· ≤ ·)) os := by
  have htracked : listRecordNames g e w = (.ok (g.recordNames w.store), w) := by
    unfold listRecordNames
    rw [hlist]
    rfl
  unfold reconcileSnapshot
  rw [bind_apply, mapErr, htracked]
  dsimp only
  -- every name is read
  rw [bind_apply]
  rcases had : (e.visit (allNames snap (g.recordNames w.store))).foldlM (adopt g e)
    { adopted := ∅, occupied := [] } w with ⟨r, w₁⟩
  obtain ⟨rfl, ⟨err, rfl, -, n, hn, hunreadable⟩ | ⟨a, rfl, hadopted⟩⟩ := adoption_cases had
  · obtain ⟨names, hns⟩ := hnames n hn
    rcases hunreadable with ⟨t, ht⟩ | ⟨cause, hcause⟩
    · rw [secretName_of_resolveNames hns] at ht
      cases ht
    · rw [hget n] at hcause
      cases hcause
  dsimp only
  have hlive : ∀ n, (e.getRead n).IsLive := fun n => by
    rw [hget n]
    trivial
  have hlookup := hadopted.lookup_eq hlive
  -- no candidate finds a slot
  have halloc : (candidates snap a.adopted).foldlM (allocate g e snap) a w₁ = (.ok a, w₁) := by
    cases hcands : candidates snap a.adopted with
    | nil => rfl
    | cons n ns =>
      obtain ⟨⟨l, hl, hv⟩, hnone⟩ := mem_candidates.mp (hcands ▸ List.mem_cons_self)
      refine foldlM_allocate_exhausted (List.eq_nil_iff_forall_not_mem.mpr fun i hi => ?_)
        (n :: ns) w₁
      obtain ⟨hlt, hfree⟩ := mem_freeSlots.mp hi
      exact hfree ((hadopted.mem_occupied hlive).mpr (hfull n l hl hv (hlookup n ▸ hnone) i hlt))
  rw [bind_apply, halloc]
  dsimp only
  rcases hwalk : ((allNames snap (g.recordNames w₁.store)).insertionSort (· ≤ ·)).foldlM
    (walkName g e snap a.adopted) (Result.start targetSize) w₁ with ⟨r, w₂⟩
  obtain ⟨os, u, hw, rfl⟩ := walk_of_foldlM
    (fun n hn => hnames n (mem_sorted_allNames.mp hn))
    (fun n _ rec hrec => by
      obtain ⟨-, -, -, ho⟩ := recordOf_eq_some.mp (hlookup n ▸ hrec)
      exact ho) hwalk
  obtain ⟨rfl, rfl, hos⟩ := hw.quiet hlookup hquiet
  exact ⟨os, rfl, hos⟩

/-! ## The second pass -/

/-- When every recorded name is listed, the names of a pass are those of the listing. -/
theorem sorted_allNames_eq {tracked : List String}
    (h : ∀ n ∈ tracked, (snap.listedByName.lookup n).isSome) :
    (allNames snap tracked).insertionSort (· ≤ ·) =
      snap.listedByName.keys.insertionSort (· ≤ ·) := by
  have hperm : (allNames snap tracked).Perm snap.listedByName.keys := by
    refine (List.perm_ext_iff_of_nodup (List.nodup_dedup _) snap.listedByName.keys_nodup).mpr
      fun n => ?_
    rw [List.mem_dedup, List.mem_append]
    exact or_iff_left_of_imp fun hn => AList.mem_keys.mp (AList.lookup_isSome.mp (h n hn))
  exact ((List.perm_insertionSort _ _).trans
    (hperm.trans (List.perm_insertionSort _ _).symm)).eq_of_pairwise'
    (List.pairwise_insertionSort _ _) (List.pairwise_insertionSort _ _)

theorem computeTargetSize_self (desired : Int) (capacity : Nat) (last : Int) :
    computeTargetSize desired capacity (computeTargetSize desired capacity last) =
      computeTargetSize desired capacity last := by
  unfold computeTargetSize
  split <;> simp_all

/-- **A steady fleet causes no writes.** When a completed pass lists every recorded member as
present, and no foreign Secret sits under a derived name, a second pass over the same snapshot
returns the same result and leaves the world, its log of writes included, as it is. -/
theorem reconcile_again {e' : Env} {desired last last' : Int} {res : Result} (he : e.Live)
    (hlist : e'.listRead = .live) (hget : ∀ n, e'.getRead n = .live)
    (hown : Unshared g snap w.store) (hpresent : AllPresent snap (g.recordNames w.store))
    (h : reconcile g e (some snap) desired last w = (.ok res, w'))
    (hlast : last' = last ∨ last' = res.targetSize) :
    reconcile g e' (some snap) desired last' w' = (.ok res, w') := by
  have hend : PassEnd g e snap _ w _ _ :=
    reconcileSnapshot_end (computeTargetSize desired g.capacity last) w
  rw [show reconcileSnapshot g e snap _ w = (.ok res, w') from h] at hend
  obtain ⟨a₀, a, new, w₁, os, hpass, rfl⟩ := hend.loops he
  -- the names are those of the listing in both passes
  have hbefore : ∀ n ∈ g.recordNames w.store, (snap.listedByName.lookup n).isSome := fun n hn => by
    obtain ⟨l, hl, -⟩ := hpresent n hn
    rw [hl]
    rfl
  have hafter : ∀ n ∈ g.recordNames w'.store, (snap.listedByName.lookup n).isSome :=
    fun n hn => hpass.listed_after hpresent hn
  have hnames : ∀ n ∈ allNames snap (g.recordNames w'.store),
      ∃ names, g.resolveNames n = .ok names := by
    intro n hn
    refine hpass.adopted.derives n (mem_allNames.mpr (.inl ?_))
    exact (mem_allNames.mp hn).elim id (hafter n)
  obtain ⟨os', hpass', hsettled'⟩ := reconcileSnapshot_idle hlist hget hnames
    (fun n r hr => hpass.quiet_after hpresent hr)
    (fun n l hl hv hnone i hi => hpass.slot_after hpresent hown hl hv hnone hi)
    (computeTargetSize desired g.capacity last')
  -- and both passes report what the records say
  have hsettled : List.Forall₂ (Settled g snap w'.store)
      ((allNames snap (g.recordNames w.store)).insertionSort (· ≤ ·)) os :=
    hpass.visits.imp fun n o hvisit => hpass.settled hpresent hvisit
  rw [sorted_allNames_eq hbefore] at hsettled
  rw [sorted_allNames_eq hafter] at hsettled'
  obtain rfl := List.right_unique_forall₂' (fun _ _ _ h h' => h.unique h') hsettled' hsettled
  have hsize : computeTargetSize desired g.capacity last' =
      computeTargetSize desired g.capacity last := by
    rcases hlast with rfl | rfl
    · rfl
    · rw [Result.foldl_add]
      exact computeTargetSize_self desired g.capacity last
  rw [← hsize]
  exact hpass'

end WireguardGateway.Gcp

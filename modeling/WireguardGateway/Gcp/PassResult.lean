import WireguardGateway.Gcp.Completed

/-!
# What the result of a pass says about the store

The result of a completed pass is put together from three maps (the listing, the adopted records and
the tracked names) while the pass allocates, refreshes, debounces and releases. When its reads
reflect the store, all of it can be read off the records the pass leaves behind.

Results:
* `NameEnd.rendered_eq`, `NameEnd.member_eq_none_iff`: what one iteration adds, from the record it
  leaves;
* **`result_of_store`**: who has a record after the pass, which slots the new records take, and
  which records `Peers`, `Roster` and `Members` show.
-/

namespace WireguardGateway.Gcp

open Lib

variable {g : Gateway} {e : Env} {snap : Snapshot} {w w' : World}

/-- A pass leaves every record of the Gateway under its own object name. -/
theorem PassEnd.recordsKept (he : e.Live) (hkept : RecordsKept g w.store) {targetSize : Int}
    {o : Except PassError Result} (h : PassEnd g e snap targetSize w o w') :
    RecordsKept g w'.store := by
  intro key r hr
  rcases h.origin he hkept hr with ⟨r₀, hr₀, hend⟩ | ⟨rec, c, hfresh, -, rfl⟩
  · rw [hend.sameIdentity.project, hend.sameIdentity.name]
    exact hkept key r₀ hr₀
  · exact ⟨(owns_iff.mp hfresh.owns).2.1, hfresh.1⟩

/-! ## One iteration, from the record it leaves -/

/-- What is rendered of a record. -/
def rendering (names : ManagedResourceNames) (r : Record) : Option (Peer × RosterEntry) :=
  if r.pendingConfirmation then none else some (buildPeer r, rosterEntry r names)

variable {rec : Record} {n : String} {names : ManagedResourceNames} {s : Store}

/-- A branch renders the record its labels leave. -/
theorem FateCase.rendered {listed : Option ListedMember} {f : Fate} (h : FateCase rec listed f)
    (hne : f ≠ .confirm) (names : ManagedResourceNames) :
    (f.outcome rec snap names).rendered = rendering names (rec.relabel (f.labels rec snap)) := by
  cases h with
  | @resume l hv =>
    have hpending : (rec.relabel ((Fate.resume l rec.pendingConfirmation).labels rec
        snap)).pendingConfirmation = false := by
      rw [Fate.labels, ← resumeEdits_record, resumeEdits_record_eq]
      simp
    simp only [Fate.outcome, resumeEdits_record]
    rw [rendering, if_neg (by rw [hpending]; exact Bool.false_ne_true)]
    rfl
  | depart | lapse => rfl
  | advance hp =>
    have hpending : (rec.relabel (Fate.advance.labels rec snap)).pendingConfirmation = false := hp
    rw [rendering, if_neg (by rw [hpending]; exact Bool.false_ne_true)]
    rfl
  | confirm => exact absurd rfl hne

/-- **What one iteration renders** is what it leaves of the record. -/
theorem NameEnd.rendered_eq {o : NameOutcome} (h : NameEnd g e snap n names (some rec) w (.ok o) w')
    (hl : w.store.lookup names.kubernetesSecretName = some rec) :
    o.rendered = (w'.store.lookup names.kubernetesSecretName).bind (rendering names) := by
  cases h with
  | quiet hf hne hlabels =>
    rw [(FateCase.of_eq hf).rendered hne, hlabels, hl]
    rfl
  | relabelled hf hne hlabels hcur =>
    rw [(FateCase.of_eq hf).rendered hne, World.commit_store,
      Store.lookup_commit_relabel hl]
    rfl
  | blocked hf =>
    rw [hl, Option.bind_some, rendering, if_pos (fate_eq_confirm hf).1]
  | blockedDeleted | released =>
    rw [World.commit_store, Store.lookup_commit_delete]
    rfl
  | gone hf hnone => rw [hnone] at hl; cases hl

/-- **One iteration leaves the member out** when it deletes the record and the API confirms it. -/
theorem NameEnd.member_eq_none_iff {o : NameOutcome}
    (h : NameEnd g e snap n names (some rec) w (.ok o) w')
    (hl : w.store.lookup names.kubernetesSecretName = some rec) :
    o.member = none ↔
      w'.store.lookup names.kubernetesSecretName = none ∧ e.delete n = .ok := by
  have hfate : ∀ f : Fate, (f.outcome rec snap names).member ≠ none := by
    intro f
    cases f <;> exact Option.some_ne_none _
  cases h with
  | quiet =>
    simp [hfate, hl]
  | relabelled =>
    simp [hfate, Store.lookup_commit_relabel hl]
  | blocked => simp [hl]
  | blockedDeleted _ _ _ hfailed => simp [hfailed]
  | released _ _ _ hok => simp [hok]
  | gone _ hnone => rw [hnone] at hl; cases hl

/-! ## A completed pass -/

/-- The slots the records of the Gateway hold. -/
def heldSlots (g : Gateway) (s : Store) : List Int :=
  (s.records.filter (·.gatewayUID = g.uid)).map (·.slot)

theorem mem_heldSlots {i : Int} :
    i ∈ heldSlots g s ↔ ∃ key r, g.Holds s key r ∧ r.slot = i := by
  simp only [heldSlots, List.mem_map, List.mem_filter, Store.mem_records, decide_eq_true_eq,
    Gateway.Holds]
  constructor
  · rintro ⟨r, ⟨⟨key, hr⟩, hu⟩, hi⟩
    exact ⟨key, r, ⟨hr, hu⟩, hi⟩
  · rintro ⟨key, r, ⟨hr, hu⟩, hi⟩
    exact ⟨r, ⟨⟨key, hr⟩, hu⟩, hi⟩

/-- The loops of a completed pass over live reads, with the records where they belong. -/
structure CompletedPass (g : Gateway) (e : Env) (snap : Snapshot) (w w' : World) (a₀ a : Adoption)
    (new : List (String × Record)) (w₁ : World) (os : List NameOutcome) : Prop
    extends CompletedLoops g e snap w w' a₀ a new w₁ os where
  kept : RecordsKept g w.store
  keptAfter : RecordsKept g w'.store

theorem PassEnd.completed (he : e.Live) (hkept : RecordsKept g w.store) {targetSize : Int}
    {res : Result} (h : PassEnd g e snap targetSize w (.ok res) w') :
    ∃ a₀ a new w₁ os, CompletedPass g e snap w w' a₀ a new w₁ os ∧
      res = os.foldl Result.add (Result.start targetSize) := by
  obtain ⟨a₀, a, new, w₁, os, hloops, hres⟩ := h.loops he
  exact ⟨a₀, a, new, w₁, os, ⟨hloops, hkept, h.recordsKept he hkept⟩, hres⟩

/-- No Secret under the object name of a listed or recorded name is foreign to it: it is the record
of the name, and no other name has the same object name. -/
structure Unshared (g : Gateway) (snap : Snapshot) (s : Store) : Prop where
  own : ∀ n ∈ allNames snap (g.recordNames s), ∀ key r, g.secretName n = .ok key →
    s.lookup key = some r → g.owns n r
  apart : ∀ n ∈ allNames snap (g.recordNames s), ∀ m ∈ allNames snap (g.recordNames s), ∀ key,
    g.secretName n = .ok key → g.secretName m = .ok key → n = m

instance (g : Gateway) (snap : Snapshot) (s : Store) : Decidable (Unshared g snap s) :=
  decidable_of_iff
    ((∀ n ∈ allNames snap (g.recordNames s), ∀ r ∈ (g.secretName n).toOption.bind s.lookup,
        g.owns n r) ∧
      ∀ n ∈ allNames snap (g.recordNames s), ∀ m ∈ allNames snap (g.recordNames s),
        (g.secretName n).toOption.isSome → (g.secretName n).toOption = (g.secretName m).toOption →
          n = m) <| by
    have hok : ∀ {n key}, (g.secretName n).toOption = some key ↔ g.secretName n = .ok key :=
      fun {n key} => by cases g.secretName n <;> simp [Except.toOption]
    constructor
    · rintro ⟨hown, hapart⟩
      refine ⟨fun n hn key r hkey hr => hown n hn r ?_, fun n hn m hm key hkn hkm => ?_⟩
      · rw [hok.mpr hkey]
        exact hr
      · refine hapart n hn m hm ?_ ?_
        · rw [hok.mpr hkn]
          rfl
        · rw [hok.mpr hkn, hok.mpr hkm]
    · rintro ⟨hown, hapart⟩
      refine ⟨fun n hn r hr => ?_, fun n hn m hm hsome heq => ?_⟩
      · obtain ⟨key, hkey, hl⟩ := Option.bind_eq_some_iff.mp hr
        exact hown n hn key r (hok.mp hkey) hl
      · obtain ⟨key, hkey⟩ := Option.isSome_iff_exists.mp hsome
        exact hapart n hn m hm key (hok.mp hkey) (hok.mp (heq ▸ hkey))

namespace CompletedLoops

variable {a₀ a : Adoption} {new : List (String × Record)} {w₁ : World} {os : List NameOutcome}
  (h : CompletedLoops g e snap w w' a₀ a new w₁ os)

include h

/-- A present member without an adopted record got none because the slots gave out. -/
theorem exhausted_of_unadopted (hown : Unshared g snap w.store) {l : ListedMember}
    (hl : snap.listedByName.lookup n = some l)
    (hv : l.verdict = .present) (hrec : a.adopted.lookup n = none) :
    (freeSlots a₀.occupied g.capacity).length ≤ new.length := by
  have hmem : n ∈ allNames snap (g.recordNames w.store) := mem_allNames.mpr (.inl (by rw [hl]; rfl))
  have hbefore := h.recordOf_of_unadopted hrec
  have hcandidate : n ∈ candidates snap a₀.adopted :=
    mem_candidates.mpr ⟨⟨l, hl, hv⟩, (h.adopted_before n).trans hbefore⟩
  rcases h.alloc.skipped n hcandidate with hn | hout | ⟨key, hkey, hsome⟩
  · obtain ⟨p, hp, hname⟩ := List.mem_map.mp hn
    exact absurd hname (h.not_new_of_unadopted hrec hp)
  · exact hout
  · -- its object name is taken: by its own record, or by one created under the same name
    obtain ⟨r, hr⟩ := Option.isSome_iff_exists.mp hsome
    by_cases hnew : key ∈ new.map Prod.fst
    · obtain ⟨p, hp, rfl⟩ := List.mem_map.mp hnew
      have hpn := h.name_of_adopted (h.adopted_new hp)
      have hname := hown.apart _ hpn n hmem p.1 (h.alloc.allocation.fresh p hp).1 hkey
      exact absurd hname (h.not_new_of_unadopted hrec hp)
    · rw [h.alloc.allocation.lookup_of_notMem hnew] at hr
      rw [recordOf_eq_some.mpr ⟨key, hkey, hr, hown.own n hmem key r hkey hr⟩] at hbefore
      cases hbefore

/-- When the slots gave out, each is held by a record of the pass. -/
theorem slot_adopted (hout : (freeSlots a₀.occupied g.capacity).length ≤ new.length) {i : Nat}
    (hi : i < g.capacity) : ∃ n rec, a.adopted.lookup n = some rec ∧ rec.slot = (i : Int) := by
  by_cases hfree : i ∈ freeSlots a₀.occupied g.capacity
  · have hslot : (i : Int) ∈ new.map (·.2.slot) := by
      rw [h.alloc.allocation.slots, List.take_of_length_le hout]
      exact List.mem_map_of_mem hfree
    obtain ⟨p, hp, hpi⟩ := List.mem_map.mp hslot
    exact ⟨p.2.name, p.2, h.adopted_new hp, hpi⟩
  · rw [mem_freeSlots, not_and, not_not] at hfree
    obtain ⟨n, r, hr, hslot⟩ := (h.adopted.mem_occupied h.live.get).mp (hfree hi)
    exact ⟨n, r, h.lookup_adopted_iff.mpr (.inr hr), hslot⟩

end CompletedLoops

/-- The pass deleted the record of `n`, and the API confirmed it. -/
def Deletes (g : Gateway) (e : Env) (s s' : Store) (n : String) : Prop :=
  ∃ key r, g.Holds s key r ∧ r.name = n ∧ s'.lookup key = none ∧ e.delete n = .ok

/-- The record of `n`, unless it is pending confirmation. -/
def Gateway.liveRecordOf (g : Gateway) (s : Store) (n : String) : Option Record :=
  (g.recordOf s n).filter fun r => !r.pendingConfirmation

theorem holds_of_liveRecordOf {r : Record} (h : g.liveRecordOf s n = some r) :
    (∃ key, g.Holds s key r ∧ r.pendingConfirmation = false) ∧ r.name = n := by
  obtain ⟨hrecord, hpending⟩ := Option.filter_eq_some_iff.mp h
  obtain ⟨key, -, hheld, hname⟩ := holds_of_recordOf hrecord
  exact ⟨⟨key, hheld, by simpa using hpending⟩, hname⟩

/-- The peer of a record. -/
structure PeerOf (r : Record) (p : Peer) : Prop where
  slot : p.slot = r.slot
  publicKey : p.publicKey = r.publicKey
  externalAddress : p.externalAddress = r.externalAddress
  listenPort : p.listenPort = 0
  tunnelAddress : p.tunnelAddress = r.tunnelAddress

/-- The roster entry of a record. -/
structure EntryOf (g : Gateway) (r : Record) (x : RosterEntry) : Prop where
  name : x.name = r.name
  slot : x.slot = r.slot
  tunnelAddress : x.tunnelAddress = r.tunnelAddress
  names : g.resolveNames r.name = .ok x.names

/-- What is rendered of a record: its peer and its roster entry. -/
def Shows (g : Gateway) (r : Record) (p : Peer × RosterEntry) : Prop :=
  PeerOf r p.1 ∧ EntryOf g r p.2

theorem rendering_shows (hns : g.resolveNames n = .ok names) :
    Option.Rel (Shows g) (g.liveRecordOf s n) ((g.recordOf s n).bind (rendering names)) := by
  unfold Gateway.liveRecordOf
  cases hr : g.recordOf s n with
  | none => exact .none
  | some r =>
    obtain ⟨-, -, -, rfl⟩ := holds_of_recordOf hr
    cases hp : r.pendingConfirmation with
    | true => simp [rendering, Option.filter_some, hp]
    | false => simpa [rendering, Option.filter_some, hp] using
      ⟨⟨rfl, rfl, rfl, rfl, rfl⟩, ⟨rfl, rfl, rfl, hns⟩⟩

namespace CompletedPass

variable {a₀ a : Adoption} {new : List (String × Record)} {w₁ : World} {os : List NameOutcome}
  {n : String} {o : NameOutcome}

variable {key : String} {r rec : Record} (h : CompletedPass g e snap w w' a₀ a new w₁ os)

include h

/-- No record of the Gateway has the name of a created one before the pass. -/
theorem not_held_of_new {p : String × Record} (hp : p ∈ new) (hr : g.Holds w.store key r) :
    r.name ≠ p.2.name := by
  intro hname
  have hrecord := h.kept.recordOf hr
  rw [hname, (h.candidate_of_new hp).2] at hrecord
  cases hrecord

/-- **Every record after the pass was adopted.** -/
theorem adopted_of_holds (hr : g.Holds w'.store key r) :
    ∃ rec, a.adopted.lookup r.name = some rec :=
  Option.ne_none_iff_exists'.mp fun hnone =>
    absurd ((h.keptAfter.recordOf hr).symm.trans (h.recordOf_after_of_unadopted hnone)) (by simp)

/-- What the iteration at an adopted name adds, from the object it leaves. -/
theorem outcome_adopted {v₁ v₂ : World} (hrec : a.adopted.lookup n = some rec)
    (hns : g.resolveNames n = .ok names) (hend : NameEnd g e snap n names (some rec) v₁ (.ok o) v₂)
    (hbefore : v₁.store.lookup names.kubernetesSecretName =
      w₁.store.lookup names.kubernetesSecretName)
    (hafter : w'.store.lookup names.kubernetesSecretName =
      v₂.store.lookup names.kubernetesSecretName) :
    o.rendered = (w'.store.lookup names.kubernetesSecretName).bind (rendering names) ∧
      (o.member = none ↔ Deletes g e w.store w'.store n) := by
  have hkey := secretName_of_resolveNames hns
  obtain ⟨key, r, hkey', hl, -, hstored⟩ := h.alloc.stored h.live h.adopted hrec
  obtain rfl : names.kubernetesSecretName = key := Except.ok.inj (hkey.symm.trans hkey')
  have hname := owns_name (h.alloc.owns h.adopted hrec)
  rcases hstored with ⟨hp, c, rfl⟩ | ⟨rfl, hl₀⟩
  · -- created in this pass: shown as created
    obtain ⟨⟨l, hlisted, hv⟩, -⟩ := h.candidate_of_new hp
    obtain ⟨hf, hlabels⟩ := fate_fresh (h.alloc.allocation.fresh _ hp) hlisted hv
    rw [hname] at hf
    obtain ⟨rfl, ho⟩ := hend.eq_of_quiet hf (by simp) hlabels
    cases ho
    rw [hafter, hbefore, hl]
    refine ⟨?_, iff_of_false (Option.some_ne_none _) ?_⟩
    · rw [(FateCase.of_eq hf).rendered (by simp), hlabels]
      rfl
    · rintro ⟨key', r', hr', hname', -⟩
      exact h.not_held_of_new hp hr' (hname'.trans hname.symm)
  · -- held before the pass
    have hl₁ := hbefore.trans hl
    rw [hafter]
    refine ⟨hend.rendered_eq hl₁, (hend.member_eq_none_iff hl₁).trans ?_⟩
    have huid := (owns_iff.mp (h.alloc.owns h.adopted hrec)).1
    constructor
    · rintro ⟨hgone, hok⟩
      exact ⟨_, r, ⟨hl₀, huid⟩, hname, hafter.trans hgone, hok⟩
    · rintro ⟨key', r', hr', hname', hgone, hok⟩
      have hkey' := (h.kept key' r' hr').2
      rw [hname', hkey] at hkey'
      cases hkey'
      exact ⟨hafter.symm.trans hgone, hok⟩

/-- **What the iteration at a name adds**, from the record of the name after the pass. -/
theorem outcome (hvisit : Visit g e snap a.adopted w₁ w' n o) :
    Option.Rel (Shows g) (g.liveRecordOf w'.store n) o.rendered ∧
      (o.member = none ↔ Deletes g e w.store w'.store n) ∧
      ∀ m, o.member = some m → m.name = n := by
  obtain ⟨names, v₁, v₂, hns, hend, hobj⟩ := hvisit
  have hmember : ∀ m, o.member = some m → m.name = n := fun m =>
    hend.member_name fun rec hrec => owns_name (h.alloc.owns h.adopted hrec)
  cases hrec : a.adopted.lookup n with
  | none =>
    rw [hrec] at hend
    obtain ⟨-, ho⟩ := hend.eq_of_unadopted
    cases ho
    refine ⟨?_, iff_of_false (Option.some_ne_none _) ?_, hmember⟩
    · rw [Gateway.liveRecordOf, h.recordOf_after_of_unadopted hrec]
      exact .none
    · rintro ⟨key, r, hr, rfl, -⟩
      rw [h.lookup_adopted_iff.mpr (.inr (h.kept.recordOf hr))] at hrec
      cases hrec
  | some rec =>
    rw [hrec] at hend
    obtain ⟨hbefore, hafter⟩ := hobj rec hrec
    obtain ⟨hrendered, hnone⟩ := h.outcome_adopted hrec hns hend hbefore hafter
    refine ⟨?_, hnone, hmember⟩
    rw [hrendered, ← h.recordOf_after hrec hns]
    exact rendering_shows hns

/-- The slots a pass reads as occupied are the ones the records hold. -/
theorem freeSlots_eq :
    freeSlots a₀.occupied g.capacity = freeSlots (heldSlots g w.store) g.capacity := by
  refine freeSlots_congr (fun i => ?_) _
  rw [h.adopted.mem_occupied h.live.get, mem_heldSlots]
  constructor
  · rintro ⟨n, r, hr, hi⟩
    obtain ⟨key, -, hheld, -⟩ := holds_of_recordOf hr
    exact ⟨key, r, hheld, hi⟩
  · rintro ⟨key, r, hr, hi⟩
    exact ⟨r.name, r, h.kept.recordOf hr, hi⟩

/-- A present member that was adopted has a record after the pass. -/
theorem recorded_of_adopted {l : ListedMember} (hl : snap.listedByName.lookup n = some l)
    (hv : l.verdict = .present) (hrec : a.adopted.lookup n = some rec) :
    ∃ key r, g.Holds w'.store key r ∧ r.name = n := by
  obtain ⟨o, -, hvisit⟩ := h.visit_of_name (h.name_of_adopted hrec)
  obtain ⟨-, r, -, hr, -⟩ := h.present_after hl hv hrec hvisit
  obtain ⟨key, -, hheld, hname⟩ := holds_of_recordOf hr
  exact ⟨key, r, hheld, hname⟩

/-- When the slots gave out, all of them are held by records of other names. -/
theorem occupied_of_exhausted (hrec : a.adopted.lookup n = none)
    (hout : (freeSlots a₀.occupied g.capacity).length ≤ new.length) :
    ∀ i < g.capacity, ∃ key r, (g.Holds w.store key r ∨
      w.store.lookup key = none ∧ g.Holds w'.store key r) ∧ r.slot = (i : Nat) ∧ r.name ≠ n := by
  intro i hi
  obtain ⟨m, rec, hm, hslot⟩ := h.slot_adopted hout hi
  have hne : m ≠ n := by
    rintro rfl
    rw [hrec] at hm
    cases hm
  rcases h.lookup_adopted_iff.mp hm with ⟨key, hp, rfl⟩ | hbefore
  · -- taken by a record of this pass
    obtain ⟨c, hc⟩ := h.lookup_new hp
    have huid := (owns_iff.mp (h.alloc.allocation.fresh _ hp).owns).1
    exact ⟨key, rec.assign c, .inr ⟨h.alloc.allocation.absent _ hp, hc, huid⟩, hslot, hne⟩
  · obtain ⟨key, -, hheld, rfl⟩ := holds_of_recordOf hbefore
    exact ⟨key, rec, .inl hheld, hslot, hne⟩

/-- **Every present member has a record, while slots last.** -/
theorem recorded (hown : Unshared g snap w.store)
    {l : ListedMember} (hl : snap.listedByName.lookup n = some l) (hv : l.verdict = .present) :
    (∃ key r, g.Holds w'.store key r ∧ r.name = n) ∨
      ∀ i < g.capacity, ∃ key r, (g.Holds w.store key r ∨
        w.store.lookup key = none ∧ g.Holds w'.store key r) ∧ r.slot = (i : Nat) ∧ r.name ≠ n := by
  cases hrec : a.adopted.lookup n with
  | some rec => exact .inl (h.recorded_of_adopted hl hv hrec)
  | none => exact .inr (h.occupied_of_exhausted hrec (h.exhausted_of_unadopted hown hl hv hrec))

omit h in
theorem pairwise_candidates (adopted : GoMap String Record) :
    (candidates snap adopted).Pairwise (· < ·) :=
  ((List.pairwise_insertionSort _ _).and (nodup_candidates adopted)).imp
    fun h => lt_of_le_of_ne h.1 h.2

/-- **The new records** take the lowest free slots, in ascending order of their names. -/
theorem created :
    ∃ fresh : List Record,
      (∀ r, r ∈ fresh ↔ ∃ key, w.store.lookup key = none ∧ g.Holds w'.store key r) ∧
      (fresh.map (·.name)).Pairwise (· < ·) ∧
      fresh.map (·.slot) = ((freeSlots (heldSlots g w.store) g.capacity).take fresh.length).map
        fun i : Nat => (i : Int) := by
  -- the created records, with the uid and version they were assigned
  let uidOf : String × Record → Nat := fun p => ((w'.store.lookup p.1).map (·.uid)).getD 0
  have hlookup : ∀ p ∈ new, w'.store.lookup p.1 = some (p.2.assign (uidOf p)) := fun p hp => by
    obtain ⟨c, hc⟩ := h.lookup_new hp
    have huid : uidOf p = c := by
      simp only [uidOf, hc]
      rfl
    rw [huid, hc]
  refine ⟨new.map fun p => p.2.assign (uidOf p), fun r => ?_, ?_, ?_⟩
  · constructor
    · intro hr
      obtain ⟨p, hp, rfl⟩ := List.mem_map.mp hr
      exact ⟨p.1, h.alloc.allocation.absent p hp, hlookup p hp,
        (owns_iff.mp (h.alloc.allocation.fresh p hp).owns).1⟩
    · rintro ⟨key, hnone, hr⟩
      have hvacant : ∀ r₀, ¬ g.Holds w.store key r₀ := fun r₀ hr₀ =>
        absurd (hnone.symm.trans hr₀.1) (by simp)
      by_cases hnew : key ∈ new.map Prod.fst
      · obtain ⟨p, hp, rfl⟩ := List.mem_map.mp hnew
        rw [Option.some.inj (hr.1.symm.trans (hlookup p hp))]
        exact List.mem_map_of_mem (f := fun p => p.2.assign (uidOf p)) hp
      · have hsame := h.alloc.lookup_vacant h.live h.adopted h.walk hnew hvacant
        rw [hnone, hr.1] at hsame
        cases hsame
  · rw [List.map_map]
    exact (pairwise_candidates a₀.adopted).sublist h.alloc.allocation.names
  · rw [List.map_map, List.length_map, ← h.freeSlots_eq, ← h.alloc.allocation.slots]
    rfl

omit h in
theorem pairwise_sorted_allNames (tracked : List String) :
    ((allNames snap tracked).insertionSort (· ≤ ·)).Pairwise (· < ·) :=
  ((List.pairwise_insertionSort _ _).and (nodup_sorted_allNames snap tracked)).imp
    fun h => lt_of_le_of_ne h.1 h.2

/-- **Peers and roster** show the records that are not pending after the pass, by name. -/
theorem rendered :
    ∃ live : List Record,
      (∀ r, r ∈ live ↔ ∃ key, g.Holds w'.store key r ∧ r.pendingConfirmation = false) ∧
      (live.map (·.name)).Pairwise (· < ·) ∧
      List.Forall₂ (Shows g) live (os.filterMap (·.rendered)) := by
  have hshows : Relator.LiftFun (Visit g e snap a.adopted w₁ w') (Option.Rel (Shows g))
      (g.liveRecordOf w'.store) (·.rendered) := fun _ _ hvisit => (h.outcome hvisit).1
  refine ⟨_, fun r => ?_, ?_, List.rel_filterMap hshows h.visits⟩
  · rw [List.mem_filterMap]
    constructor
    · rintro ⟨n, -, hn⟩
      exact (holds_of_liveRecordOf hn).1
    · rintro ⟨key, hr, hpending⟩
      obtain ⟨rec, hrec⟩ := h.adopted_of_holds hr
      refine ⟨r.name, mem_sorted_allNames.mpr (h.name_of_adopted hrec), ?_⟩
      exact Option.filter_eq_some_iff.mpr ⟨h.keptAfter.recordOf hr, by simpa using hpending⟩
  · rw [List.map_filterMap]
    refine (pairwise_sorted_allNames (g.recordNames w.store)).filterMap _ ?_
    intro n n' hlt m hm m' hm'
    obtain ⟨r, hr, rfl⟩ := Option.map_eq_some_iff.mp hm
    obtain ⟨r', hr', rfl⟩ := Option.map_eq_some_iff.mp hm'
    rw [(holds_of_liveRecordOf hr).2, (holds_of_liveRecordOf hr').2]
    exact hlt

/-- **Members** lists every name that is listed or recorded, but for the records deleted. -/
theorem members :
    ((os.filterMap (·.member)).map (·.name)).Pairwise (· < ·) ∧
      ∀ n, n ∈ (os.filterMap (·.member)).map (·.name) ↔
        n ∈ allNames snap (g.recordNames w.store) ∧ ¬ Deletes g e w.store w'.store n := by
  classical
  have hnames : (os.filterMap (·.member)).map (·.name) =
      ((allNames snap (g.recordNames w.store)).insertionSort (· ≤ ·)).filterMap fun n =>
        if Deletes g e w.store w'.store n then none else some n := by
    rw [List.map_filterMap]
    refine (List.forall₂_eq_eq_eq ▸ List.rel_filterMap (fun n o hvisit => ?_) h.visits).symm
    obtain ⟨-, hnone, hname⟩ := h.outcome hvisit
    split
    · rename_i hdeletes
      rw [hnone.mpr hdeletes]
      exact .none
    · rename_i hdeletes
      obtain ⟨m, hm⟩ := Option.ne_none_iff_exists'.mp fun ho => hdeletes (hnone.mp ho)
      rw [hm, Option.map_some, hname m hm]
      exact .some rfl
  rw [hnames]
  constructor
  · refine (pairwise_sorted_allNames (g.recordNames w.store)).filterMap _ ?_
    intro n n' hlt m hm m' hm'
    obtain ⟨-, ⟨⟩⟩ := Option.ite_none_left_eq_some.mp hm
    obtain ⟨-, ⟨⟩⟩ := Option.ite_none_left_eq_some.mp hm'
    exact hlt
  · intro n
    rw [List.mem_filterMap]
    constructor
    · rintro ⟨n', hn', h'⟩
      obtain ⟨hdeletes, ⟨⟩⟩ := Option.ite_none_left_eq_some.mp h'
      exact ⟨mem_sorted_allNames.mp hn', hdeletes⟩
    · rintro ⟨hmem, hdeletes⟩
      exact ⟨n, mem_sorted_allNames.mpr hmem, if_neg hdeletes⟩

end CompletedPass

/-! ## The result of a pass -/

/-- The name is listed, or a record of the Gateway has it. -/
def ListedOrRecorded (g : Gateway) (snap : Snapshot) (s : Store) (n : String) : Prop :=
  (∃ l ∈ snap.members, l.name = n) ∨ ∃ key r, g.Holds s key r ∧ r.name = n

theorem RecordsKept.mem_allNames_iff (h : RecordsKept g s) :
    n ∈ allNames snap (g.recordNames s) ↔ ListedOrRecorded g snap s n := by
  rw [mem_allNames, Snapshot.listedByName, GoMap.lookup_foldl_insert_isSome, ListedOrRecorded]
  refine or_congr_right ⟨fun hn => ?_, ?_⟩
  · obtain ⟨-, r, hr, hu, hname⟩ := Gateway.mem_recordNames.mp hn
    obtain ⟨key, hl⟩ := Store.mem_records.mp hr
    exact ⟨key, r, ⟨hl, hu⟩, hname⟩
  · rintro ⟨key, r, hr, rfl⟩
    exact h.mem_recordNames hr

/-- What the result of a pass over `s` that left `s'` behind says about the two stores. -/
structure ResultOf (g : Gateway) (e : Env) (snap : Snapshot) (s s' : Store) (res : Result) :
    Prop where
  /-- Every listed member with the verdict present has a record, or the slots are all taken. -/
  recorded : ∀ n l, snap.listedByName.lookup n = some l → l.verdict = .present →
    (∃ key r, g.Holds s' key r ∧ r.name = n) ∨
      ∀ i < g.capacity, ∃ key r, (g.Holds s key r ∨ s.lookup key = none ∧ g.Holds s' key r) ∧
        r.slot = (i : Nat) ∧ r.name ≠ n
  /-- The new records, by name, take the lowest free slots. -/
  created : ∃ fresh : List Record,
    (∀ r, r ∈ fresh ↔ ∃ key, s.lookup key = none ∧ g.Holds s' key r) ∧
    (fresh.map (·.name)).Pairwise (· < ·) ∧
    fresh.map (·.slot) = ((freeSlots (heldSlots g s) g.capacity).take fresh.length).map
      fun i : Nat => (i : Int)
  /-- Peers and roster have one entry for each record that is not pending, by name. -/
  rendered : ∃ live : List Record,
    (∀ r, r ∈ live ↔ ∃ key, g.Holds s' key r ∧ r.pendingConfirmation = false) ∧
    (live.map (·.name)).Pairwise (· < ·) ∧
    List.Forall₂ PeerOf live res.peers ∧ List.Forall₂ (EntryOf g) live res.roster
  /-- Members has one entry for each name but those whose record was deleted, by name. -/
  members : (res.members.map (·.name)).Pairwise (· < ·) ∧
    ∀ n, n ∈ res.members.map (·.name) ↔ ListedOrRecorded g snap s n ∧ ¬ Deletes g e s s' n

/-- **The result of a completed pass characterises the store**, when the reads of the pass
reflect the store, the records of the Gateway are of its project, and no foreign Secret sits
under a derived name. -/
theorem result_of_store {desiredReplicas lastAccepted : Int} {res : Result} (he : e.Live)
    (hkept : RecordsKept g w.store) (hown : Unshared g snap w.store)
    (h : reconcile g e (some snap) desiredReplicas lastAccepted w = (.ok res, w')) :
    ResultOf g e snap w.store w'.store res := by
  have hend : PassEnd g e snap _ w _ _ := reconcileSnapshot_end
    (computeTargetSize desiredReplicas g.capacity lastAccepted) w
  rw [show reconcileSnapshot g e snap _ w = (.ok res, w') from h] at hend
  obtain ⟨a₀, a, new, w₁, os, hpass, rfl⟩ := hend.completed he hkept
  rw [Result.foldl_add]
  refine ⟨fun n l hl hv => hpass.recorded hown hl hv, hpass.created, ?_, ?_⟩
  · obtain ⟨live, hmem, hsorted, hshows⟩ := hpass.rendered
    refine ⟨live, hmem, hsorted, ?_⟩
    simp only [← List.map_filterMap, List.forall₂_map_right_iff, Result.start, List.nil_append]
    exact ⟨hshows.imp fun _ _ h => h.1, hshows.imp fun _ _ h => h.2⟩
  · obtain ⟨hsorted, hmem⟩ := hpass.members
    exact ⟨hsorted, fun n => (hmem n).trans (and_congr_left' hkept.mem_allNames_iff)⟩

/-- `a` has a record. -/
def joinedWorld : World := runPasses fleet emptyWorld [.over (.calm .live) [running "a"] []]

/-- `b` is listed with it. -/
def joiningSnapshot : Snapshot := { members := [running "b", running "a"], details := ∅ }

theorem joinedWorld_kept : RecordsKept fleet joinedWorld.store :=
  (MemberInv.exec EnvOf.calm_live (.of_unrecorded (emptyWorld_unrecorded fleet))).recordsKept

theorem result_of_store_joining :
    ∃ w' res, reconcile fleet (.calm .live) (some joiningSnapshot) 2 2 joinedWorld = (.ok res, w') ∧
      res.peers.map (·.slot) = [0, 1] ∧
      ResultOf fleet (.calm .live) joiningSnapshot joinedWorld.store w'.store res := by
  have hslots : (reconcile fleet (.calm .live) (some joiningSnapshot) 2 2 joinedWorld).1.map
      (fun res => res.peers.map (·.slot)) = .ok [0, 1] := by decide +kernel
  rcases hpass : reconcile fleet (.calm .live) (some joiningSnapshot) 2 2 joinedWorld with
    ⟨err | res, w'⟩
  · rw [hpass] at hslots
    cases hslots
  · rw [hpass] at hslots
    exact ⟨w', res, rfl, Except.ok.inj hslots,
      result_of_store EnvOf.calm_live joinedWorld_kept (by decide +kernel) hpass⟩

end WireguardGateway.Gcp

import WireguardGateway.Gcp.Rounds

/-!
# The recorded address belongs to the recorded instance

A record carries an instance id and an external address. A round takes the id over from the listing,
and the address from an instance detail, which discovery reads when the id changed, when no address
is recorded, or when it is asked to. The two can come apart: an id that changes under `RECREATING`
is taken over without a detail, a detail without an address changes the id alone, and of two entries
of one name one can give the id and the other the address.

Results:
* `AddressInv.step`: a `conclusive` round keeps every address with its instance;
* **`address_of_instance`**: in every run of conclusive rounds, the address of every record was read
  from the instance whose id it carries;
* `recreatingRun_keeps_address`: without that, a peer is rendered with the address of an
  instance that has been replaced.
-/

namespace WireguardGateway.Gcp

open Lib

/-! ## What has been read -/

/-- The details a round reads. -/
def Round.details (r : Round) (g : Gateway) (s : Store) : List Detail :=
  ((r.snapshot g s).map fun snap => snap.details.entries.map Sigma.snd).getD []

/-- The details read in a run of rounds. -/
def detailsRead (g : Gateway) : World → List Round → List Detail
  | _, [] => []
  | w, r :: rs => r.details g w.store ++ detailsRead g (r.step g w) rs

/-- The detail of the instance the record carries, with the address it carries. -/
structure Detail.IsOf (d : Detail) (rec : Record) : Prop where
  name : d.name = rec.name
  instanceID : d.instanceID = rec.instanceID
  externalAddress : d.externalAddress = rec.externalAddress

/-- Every address on record was read from the instance on record. -/
def AddressInv (g : Gateway) (seen : List Detail) (s : Store) : Prop :=
  ∀ key rec, g.Holds s key rec → rec.externalAddress ≠ "" → ∃ d ∈ seen, d.IsOf rec

/-! ## The condition on a round -/

/-- No two different entries of the listing share a name, and a listed instance whose id is not that
on record, for a record with an address, is not being recreated and has an address. -/
def Round.conclusive (r : Round) (g : Gateway) (s : Store) : Prop :=
  ∀ api listing, r.api = some api → api.managedInstances = .ok listing →
    (∀ mi ∈ listing, ∀ mi' ∈ listing, mi.name = mi'.name → mi = mi') ∧
    ∀ mi ∈ listing, ∀ rec ∈ s.records, rec.gatewayUID = g.uid → rec.name = mi.name →
      rec.externalAddress ≠ "" → mi.currentAction.departing = false → mi.instanceID ≠ "" →
      mi.instanceID ≠ rec.instanceID →
        mi.currentAction ≠ .recreating ∧
        ∀ i inst, api.getInstance i (zoneFromInstanceURL mi.instanceURL) mi.name = .ok inst →
          Gcp.externalAddress inst ≠ ""

variable {g : Gateway} {s : Store} {w : World} {snap : Snapshot} {k : String}

variable {r : Round} {l : ListedMember} {rec : Record} {seen : List Detail}

theorem Round.mem_details (hs : r.snapshot g s = some snap) {n : String} {d : Detail}
    (hd : snap.details.lookup n = some d) : d ∈ r.details g s := by
  rw [Round.details, hs]
  exact List.mem_map.mpr ⟨⟨n, d⟩, AList.mem_lookup_iff.mp hd, rfl⟩

/-! ## One entry per name -/

/-- The entries of one name in a conclusive snapshot are one entry. -/
theorem Round.conclusive.unique (hc : r.conclusive g s) (hs : r.snapshot g s = some snap)
    {m : ListedMember} (hl : snap.listedByName.lookup l.name = some l) (hm : m ∈ snap.members)
    (hn : m.name = l.name) : m = l := by
  obtain ⟨api, records, hapi, -, hlist⟩ := Round.snapshot_eq_some hs
  obtain ⟨listing, hlisting, hmembers, -⟩ := list_eq_ok hlist
  obtain ⟨hmem, -⟩ := Snapshot.mem_of_lookup hl
  rw [hmembers] at hm hmem
  obtain ⟨mi, hmi, rfl⟩ := List.mem_map.mp hm
  obtain ⟨mi', hmi', rfl⟩ := List.mem_map.mp hmem
  rw [(hc api listing hapi hlisting).1 mi hmi mi' hmi' hn]

/-- The detail of a conclusive snapshot is that of the listed entry. -/
theorem Round.conclusive.readFor (hc : r.conclusive g s) (hs : r.snapshot g s = some snap)
    {n : String} (hl : snap.listedByName.lookup n = some l) {d : Detail}
    (hd : snap.details.lookup n = some d) :
    ∃ api, r.api = some api ∧ ReadFor api l d ∧ l.instanceID ≠ "" := by
  obtain ⟨api, records, hapi, -, hlist⟩ := Round.snapshot_eq_some hs
  obtain ⟨m, hm, hn, hread, hreason⟩ := list_detail hlist hd
  obtain ⟨-, hln⟩ := Snapshot.mem_of_lookup hl
  obtain rfl := hc.unique hs (hln ▸ hl) hm (hn.trans hln.symm)
  refine ⟨api, hapi, hread, fun hid => ?_⟩
  rw [detailReason, if_pos (.inr (.inr hid))] at hreason
  cases hreason

/-- **A changed id comes with an address.** -/
theorem Round.conclusive.changed (hinv : MemberInv g s) (hc : r.conclusive g s)
    (hs : r.snapshot g s = some snap) (hr : g.Holds s k rec)
    (hl : snap.listedByName.lookup rec.name = some l) (hv : l.verdict = .present)
    (haddr : rec.externalAddress ≠ "") (hid : l.instanceID ≠ "")
    (hne : l.instanceID ≠ rec.instanceID) :
    ∃ d, snap.details.lookup rec.name = some d ∧ d.externalAddress ≠ "" := by
  obtain ⟨api, records, hapi, hrecs, hlist⟩ := Round.snapshot_eq_some hs
  obtain ⟨listing, hlisting, hmembers, -⟩ := list_eq_ok hlist
  obtain ⟨hmem, hln⟩ := Snapshot.mem_of_lookup hl
  have hdep : l.action.departing = false := by
    by_contra hdep
    rw [r.verdict hinv hs hr hl, if_pos (by simpa using hdep)] at hv
    cases hv
  have hmem' := hmem
  rw [hmembers] at hmem'
  obtain ⟨mi, hmi, rfl⟩ := List.mem_map.mp hmem'
  obtain ⟨hrecreating, haddress⟩ := (hc api listing hapi hlisting).2 mi hmi rec
    (Store.mem_records.mpr ⟨k, hr.1⟩) hr.2 hln.symm haddr hdep hid hne
  -- the entry calls for a detail, which the API answers with an address
  have hreason : (detailReason (recordedByName (discoveryRecorded records)) r.refreshNames
      (listedMember (recordedByName (discoveryRecorded records)) mi)).isSome := by
    rw [detailReason, if_neg (by rintro (h | h | h); exacts [h hv, hrecreating h, hid h]),
      show (listedMember _ mi).name = rec.name from hln, recorded_eq hinv hrecs hr]
    dsimp only
    rw [if_neg haddr, if_pos hne]
    rfl
  obtain ⟨d, hd⟩ := Option.isSome_iff_exists.mp (list_detail_isSome hlist hmem hreason)
  rw [show (listedMember _ mi).name = rec.name from hln] at hd
  obtain ⟨api', hapi', hread, -⟩ := hc.readFor hs hl hd
  cases hapi.symm.trans hapi'
  obtain ⟨i, inst, hinst, hext⟩ := hread.address
  exact ⟨d, hd, hext ▸ haddress i inst hinst⟩

/-! ## One round -/

theorem changed_getD (recorded reported : String) :
    (changed recorded reported).getD recorded = if reported = "" then recorded else reported := by
  unfold changed
  by_cases h : reported = ""
  · simp [h]
  · by_cases h' : reported = recorded <;> simp [h, h']

/-- The record a refresh leaves, as far as its instance is concerned. -/
theorem resumeEdits_instance (rec : Record) (l : ListedMember) (snap : Snapshot) (p : Bool) :
    (resumeEdits rec l snap p).record.name = rec.name ∧
    (resumeEdits rec l snap p).record.instanceID =
      (if l.instanceID = "" then rec.instanceID else l.instanceID) ∧
    (resumeEdits rec l snap p).record.externalAddress =
      ((snap.details.lookup rec.name).filter (·.externalAddress ≠ "")).elim rec.externalAddress
        (·.externalAddress) := by
  rw [resumeEdits_record_eq]
  refine ⟨rfl, changed_getD _ _, ?_⟩
  cases snap.details.lookup rec.name with
  | none => rfl
  | some d =>
    by_cases h : d.externalAddress = "" <;> simp [changed_getD, Option.filter_some, h]

/-- **A refresh keeps the address with its instance.** -/
theorem Round.conclusive.refreshed (hinv : MemberInv g s) (hc : r.conclusive g s)
    (hs : r.snapshot g s = some snap) (haddr : AddressInv g seen s) (hr : g.Holds s k rec)
    (hl : snap.listedByName.lookup rec.name = some l) (hv : l.verdict = .present) {p : Bool}
    (hne : (resumeEdits rec l snap p).record.externalAddress ≠ "") :
    ∃ d ∈ seen ++ r.details g s, d.IsOf (resumeEdits rec l snap p).record := by
  obtain ⟨hname, hid, hext⟩ := resumeEdits_instance rec l snap p
  cases hd : (snap.details.lookup rec.name).filter (·.externalAddress ≠ "") with
  | some d =>
    -- a detail with an address: it is that of the listed entry, whose id is taken over
    obtain ⟨hd', -⟩ := Option.filter_eq_some_iff.mp hd
    obtain ⟨api, -, hread, hlid⟩ := hc.readFor hs hl hd'
    refine ⟨d, List.mem_append_right _ (r.mem_details hs hd'), ?_, ?_, ?_⟩
    · rw [hname, hread.name, (Snapshot.mem_of_lookup hl).2]
    · rw [hid, if_neg hlid, hread.instanceID]
    · rw [hext, hd]
      rfl
  | none =>
    -- no address: it is the recorded one, and so is the id
    rw [hd, Option.elim_none] at hext
    rw [hext] at hne
    have hsame : l.instanceID = "" ∨ l.instanceID = rec.instanceID := by
      by_contra hcon
      rw [not_or] at hcon
      obtain ⟨d, hd', hne'⟩ := hc.changed hinv hs hr hl hv hne hcon.1 hcon.2
      rw [hd', Option.filter_some, if_pos (by simpa using hne')] at hd
      cases hd
    obtain ⟨d, hmem, hof⟩ := haddr k rec hr hne
    refine ⟨d, List.mem_append_left _ hmem, hof.name.trans hname.symm, ?_,
      hof.externalAddress.trans hext.symm⟩
    rw [hof.instanceID, hid]
    rcases hsame with h | h <;> simp [h]

theorem Detail.IsOf.of_eq {d : Detail} {rec' : Record} (h : d.IsOf rec) (hn : rec'.name = rec.name)
    (hi : rec'.instanceID = rec.instanceID) (ha : rec'.externalAddress = rec.externalAddress) :
    d.IsOf rec' :=
  ⟨h.name.trans hn.symm, h.instanceID.trans hi.symm, h.externalAddress.trans ha.symm⟩

/-- The branches without a listed instance leave id and address alone. -/
theorem relabel_instance (rec : Record) (snap : Snapshot) {f : Fate}
    (hf : ∀ l p, f ≠ .resume l p) :
    (rec.relabel (f.labels rec snap)).name = rec.name ∧
    (rec.relabel (f.labels rec snap)).instanceID = rec.instanceID ∧
    (rec.relabel (f.labels rec snap)).externalAddress = rec.externalAddress := by
  cases f with
  | resume l p => exact absurd rfl (hf l p)
  | depart | advance | lapse | confirm => exact ⟨rfl, rfl, rfl⟩

/-- What a round leaves of a record whose address was read from its instance. -/
theorem Round.conclusive.recordEnd (hinv : MemberInv g s) (hc : r.conclusive g s)
    (hs : r.snapshot g s = some snap) (haddr : AddressInv g seen s) {rec' : Record}
    (hr : g.Holds s k rec) (hend : RecordEnd snap rec (some rec')) (hne : rec'.externalAddress ≠ "")
    : ∃ d ∈ seen ++ r.details g s, d.IsOf rec' := by
  generalize hsome : some rec' = o at hend
  cases hend with
  | released => cases hsome
  | kept =>
    cases hsome
    obtain ⟨d, hmem, hof⟩ := haddr k rec hr hne
    exact ⟨d, List.mem_append_left _ hmem, hof⟩
  | @relabelled f c hf _ =>
    cases hsome
    by_cases hres : ∃ l p, f = .resume l p
    · obtain ⟨l, p, rfl⟩ := hres
      obtain ⟨hl, hv⟩ := fate_eq_resume hf
      have hrec : rec.relabel ((Fate.resume l p).labels rec snap) =
          (resumeEdits rec l snap p).record := (resumeEdits_record rec l snap p).symm
      rw [hrec] at hne ⊢
      obtain ⟨d, hmem, hof⟩ := hc.refreshed hinv hs haddr hr hl hv hne
      exact ⟨d, hmem, hof.of_eq rfl rfl rfl⟩
    · obtain ⟨hn, hi, ha⟩ := relabel_instance rec snap (fun l p h => hres ⟨l, p, h⟩)
      obtain ⟨d, hmem, hof⟩ := haddr k rec hr fun h => hne (ha.trans h)
      exact ⟨d, List.mem_append_left _ hmem, hof.of_eq hn hi ha⟩

/-- A new record takes its address from the detail of its entry. -/
theorem Round.conclusive.fresh (hc : r.conclusive g s) (hs : r.snapshot g s = some snap)
    (h : IsFresh g snap k rec) (hne : rec.externalAddress ≠ "") :
    ∃ d ∈ r.details g s, d.IsOf rec := by
  obtain ⟨-, l, slot, address, priv, hl, -, hrec⟩ := h
  have hext : rec.externalAddress =
      ((snap.details.lookup rec.name).map (·.externalAddress)).getD "" := by
    rw [hrec]
    rfl
  have hid : rec.instanceID = l.instanceID := by rw [hrec]; rfl
  cases hd : snap.details.lookup rec.name with
  | none => rw [hd] at hext; exact absurd hext hne
  | some d =>
    obtain ⟨api, -, hread, -⟩ := hc.readFor hs hl hd
    refine ⟨d, r.mem_details hs hd, ?_, hread.instanceID.trans hid.symm, ?_⟩
    · rw [hread.name, (Snapshot.mem_of_lookup hl).2]
    · rw [hext, hd]
      rfl

/-- **One round keeps every address with its instance.** -/
theorem AddressInv.step (he : r.env.Live) (hinv : MemberInv g w.store)
    (haddr : AddressInv g seen w.store) (hc : r.conclusive g w.store) :
    AddressInv g (seen ++ r.details g w.store) (r.step g w).store := by
  intro key rec' hr' hne
  rcases r.exec_cases g w with ⟨-, hw⟩ | ⟨snap, ts, hs, hend⟩
  · rw [Round.step, hw] at hr'
    obtain ⟨d, hmem, hof⟩ := haddr key rec' hr' hne
    exact ⟨d, List.mem_append_left _ hmem, hof⟩
  · rcases hend.origin he hinv.recordsKept hr' with ⟨rec, hr, hrec⟩ | ⟨rec, c, hfresh, -, rfl⟩
    · exact hc.recordEnd hinv hs haddr hr hrec hne
    · obtain ⟨d, hmem, hof⟩ := hc.fresh hs hfresh hne
      exact ⟨d, List.mem_append_right _ hmem, hof.of_eq rfl rfl rfl⟩

/-! ## Whole runs -/

theorem addressInv_rounds : ∀ {rs : List Round} {w : World} {seen : List Detail},
    (∀ r ∈ rs, r.env.Live) → MemberInv g w.store → AddressInv g seen w.store →
      Guarded (Round.step g) (fun w r => r.conclusive g w.store) w rs →
      AddressInv g (seen ++ detailsRead g w rs) (runRounds g w rs).store
  | [], w, seen, _, _, haddr, _ => by
    rw [detailsRead, List.append_nil]
    exact haddr
  | r :: rs, w, seen, hlive, hinv, haddr, hc => by
    obtain ⟨hhead, htail⟩ := guarded_cons.mp hc
    have he := hlive r List.mem_cons_self
    have hlive' : ∀ q ∈ rs, q.env.Live := fun q hq => hlive q (List.mem_cons_of_mem _ hq)
    have h := addressInv_rounds hlive' (memberInv_round he hinv) (haddr.step he hinv hhead) htail
    rw [detailsRead, ← List.append_assoc]
    exact h

/-- **The recorded address is that of the recorded instance**, in every run of rounds whose reads
reflect the store and each of which is conclusive: after every round, whatever else fails in it, the
address of every record was read from the detail of the instance whose id the record carries. -/
theorem address_of_instance {w₀ : World} (h₀ : g.Unrecorded w₀.store) {rs : List Round}
    (hlive : ∀ r ∈ rs, r.env.Live)
    (hc : Guarded (Round.step g) (fun w r => r.conclusive g w.store) w₀ rs) :
    ∀ rs₁, rs₁ <+: rs → ∀ key rec, g.Holds (runRounds g w₀ rs₁).store key rec →
      rec.externalAddress ≠ "" → ∃ d ∈ detailsRead g w₀ rs₁, d.IsOf rec := by
  rintro rs₁ ⟨rs₂, rfl⟩
  have hnone : AddressInv g [] w₀.store := fun key rec hr => (h₀ key rec hr).elim
  exact addressInv_rounds (fun r hr => hlive r (List.mem_append_left _ hr))
    (MemberInv.of_unrecorded h₀) hnone hc.left

/-- A round that lists `a` under `action` with the id `id`, whose instance has the external address
`address`. -/
def sees (action : MemberAction) (id : Nat) (address : String) : Round :=
  .listing (.calm .live) [instanceAs "a" action (some id)] (addressed id address)

theorem sees_conclusive {action : MemberAction} {id : Nat} {address : String}
    (hrec : action ≠ .recreating) (haddr : address ≠ "") :
    (sees action id address).conclusive g s := by
  intro api listing hapi hlisting
  cases hapi
  cases hlisting
  simp only [List.mem_singleton, forall_eq]
  refine ⟨fun _ => trivial, fun rec _ _ _ _ _ _ _ => ⟨hrec, ?_⟩⟩
  rintro i inst hinst
  cases hinst
  simp [Gcp.externalAddress, addressed, haddr]

/-- `a` is replaced between two rounds. -/
def replacedRun : List Round := [sees .none 1 "203.0.113.1", sees .none 2 "203.0.113.2"]

theorem replacedRun_live : ∀ r ∈ replacedRun, r.env.Live := by
  rintro r hr
  simp only [replacedRun, List.mem_cons, List.not_mem_nil, or_false] at hr
  rcases hr with rfl | rfl <;> exact EnvOf.calm_live

/-- The record follows: its address was read from the second instance. -/
theorem address_of_instance_replacedRun :
    (runRounds fleet emptyWorld replacedRun).store.records.map
        (fun r => (r.name, r.instanceID, r.externalAddress)) = [("a", "2", "203.0.113.2")] ∧
      ∀ key rec, fleet.Holds (runRounds fleet emptyWorld replacedRun).store key rec →
        rec.externalAddress ≠ "" →
          ∃ d ∈ detailsRead fleet emptyWorld replacedRun, d.IsOf rec := by
  refine ⟨by decide +kernel, ?_⟩
  refine address_of_instance (emptyWorld_unrecorded fleet) replacedRun_live ?_ _ List.prefix_rfl
  exact .cons (sees_conclusive (by decide) (by decide))
    (.cons (sees_conclusive (by decide) (by decide)) (.nil _))

/-- `a` is recreated: its new id is listed while the action is `RECREATING`, and then again. -/
def recreatingRun : List Round :=
  [sees .none 1 "203.0.113.1", sees .recreating 2 "203.0.113.2", sees .none 2 "203.0.113.2"]

/-- `a` is replaced by an instance that has no external address yet. -/
def addresslessRun : List Round := [sees .none 1 "203.0.113.1", sees .none 2 ""]

/-- `a` is listed twice, first with a new id and then with the old one. -/
def twiceListedRun : List Round :=
  [sees .none 1 "203.0.113.1",
    .listing (.calm .live) [instanceAs "a" .none (some 2), instanceAs "a" .none (some 1)]
      (addressed 2 "203.0.113.2")]

/-- What a run leaves of the instances and what it read of them. -/
def instancesAfter (rs : List Round) :
    List (String × String) × List (String × String) :=
  ((runRounds fleet emptyWorld rs).store.records.map fun r => (r.instanceID, r.externalAddress),
    (detailsRead fleet emptyWorld rs).map fun d => (d.instanceID, d.externalAddress))

/-- **The address of a replaced instance stays on record.** Every round of the three runs completes
and reads the store as it is. After each of them `a` is listed with an id under the action `NONE`,
and its record carries an id whose instance's detail never showed the address next to it; the last
round of the first run renders the peer with the address of the instance that is gone. -/
theorem recreatingRun_keeps_address :
    (∀ rs ∈ [recreatingRun, addresslessRun, twiceListedRun],
      (∀ r ∈ rs, r.env.Live) ∧
        Guarded (Round.step fleet) (fun w r => (r.exec fleet w).1.toBool) emptyWorld rs) ∧
    instancesAfter recreatingRun = ([("2", "203.0.113.1")], [("1", "203.0.113.1")]) ∧
    instancesAfter addresslessRun =
      ([("2", "203.0.113.1")], [("1", "203.0.113.1"), ("2", "")]) ∧
    instancesAfter twiceListedRun =
      ([("1", "203.0.113.2")], [("1", "203.0.113.1"), ("2", "203.0.113.2")]) ∧
    ((sees .none 2 "203.0.113.2").exec fleet (runRounds fleet emptyWorld
        [sees .none 1 "203.0.113.1", sees .recreating 2 "203.0.113.2"])).1.toOption.map
      (fun res => res.peers.map (·.externalAddress)) = some ["203.0.113.1"] := by
  refine ⟨?_, by decide +kernel, by decide +kernel, by decide +kernel, by decide +kernel⟩
  intro rs hrs
  simp only [List.mem_cons, List.not_mem_nil, or_false] at hrs
  rcases hrs with rfl | rfl | rfl
  all_goals
    refine ⟨fun r hr => ?_, by decide +kernel⟩
    simp only [recreatingRun, addresslessRun, twiceListedRun, List.mem_cons, List.not_mem_nil,
      or_false] at hr
    rcases hr with rfl | rfl | rfl <;> exact EnvOf.calm_live

end WireguardGateway.Gcp

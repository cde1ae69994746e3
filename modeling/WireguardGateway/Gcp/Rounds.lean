import WireguardGateway.Gcp.LivePass

/-!
# Rounds: discovery over the store's own records, then a pass

A round of the controller reads the records it tracks, hands them to discovery, and runs a pass over
the snapshot it gets (or over none, when a read or discovery failed). So what a snapshot says about
a recorded member was decided with that record in hand.

Results:
* **`Round.verdict`**: a recorded member is departed when it is listed `DELETING` or `ABANDONING`,
  and present under every other action;
* `recorded_eq`: discovery is told about exactly the records of the Gateway;
* `memberInv_round`, `memberInv_rounds`: the slot invariant holds over every run of live rounds.
-/

namespace WireguardGateway.Gcp

open Lib

/-- The records under the tracked names; a name without an object name is a failed read. -/
def Gateway.trackedRecords (g : Gateway) (s : Store) : Option (List Record) :=
  let names := g.recordNames s
  if names.all fun n => (g.secretName n).toBool then
    some (names.filterMap fun n => (g.secretName n).toOption.bind s.lookup)
  else none

/-- `discoveryRecorded`. -/
def discoveryRecorded (records : List Record) : List Recorded :=
  records.map fun r =>
    { name := r.name, externalAddress := r.externalAddress, instanceID := r.instanceID }

/-- One round. There is no `api` when the round has no usable client, or failed before it asked. -/
structure Round where
  env : Env
  api : Option ComputeApi
  region : String
  mig : String
  refreshNames : List String
  desiredReplicas : Int
  lastAccepted : Int

/-- The snapshot of a round that starts from the store `s`. -/
def Round.snapshot (r : Round) (g : Gateway) (s : Store) : Option Snapshot :=
  r.api.bind fun api => (g.trackedRecords s).bind fun records =>
    (list api g.project r.region r.mig (discoveryRecorded records) r.refreshNames).toOption

/-- The pass of a round. -/
def Round.pass (r : Round) (g : Gateway) (s : Store) : Pass where
  env := r.env
  snap := r.snapshot g s
  desiredReplicas := r.desiredReplicas
  lastAccepted := r.lastAccepted

def Round.exec (r : Round) (g : Gateway) (w : World) : Except PassError Result × World :=
  (r.pass g w.store).exec g w

def Round.step (g : Gateway) (w : World) (r : Round) : World := (r.exec g w).2

/-- The world after a run of rounds. -/
def runRounds (g : Gateway) (w : World) (rs : List Round) : World := replay (Round.step g) w rs

variable {g : Gateway} {s : Store} {w : World} {snap : Snapshot} {k : String}

theorem Round.snapshot_eq_some {r : Round} (h : r.snapshot g s = some snap) :
    ∃ api records, r.api = some api ∧ g.trackedRecords s = some records ∧
      list api g.project r.region r.mig (discoveryRecorded records) r.refreshNames = .ok snap := by
  obtain ⟨api, hapi, h⟩ := Option.bind_eq_some_iff.mp h
  obtain ⟨records, hrecs, h⟩ := Option.bind_eq_some_iff.mp h
  refine ⟨api, records, hapi, hrecs, ?_⟩
  cases hl : list api g.project r.region r.mig (discoveryRecorded records) r.refreshNames with
  | error e => rw [hl] at h; cases h
  | ok snap' => rw [hl] at h; cases h; rfl

/-- The two ends of a round. -/
theorem Round.exec_cases (r : Round) (g : Gateway) (w : World) :
    (r.snapshot g w.store = none ∧ (r.exec g w).2 = w) ∨
      ∃ snap targetSize, r.snapshot g w.store = some snap ∧
        PassEnd g r.env snap targetSize w (r.exec g w).1 (r.exec g w).2 := by
  rcases (r.pass g w.store).exec_cases g w with ⟨h, hw, -⟩ | ⟨snap, ts, h, hend⟩
  · exact .inl ⟨h, hw⟩
  · exact .inr ⟨snap, ts, h, hend⟩

variable {rec : Record}

/-- The tracked records are the records of the Gateway. -/
theorem MemberInv.mem_trackedRecords (hinv : MemberInv g s) {records : List Record}
    (h : g.trackedRecords s = some records) :
    rec ∈ records ↔ ∃ key, g.Holds s key rec := by
  unfold Gateway.trackedRecords at h
  dsimp only at h
  split at h
  · cases h
    rw [List.mem_filterMap]
    constructor
    · rintro ⟨n, hn, hrec⟩
      -- the name is that of a record of the Gateway, which sits under its own object name
      obtain ⟨-, r, hr, hu, rfl⟩ := Gateway.mem_recordNames.mp hn
      obtain ⟨key, hl⟩ := Store.mem_records.mp hr
      rw [(hinv.kept ⟨hl, hu⟩).2] at hrec
      obtain rfl : r = rec := Option.some.inj (hl.symm.trans hrec)
      exact ⟨key, hl, hu⟩
    · rintro ⟨key, hr⟩
      refine ⟨rec.name, hinv.recordsKept.mem_recordNames hr, ?_⟩
      rw [(hinv.kept hr).2]
      exact hr.1
  · cases h

/-- Records of one name are one record. -/
theorem MemberInv.eq_of_name (hinv : MemberInv g s) {key key' : String} {r r' : Record}
    (hr : g.Holds s key r) (hr' : g.Holds s key' r') (hn : r.name = r'.name) : r = r' := by
  have hk : key = key' :=
    Except.ok.inj ((hinv.kept hr).2.symm.trans (hn ▸ (hinv.kept hr').2))
  subst hk
  exact Option.some.inj (hr.1.symm.trans hr'.1)

/-- **What discovery is told about a recorded name.** -/
theorem recorded_eq (hinv : MemberInv g s) {records : List Record}
    (h : g.trackedRecords s = some records) (hr : g.Holds s k rec) :
    (recordedByName (discoveryRecorded records)).lookup rec.name =
      some { name := rec.name
             externalAddress := rec.externalAddress
             instanceID := rec.instanceID } := by
  rw [recordedByName, GoMap.lookup_foldl_insert]
  obtain ⟨rd, hrd⟩ : ∃ rd, (discoveryRecorded records).reverse.find? (fun a => a.name = rec.name) =
      some rd := by
    rw [← Option.isSome_iff_exists, List.find?_isSome]
    exact ⟨_, List.mem_reverse.mpr (List.mem_map_of_mem ((hinv.mem_trackedRecords h).mpr ⟨k, hr⟩)),
      by simp⟩
  rw [hrd]
  have hmem := List.mem_reverse.mp (List.mem_of_find?_eq_some hrd)
  obtain ⟨r', hr', rfl⟩ := List.mem_map.mp hmem
  obtain ⟨key', hheld⟩ := (hinv.mem_trackedRecords h).mp hr'
  have hname : r'.name = rec.name := by simpa using List.find?_some hrd
  obtain rfl := hinv.eq_of_name hheld hr hname
  rfl

theorem Snapshot.mem_of_lookup {n : String} {l : ListedMember}
    (h : snap.listedByName.lookup n = some l) : l ∈ snap.members ∧ l.name = n := by
  rw [Snapshot.listedByName, GoMap.lookup_foldl_insert] at h
  simp only [Option.map_id', AList.lookup_empty, Option.or_none] at h
  exact ⟨List.mem_reverse.mp (List.mem_of_find?_eq_some h), by simpa using List.find?_some h⟩

/-- **What a snapshot says about a recorded member**: it is on its way out, or present. -/
theorem Round.verdict {r : Round} (hinv : MemberInv g s) (hs : r.snapshot g s = some snap)
    (hr : g.Holds s k rec) {l : ListedMember} (hl : snap.listedByName.lookup rec.name = some l) :
    l.verdict = if l.action.departing then .departed else .present := by
  obtain ⟨api, records, -, hrecs, hlist⟩ := Round.snapshot_eq_some hs
  obtain ⟨hmem, hname⟩ := Snapshot.mem_of_lookup hl
  rw [list_members hlist hmem, hname, recorded_eq hinv hrecs hr, Option.isSome_some]
  split
  · rename_i hd
    exact classify_eq_departed.mpr hd
  · rename_i hd
    cases hv : classify l.action (l.instanceID ≠ "") true with
    | departed => exact absurd (classify_eq_departed.mp hv) hd
    | pending => exact absurd (classify_eq_pending.mp hv).2.2.2 (by simp)
    | present => rfl

/-! ## The slot invariant over runs of rounds -/

theorem memberInv_round {r : Round} (he : r.env.Live) (hinv : MemberInv g w.store) :
    MemberInv g (r.exec g w).2.store :=
  MemberInv.exec (p := r.pass g w.store) he hinv

theorem memberInv_rounds : ∀ {rs : List Round} {w : World}, (∀ r ∈ rs, r.env.Live) →
    MemberInv g w.store → MemberInv g (runRounds g w rs).store
  | [], _, _, hinv => hinv
  | r :: rs, w, hlive, hinv => by
    have hlive' : ∀ q ∈ rs, q.env.Live := fun q hq => hlive q (List.mem_cons_of_mem _ hq)
    have htail := memberInv_rounds hlive' (memberInv_round (hlive r List.mem_cons_self) hinv)
    exact htail

/-! ## Rounds of the small fleet -/

/-- An entry of the listing, in the zone and with the template of `listedAs`. -/
def instanceAs (name : String) (action : MemberAction) (id : Option Nat) : ManagedInstance where
  name := name
  currentAction := action
  id := id
  instanceURL := "projects/p/zones/z/instances/" ++ name
  instanceTemplate := "templates/rev"

/-- An instance with one external address. -/
def addressed (id : Nat) (address : String) : Instance :=
  { id, networkInterfaces := [[address]] }

/-- A round that lists `instances`; detail reads find `answer`. -/
def Round.listing (e : Env) (instances : List ManagedInstance) (answer : Instance) : Round where
  env := e
  api := some { managedInstances := .ok instances, getInstance := fun _ _ _ => .ok answer }
  region := "r"
  mig := "m"
  refreshNames := []
  desiredReplicas := 1
  lastAccepted := 1

/-- A round that lists `a` with `action`. -/
def seesA (e : Env) (action : MemberAction) : Round :=
  .listing e [instanceAs "a" action (some 1)] (addressed 1 "203.0.113.1")

/-- A round that lists nothing. -/
def seesNothing (e : Env) : Round := .listing e [] (addressed 1 "203.0.113.1")

end WireguardGateway.Gcp

import WireguardGateway.Gcp.Secret
import WireguardGateway.Gcp.Steady

/-!
# Passes over the Secrets

The passes run over any store of records. Here it is the Secrets themselves: a record is encoded
when it is created, its labels are overwritten in place, and every read decodes it again and fails
if it does not decode. `Secrets.view` is the record store these Secrets stand for.

Results:
* `Secrets.view_commit`, `Secrets.Legible.commit`: a write to the Secrets is the write to the
  records, and leaves every Secret under a derived name one that decodes;
* **`reconcile_simulates`**: a pass over the Secrets does and returns what the pass over their
  records does and returns;
* **`steady_fleet`**: over the Secrets, a second pass with the same snapshot writes
  nothing and returns the same.
-/

namespace WireguardGateway.Gcp

open Lib Lib.Prog Controller

/-! ## The store -/

/-- The Secrets of the namespace by name; `clock` numbers the versions. The records of `g` are
written to them, and `c` reads them back. -/
structure Secrets (g : Gateway) (c : Codec) where
  objects : GoMap String Secret
  clock : Nat

variable {g : Gateway} {c : Codec}

/-- A write that creates no record but a storable one. -/
def Write.Storable (c : Codec) : Write → Prop
  | .create _ rec => rec.Storable c
  | .relabel .. | .delete _ => True

namespace Secrets

/-- The effect of an accepted write. -/
def commit (S : Secrets g c) : Write → Secrets g c
  | .create key rec =>
    { objects := S.objects.insert key
        ((secretFromRecord g.gatewayNamespace g.gatewayName key rec).assign S.clock)
      clock := S.clock + 1 }
  | .relabel key labels =>
    match S.objects.lookup key with
    | some secret =>
      { objects := S.objects.insert key ((secret.relabel labels).stamp S.clock)
        clock := S.clock + 1 }
    | none => S
  | .delete key => { S with objects := S.objects.erase key }

instance : RecordStore (Secrets g c) where
  fetch S key :=
    match S.objects.lookup key with
    | none => .ok none
    | some secret => (recordFromSecret c secret).map some
  version S key := (S.objects.lookup key).map fun s => (s.uid, s.resourceVersion)
  names S uid :=
    (((S.objects.entries.map Sigma.snd).filter
      (·.labels.lookup Label.gatewayUID.key = some uid)).map (·.label .name)).filter (· ≠ "")
  commit := commit

/-- The records of the Secrets. -/
def view (S : Secrets g c) : Store :=
  { secrets := S.objects.mapValues (Secret.view c), clock := S.clock }

/-- Every Secret under the object name of a member decodes. -/
def Legible (S : Secrets g c) : Prop :=
  ∀ n key secret, g.secretName n = .ok key → S.objects.lookup key = some secret → secret.Legible c

variable {S : Secrets g c}

theorem lookup_view (S : Secrets g c) (key : String) :
    S.view.lookup key = (S.objects.lookup key).map (Secret.view c) :=
  GoMap.lookup_mapValues ..

theorem version_view (S : Secrets g c) (key : String) :
    RecordStore.version S.view key = RecordStore.version S key := by
  simp only [RecordStore.version, lookup_view, Option.map_map]
  rfl

theorem fetch_view (hS : S.Legible) {n key : String} (hkey : g.secretName n = .ok key) :
    RecordStore.fetch S key = RecordStore.fetch S.view key := by
  simp only [RecordStore.fetch, lookup_view]
  cases hs : S.objects.lookup key with
  | none => rfl
  | some secret =>
    dsimp only
    rw [recordFromSecret_legible (hS n key secret hkey hs)]
    rfl

theorem recordNames_view (hu : g.uid ≠ "") (S : Secrets g c) :
    g.recordNames S.view = g.recordNames S := by
  have hlabel : ∀ s : Secret, (s.view c).gatewayUID = g.uid ↔
      s.labels.lookup Label.gatewayUID.key = some g.uid := by
    intro s
    change (s.labels.lookup Label.gatewayUID.key).getD "" = g.uid ↔ _
    cases s.labels.lookup Label.gatewayUID.key with
    | none => simp [hu.symm]
    | some v => simp
  have hrecords : S.view.records = (S.objects.entries.map Sigma.snd).map (Secret.view c) := by
    simp [Store.records, view, GoMap.mapValues, Function.comp_def]
  simp only [Gateway.recordNames, RecordStore.names, hrecords, List.filter_map, List.map_map,
    Function.comp_def, hlabel]
  rfl

/-- **A write to the Secrets is the write to the records.** -/
theorem view_commit (S : Secrets g c) {x : Write} (hx : x.Storable c) :
    (S.commit x).view = S.view.commit x := by
  cases x with
  | create key rec =>
    simp only [commit, view, Store.commit, GoMap.mapValues_insert, view_secretFromRecord hx]
  | relabel key labels =>
    have hlookup := S.lookup_view key
    cases hs : S.objects.lookup key with
    | none =>
      rw [hs] at hlookup
      simp only [commit, Store.commit, hs, hlookup, Option.map_none]
    | some secret =>
      rw [hs] at hlookup
      simp only [commit, Store.commit, hs, hlookup, Option.map_some, ← Secret.view_relabel]
      simp only [view, GoMap.mapValues_insert]
      rfl
  | delete key => simp only [commit, view, Store.commit, GoMap.mapValues_erase]

/-- **Writes leave the Secrets legible.** -/
theorem Legible.commit (hS : S.Legible) {x : Write} (hx : x.Storable c) : (S.commit x).Legible := by
  intro n key secret hkey hs
  cases x with
  | create k rec =>
    by_cases hk : key = k
    · subst hk
      obtain rfl := Option.some.inj ((AList.lookup_insert S.objects).symm.trans hs)
      exact legible_secretFromRecord hx ..
    · exact hS n key secret hkey ((AList.lookup_insert_ne hk).symm.trans hs)
  | relabel k labels =>
    cases hold : S.objects.lookup k with
    | none =>
      simp only [Secrets.commit, hold] at hs
      exact hS n key secret hkey hs
    | some old =>
      simp only [Secrets.commit, hold] at hs
      by_cases hk : key = k
      · subst hk
        obtain rfl := Option.some.inj ((AList.lookup_insert S.objects).symm.trans hs)
        obtain ⟨bundle, hb⟩ := hS n key old hkey hold
        exact ⟨bundle, (old.decodeBundle_relabel labels).trans hb⟩
      · exact hS n key secret hkey ((AList.lookup_insert_ne hk).symm.trans hs)
  | delete k =>
    by_cases hk : key = k
    · subst hk
      exact nomatch (AList.lookup_erase key S.objects).symm.trans hs
    · exact hS n key secret hkey ((AList.lookup_erase_ne hk).symm.trans hs)

end Secrets

/-! ## The two passes -/

def ReadOf.view : ReadOf (Secrets g c) → Read
  | .live => .live
  | .cached S => .cached S.view
  | .fails cause => .fails cause

theorem ReadOf.serve_view (r : ReadOf (Secrets g c)) (S : Secrets g c) :
    r.view.serve S.view = (r.serve S).map Secrets.view := by
  cases r <;> rfl

/-- The environment, for the pass over the records. -/
def EnvOf.view (e : EnvOf (Secrets g c)) : Env where
  visit := e.visit
  visit_perm := e.visit_perm
  listRead := e.listRead.view
  getRead n := (e.getRead n).view
  keypair := e.keypair
  create := e.create
  updateRead n := (e.updateRead n).view
  update := e.update
  confirm := e.confirm
  synced := e.synced
  delete := e.delete

theorem EnvOf.Live.view {e : EnvOf (Secrets g c)} (h : e.Live) : e.view.Live := by
  have hread : ∀ r : ReadOf (Secrets g c), r.IsLive → r.view.IsLive := fun r hr => by
    cases r <;> exact hr
  exact ⟨hread _ h.list, fun n => hread _ (h.get n), fun n => hread _ (h.update n)⟩

/-- The private keys a pass generates parse, and its Gateway derives their public keys. -/
def EnvOf.KeysParse (e : EnvOf (Secrets g c)) : Prop :=
  ∀ n key, e.keypair n = .ok key → publicKeyOf c key = .ok (g.publicKeyOf key)

/-- `w` is the view of the Secrets of `W`, which were reached from `W₀` by the writes of the log. -/
structure Mirrors (W₀ W : WorldOf (Secrets g c)) (w : World) : Prop where
  store : w.store = W.store.view
  log : w.log = W.log
  legible : W.store.Legible
  reached : ∃ xs, W.log = W₀.log ++ xs ∧ W.store = replay RecordStore.commit W₀.store xs

variable {W₀ W : WorldOf (Secrets g c)} {w : World} {e : EnvOf (Secrets g c)}

theorem Mirrors.version (h : Mirrors W₀ W w) (key : String) :
    RecordStore.version w.store key = RecordStore.version W.store key := by
  rw [h.store, Secrets.version_view]

theorem Mirrors.commit (h : Mirrors W₀ W w) {x : Write} (hx : x.Storable c) :
    Mirrors W₀ (W.commit x) (w.commit x) where
  store := by
    rw [World.commit_store, h.store]
    exact (W.store.view_commit hx).symm
  log := congrArg (· ++ [x]) h.log
  legible := h.legible.commit hx
  reached := by
    obtain ⟨xs, hlog, hstore⟩ := h.reached
    refine ⟨xs ++ [x], ?_, ?_⟩
    · exact (congrArg (· ++ [x]) hlog).trans (List.append_assoc ..)
    · rw [replay_append, ← hstore]
      rfl

theorem Mirrors.commit_if (h : Mirrors W₀ W w) {x : Write} (hx : x.Storable c) (b : Bool) :
    Mirrors W₀ (if b then W.commit x else W) (if b then w.commit x else w) := by
  cases b
  · exact h
  · exact h.commit hx

theorem getRecord_simulates {n : String} (hlive : (e.getRead n).IsLive) :
    Simulates (Mirrors W₀) (getRecord g e n) (getRecord g e.view n) := by
  intro W w h
  unfold getRecord
  cases hkey : g.secretName n with
  | error text => exact ⟨rfl, h⟩
  | ok key =>
    dsimp only
    rw [h.store,
      show (e.view.getRead n).serve W.store.view = _ from (e.getRead n).serve_view W.store]
    cases hs : (e.getRead n).serve W.store with
    | error cause => exact ⟨rfl, h⟩
    | ok S =>
      obtain rfl := hlive.serve hs
      dsimp only [Except.map]
      rw [Secrets.fetch_view h.legible hkey]
      exact ⟨rfl, h⟩

theorem listRecordNames_simulates (hu : g.uid ≠ "") :
    Simulates (Mirrors W₀) (listRecordNames g e) (listRecordNames g e.view) := by
  intro W w h
  unfold listRecordNames
  rw [h.store, show e.view.listRead.serve W.store.view = _ from e.listRead.serve_view W.store]
  cases e.listRead.serve W.store with
  | error cause => exact ⟨rfl, h⟩
  | ok S => exact ⟨congrArg Except.ok (Secrets.recordNames_view hu S).symm, h⟩

theorem createRecord_simulates {rec : Record} (hrec : (g.stored rec).Storable c) :
    Simulates (Mirrors W₀) (createRecord g e rec) (createRecord g e.view rec) := by
  intro W w h
  have hx : ∀ key, (Write.create key (g.stored rec)).Storable c := fun _ => hrec
  unfold createRecord
  cases g.secretName rec.name with
  | error text => exact ⟨rfl, h⟩
  | ok key =>
    dsimp only
    rw [h.version key, show e.view.create rec.name = e.create rec.name from rfl]
    cases e.create rec.name with
    | ok =>
      dsimp only
      split
      · exact ⟨rfl, h.commit (hx key)⟩
      · exact ⟨rfl, h⟩
    | failed committed cause => exact ⟨rfl, h.commit_if (hx key) _⟩

theorem updateRecordLabels_simulates (n : String) (labels : Labels) :
    Simulates (Mirrors W₀) (updateRecordLabels g e n labels)
      (updateRecordLabels g e.view n labels) := by
  intro W w h
  have hx : ∀ key, (Write.relabel key labels).Storable c := fun _ => trivial
  unfold updateRecordLabels
  cases g.secretName n with
  | error text => exact ⟨rfl, h⟩
  | ok key =>
    dsimp only
    have hserve : (e.view.updateRead n).serve w.store =
        ((e.updateRead n).serve W.store).map Secrets.view := by
      rw [h.store]
      exact (e.updateRead n).serve_view W.store
    rw [hserve, h.version key, show e.view.update n = e.update n from rfl]
    cases (e.updateRead n).serve W.store with
    | error cause => exact ⟨rfl, h⟩
    | ok S =>
      dsimp only [Except.map]
      rw [S.version_view]
      cases RecordStore.version S key with
      | none => exact ⟨rfl, h⟩
      | some seen =>
        cases e.update n with
        | ok =>
          dsimp only
          split
          · exact ⟨rfl, h.commit (hx key)⟩
          · exact ⟨rfl, h⟩
        | failed committed cause => exact ⟨rfl, h.commit_if (hx key) _⟩

theorem deleteRecord_simulates (n : String) (uid resourceVersion : Nat) :
    Simulates (Mirrors W₀) (deleteRecord g e n uid resourceVersion)
      (deleteRecord g e.view n uid resourceVersion) := by
  intro W w h
  have hx : ∀ key, (Write.delete key).Storable c := fun _ => trivial
  unfold deleteRecord
  cases g.secretName n with
  | error text => exact ⟨rfl, h⟩
  | ok key =>
    dsimp only
    rw [h.version key, show e.view.delete n = e.delete n from rfl]
    cases e.delete n with
    | ok =>
      dsimp only
      split
      · exact ⟨rfl, h.commit (hx key)⟩
      · split
        · exact ⟨rfl, h⟩
        · exact ⟨rfl, h⟩
    | failed committed cause => exact ⟨rfl, h.commit_if (hx key) _⟩

/-! ### The loops of a pass -/

theorem adopt_simulates (hlive : ∀ n, (e.getRead n).IsLive) (a : Adoption) (n : String) :
    Simulates (Mirrors W₀) (adopt g e a n) (adopt g e.view a n) := by
  unfold adopt
  refine (getRecord_simulates (hlive n)).mapErr.bind fun found => ?_
  cases found with
  | none => exact .pure a
  | some rec =>
    dsimp only
    split
    · exact .pure _
    · exact .pure a

variable {link subnet : String}

/-- A record a pass creates is storable: its address is one of the plan. -/
theorem freshRecord_storable (hp : g.Planned subnet link) (hones : IsInt g.bundle.subnetPrefix)
    {slot : Nat} (hslot : slot < g.capacity) {address privateKey : String}
    (haddress : slotAddress g.gatewayAddress g.eligibleAddresses slot = .ok address)
    (hkey : publicKeyOf c privateKey = .ok (g.publicKeyOf privateKey)) (n : String)
    (l : ListedMember) (snap : Snapshot) :
    (g.stored (freshRecord g n l snap slot address privateKey)).Storable c where
  keys := hkey
  address := by
    rw [slotAddress_natCast] at haddress
    have hmem : address ∈ g.gatewayAddress :: g.eligibleAddresses := by
      cases ha : (g.gatewayAddress :: g.eligibleAddresses)[slot]? with
      | none => rw [ha] at haddress; cases haddress
      | some a => rw [ha] at haddress; cases haddress; exact List.mem_of_getElem? ha
    obtain ⟨-, ip, -, hip, -⟩ := hp.plan.usable address hmem
    intro hslash
    have hchar := addrChar_of_parseIP (Option.isSome_iff_exists.mpr ⟨ip, hip⟩) '/' hslash
    exact absurd hchar (by unfold AddrChar; decide)
  slot := by
    have hcap := hp.plan.capacity_le
    rw [← hp.capacity, capacityLimit] at hcap
    exact ⟨by unfold maxInt; simp only [Gateway.stored, freshRecord]; omega,
      by unfold maxInt; simp only [Gateway.stored, freshRecord]; omega⟩
  subnetPrefix := hones
  departureCount := (by decide : IsInt 0)

theorem allocate_simulates (hp : g.Planned subnet link) (hones : IsInt g.bundle.subnetPrefix)
    (hkeys : e.KeysParse) (snap : Snapshot) (a : Adoption) (n : String) :
    Simulates (Mirrors W₀) (allocate g e snap a n) (allocate g e.view snap a n) := by
  unfold allocate
  cases snap.listedByName.lookup n with
  | none => exact .pure a
  | some l =>
    refine .bind (m := tryAllocate g e n l snap a.occupied) ?_ fun r => ?_
    · unfold tryAllocate
      cases hslot : lowestFreeSlot a.occupied g.capacity with
      | none => exact .pure none
      | some slot =>
        have hlt : slot < g.capacity := List.mem_range.mp (List.mem_of_find?_eq_some hslot)
        refine .lift_bind fun address haddress => .lift_bind fun key hkey => ?_
        have hparse := hkeys n key (by
          cases hk : e.keypair n with
          | error => rw [hk] at hkey; cases hkey
          | ok k => rw [hk] at hkey; cases hkey; rfl)
        have hrec := freshRecord_storable hp hones hlt haddress hparse n l snap
        refine (createRecord_simulates hrec).attempt.bind fun r => ?_
        cases r with
        | ok => exact .pure _
        | error err =>
          cases err with
          | alreadyExists => exact .pure none
          | other => exact .fail _
    · cases r with
      | none => exact .pure a
      | some rec => exact .pure _

theorem resumeActive_simulates (rec : Record) (l : ListedMember) (snap : Snapshot)
    (pending : Bool) : Simulates (Mirrors W₀) (resumeActive g e rec l snap pending)
      (resumeActive g e.view rec l snap pending) := by
  unfold resumeActive
  dsimp only
  split
  · exact (updateRecordLabels_simulates _ _).mapErr.bind fun _ => .lift_bind fun _ _ => .pure _
  · exact .lift_bind fun _ _ => .pure _

theorem debounceAbsence_simulates (rec : Record) :
    Simulates (Mirrors W₀) (debounceAbsence g e rec) (debounceAbsence g e.view rec) := by
  unfold debounceAbsence
  dsimp only
  split
  · exact (updateRecordLabels_simulates _ _).mapErr.bind fun _ => .pure _
  · exact (updateRecordLabels_simulates _ _).mapErr.bind fun _ => .lift_bind fun _ _ => .pure _

theorem confirmOrResume_simulates (rec : Record) (listed : Option ListedMember) (snap : Snapshot) :
    Simulates (Mirrors W₀) (confirmOrResume g e rec listed snap)
      (confirmOrResume g e.view rec listed snap) := by
  unfold confirmOrResume
  split
  · exact resumeActive_simulates rec _ snap _
  · refine .lift_bind fun _ _ => ?_
    rw [show releaseBlocked e.view rec.name = releaseBlocked e rec.name from rfl]
    cases releaseBlocked e rec.name with
    | some reason => exact .pure _
    | none =>
      refine (deleteRecord_simulates _ _ _).attempt.bind fun r => ?_
      cases r <;> exact .pure _

theorem walkName_simulates (snap : Snapshot) (adopted : GoMap String Record) (r : Result)
    (n : String) : Simulates (Mirrors W₀) (walkName g e snap adopted r n)
      (walkName g e.view snap adopted r n) := by
  unfold walkName
  refine .bind ?_ fun _ => .pure _
  unfold processName
  dsimp only
  cases adopted.lookup n with
  | none => exact .pure _
  | some rec =>
    dsimp only
    split
    · exact confirmOrResume_simulates rec _ snap
    · split
      · split
        · exact (updateRecordLabels_simulates _ _).mapErr.bind fun _ => .pure _
        · exact resumeActive_simulates rec _ snap _
        · exact debounceAbsence_simulates rec
      · exact debounceAbsence_simulates rec

/-- **A pass over the Secrets is the pass over their records.** -/
theorem reconcile_simulates (hu : g.uid ≠ "") (hp : g.Planned subnet link)
    (hones : IsInt g.bundle.subnetPrefix) (hkeys : e.KeysParse)
    (hlive : ∀ n, (e.getRead n).IsLive) (snap : Option Snapshot) (desired last : Int) :
    Simulates (Mirrors W₀) (reconcile g e snap desired last)
      (reconcile g e.view snap desired last) := by
  cases snap with
  | none => exact .pure _
  | some snap =>
    refine (listRecordNames_simulates hu).mapErr.bind fun tracked => ?_
    refine (Simulates.foldlM (adopt_simulates hlive) _ _).bind fun a => ?_
    refine (Simulates.foldlM (allocate_simulates hp hones hkeys snap) _ _).bind fun a' => ?_
    exact .foldlM (walkName_simulates snap a'.adopted) _ _

/-! ## A steady fleet -/

/-- **A steady fleet causes no writes.** When a completed pass over the Secrets lists every
recorded member as present, and no foreign Secret sits under a derived name, a second pass
over the same snapshot returns the same result and leaves the Secrets, and the log of writes
to them, as they are. -/
theorem steady_fleet {subnet link : String} {e' : EnvOf (Secrets g c)}
    {W W' : WorldOf (Secrets g c)}
    {snap : Snapshot} {desired last last' : Int} {res : Result} (hu : g.uid ≠ "")
    (hp : g.Planned subnet link) (hones : IsInt g.bundle.subnetPrefix) (hkeys : e.KeysParse)
    (hkeys' : e'.KeysParse) (he : e.Live) (hlist : e'.listRead = .live)
    (hget : ∀ n, e'.getRead n = .live) (hlegible : W.store.Legible)
    (hown : Unshared g snap W.store.view) (hpresent : AllPresent snap (g.recordNames W.store))
    (h : reconcile g e (some snap) desired last W = (.ok res, W'))
    (hlast : last' = last ∨ last' = res.targetSize) :
    reconcile g e' (some snap) desired last' W' = (.ok res, W') := by
  -- the first pass, over the records
  have hmirror : Mirrors W W { store := W.store.view, log := W.log } :=
    ⟨rfl, rfl, hlegible, [], (List.append_nil _).symm, rfl⟩
  obtain ⟨r, W₁, w₁, hW₁, hw₁, hmirror₁⟩ :=
    (reconcile_simulates hu hp hones hkeys he.get (some snap) desired last).ends hmirror
  rw [h] at hW₁
  cases hW₁
  rw [← Secrets.recordNames_view hu] at hpresent
  have hagain : reconcile g e'.view (some snap) desired last' w₁ = (.ok res, w₁) :=
    reconcile_again he.view (congrArg ReadOf.view hlist) (fun n => congrArg ReadOf.view (hget n))
      hown hpresent hw₁ hlast
  -- the second pass, over the Secrets the first one left
  have hlive' : ∀ n, (e'.getRead n).IsLive := fun n => by
    rw [hget n]
    trivial
  have hmirror' : Mirrors W' W' w₁ :=
    ⟨hmirror₁.store, hmirror₁.log, hmirror₁.legible, [], (List.append_nil _).symm, rfl⟩
  obtain ⟨r, W₂, w₂, hW₂, hw₂, hmirror₂⟩ :=
    (reconcile_simulates hu hp hones hkeys' hlive' (some snap) desired last').ends hmirror'
  rw [hagain] at hw₂
  cases hw₂
  obtain ⟨xs, hlog, hstore⟩ := hmirror₂.reached
  have hxs : xs = [] := by
    rw [← hmirror₂.log, hmirror₁.log] at hlog
    exact List.append_right_eq_self.mp hlog.symm
  subst hxs
  have hworld : W₂ = W' := by
    obtain ⟨store, log⟩ := W₂
    obtain ⟨store', log'⟩ := W'
    obtain rfl : store = store' := hstore
    obtain rfl : log = log' := hlog.trans (List.append_nil _)
    rfl
  rw [hW₂, hworld]

/-- Private keys from which the public keys of the small fleet are derived. -/
def plainCodec : Codec where
  derive := fun k => .ok ("pub-" ++ k)
  unmarshalError := fun raw => "invalid JSON " ++ quote raw

/-- No Secret at all. -/
def noSecrets : WorldOf (Secrets fleet plainCodec) :=
  { store := { objects := ∅, clock := 1 }, log := [] }

/-- The Secret of `a`, as a pass created it. -/
def joinedSecrets : WorldOf (Secrets fleet plainCodec) :=
  (reconcile fleet (.calm .live) (some { members := [running "a"], details := ∅ }) 1 1 noSecrets).2

/-- The keys of the small fleet parse. -/
theorem calm_keysParse : (EnvOf.calm (.live : ReadOf (Secrets fleet plainCodec))).KeysParse := by
  rintro n _ ⟨⟩
  have hne : "key-" ++ n ≠ "" := by simp
  simp only [publicKeyOf, if_neg hne]
  rfl

theorem joinedSecrets_mirrors : Mirrors noSecrets joinedSecrets joinedWorld :=
  (reconcile_simulates (by decide) fleet_planned (by decide) calm_keysParse (fun _ => trivial) _ 1 1
    noSecrets emptyWorld ⟨rfl, rfl, fun _ _ _ _ h => (nomatch h), [], rfl, rfl⟩).2

/-- Two members run; the pass that gave the second one its record is run again, in an environment in
which every write would fail. -/
theorem steady_fleet_joined :
    ∃ W' res, reconcile fleet (.calm .live) (some joiningSnapshot) 2 2 joinedSecrets =
      (.ok res, W') ∧ res.members.map (·.state) = [.active, .active] ∧
      reconcile fleet { EnvOf.calm .live with
          create := fun _ => .failed true "down", update := fun _ => .failed true "down",
          delete := fun _ => .failed true "down" } (some joiningSnapshot) 2 res.targetSize W' =
        (.ok res, W') := by
  have hstates : (reconcile fleet (.calm .live) (some joiningSnapshot) 2 2 joinedWorld).1.map
      (fun res => res.members.map (·.state)) = .ok [.active, .active] := by decide +kernel
  have hsame : (reconcile fleet (.calm .live) (some joiningSnapshot) 2 2 joinedSecrets).1 =
      (reconcile fleet (.calm .live) (some joiningSnapshot) 2 2 joinedWorld).1 :=
    (reconcile_simulates (by decide) fleet_planned (by decide) calm_keysParse (fun _ => trivial) _ 2
      2 joinedSecrets joinedWorld joinedSecrets_mirrors).1
  rw [← hsame] at hstates
  have hview : joinedSecrets.store.view = joinedWorld.store := joinedSecrets_mirrors.store.symm
  have hrecorded : fleet.recordNames joinedSecrets.store = ["a"] := by
    rw [← Secrets.recordNames_view (by decide), hview]
    decide +kernel
  have hpresent : AllPresent joiningSnapshot (fleet.recordNames joinedSecrets.store) := by
    intro n hn
    rw [hrecorded, List.mem_singleton] at hn
    subst hn
    exact ⟨running "a", by decide +kernel, rfl⟩
  have hown : Unshared fleet joiningSnapshot joinedSecrets.store.view := by
    rw [hview]
    decide +kernel
  rcases hpass : reconcile fleet (.calm .live) (some joiningSnapshot) 2 2 joinedSecrets with
    ⟨err | res, W'⟩
  · rw [hpass] at hstates
    cases hstates
  · rw [hpass] at hstates
    exact ⟨W', res, rfl, Except.ok.inj hstates, steady_fleet (by decide) fleet_planned (by decide)
      calm_keysParse calm_keysParse EnvOf.calm_live rfl (fun _ => rfl)
        joinedSecrets_mirrors.legible hown
      hpresent hpass (.inr rfl)⟩

end WireguardGateway.Gcp

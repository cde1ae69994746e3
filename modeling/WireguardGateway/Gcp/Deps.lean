import WireguardGateway.Gcp.Names
import WireguardGateway.Gcp.Record
import WireguardGateway.Lib.Prog

/-!
# The operations a pass performs on its records

`Deps` of the source, operation by operation, as programs over a `World`. What the environment
decides is an `Env`, one answer per call of a pass: whether a read is served live, from an older
version (`Read.cached`) or fails; whether a write succeeds, or fails with or without having taken
effect (`WriteOutcome`); in which order Go ranges over a map. A resource version identifies the
content it was assigned to, so a write based on a stale read conflicts.

Results: one inversion per operation and exit (`getRecord_ok`, `listRecordNames_ok`,
`createRecord_ok`, `createRecord_alreadyExists`, `createRecord_other`, `updateRecordLabels_ok`,
`updateRecordLabels_error`, `deleteRecord_ok`, `deleteRecord_error`): the write it can commit and
the condition under which it does.
-/

namespace WireguardGateway.Gcp

open Lib

/-! ## The Gateway and the environment -/

/-- The values every member's bundle carries beside its own key, address and slot. -/
structure BundleInputs where
  subnetPrefix : Int
  peerPublicKey : String
  peerAllowedIPs : String
  deriving DecidableEq, Repr

/-- What a pass is given about its Gateway. `publicKeyOf` is the curve's key derivation. -/
structure Gateway where
  uid : String
  gatewayNamespace : String
  gatewayName : String
  project : String
  capacity : Nat
  eligibleAddresses : List String
  gatewayAddress : String
  bundle : BundleInputs
  publicKeyOf : String → String

/-- How the API serves one read. -/
inductive ReadOf (σ : Type) where
  | live
  | cached (s : σ)
  | fails (cause : String)
  deriving DecidableEq

section

variable {σ : Type}

def ReadOf.serve : ReadOf σ → σ → Except String σ
  | .live, s => .ok s
  | .cached s, _ => .ok s
  | .fails cause, _ => .error cause

/-- A read that is not served from an older version. -/
def ReadOf.IsLive : ReadOf σ → Prop
  | .cached _ => False
  | .live | .fails _ => True

theorem ReadOf.IsLive.serve {r : ReadOf σ} (h : r.IsLive) {s v : σ} (hs : r.serve s = .ok v) :
    v = s := by
  cases r with
  | live => cases hs; rfl
  | cached => exact h.elim
  | fails => cases hs

/-- How the API answers one write; a failed write may have taken effect. -/
inductive WriteOutcome where
  | ok
  | failed (committed : Bool) (cause : String)
  deriving DecidableEq

/-- The environment of one pass. Every operation is called at most once per member name, so its
answer is a function of the name. `keypair` is the private key of the generated pair. -/
structure EnvOf (σ : Type) where
  visit : List String → List String
  visit_perm : ∀ names, (visit names).Perm names
  listRead : ReadOf σ
  getRead : String → ReadOf σ
  keypair : String → Except String String
  create : String → WriteOutcome
  updateRead : String → ReadOf σ
  update : String → WriteOutcome
  confirm : String → Except String (Bool × String)
  synced : String → Except String (Bool × String)
  delete : String → WriteOutcome

/-- The reads of the pass reflect the store. -/
structure EnvOf.Live (e : EnvOf σ) : Prop where
  list : e.listRead.IsLive
  get : ∀ n, (e.getRead n).IsLive
  update : ∀ n, (e.updateRead n).IsLive

end

/-- A read of decoded records. -/
abbrev Read : Type := ReadOf Store

/-- The environment of a pass over decoded records. -/
abbrev Env : Type := EnvOf Store

/-- An API error, as far as a caller tells it apart. -/
inductive ApiError where
  | alreadyExists (text : String)
  | other (text : String)
  deriving DecidableEq, Repr

def ApiError.text : ApiError → String
  | .alreadyExists t | .other t => t

namespace Gateway

variable (g : Gateway)

/-- `resolveNames`. -/
def resolveNames (name : String) : Except String ManagedResourceNames :=
  nameResourceNames g.uid g.project name

/-- The object name of `name`'s Secret. -/
def secretName (name : String) : Except String String :=
  (g.resolveNames name).map (·.kubernetesSecretName)

/-- The record as the Secret holds it: the public key is derived from the private key. -/
def stored (rec : Record) : Record := { rec with publicKey := g.publicKeyOf rec.privateKey }

/-- The non-empty name labels of the Secrets that carry the Gateway's UID. -/
def recordNames {σ : Type} [RecordStore σ] (s : σ) : List String := RecordStore.names s g.uid

/-- `<namespace>/<object>`, as the error texts name a Secret. -/
def objectText (key : String) : String := g.gatewayNamespace ++ "/" ++ key

end Gateway

/-! ## The operations -/

section

variable {σ : Type} [RecordStore σ] (g : Gateway) (e : EnvOf σ)

/-- `GetRecord`. -/
def getRecord (name : String) : Prog (WorldOf σ) ApiError (Option Record) := fun w =>
  match g.secretName name with
  | .error text => (.error (.other text), w)
  | .ok key =>
    match (e.getRead name).serve w.store with
    | .error cause =>
      (.error (.other ("gcpmembers: reading record secret " ++ g.objectText key ++ ": " ++ cause)),
        w)
    | .ok s =>
      match RecordStore.fetch s key with
      | .error text => (.error (.other text), w)
      | .ok found => (.ok found, w)

/-- `ListRecordNames`. -/
def listRecordNames : Prog (WorldOf σ) ApiError (List String) := fun w =>
  match e.listRead.serve w.store with
  | .error cause =>
    (.error (.other ("gcpmembers: listing record secrets in " ++ g.gatewayNamespace ++ ": " ++
      cause)), w)
  | .ok s => (.ok (g.recordNames s), w)

/-- `CreateRecord`. -/
def createRecord (rec : Record) : Prog (WorldOf σ) ApiError Unit := fun w =>
  match g.secretName rec.name with
  | .error text => (.error (.other text), w)
  | .ok key =>
    let wrap := fun cause =>
      "gcpmembers: creating record secret " ++ g.objectText key ++ ": " ++ cause
    let fresh := (RecordStore.version w.store key).isNone
    match e.create rec.name with
    | .ok =>
      if fresh then (.ok (), w.commit (.create key (g.stored rec)))
      else (.error (.alreadyExists (wrap ("secrets " ++ quote key ++ " already exists"))), w)
    | .failed committed cause =>
      (.error (.other (wrap cause)),
        if committed && fresh then w.commit (.create key (g.stored rec)) else w)

/-- `UpdateRecordLabels`: read the Secret, copy the labels over, update. -/
def updateRecordLabels (name : String) (labels : Labels) : Prog (WorldOf σ) ApiError Unit :=
  fun w =>
  match g.secretName name with
  | .error text => (.error (.other text), w)
  | .ok key =>
    let readError := fun cause =>
      "gcpmembers: reading record secret " ++ g.objectText key ++ " for label update: " ++ cause
    let updateError := fun cause =>
      "gcpmembers: updating record secret " ++ g.objectText key ++ " labels: " ++ cause
    match (e.updateRead name).serve w.store with
    | .error cause => (.error (.other (readError cause)), w)
    | .ok s =>
      match RecordStore.version s key with
      | none => (.error (.other (readError ("secrets " ++ quote key ++ " not found"))), w)
      | some seen =>
        let current := RecordStore.version w.store key == some seen
        match e.update name with
        | .ok =>
          if current then (.ok (), w.commit (.relabel key labels))
          else (.error (.other (updateError "the object has been modified")), w)
        | .failed committed cause =>
          (.error (.other (updateError cause)),
            if committed && current then w.commit (.relabel key labels) else w)

/-- `DeleteRecord`, with its uid and resource version preconditions. A missing Secret is no
error. -/
def deleteRecord (name : String) (uid resourceVersion : Nat) : Prog (WorldOf σ) ApiError Unit :=
  fun w =>
  match g.secretName name with
  | .error text => (.error (.other text), w)
  | .ok key =>
    let wrap := fun cause =>
      "gcpmembers: deleting record secret " ++ g.objectText key ++ ": " ++ cause
    let current := RecordStore.version w.store key == some (uid, resourceVersion)
    match e.delete name with
    | .ok =>
      if current then (.ok (), w.commit (.delete key))
      else if (RecordStore.version w.store key).isNone then (.ok (), w)
      else (.error (.other (wrap "the precondition failed")), w)
    | .failed committed cause =>
      (.error (.other (wrap cause)),
        if committed && current then w.commit (.delete key) else w)

end

/-! ## What each operation can do -/

/-- Whether a write that carries `uid` and `resourceVersion` is about the current object. -/
def Store.isCurrent (s : Store) (key : String) (uid resourceVersion : Nat) : Bool :=
  RecordStore.version s key == some (uid, resourceVersion)

variable {g : Gateway} {e : Env} {w w' : World}

variable {key name : String} {err : ApiError} {rec : Record}

theorem Store.version_eq_none {s : Store} :
    RecordStore.version s key = none ↔ s.lookup key = none :=
  Option.map_eq_none_iff

theorem Store.isCurrent_iff {s : Store} {uid rv : Nat} :
    s.isCurrent key uid rv ↔
      ∃ r, s.lookup key = some r ∧ r.uid = uid ∧ r.resourceVersion = rv := by
  simp [isCurrent, RecordStore.version]

theorem getRecord_ok {r : Option Record} (h : getRecord g e name w = (.ok r, w')) :
    w' = w ∧ ∃ key s, g.secretName name = .ok key ∧ (e.getRead name).serve w.store = .ok s ∧
      r = s.lookup key := by
  unfold getRecord at h
  split at h
  · cases h
  · rename_i key hk
    split at h
    · cases h
    · rename_i s hs
      cases h
      exact ⟨rfl, key, s, hk, hs, rfl⟩

theorem getRecord_error (h : getRecord g e name w = (.error err, w')) :
    (∃ t, g.secretName name = .error t) ∨
      ∃ cause, (e.getRead name).serve w.store = .error cause := by
  unfold getRecord at h
  split at h
  · rename_i t ht
    exact .inl ⟨t, ht⟩
  · split at h
    · rename_i cause hc
      exact .inr ⟨cause, hc⟩
    · cases h

theorem getRecord_world (name : String) (w : World) : (getRecord g e name w).2 = w := by
  unfold getRecord
  split
  · rfl
  · split <;> rfl

theorem Gateway.mem_recordNames {s : Store} {n : String} :
    n ∈ g.recordNames s ↔ n ≠ "" ∧ ∃ r ∈ s.records, r.gatewayUID = g.uid ∧ r.name = n := by
  simp only [recordNames, RecordStore.names, List.mem_filter, List.mem_map, decide_eq_true_eq]
  constructor
  · rintro ⟨⟨r, ⟨hr, hu⟩, rfl⟩, hn⟩
    exact ⟨hn, r, hr, hu, rfl⟩
  · rintro ⟨hn, r, hr, hu, rfl⟩
    exact ⟨⟨r, ⟨hr, hu⟩, rfl⟩, hn⟩

theorem listRecordNames_ok {names : List String} (h : listRecordNames g e w = (.ok names, w')) :
    ∃ s, e.listRead.serve w.store = .ok s ∧ names = g.recordNames s := by
  unfold listRecordNames at h
  split at h
  · cases h
  · rename_i s hs
    cases h
    exact ⟨s, hs, rfl⟩

theorem listRecordNames_error (h : listRecordNames g e w = (.error err, w')) :
    ∃ cause, e.listRead.serve w.store = .error cause := by
  unfold listRecordNames at h
  split at h
  · rename_i cause hc
    exact ⟨cause, hc⟩
  · cases h

theorem listRecordNames_world (w : World) : (listRecordNames g e w).2 = w := by
  unfold listRecordNames
  split <;> rfl

/-- A record is created only under an object name that is free. -/
theorem createRecord_ok {u : Unit} (h : createRecord g e rec w = (.ok u, w')) :
    ∃ key, g.secretName rec.name = .ok key ∧ w.store.lookup key = none ∧
      w' = w.commit (.create key (g.stored rec)) := by
  unfold createRecord at h
  split at h
  · cases h
  · rename_i key hk
    dsimp only at h
    split at h
    · split at h
      · rename_i hfresh
        cases h
        exact ⟨key, hk, Store.version_eq_none.mp (Option.isNone_iff_eq_none.mp hfresh), rfl⟩
      · cases h
    · cases h

theorem createRecord_alreadyExists {text : String}
    (h : createRecord g e rec w = (.error (.alreadyExists text), w')) :
    w' = w ∧ ∃ key, g.secretName rec.name = .ok key ∧ (w.store.lookup key).isSome := by
  unfold createRecord at h
  split at h
  · cases h
  · rename_i key hk
    dsimp only at h
    split at h
    · split at h
      · cases h
      · rename_i hfresh
        cases h
        rw [Option.isNone_iff_eq_none, Store.version_eq_none] at hfresh
        exact ⟨rfl, key, hk, Option.isSome_iff_ne_none.mpr hfresh⟩
    · cases h

/-- A creation fails for want of a name or by the API's answer, and may then have taken effect. -/
theorem createRecord_other {text : String}
    (h : createRecord g e rec w = (.error (.other text), w')) :
    (w' = w ∧ ((∃ t, g.secretName rec.name = .error t) ∨ e.create rec.name ≠ .ok)) ∨
      (e.create rec.name ≠ .ok ∧ ∃ key, g.secretName rec.name = .ok key ∧
        w.store.lookup key = none ∧ w' = w.commit (.create key (g.stored rec))) := by
  unfold createRecord at h
  split at h
  · rename_i ht
    cases h
    exact .inl ⟨rfl, .inl ⟨_, ht⟩⟩
  · rename_i key hk
    dsimp only at h
    split at h
    · split at h <;> cases h
    · rename_i committed cause hc
      have hne : e.create rec.name ≠ .ok := by rw [hc]; exact WriteOutcome.noConfusion
      split at h
      · rename_i hcommit
        cases h
        simp only [Bool.and_eq_true, Option.isNone_iff_eq_none] at hcommit
        exact .inr ⟨hne, key, hk, Store.version_eq_none.mp hcommit.2, rfl⟩
      · cases h
        exact .inl ⟨rfl, .inr hne⟩

/-- The read of a label update returns the current version of the Secret. -/
def Updatable (e : Env) (s : Store) (name key : String) : Prop :=
  ∃ v seen, (e.updateRead name).serve s = .ok v ∧ RecordStore.version v key = some seen ∧
    RecordStore.version s key == some seen

/-- Labels are overwritten only on the version the update read. -/
theorem updateRecordLabels_ok {labels : Labels} {u : Unit}
    (h : updateRecordLabels g e name labels w = (.ok u, w')) :
    ∃ key, g.secretName name = .ok key ∧ Updatable e w.store name key ∧ e.update name = .ok ∧
      w' = w.commit (.relabel key labels) := by
  unfold updateRecordLabels at h
  split at h
  · cases h
  · rename_i key hk
    dsimp only at h
    split at h
    · cases h
    · rename_i v hv
      split at h
      · cases h
      · rename_i seen hseen
        split at h
        · rename_i hok
          split at h
          · rename_i hcur
            cases h
            exact ⟨key, hk, ⟨v, seen, hv, hseen, hcur⟩, hok, rfl⟩
          · cases h
        · cases h

/-- A label update that fails left the Secret alone, unless the API dropped its answer. -/
theorem updateRecordLabels_error (hkey : g.secretName name = .ok key) {labels : Labels}
    (h : updateRecordLabels g e name labels w = (.error err, w')) :
    (w' = w ∧ (Updatable e w.store name key → ∃ cause, e.update name = .failed false cause)) ∨
      (Updatable e w.store name key ∧ (∃ cause, e.update name = .failed true cause) ∧
        w' = w.commit (.relabel key labels)) := by
  unfold updateRecordLabels at h
  rw [hkey] at h
  dsimp only at h
  split at h
  · rename_i cause hc
    cases h
    refine .inl ⟨rfl, fun ⟨v, seen, hv, _⟩ => ?_⟩
    rw [hc] at hv
    cases hv
  · rename_i v hv
    split at h
    · rename_i hnone
      cases h
      refine .inl ⟨rfl, fun ⟨v', seen, hv', hseen, _⟩ => ?_⟩
      rw [hv] at hv'
      cases hv'
      rw [hnone] at hseen
      cases hseen
    · rename_i seen hseen
      split at h
      · split at h
        · cases h
        · rename_i hcur
          cases h
          refine .inl ⟨rfl, fun ⟨v', seen', hv', hseen', hcur'⟩ => ?_⟩
          rw [hv] at hv'
          cases hv'
          rw [hseen] at hseen'
          cases hseen'
          exact absurd hcur' hcur
      · rename_i committed cause hfail
        split at h
        · rename_i hc
          cases h
          rw [Bool.and_eq_true] at hc
          obtain ⟨rfl, hcur⟩ := hc
          exact .inr ⟨⟨v, seen, hv, hseen, hcur⟩, ⟨cause, hfail⟩, rfl⟩
        · rename_i hc
          cases h
          refine .inl ⟨rfl, fun ⟨v', seen', hv', hseen', hcur'⟩ => ?_⟩
          rw [hv] at hv'
          cases hv'
          rw [hseen] at hseen'
          cases hseen'
          rw [hcur', Bool.and_true, Bool.not_eq_true] at hc
          exact ⟨cause, hc ▸ hfail⟩

/-- A delete that succeeds removed the version it names, or found nothing. -/
theorem deleteRecord_ok {uid rv : Nat} {u : Unit}
    (h : deleteRecord g e name uid rv w = (.ok u, w')) :
    e.delete name = .ok ∧ ∃ key, g.secretName name = .ok key ∧
      ((w.store.isCurrent key uid rv ∧ w' = w.commit (.delete key)) ∨
        (w.store.lookup key = none ∧ w' = w)) := by
  unfold deleteRecord at h
  split at h
  · cases h
  · rename_i key hk
    dsimp only at h
    split at h
    · rename_i hok
      split at h
      · rename_i hcur
        cases h
        exact ⟨hok, key, hk, .inl ⟨hcur, rfl⟩⟩
      · split at h
        · rename_i hnone
          cases h
          rw [Option.isNone_iff_eq_none, Store.version_eq_none] at hnone
          exact ⟨hok, key, hk, .inr ⟨hnone, rfl⟩⟩
        · cases h
    · cases h

/-- A delete that fails removed nothing, unless the API dropped its answer; the API accepts it for
the current version only. -/
theorem deleteRecord_error {uid rv : Nat} (h : deleteRecord g e name uid rv w = (.error err, w')) :
    (w' = w ∧ (e.delete name = .ok → ∀ key, g.secretName name = .ok key →
        ¬ w.store.isCurrent key uid rv)) ∨
      (e.delete name ≠ .ok ∧ ∃ key, g.secretName name = .ok key ∧
        w.store.isCurrent key uid rv ∧ w' = w.commit (.delete key)) := by
  unfold deleteRecord at h
  split at h
  · rename_i hk
    cases h
    refine .inl ⟨rfl, fun _ key hkey => ?_⟩
    rw [hk] at hkey
    cases hkey
  · rename_i key hk
    dsimp only at h
    split at h
    · split at h
      · cases h
      · rename_i hcur
        split at h
        · cases h
        · cases h
          refine .inl ⟨rfl, fun _ key' hkey => ?_⟩
          rw [hk] at hkey
          cases hkey
          exact hcur
    · rename_i committed cause hfailed
      have hne : e.delete name ≠ .ok := by rw [hfailed]; exact WriteOutcome.noConfusion
      split at h
      · rename_i hc
        cases h
        simp only [Bool.and_eq_true] at hc
        exact .inr ⟨hne, key, hk, hc.2, rfl⟩
      · cases h
        exact .inl ⟨rfl, fun hok => absurd hok hne⟩

end WireguardGateway.Gcp

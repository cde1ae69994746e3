import WireguardGateway.Gcp.Discovery
import WireguardGateway.Lib.Journal

/-!
# Member records and the record store

A member's durable record is a Secret; `Record` is its decoded view and `Store` the Secrets of the
Gateway's namespace by object name, each with the uid and resource version the API server assigned.
A `Write` is a write the server accepted, and a `World` is the store with the log of such writes.

Results:
* **`Record.relabel_sameIdentity`**: overwriting the mutable labels leaves the identity, slot, keys
  and tunnel address of a record alone;
* `lookup_commit_create`, `lookup_commit_relabel`, `lookup_commit_delete`, `lookup_commit_of_ne`:
  what one accepted write does to one object.
-/

namespace WireguardGateway.Gcp

open Lib

/-! ## Records and labels -/

/-- The decoded view of a member's Secret. `uid` and `resourceVersion` are `0` before the API
server assigns them. -/
structure Record where
  uid : Nat
  resourceVersion : Nat
  name : String
  zone : String
  slot : Int
  privateKey : String
  publicKey : String
  tunnelAddress : String
  subnetPrefix : Int
  peerPublicKey : String
  peerAllowedIPs : String
  externalAddress : String
  instanceID : String
  revision : String
  departureCount : Int
  pendingConfirmation : Bool
  gatewayUID : String
  project : String
  deriving DecidableEq, Repr

/-- The record labels. -/
inductive Label where
  | name
  | zone
  | slot
  | instanceID
  | externalAddress
  | project
  | revision
  | departureCount
  | pendingConfirmation
  | state
  | gatewayUID
  deriving DecidableEq, Repr

abbrev Labels : Type := List (Label × String)

/-- One label of the Secret overwritten, as the decoded record sees it. Nothing decodes `state`. -/
def Record.setLabel (r : Record) : Label × String → Record
  | (.name, v) => { r with name := v }
  | (.zone, v) => { r with zone := v }
  | (.slot, v) => { r with slot := atoi v }
  | (.instanceID, v) => { r with instanceID := v }
  | (.externalAddress, v) => { r with externalAddress := v }
  | (.project, v) => { r with project := v }
  | (.revision, v) => { r with revision := v }
  | (.departureCount, v) => { r with departureCount := atoi v }
  | (.pendingConfirmation, v) => { r with pendingConfirmation := v == "true" }
  | (.state, _) => r
  | (.gatewayUID, v) => { r with gatewayUID := v }

/-- The version the API server assigns with an accepted write. -/
def Record.stamp (r : Record) (resourceVersion : Nat) : Record := { r with resourceVersion }

/-- The uid and version the API server assigns to a new object. -/
def Record.assign (r : Record) (n : Nat) : Record := { r with uid := n, resourceVersion := n }

/-- `maps.Copy` of `labels` over the Secret's labels. -/
def Record.relabel (r : Record) (labels : Labels) : Record := labels.foldl Record.setLabel r

/-- The labels a pass may overwrite: every other one is written once, at creation. -/
def Label.isMutable : Label → Bool
  | .zone | .instanceID | .externalAddress | .revision | .departureCount | .pendingConfirmation
  | .state => true
  | .name | .slot | .project | .gatewayUID => false

/-- The fields fixed at creation. -/
structure Record.SameIdentity (r r' : Record) : Prop where
  uid : r'.uid = r.uid
  name : r'.name = r.name
  slot : r'.slot = r.slot
  privateKey : r'.privateKey = r.privateKey
  publicKey : r'.publicKey = r.publicKey
  tunnelAddress : r'.tunnelAddress = r.tunnelAddress
  gatewayUID : r'.gatewayUID = r.gatewayUID
  project : r'.project = r.project

theorem Record.SameIdentity.refl (r : Record) : r.SameIdentity r :=
  ⟨rfl, rfl, rfl, rfl, rfl, rfl, rfl, rfl⟩

theorem Record.SameIdentity.trans {r r' r'' : Record} (h : r.SameIdentity r')
    (h' : r'.SameIdentity r'') : r.SameIdentity r'' :=
  ⟨h'.uid.trans h.uid, h'.name.trans h.name, h'.slot.trans h.slot,
    h'.privateKey.trans h.privateKey, h'.publicKey.trans h.publicKey,
    h'.tunnelAddress.trans h.tunnelAddress, h'.gatewayUID.trans h.gatewayUID,
    h'.project.trans h.project⟩

theorem Record.setLabel_sameIdentity (r : Record) {l : Label × String} (h : l.1.isMutable) :
    r.SameIdentity (r.setLabel l) := by
  obtain ⟨l, v⟩ := l
  cases l <;> first | exact Bool.noConfusion h | exact ⟨rfl, rfl, rfl, rfl, rfl, rfl, rfl, rfl⟩

theorem Record.relabel_sameIdentity {labels : Labels} (r : Record)
    (h : ∀ l ∈ labels, l.1.isMutable) : r.SameIdentity (r.relabel labels) := by
  induction labels generalizing r with
  | nil => exact .refl r
  | cons l ls ih =>
    exact (r.setLabel_sameIdentity (h l List.mem_cons_self)).trans
      (ih _ fun l' h' => h l' (List.mem_cons_of_mem _ h'))

/-- A label update, version included, leaves the identity alone. -/
theorem Record.stamp_relabel_sameIdentity {labels : Labels} (r : Record)
    (h : ∀ l ∈ labels, l.1.isMutable) (c : Nat) : r.SameIdentity ((r.relabel labels).stamp c) :=
  (r.relabel_sameIdentity h).trans ⟨rfl, rfl, rfl, rfl, rfl, rfl, rfl, rfl⟩

/-! ## The store and its writes -/

/-- The Secrets of the namespace by name; `clock` numbers the versions. -/
structure Store where
  secrets : GoMap String Record
  clock : Nat
  deriving DecidableEq

namespace Store

def lookup (s : Store) (key : String) : Option Record := s.secrets.lookup key

/-- The records of the Secrets, in no particular order. -/
def records (s : Store) : List Record := s.secrets.entries.map Sigma.snd

theorem mem_records {s : Store} {r : Record} : r ∈ s.records ↔ ∃ key, s.lookup key = some r := by
  simp only [records, List.mem_map, lookup]
  constructor
  · rintro ⟨⟨key, r⟩, h, rfl⟩
    exact ⟨key, AList.mem_lookup_iff.mpr h⟩
  · rintro ⟨key, h⟩
    exact ⟨⟨key, r⟩, AList.mem_lookup_iff.mp h, rfl⟩

end Store

/-- A write the API server accepted. -/
inductive Write where
  | create (key : String) (rec : Record)
  | relabel (key : String) (labels : Labels)
  | delete (key : String)
  deriving DecidableEq, Repr

/-- The object a write is about. -/
def Write.key : Write → String
  | .create key _ | .relabel key _ | .delete key => key

/-- The effect of an accepted write. -/
def Store.commit (s : Store) : Write → Store
  | .create key rec =>
    { secrets := s.secrets.insert key (rec.assign s.clock)
      clock := s.clock + 1 }
  | .relabel key labels =>
    match s.lookup key with
    | some r =>
      { secrets := s.secrets.insert key ((r.relabel labels).stamp s.clock)
        clock := s.clock + 1 }
    | none => s
  | .delete key => { s with secrets := s.secrets.erase key }

namespace Store

theorem lookup_commit_of_ne {s : Store} {x : Write} {key : String} (h : key ≠ x.key) :
    (s.commit x).lookup key = s.lookup key := by
  cases x with
  | create k r => exact AList.lookup_insert_ne h
  | relabel k ls =>
    cases hk : s.lookup k with
    | none => simp only [commit, hk]
    | some r => simp only [commit, hk]; exact AList.lookup_insert_ne h
  | delete k => exact AList.lookup_erase_ne h

@[simp] theorem lookup_commit_create (s : Store) (key : String) (rec : Record) :
    (s.commit (.create key rec)).lookup key = some (rec.assign s.clock) :=
  AList.lookup_insert _

@[simp] theorem lookup_commit_delete (s : Store) (key : String) :
    (s.commit (.delete key)).lookup key = none :=
  AList.lookup_erase ..

theorem lookup_commit_relabel {s : Store} {key : String} {r : Record} (h : s.lookup key = some r)
    (labels : Labels) :
    (s.commit (.relabel key labels)).lookup key =
      some ((r.relabel labels).stamp s.clock) := by
  simp only [commit, h]
  exact AList.lookup_insert _

end Store

/-- What a pass does with the objects its records are kept in, whatever their form. -/
class RecordStore (σ : Type) where
  /-- The record of an object, or why the object does not decode. -/
  fetch : σ → String → Except String (Option Record)
  /-- The uid and the resource version of an object. -/
  version : σ → String → Option (Nat × Nat)
  /-- The non-empty name labels of the objects that carry the UID of a Gateway. -/
  names : σ → String → List String
  /-- The effect of an accepted write. -/
  commit : σ → Write → σ

/-- Decoded records. -/
instance : RecordStore Store where
  fetch s key := .ok (s.lookup key)
  version s key := (s.lookup key).map fun r => (r.uid, r.resourceVersion)
  names s uid := ((s.records.filter (·.gatewayUID = uid)).map (·.name)).filter (· ≠ "")
  commit := Store.commit

/-- The store together with the writes that led to it, oldest first. -/
structure WorldOf (σ : Type) where
  store : σ
  log : List Write
  deriving DecidableEq

/-- The store of decoded records and its log. -/
abbrev World : Type := WorldOf Store

def WorldOf.commit {σ : Type} [RecordStore σ] (w : WorldOf σ) (x : Write) : WorldOf σ :=
  { store := RecordStore.commit w.store x, log := w.log ++ [x] }

@[simp] theorem World.commit_store (w : World) (x : Write) :
    (w.commit x).store = w.store.commit x := rfl

@[simp] theorem World.commit_log (w : World) (x : Write) : (w.commit x).log = w.log ++ [x] := rfl

/-- `w'` is `w` after some writes that each met the guard. -/
def World.Appends (G : Store → Write → Prop) (w w' : World) : Prop :=
  ∃ ws, w'.log = w.log ++ ws ∧ w'.store = replay Store.commit w.store ws ∧
    Guarded Store.commit G w.store ws

namespace World.Appends

variable {G G' : Store → Write → Prop} {w w' w'' : World}

theorem refl (w : World) : Appends G w w := ⟨[], by simp, rfl, .nil _⟩

theorem single {x : Write} (h : G w.store x) : Appends G w (w.commit x) :=
  ⟨[x], rfl, rfl, .single h⟩

theorem trans (h : Appends G w w') (h' : Appends G w' w'') : Appends G w w'' := by
  obtain ⟨ws, hl, hs, hg⟩ := h
  obtain ⟨ws', hl', hs', hg'⟩ := h'
  rw [hs] at hs' hg'
  exact ⟨ws ++ ws', by rw [hl', hl, List.append_assoc], by rw [hs', replay_append], hg.append hg'⟩

theorem mono (h : Appends G w w') (hG : ∀ s x, G s x → G' s x) : Appends G' w w' := by
  obtain ⟨ws, hl, hs, hg⟩ := h
  exact ⟨ws, hl, hs, hg.mono hG⟩

/-- What every guarded write preserves holds at the end. -/
theorem invariant {I : Store → Prop} (hstep : ∀ s x, I s → G s x → I (s.commit x))
    (h : Appends G w w') (hI : I w.store) : I w'.store := by
  obtain ⟨ws, -, hs, hg⟩ := h
  rw [hs]
  exact hg.invariant hstep hI (List.prefix_refl ws)

end World.Appends

end WireguardGateway.Gcp

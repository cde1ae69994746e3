import Mathlib.Data.List.Sort
import Mathlib.Data.List.Dedup
import Mathlib.Data.String.Basic
import WireguardGateway.Gcp.Deps

/-!
# One allocation and retirement pass

`reconcile` is the pass of the member state machine over one discovery snapshot: it lists and reads
the records it tracks (`adopt`), gives the lowest free slot to every present member without a record
(`tryAllocate`), and then walks all names in ascending order (`processName`): a record pending
confirmation is resumed or released (`confirmOrResume`), a departed one marked, a present one
refreshed (`resumeActive`), a missing one debounced (`debounceAbsence`). Any failed step aborts the
pass with the writes before it in place.

Results: `resumeEdits_record` (the local copy of a refreshed record is the record the label update
leaves), `resumeEdits_record_eq` (which record that is) and `*_mutable` (a pass overwrites mutable
labels only).
-/

namespace WireguardGateway.Gcp

open Lib Lib.Prog

/-! ## Inputs and outputs -/

/-- `GatewayGCPMemberState`. -/
inductive MemberState where
  | pending
  | active
  | recreating
  | departing
  | departed
  deriving DecidableEq, Repr

def MemberState.text : MemberState → String
  | .pending => "Pending"
  | .active => "Active"
  | .recreating => "Recreating"
  | .departing => "Departing"
  | .departed => "Departed"

/-- `GatewayGCPMemberStatus`. -/
structure MemberStatus where
  name : String
  zone : String
  slot : Int
  tunnelAddress : String
  externalAddress : String
  instanceID : String
  revision : String
  state : MemberState
  message : String
  deriving DecidableEq, Repr

structure Peer where
  slot : Int
  publicKey : String
  externalAddress : String
  listenPort : Int
  tunnelAddress : String
  deriving DecidableEq, Repr

structure RosterEntry where
  name : String
  slot : Int
  tunnelAddress : String
  names : ManagedResourceNames
  deriving DecidableEq, Repr

structure Result where
  members : List MemberStatus
  targetSize : Int
  peers : List Peer
  roster : List RosterEntry
  unusable : Bool
  deriving DecidableEq, Repr

/-- The errors a pass returns. -/
inductive PassError where
  | listing (cause : ApiError)
  | reading (name : String) (cause : ApiError)
  | noEligibleAddress (slot : Int) (have_ : Nat)
  | keypair (name cause : String)
  | creating (name : String) (cause : ApiError)
  | markingPending (name : String) (cause : ApiError)
  | updatingLabels (name : String) (cause : ApiError)
  | departing (name : String) (cause : ApiError)
  | advancing (name : String) (cause : ApiError)
  | rosterNames (name cause : String)
  | resourceNames (cause : String)
  deriving DecidableEq, Repr

def PassError.text : PassError → String
  | .listing c => "gcpmembers: listing tracked records: " ++ c.text
  | .reading n c => "gcpmembers: reading record for " ++ quote n ++ ": " ++ c.text
  | .noEligibleAddress s n =>
    "gcpmembers: slot " ++ toString s ++ " has no eligible address (have " ++ toString n ++ ")"
  | .keypair n c => "gcpmembers: generating keypair for " ++ quote n ++ ": " ++ c
  | .creating n c => "gcpmembers: creating record for " ++ quote n ++ ": " ++ c.text
  | .markingPending n c =>
    "gcpmembers: marking " ++ quote n ++ " pending confirmation: " ++ c.text
  | .updatingLabels n c => "gcpmembers: updating record labels for " ++ quote n ++ ": " ++ c.text
  | .departing n c => "gcpmembers: departing " ++ quote n ++ ": " ++ c.text
  | .advancing n c => "gcpmembers: advancing debounce for " ++ quote n ++ ": " ++ c.text
  | .rosterNames n c => "gcpmembers: deriving roster names for " ++ quote n ++ ": " ++ c
  | .resourceNames c => c

/-! ## Pure parts -/

/-- `computeTargetSize`. -/
def computeTargetSize (desiredReplicas : Int) (capacity : Nat) (lastAccepted : Int) : Int :=
  if desiredReplicas ≤ capacity then desiredReplicas else lastAccepted

/-- `lowestFreeSlot`. -/
def lowestFreeSlot (occupied : List Int) (capacity : Nat) : Option Nat :=
  (List.range capacity).find? fun s => (s : Int) ∉ occupied

/-- `slotAddress`: slot `0` takes the Gateway's own address, slot `s` the `s - 1`-th eligible
one. -/
def slotAddress (gatewayAddress : String) (eligible : List String) (slot : Int) :
    Except PassError String :=
  if slot = 0 then .ok gatewayAddress
  else
    let idx := slot - 1
    if idx < 0 then .error (.noEligibleAddress slot eligible.length)
    else
      match eligible[idx.toNat]? with
      | some a => .ok a
      | none => .error (.noEligibleAddress slot eligible.length)

/-- The conversion `int32(n)`. -/
def int32 (n : Int) : Int := n.bmod (2 ^ 32)

def pendingMember (name : String) : MemberStatus where
  name := name
  zone := ""
  slot := 0
  tunnelAddress := ""
  externalAddress := ""
  instanceID := ""
  revision := ""
  state := .pending
  message := ""

def buildMemberStatus (rec : Record) (zone revision : String) (state : MemberState)
    (message : String) : MemberStatus where
  name := rec.name
  zone := zone
  slot := int32 rec.slot
  tunnelAddress := rec.tunnelAddress
  externalAddress := rec.externalAddress
  instanceID := rec.instanceID
  revision := revision
  state := state
  message := message

/-- `buildPeer`: the listen port is the caller's to fill in. -/
def buildPeer (rec : Record) : Peer where
  slot := rec.slot
  publicKey := rec.publicKey
  externalAddress := rec.externalAddress
  listenPort := 0
  tunnelAddress := rec.tunnelAddress

def buildRosterEntry (rec : Record) : Except PassError RosterEntry :=
  match nameResourceNames rec.gatewayUID rec.project rec.name with
  | .error cause => .error (.rosterNames rec.name cause)
  | .ok names =>
    .ok { name := rec.name, slot := rec.slot, tunnelAddress := rec.tunnelAddress, names }

/-- The listing by name; a later entry of one name replaces an earlier one. -/
def Snapshot.listedByName (snap : Snapshot) : GoMap String ListedMember :=
  snap.members.foldl (fun m l => m.insert l.name l) ∅

/-! ## Label edits -/

/-- The labels a pass is about to write and its local copy of the record. -/
structure Edits where
  labels : Labels
  record : Record

/-- `updates[label] = value; rec.Field = …`, when there is a value to write. -/
def Edits.put (p : Edits) (value : Option String) (l : Label) (f : String → Record → Record) :
    Edits :=
  match value with
  | some v => { labels := p.labels ++ [(l, v)], record := f v p.record }
  | none => p

/-- A reported value replaces the recorded one when it is non-empty and different. -/
def changed (recorded reported : String) : Option String :=
  if reported ≠ "" ∧ reported ≠ recorded then some reported else none

/-- The state a present member is reported in. -/
def resumeState (listed : ListedMember) : MemberState :=
  if listed.action = .recreating then .recreating else .active

/-- The label edits of `resumeActive`. -/
def resumeEdits (rec : Record) (listed : ListedMember) (snap : Snapshot) (pending : Bool) :
    Edits :=
  let p : Edits := { labels := [], record := rec }
  let p := p.put (if rec.departureCount ≠ 0 ∨ pending then some "0" else none) .departureCount
    fun _ r => { r with departureCount := 0 }
  let p := p.put
    ((snap.details.lookup rec.name).bind fun d => changed rec.externalAddress d.externalAddress)
    .externalAddress fun v r => { r with externalAddress := v }
  let p := p.put (changed rec.instanceID listed.instanceID) .instanceID
    fun v r => { r with instanceID := v }
  let p := p.put (changed rec.zone listed.zone) .zone fun v r => { r with zone := v }
  let p := p.put (changed rec.revision listed.templateRevision) .revision
    fun v r => { r with revision := v }
  let p := p.put (if pending then some "false" else none) .pendingConfirmation
    fun _ r => { r with pendingConfirmation := false }
  p.put (if pending then some (resumeState listed).text else none) .state fun _ r => r

/-- The labels that mark a record pending confirmation. -/
def departLabels : Labels :=
  [(.pendingConfirmation, "true"), (.state, MemberState.departed.text)]

/-- The labels of a third missed snapshot. -/
def debounceDepartLabels : Labels := (.departureCount, "3") :: departLabels

/-- The labels of a first or second missed snapshot. -/
def debounceLabels (newCount : Int) : Labels :=
  [(.departureCount, toString newCount), (.state, MemberState.departing.text)]

/-! ## The pass -/

/-- What the walk over the names adds to the result for one name. -/
structure NameOutcome where
  member : Option MemberStatus
  rendered : Option (Peer × RosterEntry)

def Result.add (r : Result) (o : NameOutcome) : Result :=
  { r with
    members := r.members ++ o.member.toList
    peers := r.peers ++ (o.rendered.map Prod.fst).toList
    roster := r.roster ++ (o.rendered.map Prod.snd).toList }

/-- The result before the walk. -/
def Result.start (targetSize : Int) : Result :=
  { members := [], targetSize, peers := [], roster := [], unusable := false }

/-- The result of a walk, list by list. -/
theorem Result.foldl_add : ∀ (os : List NameOutcome) (r : Result),
    os.foldl Result.add r =
      { r with
        members := r.members ++ os.filterMap (·.member)
        peers := r.peers ++ os.filterMap (·.rendered.map Prod.fst)
        roster := r.roster ++ os.filterMap (·.rendered.map Prod.snd) }
  | [], r => by simp
  | o :: os, r => by
    rw [List.foldl_cons, foldl_add os]
    simp only [Result.add, List.append_assoc, List.filterMap_cons]
    cases o.member <;> cases o.rendered <;> simp

/-- The records a pass works on, by member name, and the slots it takes as occupied. -/
structure Adoption where
  adopted : GoMap String Record
  occupied : List Int

def Adoption.take (a : Adoption) (name : String) (rec : Record) : Adoption :=
  { adopted := a.adopted.insert name rec, occupied := rec.slot :: a.occupied }

/-- A record is adopted only when it carries this Gateway's UID, this project and this name. -/
def Gateway.owns (g : Gateway) (name : String) (rec : Record) : Bool :=
  rec.gatewayUID = g.uid ∧ rec.project = g.project ∧ rec.name = name

theorem owns_iff {g : Gateway} {n : String} {r : Record} :
    g.owns n r ↔ r.gatewayUID = g.uid ∧ r.project = g.project ∧ r.name = n :=
  decide_eq_true_iff

theorem Record.SameIdentity.owns {g : Gateway} {n : String} {r r' : Record}
    (h : r.SameIdentity r') : g.owns n r' ↔ g.owns n r := by
  rw [owns_iff, owns_iff, h.gatewayUID, h.project, h.name]

section Pass

variable {σ : Type} [RecordStore σ] (g : Gateway) (e : EnvOf σ)

/-- One iteration of the adoption loop. -/
def adopt (a : Adoption) (name : String) : Prog (WorldOf σ) PassError Adoption := do
  match ← mapErr (.reading name) (getRecord g e name) with
  | none => pure a
  | some rec => if g.owns name rec then pure (a.take name rec) else pure a

/-- The record `tryAllocate` creates. -/
def freshRecord (name : String) (listed : ListedMember) (snap : Snapshot) (slot : Nat)
    (address privateKey : String) : Record where
  uid := 0
  resourceVersion := 0
  name := name
  zone := listed.zone
  slot := slot
  privateKey := privateKey
  publicKey := g.publicKeyOf privateKey
  tunnelAddress := address
  subnetPrefix := g.bundle.subnetPrefix
  peerPublicKey := g.bundle.peerPublicKey
  peerAllowedIPs := g.bundle.peerAllowedIPs
  externalAddress := ((snap.details.lookup name).map (·.externalAddress)).getD ""
  instanceID := listed.instanceID
  revision := listed.templateRevision
  departureCount := 0
  pendingConfirmation := false
  gatewayUID := g.uid
  project := g.project

/-- `tryAllocate`: neither exhaustion nor a name collision is an error. -/
def tryAllocate (name : String) (listed : ListedMember) (snap : Snapshot) (occupied : List Int) :
    Prog (WorldOf σ) PassError (Option Record) :=
  match lowestFreeSlot occupied g.capacity with
  | none => pure none
  | some slot => do
    let address ← lift (slotAddress g.gatewayAddress g.eligibleAddresses slot)
    let privateKey ← lift ((e.keypair name).mapError (.keypair name))
    let fresh := freshRecord g name listed snap slot address privateKey
    match ← attempt (createRecord g e fresh) with
    | .ok _ => pure (some fresh)
    | .error (.alreadyExists _) => pure none
    | .error err => fail (.creating name err)

/-- One iteration of the allocation loop. -/
def allocate (snap : Snapshot) (a : Adoption) (name : String) :
    Prog (WorldOf σ) PassError Adoption :=
  match snap.listedByName.lookup name with
  | none => pure a
  | some listed => do
    match ← tryAllocate g e name listed snap a.occupied with
    | some rec => pure (a.take name rec)
    | none => pure a

/-- `resumeActive`. -/
def resumeActive (rec : Record) (listed : ListedMember) (snap : Snapshot) (pending : Bool) :
    Prog (WorldOf σ) PassError NameOutcome := do
  let p := resumeEdits rec listed snap pending
  let rec' := p.record
  if p.labels ≠ [] then
    mapErr (.updatingLabels rec.name) (updateRecordLabels g e rec.name p.labels)
  let entry ← lift (buildRosterEntry rec')
  pure { member := some (buildMemberStatus rec' listed.zone listed.templateRevision
          (resumeState listed) "")
         rendered := some (buildPeer rec', entry) }

/-- `debounceAbsence`. -/
def debounceAbsence (rec : Record) : Prog (WorldOf σ) PassError NameOutcome := do
  let newCount := rec.departureCount + 1
  if newCount ≥ 3 then
    mapErr (.departing rec.name) (updateRecordLabels g e rec.name debounceDepartLabels)
    let rec' := { rec with departureCount := 3 }
    pure { member := some (buildMemberStatus rec' rec.zone rec.revision .departed "")
           rendered := none }
  else
    mapErr (.advancing rec.name) (updateRecordLabels g e rec.name (debounceLabels newCount))
    let rec' := { rec with departureCount := newCount }
    let entry ← lift (buildRosterEntry rec')
    pure { member := some (buildMemberStatus rec' rec.zone rec.revision .departing "")
           rendered := some (buildPeer rec', entry) }

/-- What blocks the release of a record, if anything: the resources must be confirmed absent and
the composite synced. -/
def releaseBlocked (name : String) : Option String :=
  match e.confirm name with
  | .error text => some text
  | .ok (false, reason) => some reason
  | .ok (true, _) =>
    match e.synced name with
    | .error text => some text
    | .ok (false, reason) => some reason
    | .ok (true, _) => none

/-- `confirmOrResume`. -/
def confirmOrResume (rec : Record) (listed : Option ListedMember) (snap : Snapshot) :
    Prog (WorldOf σ) PassError NameOutcome :=
  match listed.filter (·.verdict = .present) with
  | some l => resumeActive g e rec l snap true
  | none => do
    let _ ← lift ((nameResourceNames g.uid rec.project rec.name).mapError .resourceNames)
    let blockedZone := (listed.map (·.zone)).getD rec.zone
    let blocked := fun message : String =>
      ({ member := some (buildMemberStatus rec blockedZone rec.revision .departed message)
         rendered := none } : NameOutcome)
    match releaseBlocked e rec.name with
    | some reason => pure (blocked reason)
    | none =>
      match ← attempt (deleteRecord g e rec.name rec.uid rec.resourceVersion) with
      | .error err => pure (blocked err.text)
      | .ok _ => pure { member := none, rendered := none }

/-- One iteration of the walk over all names. -/
def processName (snap : Snapshot) (adopted : GoMap String Record) (name : String) :
    Prog (WorldOf σ) PassError NameOutcome :=
  let listed := snap.listedByName.lookup name
  match adopted.lookup name with
  | none => pure { member := some (pendingMember name), rendered := none }
  | some rec =>
    if rec.pendingConfirmation then confirmOrResume g e rec listed snap
    else
      match listed with
      | some l =>
        match l.verdict with
        | .departed => do
          mapErr (.markingPending name) (updateRecordLabels g e name departLabels)
          pure { member := some (buildMemberStatus rec l.zone rec.revision .departed "")
                 rendered := none }
        | .present => resumeActive g e rec l snap false
        | .pending => debounceAbsence g e rec
      | none => debounceAbsence g e rec

/-- The walk's body: what `processName` adds to the result. -/
def walkName (snap : Snapshot) (adopted : GoMap String Record) (r : Result) (name : String) :
    Prog (WorldOf σ) PassError Result := do
  let o ← processName g e snap adopted name
  pure (r.add o)

/-- The names of a pass: listed or tracked. -/
def allNames (snap : Snapshot) (tracked : List String) : List String :=
  (snap.listedByName.keys ++ tracked).dedup

/-- The present members without an adopted record, in ascending order. -/
def candidates (snap : Snapshot) (adopted : GoMap String Record) : List String :=
  (snap.listedByName.keys.filter fun name =>
    (snap.listedByName.lookup name).any (·.verdict = .present) ∧ adopted.lookup name = none)
    |>.insertionSort (· ≤ ·)

/-- The pass over a usable snapshot. -/
def reconcileSnapshot (snap : Snapshot) (targetSize : Int) : Prog (WorldOf σ) PassError Result := do
  let tracked ← mapErr .listing (listRecordNames g e)
  let names := allNames snap tracked
  let a ← (e.visit names).foldlM (adopt g e) { adopted := ∅, occupied := [] }
  let a ← (candidates snap a.adopted).foldlM (allocate g e snap) a
  (names.insertionSort (· ≤ ·)).foldlM (walkName g e snap a.adopted) (Result.start targetSize)

/-- `Reconcile`: no snapshot, no change. -/
def reconcile (snap : Option Snapshot) (desiredReplicas lastAccepted : Int) :
    Prog (WorldOf σ) PassError Result :=
  match snap with
  | none =>
    pure { members := [], targetSize := lastAccepted, peers := [], roster := [], unusable := true }
  | some snap =>
    reconcileSnapshot g e snap (computeTargetSize desiredReplicas g.capacity lastAccepted)

end Pass

/-! ## Label edits as the store sees them -/

@[simp] theorem changed_self (v : String) : changed v v = none := by simp [changed]

/-- A fresh record carries everything its listing reports. -/
theorem resumeEdits_freshRecord (g : Gateway) (n : String) (l : ListedMember) (snap : Snapshot)
    (slot : Nat) (address privateKey : String) :
    (resumeEdits (freshRecord g n l snap slot address privateKey) l snap false).labels = [] := by
  have haddr : ((snap.details.lookup n).bind fun d =>
      changed (((snap.details.lookup n).map (·.externalAddress)).getD "") d.externalAddress) =
        none := by
    cases snap.details.lookup n <;> simp
  simp [resumeEdits, freshRecord, Edits.put, haddr]

theorem Record.relabel_append (r : Record) (ls ls' : Labels) :
    r.relabel (ls ++ ls') = (r.relabel ls).relabel ls' :=
  List.foldl_append

/-- A local edit that mirrors its label keeps the copy equal to the relabelled record. -/
theorem Edits.put_record {r : Record} {p : Edits} {value : Option String} {l : Label}
    {f : String → Record → Record} (hf : ∀ v, value = some v → ∀ r', f v r' = r'.setLabel (l, v))
    (hp : p.record = r.relabel p.labels) :
    (p.put value l f).record = r.relabel (p.put value l f).labels := by
  cases value with
  | none => exact hp
  | some v =>
    simp only [Edits.put, Record.relabel_append, ← hp]
    exact hf v rfl p.record

theorem Edits.put_mutable {p : Edits} {value : Option String} {l : Label}
    {f : String → Record → Record} (hl : l.isMutable) (hp : ∀ x ∈ p.labels, x.1.isMutable) :
    ∀ x ∈ (p.put value l f).labels, x.1.isMutable := by
  cases value with
  | none => exact hp
  | some v =>
    intro x hx
    rcases List.mem_append.mp hx with hx | hx
    · exact hp x hx
    · rw [List.mem_singleton.mp hx]
      exact hl

/-- **The local copy of a refreshed record is the record its label update leaves.** -/
theorem resumeEdits_record (rec : Record) (listed : ListedMember) (snap : Snapshot)
    (pending : Bool) :
    (resumeEdits rec listed snap pending).record =
      rec.relabel (resumeEdits rec listed snap pending).labels := by
  have hconst : ∀ {c : Prop} [Decidable c] {t v : String},
      (if c then some t else none) = some v → v = t := fun h =>
    (Option.some.inj (Option.ite_none_right_eq_some.mp h).2).symm
  unfold resumeEdits
  refine Edits.put_record (fun _ _ _ => rfl) (Edits.put_record ?_ (Edits.put_record
    (fun _ _ _ => rfl) (Edits.put_record (fun _ _ _ => rfl) (Edits.put_record (fun _ _ _ => rfl)
      (Edits.put_record (fun _ _ _ => rfl) (Edits.put_record ?_ rfl))))))
  · intro v hv r'
    rw [hconst hv]
    rfl
  · intro v hv r'
    rw [hconst hv]
    rfl

theorem Edits.record_put (p : Edits) (value : Option String) (l : Label)
    (f : String → Record → Record) :
    (p.put value l f).record = value.elim p.record (f · p.record) := by
  cases value <;> rfl

/-- **The record a refresh leaves**: nothing missed, nothing pending, and every reported value
taken over. -/
theorem resumeEdits_record_eq (rec : Record) (listed : ListedMember) (snap : Snapshot)
    (pending : Bool) :
    (resumeEdits rec listed snap pending).record =
      { rec with
        departureCount := 0
        externalAddress := ((snap.details.lookup rec.name).bind fun d =>
          changed rec.externalAddress d.externalAddress).getD rec.externalAddress
        instanceID := (changed rec.instanceID listed.instanceID).getD rec.instanceID
        zone := (changed rec.zone listed.zone).getD rec.zone
        revision := (changed rec.revision listed.templateRevision).getD rec.revision
        pendingConfirmation := rec.pendingConfirmation && !pending } := by
  have haddr : ∀ (v : Option String) (r : Record), v.elim r (fun v =>
      { r with externalAddress := v }) = { r with externalAddress := v.getD r.externalAddress } :=
    fun v r => by cases v <;> rfl
  have hid : ∀ (v : Option String) (r : Record), v.elim r (fun v =>
      { r with instanceID := v }) = { r with instanceID := v.getD r.instanceID } :=
    fun v r => by cases v <;> rfl
  have hzone : ∀ (v : Option String) (r : Record), v.elim r (fun v =>
      { r with zone := v }) = { r with zone := v.getD r.zone } :=
    fun v r => by cases v <;> rfl
  have hrev : ∀ (v : Option String) (r : Record), v.elim r (fun v =>
      { r with revision := v }) = { r with revision := v.getD r.revision } :=
    fun v r => by cases v <;> rfl
  have hcount : (if rec.departureCount ≠ 0 ∨ pending then some "0" else none).elim rec
      (fun _ => { rec with departureCount := 0 }) = { rec with departureCount := 0 } := by
    by_cases h : rec.departureCount = 0
    · have hrec : { rec with departureCount := 0 } = rec := by rw [← h]
      rw [hrec]
      cases pending <;> simp [h]
    · simp [h]
  simp only [resumeEdits, Edits.record_put, hcount, haddr, hid, hzone, hrev]
  cases pending <;> simp

theorem resumeEdits_mutable (rec : Record) (listed : ListedMember) (snap : Snapshot)
    (pending : Bool) : ∀ x ∈ (resumeEdits rec listed snap pending).labels, x.1.isMutable :=
  Edits.put_mutable rfl (Edits.put_mutable rfl (Edits.put_mutable rfl (Edits.put_mutable rfl
    (Edits.put_mutable rfl (Edits.put_mutable rfl (Edits.put_mutable rfl
      fun _ hx => absurd hx List.not_mem_nil))))))

end WireguardGateway.Gcp

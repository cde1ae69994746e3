import WireguardGateway.Vm.Keyfetch

/-!
# Records as Secrets

A member's record is stored in one Secret (`records.go:155-312`): the tunnel configuration as a JSON
bundle, everything else, and the slot once more, in labels. `recordFromSecret` drops the errors of
the numbers it reads from labels, takes any text other than `true` for false, and derives the public
key from the private one; it fails on a bundle, a private key or an address that does not parse.

Results:
* `Secret.view_relabel`: copying labels over a Secret is overwriting fields of its record;
* **`view_secretFromRecord`**, `legible_secretFromRecord`: a new Secret decodes to the record it was
  built from.

The key derivation and the texts of the JSON decoder's errors are parameters (`Codec`).
-/

namespace WireguardGateway.Gcp

open Lib Vm

/-! ## Secrets -/

/-- The label keys. -/
def Label.key : Label → String
  | .name => "wgnet.dev/gcp-member-name"
  | .zone => "wgnet.dev/gcp-member-zone"
  | .slot => "wgnet.dev/gcp-member-slot"
  | .instanceID => "wgnet.dev/gcp-member-instance-id"
  | .externalAddress => "wgnet.dev/gcp-member-external-address"
  | .project => "wgnet.dev/gcp-member-project"
  | .revision => "wgnet.dev/gcp-member-revision"
  | .departureCount => "wgnet.dev/gcp-member-departure-count"
  | .pendingConfirmation => "wgnet.dev/gcp-member-pending-confirmation"
  | .state => "wgnet.dev/gcp-member-state"
  | .gatewayUID => "wgnet.dev/gcp-member-gateway-uid"

theorem Label.key_injective : Function.Injective Label.key := by
  intro l l'
  cases l <;> cases l' <;> first | exact fun _ => rfl | exact fun h => absurd h (by decide)

structure OwnerReference where
  apiVersion : String
  kind : String
  name : String
  uid : String
  controller : Bool
  blockOwnerDeletion : Bool

/-- `corev1.Secret`, as far as records use it. -/
structure Secret where
  name : String
  objectNamespace : String
  uid : Nat
  resourceVersion : Nat
  labels : GoMap String String
  ownerReferences : List OwnerReference
  type : String
  data : GoMap String String

/-- `wg.BundleKey`. -/
def bundleKey : String := "bundle"

/-- `recordLabels`. -/
def recordLabels (rec : Record) : Labels :=
  [(.name, rec.name), (.zone, rec.zone), (.slot, toString rec.slot), (.instanceID, rec.instanceID),
    (.externalAddress, rec.externalAddress), (.project, rec.project), (.revision, rec.revision),
    (.departureCount, toString rec.departureCount),
    (.pendingConfirmation, formatBool rec.pendingConfirmation), (.gatewayUID, rec.gatewayUID)]

/-- `secretFromRecord`. -/
def secretFromRecord (gatewayNamespace gatewayName secretName : String) (rec : Record) :
    Secret where
  name := secretName
  objectNamespace := gatewayNamespace
  uid := 0
  resourceVersion := 0
  labels := (recordLabels rec).foldl (fun m l => m.insert l.1.key l.2) ∅
  ownerReferences :=
    [{ apiVersion := "wgnet.dev/v1alpha1", kind := "Gateway", name := gatewayName,
       uid := rec.gatewayUID, controller := true, blockOwnerDeletion := true }]
  type := "Opaque"
  data := (∅ : GoMap String String).insert bundleKey (bundleOf rec)

namespace Secret

/-- One label written over the Secret's labels. -/
def setLabel (s : Secret) (l : Label × String) : Secret :=
  { s with labels := s.labels.insert l.1.key l.2 }

/-- `maps.Copy` of `labels` over the Secret's labels. -/
def relabel (s : Secret) (labels : Labels) : Secret := labels.foldl setLabel s

/-- The value of a label; a missing one reads as the empty string. -/
def label (s : Secret) (l : Label) : String := (s.labels.lookup l.key).getD ""

/-- The version the API server assigns with an accepted write. -/
def stamp (s : Secret) (resourceVersion : Nat) : Secret := { s with resourceVersion }

/-- The uid and version the API server assigns to a new object. -/
def assign (s : Secret) (n : Nat) : Secret := { s with uid := n, resourceVersion := n }

theorem label_setLabel (s : Secret) (l : Label × String) (l' : Label) :
    (s.setLabel l).label l' = if l' = l.1 then l.2 else s.label l' := by
  by_cases h : l' = l.1
  · subst h
    simp [label, setLabel]
  · have hkey : l'.key ≠ l.1.key := fun hk => h (Label.key_injective hk)
    simp [label, setLabel, AList.lookup_insert_ne hkey, h]

end Secret

/-! ## Decoding -/

/-- What decoding rests on: `ParseKey` with `PublicKey`, and the error text of `json.Unmarshal`. -/
structure Codec where
  derive : String → Except String String
  unmarshalError : String → String

section

variable (c : Codec)

/-- `publicKeyOf`. -/
def publicKeyOf (privateKey : String) : Except String String :=
  if privateKey = "" then .ok ""
  else (c.derive privateKey).mapError ("gcpmembers: parsing member private key: " ++ ·)

/-- `splitCIDR`. -/
def splitCIDR (address : String) : Except String (String × Int) :=
  let failed := fun cause => "gcpmembers: bundle address " ++ quote address ++ " " ++ cause
  if address = "" then .ok ("", 0)
  else if '/' ∉ address.toList then .error (failed "is not in CIDR form")
  else
    match atoi? (cut '/' address).2 with
    | .error cause => .error (failed ("has an unparsable prefix: " ++ cause))
    | .ok ones => .ok ((cut '/' address).1, ones)

/-- The fields of `bundlePayload` in an object; one that is missing is empty. -/
def BundlePayload.ofJson (j : Json) : Option BundlePayload := do
  let fields ← j.asObject
  let text (name : String) : Option String := Json.decode fields name "" Json.asString
  return {
    privateKey := ← text "privateKey"
    address := ← text "address"
    slot := ← text "slot"
    peerPublicKey := ← text "peerPublicKey"
    peerAllowedIPs := ← text "peerAllowedIPs" }

/-- The zero `bundlePayload`. -/
def emptyPayload : BundlePayload :=
  { privateKey := "", address := "", slot := "", peerPublicKey := "", peerAllowedIPs := "" }

/-- What a record takes from the bundle. -/
structure DecodedBundle where
  payload : BundlePayload := emptyPayload
  publicKey : String := ""
  tunnelAddress : String := ""
  subnetPrefix : Int := 0

namespace Secret

variable (s : Secret)

/-- `<namespace>/<name>`, as the error texts name the Secret. -/
def objectText : String := s.objectNamespace ++ "/" ++ s.name

/-- The bundle of a Secret; a missing and an empty one are no error. -/
def payload : Except String BundlePayload :=
  let raw := (s.data.lookup bundleKey).getD ""
  if raw = "" then .ok emptyPayload
  else
    match (Json.unmarshal raw).bind (Json.orZero emptyPayload BundlePayload.ofJson) with
    | none =>
      .error ("gcpmembers: decoding bundle for secret " ++ s.objectText ++ ": " ++
        c.unmarshalError raw)
    | some bundle => .ok bundle

/-- What `recordFromSecret` reads from the data. -/
def decodeBundle : Except String DecodedBundle := do
  let wrap := fun cause => "gcpmembers: secret " ++ s.objectText ++ ": " ++ cause
  let payload ← s.payload c
  let publicKey ← (publicKeyOf c payload.privateKey).mapError wrap
  let (tunnelAddress, subnetPrefix) ← (splitCIDR payload.address).mapError wrap
  return { payload, publicKey, tunnelAddress, subnetPrefix }

/-- The record of a Secret with this bundle. -/
def record (bundle : DecodedBundle) : Record where
  uid := s.uid
  resourceVersion := s.resourceVersion
  name := s.label .name
  zone := s.label .zone
  slot := atoi (s.label .slot)
  privateKey := bundle.payload.privateKey
  publicKey := bundle.publicKey
  tunnelAddress := bundle.tunnelAddress
  subnetPrefix := bundle.subnetPrefix
  peerPublicKey := bundle.payload.peerPublicKey
  peerAllowedIPs := bundle.payload.peerAllowedIPs
  externalAddress := s.label .externalAddress
  instanceID := s.label .instanceID
  revision := s.label .revision
  departureCount := atoi (s.label .departureCount)
  pendingConfirmation := s.label .pendingConfirmation == "true"
  gatewayUID := s.label .gatewayUID
  project := s.label .project

end Secret

/-- `recordFromSecret`. -/
def recordFromSecret (s : Secret) : Except String Record := (s.decodeBundle c).map s.record

namespace Secret

/-- A Secret that decodes. -/
def Legible (s : Secret) : Prop := ∃ bundle, s.decodeBundle c = .ok bundle

/-- The record of a Secret, with an empty bundle where the stored one does not decode. -/
def view (s : Secret) : Record := s.record ((s.decodeBundle c).toOption.getD {})

end Secret

end

section

variable {c : Codec}

theorem recordFromSecret_legible {s : Secret} (h : s.Legible c) :
    recordFromSecret c s = .ok (s.view c) := by
  obtain ⟨bundle, hb⟩ := h
  rw [recordFromSecret, Secret.view, hb]
  rfl

/-! ## Label updates -/

/-- **Copying a label over the Secret overwrites the field of the record.** -/
theorem Secret.record_setLabel (s : Secret) (l : Label × String) (bundle : DecodedBundle) :
    (s.setLabel l).record bundle = (s.record bundle).setLabel l := by
  obtain ⟨l, v⟩ := l
  simp only [record, label_setLabel]
  cases l <;> rfl

theorem Secret.record_relabel (s : Secret) (labels : Labels) (bundle : DecodedBundle) :
    (s.relabel labels).record bundle = (s.record bundle).relabel labels := by
  induction labels generalizing s with
  | nil => rfl
  | cons l ls ih =>
    rw [relabel, List.foldl_cons, ← relabel, ih, record_setLabel]
    rfl

/-- Labels are not part of the bundle. -/
theorem Secret.decodeBundle_relabel (s : Secret) (labels : Labels) :
    (s.relabel labels).decodeBundle c = s.decodeBundle c := by
  induction labels generalizing s with
  | nil => rfl
  | cons l ls ih => exact ih (s.setLabel l)

theorem Secret.view_relabel (s : Secret) (labels : Labels) :
    (s.relabel labels).view c = (s.view c).relabel labels := by
  rw [view, decodeBundle_relabel, record_relabel, view]

/-! ## The round trip -/

/-- A record whose keys belong together, whose address is one, and whose
numbers are of type `int`. -/
structure Record.Storable (c : Codec) (rec : Record) : Prop where
  keys : publicKeyOf c rec.privateKey = .ok rec.publicKey
  address : '/' ∉ rec.tunnelAddress.toList
  slot : IsInt rec.slot
  subnetPrefix : IsInt rec.subnetPrefix
  departureCount : IsInt rec.departureCount

theorem ofJson_payload (p : BundlePayload) :
    BundlePayload.ofJson (.ofStringMap p.fields) = some p := by
  have htext : ∀ name v, Json.field? (p.fields.map fun kv => (kv.1, .str kv.2)) name =
    some (.str v) →
      Json.decode (p.fields.map fun kv => (kv.1, .str kv.2)) name "" Json.asString = some v :=
    fun name v h => Json.decode_field h rfl
  have hprivate := htext "privateKey" p.privateKey (by simp [BundlePayload.fields])
  have haddress := htext "address" p.address (by simp [BundlePayload.fields])
  have hslot := htext "slot" p.slot (by simp [BundlePayload.fields])
  have hpeer := htext "peerPublicKey" p.peerPublicKey (by simp [BundlePayload.fields])
  have hallowed := htext "peerAllowedIPs" p.peerAllowedIPs (by simp [BundlePayload.fields])
  simp only [BundlePayload.ofJson, Json.ofStringMap, Json.asObject, Option.bind_eq_bind,
    Option.bind_some, hprivate, haddress, hslot, hpeer, hallowed]
  rfl

/-- The stored bundle is read back. -/
theorem payload_secretFromRecord (ns gw key : String) (rec : Record) :
    (secretFromRecord ns gw key rec).payload c = .ok (payloadFromRecord rec) := by
  have hraw : (secretFromRecord ns gw key rec).data.lookup bundleKey = some (bundleOf rec) :=
    AList.lookup_insert _
  have hread : (Json.unmarshal (bundleOf rec)).bind
      (Json.orZero emptyPayload BundlePayload.ofJson) = some (payloadFromRecord rec) := by
    rw [bundleOf, Json.unmarshal_marshal]
    exact ofJson_payload _
  have hne : bundleOf rec ≠ "" := by
    intro h
    rw [h, show Json.unmarshal "" = none by decide] at hread
    exact nomatch hread
  simp only [Secret.payload, hraw, Option.getD_some, if_neg hne, hread]

theorem splitCIDR_append {address : String} (h : '/' ∉ address.toList) {ones : Int}
    (hn : IsInt ones) : splitCIDR (address ++ "/" ++ toString ones) = .ok (address, ones) := by
  have hslash : '/' ∈ (address ++ "/" ++ toString ones).toList := by simp
  have hne : address ++ "/" ++ toString ones ≠ "" := by
    intro he
    rw [he] at hslash
    exact nomatch hslash
  have hcut : cut '/' (address ++ "/" ++ toString ones) = (address, toString ones) :=
    cut_append _ (by decide) h
  simp only [splitCIDR, if_neg hne, if_neg (not_not.mpr hslash), hcut, atoi?_toString hn]

variable {rec : Record}

/-- What a new Secret's bundle decodes to. -/
theorem decodeBundle_secretFromRecord (h : rec.Storable c) (ns gw key : String) (n : Nat) :
    ((secretFromRecord ns gw key rec).assign n).decodeBundle c =
      .ok { payload := payloadFromRecord rec, publicKey := rec.publicKey,
            tunnelAddress := rec.tunnelAddress, subnetPrefix := rec.subnetPrefix } := by
  have hassign : ∀ s : Secret, (s.assign n).payload c = s.payload c := fun _ => rfl
  have hpayload : ((secretFromRecord ns gw key rec).assign n).payload c =
    .ok (payloadFromRecord rec) := by
    rw [hassign, payload_secretFromRecord]
  have haddress : splitCIDR (payloadFromRecord rec).address =
      .ok (rec.tunnelAddress, rec.subnetPrefix) := splitCIDR_append h.address h.subnetPrefix
  have hkeys : publicKeyOf c (payloadFromRecord rec).privateKey = .ok rec.publicKey := h.keys
  simp only [Secret.decodeBundle, hpayload, haddress, hkeys, bind, Except.bind, Except.mapError]
  rfl

theorem legible_secretFromRecord (h : rec.Storable c) (ns gw key : String) (n : Nat) :
    ((secretFromRecord ns gw key rec).assign n).Legible c :=
  ⟨_, decodeBundle_secretFromRecord h ns gw key n⟩

theorem label_secretFromRecord (ns gw key : String) (rec : Record) {l : Label} {v : String}
    (h : (recordLabels rec).reverse.find? (·.1 = l) = some (l, v)) :
    (secretFromRecord ns gw key rec).label l = v := by
  have hfind : (recordLabels rec).reverse.find? (·.1.key = l.key) = some (l, v) := by
    simpa only [Label.key_injective.eq_iff] using h
  rw [Secret.label, secretFromRecord, GoMap.lookup_foldl_insert, hfind]
  rfl

/-- **A new Secret decodes to the record it was built from.** -/
theorem view_secretFromRecord (h : rec.Storable c) (ns gw key : String) (n : Nat) :
    ((secretFromRecord ns gw key rec).assign n).view c = rec.assign n := by
  rw [Secret.view, decodeBundle_secretFromRecord h]
  have hlabel : ∀ {l v}, (recordLabels rec).reverse.find? (·.1 = l) = some (l, v) →
      ((secretFromRecord ns gw key rec).assign n).label l = v :=
    fun h => label_secretFromRecord ns gw key rec h
  have hpending : (formatBool rec.pendingConfirmation == "true") = rec.pendingConfirmation := by
    cases rec.pendingConfirmation <;> decide
  simp only [Secret.record, hlabel (l := .name) rfl, hlabel (l := .zone) rfl,
    hlabel (l := .slot) rfl,
    hlabel (l := .externalAddress) rfl, hlabel (l := .instanceID) rfl, hlabel (l := .revision) rfl,
    hlabel (l := .departureCount) rfl, hlabel (l := .pendingConfirmation) rfl,
    hlabel (l := .gatewayUID) rfl, hlabel (l := .project) rfl, hpending,
    atoi_toString h.slot, atoi_toString h.departureCount]
  rfl

end

end WireguardGateway.Gcp

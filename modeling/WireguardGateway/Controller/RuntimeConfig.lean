import WireguardGateway.Lib.JsonStruct

/-!
# The link's runtime config as JSON

`RuntimeConfig` (`internal/link/config.go`): what the operator writes into the link ConfigMap and
the link reads from its file. Fields under `omitempty` are left out when they are empty.

Result: **`RuntimeConfig.ofJson_toJson`**, decoding an encoded config gives the config.
-/

namespace WireguardGateway.Controller

open Lib

/-! ## The config -/

/-- `link.GatewayIdentity`, of Local mode. -/
structure GatewayIdentity where
  id : Int64
  healthPort : Int64
  nftTable : String
  deriving DecidableEq, Repr

/-- `link.Peer`. -/
structure LinkPeer where
  slot : Int64
  publicKey : String
  endpoint : String
  allowedIPs : List String
  persistentKeepalive : Int64
  deriving DecidableEq, Repr

/-- The tunnel of the link; `peers` are the members. -/
structure WireGuard where
  address : String
  listenPort : Int64
  mtu : Int64
  peers : List LinkPeer
  deriving DecidableEq, Repr

/-- `link.Forward`. -/
structure LinkForward where
  name : String
  publicPort : Int64
  protocol : String
  service : String
  targetPort : Int64
  namespace_ : String
  serviceName : String
  servicePortName : String
  deriving DecidableEq, Repr

/-- Maps are association lists in key order, as `Marshal` writes them. -/
structure RuntimeConfig where
  trafficPolicy : String
  identity : Option GatewayIdentity
  healthPort : Int64
  podSelector : List (String × String)
  responders : List (String × String)
  responderPort : Int64
  responderTarget : String
  publicAddress : String
  wireguard : WireGuard
  forwards : List LinkForward
  deriving DecidableEq, Repr

/-! ## Encoding -/

open Json (omitEmpty)

/-- `Marshal`, with the names of the field tags. -/
def GatewayIdentity.toJson (i : GatewayIdentity) : Json :=
  .obj [("id", .ofInt64 i.id), ("healthPort", .ofInt64 i.healthPort), ("nftTable", .str i.nftTable)]

/-- No field of a peer is left out. -/
def LinkPeer.toJson (p : LinkPeer) : Json :=
  .obj [("slot", .ofInt64 p.slot), ("publicKey", .str p.publicKey), ("endpoint", .str p.endpoint),
    ("allowedIPs", .arr (p.allowedIPs.map .str)),
    ("persistentKeepalive", .ofInt64 p.persistentKeepalive)]

/-- Nor of the tunnel. -/
def WireGuard.toJson (w : WireGuard) : Json :=
  .obj [("address", .str w.address), ("listenPort", .ofInt64 w.listenPort), ("mtu", .ofInt64 w.mtu),
    ("peers", .arr (w.peers.map LinkPeer.toJson))]

/-- What only one of the two modes sets is left out when empty. -/
def LinkForward.fields (f : LinkForward) : List (String × Json) :=
  [("name", .str f.name), ("publicPort", .ofInt64 f.publicPort), ("protocol", .str f.protocol)] ++
    omitEmpty (f.service = "") "service" (.str f.service) ++
    omitEmpty (f.targetPort = 0) "targetPort" (.ofInt64 f.targetPort) ++
    omitEmpty (f.namespace_ = "") "namespace" (.str f.namespace_) ++
    omitEmpty (f.serviceName = "") "serviceName" (.str f.serviceName) ++
    omitEmpty (f.servicePortName = "") "servicePortName" (.str f.servicePortName)

def LinkForward.toJson (f : LinkForward) : Json := .obj f.fields

/-- The fields in the order of the struct; the tunnel and the forwards always stand. -/
def RuntimeConfig.fields (rc : RuntimeConfig) : List (String × Json) :=
  omitEmpty (rc.trafficPolicy = "") "trafficPolicy" (.str rc.trafficPolicy) ++
    omitEmpty rc.identity.isNone "identity" ((rc.identity.map GatewayIdentity.toJson).getD .null) ++
    omitEmpty (rc.healthPort = 0) "healthPort" (.ofInt64 rc.healthPort) ++
    omitEmpty (rc.podSelector = []) "podSelector" (.ofStringMap rc.podSelector) ++
    omitEmpty (rc.responders = []) "responders" (.ofStringMap rc.responders) ++
    omitEmpty (rc.responderPort = 0) "responderPort" (.ofInt64 rc.responderPort) ++
    omitEmpty (rc.responderTarget = "") "responderTarget" (.str rc.responderTarget) ++
    omitEmpty (rc.publicAddress = "") "publicAddress" (.str rc.publicAddress) ++
    [("wireguard", rc.wireguard.toJson), ("forwards", .arr (rc.forwards.map LinkForward.toJson))]

/-- The document of the ConfigMap. -/
def RuntimeConfig.toJson (rc : RuntimeConfig) : Json := .obj rc.fields

/-! ## Decoding -/

open Json (decode asInt asString asList asObject asStringMap)

/-- `Unmarshal`: a missing field keeps its zero, one of another type is an error. -/
def GatewayIdentity.ofJson (v : Json) : Option GatewayIdentity := do
  let fs ← v.asObject
  let id ← decode fs "id" 0 asInt
  let healthPort ← decode fs "healthPort" 0 asInt
  let nftTable ← decode fs "nftTable" "" asString
  pure { id, healthPort, nftTable }

/-- What an element of `peers` is decoded into. -/
def LinkPeer.zero : LinkPeer :=
  { slot := 0, publicKey := "", endpoint := "", allowedIPs := [], persistentKeepalive := 0 }

def LinkPeer.ofJson (v : Json) : Option LinkPeer := do
  let fs ← v.asObject
  let slot ← decode fs "slot" 0 asInt
  let publicKey ← decode fs "publicKey" "" asString
  let endpoint ← decode fs "endpoint" "" asString
  let allowedIPs ← decode fs "allowedIPs" [] (asList "" asString)
  let persistentKeepalive ← decode fs "persistentKeepalive" 0 asInt
  pure { slot, publicKey, endpoint, allowedIPs, persistentKeepalive }

/-- The tunnel before it is decoded. -/
def WireGuard.zero : WireGuard := { address := "", listenPort := 0, mtu := 0, peers := [] }

def WireGuard.ofJson (v : Json) : Option WireGuard := do
  let fs ← v.asObject
  let address ← decode fs "address" "" asString
  let listenPort ← decode fs "listenPort" 0 asInt
  let mtu ← decode fs "mtu" 0 asInt
  let peers ← decode fs "peers" [] (asList .zero LinkPeer.ofJson)
  pure { address, listenPort, mtu, peers }

/-- What an element of `forwards` is decoded into. -/
def LinkForward.zero : LinkForward :=
  { name := "", publicPort := 0, protocol := "", service := "", targetPort := 0, namespace_ := "",
    serviceName := "", servicePortName := "" }

def LinkForward.ofJson (v : Json) : Option LinkForward := do
  let fs ← v.asObject
  let name ← decode fs "name" "" asString
  let publicPort ← decode fs "publicPort" 0 asInt
  let protocol ← decode fs "protocol" "" asString
  let service ← decode fs "service" "" asString
  let targetPort ← decode fs "targetPort" 0 asInt
  let namespace_ ← decode fs "namespace" "" asString
  let serviceName ← decode fs "serviceName" "" asString
  let servicePortName ← decode fs "servicePortName" "" asString
  pure { name, publicPort, protocol, service, targetPort, namespace_, serviceName,
         servicePortName }

/-- A config without an identity is one of Cluster mode. -/
def RuntimeConfig.ofJson (v : Json) : Option RuntimeConfig := do
  let fs ← v.asObject
  let trafficPolicy ← decode fs "trafficPolicy" "" asString
  let identity ← decode fs "identity" none fun v => (GatewayIdentity.ofJson v).map some
  let healthPort ← decode fs "healthPort" 0 asInt
  let podSelector ← decode fs "podSelector" [] asStringMap
  let responders ← decode fs "responders" [] asStringMap
  let responderPort ← decode fs "responderPort" 0 asInt
  let responderTarget ← decode fs "responderTarget" "" asString
  let publicAddress ← decode fs "publicAddress" "" asString
  let wireguard ← decode fs "wireguard" .zero WireGuard.ofJson
  let forwards ← decode fs "forwards" [] (asList .zero LinkForward.ofJson)
  pure { trafficPolicy, identity, healthPort, podSelector, responders, responderPort,
         responderTarget, publicAddress, wireguard, forwards }

/-! ## Decoding an encoded config -/

theorem GatewayIdentity.ofJson_toJson (i : GatewayIdentity) : ofJson i.toJson = some i := by
  simp [ofJson, toJson, Json.asObject, Json.decode]

theorem LinkPeer.ofJson_toJson (p : LinkPeer) : ofJson p.toJson = some p := by
  have hips : Json.orZero [] (asList "" asString) (.arr (p.allowedIPs.map .str)) =
      some p.allowedIPs :=
    Json.orZero_arr Json.str (fun _ h => nomatch h) (fun _ => rfl) p.allowedIPs
  simp [ofJson, toJson, Json.asObject, Json.decode, hips]

theorem WireGuard.ofJson_toJson (w : WireGuard) : ofJson w.toJson = some w := by
  have hpeers : Json.orZero [] (asList .zero LinkPeer.ofJson)
      (.arr (w.peers.map LinkPeer.toJson)) = some w.peers :=
    Json.orZero_arr LinkPeer.toJson (fun _ h => nomatch h) LinkPeer.ofJson_toJson w.peers
  simp [ofJson, toJson, Json.asObject, Json.decode, hpeers]

theorem LinkForward.ofJson_toJson (f : LinkForward) : ofJson f.toJson = some f := by
  have hname : decode f.fields "name" "" asString = some f.name :=
    Json.decode_field (by simp [fields]) (Json.orZero_str _)
  have hport : decode f.fields "publicPort" 0 asInt = some f.publicPort :=
    Json.decode_field (by simp [fields]) (Json.orZero_int _)
  have hprotocol : decode f.fields "protocol" "" asString = some f.protocol :=
    Json.decode_field (by simp [fields]) (Json.orZero_str _)
  have hservice : decode f.fields "service" "" asString = some f.service :=
    Json.decode_omitStr (by simp [fields])
  have htarget : decode f.fields "targetPort" 0 asInt = some f.targetPort :=
    Json.decode_omitInt (by simp [fields])
  have hnamespace : decode f.fields "namespace" "" asString = some f.namespace_ :=
    Json.decode_omitStr (by simp [fields])
  have hserviceName : decode f.fields "serviceName" "" asString = some f.serviceName :=
    Json.decode_omitStr (by simp [fields])
  have hportName : decode f.fields "servicePortName" "" asString = some f.servicePortName :=
    Json.decode_omitStr (by simp [fields])
  simp [ofJson, toJson, Json.asObject, hname, hport, hprotocol, hservice, htarget, hnamespace,
    hserviceName, hportName]

theorem GatewayIdentity.decode_identity {fields : List (String × Json)}
    {identity : Option GatewayIdentity}
    (hfield : Json.field? fields "identity" = identity.map toJson) :
    decode fields "identity" none (fun v => (ofJson v).map some) = some identity := by
  rw [Json.decode, hfield]
  cases identity with
  | none => rfl
  | some i =>
    simp only [Option.map_some]
    rw [Json.orZero, ofJson_toJson]
    · rfl
    · intro h
      cases h

/-- **Decoding an encoded config gives the config.** -/
theorem RuntimeConfig.ofJson_toJson (rc : RuntimeConfig) : ofJson rc.toJson = some rc := by
  have hpolicy : decode rc.fields "trafficPolicy" "" asString = some rc.trafficPolicy :=
    Json.decode_omitStr (by simp [fields])
  have hidentity : decode rc.fields "identity" none (fun v => (GatewayIdentity.ofJson v).map some) =
      some rc.identity :=
    GatewayIdentity.decode_identity (by cases h : rc.identity <;> simp [fields, h])
  have hhealth : decode rc.fields "healthPort" 0 asInt = some rc.healthPort :=
    Json.decode_omitInt (by simp [fields])
  have hselector : decode rc.fields "podSelector" [] asStringMap = some rc.podSelector :=
    Json.decode_omitMap (by simp [fields])
  have hresponders : decode rc.fields "responders" [] asStringMap = some rc.responders :=
    Json.decode_omitMap (by simp [fields])
  have hport : decode rc.fields "responderPort" 0 asInt = some rc.responderPort :=
    Json.decode_omitInt (by simp [fields])
  have htarget : decode rc.fields "responderTarget" "" asString = some rc.responderTarget :=
    Json.decode_omitStr (by simp [fields])
  have haddress : decode rc.fields "publicAddress" "" asString = some rc.publicAddress :=
    Json.decode_omitStr (by simp [fields])
  have hwireguard : decode rc.fields "wireguard" .zero WireGuard.ofJson = some rc.wireguard :=
    Json.decode_field (v := rc.wireguard.toJson) (by simp [fields]) (WireGuard.ofJson_toJson _)
  have hforwards : decode rc.fields "forwards" [] (asList .zero LinkForward.ofJson) =
      some rc.forwards :=
    Json.decode_field (by simp [fields])
      (Json.orZero_arr LinkForward.toJson (fun _ h => nomatch h) LinkForward.ofJson_toJson _)
  simp [ofJson, toJson, Json.asObject, hpolicy, hidentity, hhealth, hselector, hresponders, hport,
    htarget, haddress, hwireguard, hforwards]

end WireguardGateway.Controller

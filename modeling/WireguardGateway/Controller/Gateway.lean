import WireguardGateway.Controller.RuntimeConfig
import WireguardGateway.Controller.Zones
import WireguardGateway.Gcp.Deps

/-!
# The Gateway object, as the operator's builders read it

`GatewayObject` is the parts of a Gateway's metadata, spec and status that a pass reads, in either
provisioning branch and either traffic policy; the `effective…` functions give unset fields their
defaults.
-/

namespace WireguardGateway.Controller

open Lib Gcp

/-- How the link reaches a backend: by its Service, or on its own node. -/
inductive TrafficPolicy where
  | cluster
  | local_
  deriving DecidableEq, Repr

/-- The policy as the API writes it. -/
def TrafficPolicy.text : TrafficPolicy → String
  | .cluster => "Cluster"
  | .local_ => "Local"

/-- `spec.wireguard`; an unset value is empty or `0`. -/
structure WireguardSpec where
  listenPort : Int32
  subnet : String
  gatewayAddress : String
  linkAddress : String
  keepalive : Int32
  mtu : Int32
  deriving DecidableEq, Repr

/-- A forward of the spec; `tcp` or else UDP. -/
structure ForwardSpec where
  port : Int32
  tcp : Bool
  service : String
  namespace_ : String
  targetPort : Int32
  deriving DecidableEq, Repr

/-- The protocol as the API writes it. -/
def ForwardSpec.protocol (f : ForwardSpec) : String := if f.tcp then "TCP" else "UDP"

/-- `publicKeyOf` is the curve's key derivation. -/
structure GatewayObject where
  uid : String
  namespace_ : String
  name : String
  projectID : String
  region : String
  loadBalanced : Bool
  replicas : Int32
  wireguard : WireguardSpec
  trafficPolicy : Option TrafficPolicy
  forwards : List ForwardSpec
  dnsHostnames : List String
  linkReplicas : Int32
  linkHealthPort : Int32
  responderPort : Int32
  responderReplicas : Int32
  linkID : Int32
  publicKeyOf : String → String

namespace GatewayObject

variable (gw : GatewayObject)

/-- Here and below: the value of the spec, or the default. -/
def effectiveWireguardPort : Int32 :=
  if gw.wireguard.listenPort = 0 then 51820 else gw.wireguard.listenPort

def effectiveWGSubnet : String :=
  if gw.wireguard.subnet = "" then "10.99.0.0/29" else gw.wireguard.subnet

def effectiveWGGatewayAddress : String :=
  if gw.wireguard.gatewayAddress = "" then "10.99.0.1" else gw.wireguard.gatewayAddress

def effectiveWGLinkAddress : String :=
  if gw.wireguard.linkAddress = "" then "10.99.0.2" else gw.wireguard.linkAddress

def effectiveWGKeepalive : Int32 :=
  if gw.wireguard.keepalive = 0 then 25 else gw.wireguard.keepalive

def effectiveWGMTU : Int32 := if gw.wireguard.mtu = 0 then 1380 else gw.wireguard.mtu

/-- A spec without a policy is one in Cluster mode. -/
def effectiveTrafficPolicy : TrafficPolicy := gw.trafficPolicy.getD .cluster

def isLocal : Bool := gw.effectiveTrafficPolicy = .local_

def effectiveLinkReplicas : Int32 := if gw.linkReplicas = 0 then 1 else gw.linkReplicas

def effectiveResponderReplicas : Int32 :=
  if gw.responderReplicas ≠ 0 then gw.responderReplicas else 2

def effectiveResponderPort : Int32 := if gw.responderPort ≠ 0 then gw.responderPort else 27000

/-- `linkIdentityOf`, with `NewGatewayIdentity`. -/
def linkIdentityOf : Option GatewayIdentity :=
  if !gw.isLocal ∨ gw.linkID ≤ 0 then none
  else
    some { id := gw.linkID.toInt64
           healthPort := 27000 + gw.linkID.toInt64
           nftTable := "gw" ++ toString gw.linkID.toInt }

/-- In Local mode the port is that of the link id. -/
def effectiveHealthPort : Int64 :=
  match gw.linkIdentityOf with
  | some ident => ident.healthPort
  | none => if gw.linkHealthPort > 0 then gw.linkHealthPort.toInt64 else 27000

/-- What selects the pods of the link. -/
def linkSelectorLabels : List (String × String) :=
  [("app.kubernetes.io/component", "link"), ("app.kubernetes.io/instance", gw.name),
    ("app.kubernetes.io/name", "wireguard-gateway-operator")]

/-- The forward's namespace, or that of the Gateway. -/
def effectiveForwardNamespace (f : ForwardSpec) : String :=
  if f.namespace_ ≠ "" then f.namespace_ else gw.namespace_

/-- The name the link resolves in Cluster mode. -/
def forwardServiceFQDN (f : ForwardSpec) : String :=
  f.service ++ "." ++ gw.effectiveForwardNamespace f ++ ".svc.cluster.local"

/-- `tunnelAddresses` of the spec. -/
def eligibleAddresses : Except String (List String) :=
  tunnelAddresses gw.effectiveWGSubnet gw.effectiveWGGatewayAddress gw.effectiveWGLinkAddress

/-- The replicas of a load-balanced Gateway exceed the capacity of its subnet. -/
abbrev OverCapacity : Prop :=
  gw.loadBalanced = true ∧ gw.replicas.toInt > capacity gw.effectiveWGSubnet

/-- `<namespace>/<name>`. -/
def key : String := gw.namespace_ ++ "/" ++ gw.name

/-- `bundleInputs`. -/
def bundleInputs (linkPublicKey : String) : BundleInputs where
  subnetPrefix := ((parseCIDR gw.effectiveWGSubnet).map (·.ones : IPNet → Nat)).getD 0
  peerPublicKey := linkPublicKey
  peerAllowedIPs := gw.effectiveWGLinkAddress ++ "/32"

/-- What the record pass is given. -/
def recordGateway (eligibleAddresses : List String) : Gateway where
  uid := gw.uid
  gatewayNamespace := gw.namespace_
  gatewayName := gw.name
  project := gw.projectID
  capacity := capacity gw.effectiveWGSubnet
  eligibleAddresses := eligibleAddresses
  gatewayAddress := gw.effectiveWGGatewayAddress
  bundle := gw.bundleInputs ""
  publicKeyOf := gw.publicKeyOf

end GatewayObject

/-- `effectiveServicePort`. -/
def effectiveServicePort (f : ForwardSpec) : Int32 :=
  if f.targetPort = 0 then f.port else f.targetPort

end WireguardGateway.Controller

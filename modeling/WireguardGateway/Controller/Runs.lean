import WireguardGateway.Controller.Reconcile

/-!
# The life of a Gateway

A run is a list of steps from a Gateway that was just created: passes over the spec it has at the
time, losses of its key Secrets, changes of its children that the operator is told of, and restarts
of the operator. Between two passes the spec is edited; what admission holds fixed is `SameGateway`.

Results: `run_invariant`, what every pass preserves holds along every run.
-/

namespace WireguardGateway.Controller

open Lib Gcp Prog

/-- What no admitted edit changes: the identity, the traffic policy, whether the Gateway is
load-balanced, and, if it is, its tunnel addresses. -/
structure SameGateway (gw gw' : GatewayObject) : Prop where
  uid : gw'.uid = gw.uid
  namespace_ : gw'.namespace_ = gw.namespace_
  name : gw'.name = gw.name
  publicKeyOf : gw'.publicKeyOf = gw.publicKeyOf
  trafficPolicy : gw'.effectiveTrafficPolicy = gw.effectiveTrafficPolicy
  loadBalanced : gw'.loadBalanced = gw.loadBalanced
  tunnel : gw.loadBalanced = true → gw'.wireguard.subnet = gw.wireguard.subnet ∧
    gw'.wireguard.gatewayAddress = gw.wireguard.gatewayAddress ∧
    gw'.wireguard.linkAddress = gw.wireguard.linkAddress

theorem SameGateway.refl (gw : GatewayObject) : SameGateway gw gw :=
  ⟨rfl, rfl, rfl, rfl, rfl, rfl, fun _ => ⟨rfl, rfl, rfl⟩⟩

theorem SameGateway.isLocal {gw gw' : GatewayObject} (h : SameGateway gw gw') :
    gw'.isLocal = gw.isLocal := by
  rw [GatewayObject.isLocal, h.trafficPolicy, GatewayObject.isLocal]

inductive GatewayStep (publicKeyOf : String → String) where
  | pass (gw : GatewayObject) (e : PassEnv publicKeyOf)
  | loseBundle
  | loseLinkSecret
  | markDirty (link responder : Bool)
  | restart

/-- A Gateway that was just created, in a namespace with these Secrets. Its dirty flags are unseen,
which counts as set. -/
def GatewayState.created (records : World) : GatewayState where
  records := records
  composite := none
  linkConfigMap := none
  members := []
  gcpAddressRefreshed := ∅
  linkDirty := true
  listCalls := []
  finalizer := false
  linkID := 0
  secrets := .fresh
  children := fun _ => none
  responderDirty := true

section

variable {publicKeyOf : String → String} (cfg : Config) (objectHash : String → String)

def GatewayStep.next (s : GatewayState) : GatewayStep publicKeyOf → GatewayState
  | .pass gw e => (reconcileGatewayPass gw e cfg objectHash s).2
  | .loseBundle => { s with secrets := { s.secrets with bundle := none } }
  | .loseLinkSecret => { s with secrets := { s.secrets with link := none } }
  | .markDirty link responder =>
    { s with linkDirty := s.linkDirty || link, responderDirty := s.responderDirty || responder }
  | .restart => { s with linkDirty := true, responderDirty := true, gcpAddressRefreshed := ∅ }

end

/-- The condition holds of the step if it is a pass. -/
def GatewayStep.Each {publicKeyOf : String → String}
    (G : GatewayObject → PassEnv publicKeyOf → Prop) : GatewayStep publicKeyOf → Prop
  | .pass gw e => G gw e
  | .loseBundle | .loseLinkSecret | .markDirty _ _ | .restart => True

/-- The step is about this Gateway. -/
def GatewayStep.Admissible {publicKeyOf : String → String} (gw : GatewayObject) :
    GatewayStep publicKeyOf → Prop :=
  GatewayStep.Each fun gw' _ => SameGateway gw gw'

/-- The property speaks neither of the key Secrets nor of the operator's process memory. -/
def IgnoresMemory (I : GatewayState → Prop) : Prop :=
  ∀ s secrets linkDirty responderDirty refreshed, I s →
    I { s with secrets, linkDirty, responderDirty, gcpAddressRefreshed := refreshed }

/-- **The invariant rule**: what every such pass preserves holds after every run of them. -/
theorem run_invariant {publicKeyOf : String → String} {cfg : Config}
    {objectHash : String → String} {G : GatewayObject → PassEnv publicKeyOf → Prop}
    {I : GatewayState → Prop} {s : GatewayState} {xs : List (GatewayStep publicKeyOf)}
    (hmemory : IgnoresMemory I)
    (hpass : ∀ gw e s, G gw e → I s → I (reconcileGatewayPass gw e cfg objectHash s).2)
    (h : Guarded (GatewayStep.next cfg objectHash) (fun _ x => x.Each G) s xs) (hs : I s) :
    I (replay (GatewayStep.next cfg objectHash) s xs) := by
  refine h.invariant (fun s x hI hx => ?_) hs (List.prefix_refl xs)
  cases x with
  | pass gw e => exact hpass gw e s hx hI
  | loseBundle | loseLinkSecret | markDirty | restart => exact hmemory s _ _ _ _ hI

/-! ## A Gateway for concrete runs -/

/-- The default tunnel. -/
def defaultTunnel : WireguardSpec :=
  { listenPort := 0, subnet := "", gatewayAddress := "", linkAddress := "", keepalive := 0,
    mtu := 0 }

/-- A single instance with one forward, to a Service of another namespace. -/
def webGateway : GatewayObject where
  uid := "u1"
  namespace_ := "edge"
  name := "gw"
  projectID := "p"
  region := "r"
  loadBalanced := false
  replicas := 1
  wireguard := defaultTunnel
  trafficPolicy := none
  forwards :=
    [{ port := 443, tcp := true, service := "web", namespace_ := "apps", targetPort := 0 }]
  dnsHostnames := []
  linkReplicas := 0
  linkHealthPort := 0
  responderPort := 0
  responderReplicas := 0
  linkID := 0
  publicKeyOf := derive

/-- A cluster with that Service, whose namespace carries this consent label. -/
def webCluster (consent : Option String) : Backends where
  namespaces := fun ns => if ns = "apps" then some consent else none
  services := fun ns name =>
    if ns = "apps" ∧ name = "web" then
      some { externalName := false, clusterIP := "10.0.0.7",
             ports :=
              [{ name := "https", protocol := "TCP", port := 443, targetPort := .number 8443 }] }
    else none

/-- A pass all of whose calls succeed. -/
def PassEnv.calm (backends : Backends) (observed : CompositeStatus) : PassEnv derive where
  addFinalizer := .ok
  backends := backends
  backendFaults := { namespace_ := fun _ => none, service := fun _ _ => none }
  existsRead := none
  linkID := { allocate := .ok none, update := .ok, persist := none }
  recordFailure := none
  statusRead := none
  observed := observed
  overExists := none
  overSize := none
  secrets := laterCall
  network := none
  bundleRead := none
  linkSecretRead := none
  members :=
    { now := 0, namesRead := .live, recordRead := fun _ => .live, client := .error "no credentials"
      waitExists := none, waitSize := none, sizeRead := none, keys := .ok "", pass := .calm .live }
  single := .calm .live
  rosterRead := none
  compositeApply := .ok
  peersRead := none
  clusterIP := "10.0.0.9"
  responderPods := .ok []
  linkPods := none
  configMapGet := none
  configMapApply := .ok
  children :=
    { get := fun _ => none, apply := fun _ => .ok, delete := fun _ => .ok, hash := fun _ => "h" }
  linkStatus := none
  mirror := .ok

/-- The operator's settings. -/
def calmConfig : Config where
  gcpAddressRefreshInterval := 600000000000
  gcpCredentialsSecret := ""

end WireguardGateway.Controller

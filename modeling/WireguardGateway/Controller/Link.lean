import WireguardGateway.Controller.Children
import WireguardGateway.Controller.Forwards
import WireguardGateway.Controller.Members

/-!
# The link's objects

The ConfigMap carries the link's runtime config. A load-balanced Gateway has one peer per member: a
pass over a usable snapshot renders them (`fleetLinkPeers`), a pass without one reads them back
(`appliedLinkPeers`) and renders the config around them. A single instance has one peer, the VM.

Around the ConfigMap stand the objects of the workload, which differ between the traffic policies.

Results:
* `appliedLinkPeers_spec`: what is read back is what the ConfigMap carries;
* `applyConfigMap_spec`, `ensureLink_spec`: the ConfigMap that is applied, or stands under its hash.
-/

namespace WireguardGateway.Controller

open Lib Gcp Prog

/-! ## Rendering the config -/

/-- `net.JoinHostPort`. -/
def joinHostPort (host port : String) : String :=
  if ':' ∈ host.toList then "[" ++ host ++ "]:" ++ port else host ++ ":" ++ port

/-- `fillPeerListenPort`. -/
def fillPeerListenPort (peers : List Peer) (port : Int) : List Peer :=
  peers.map fun p => { p with listenPort := port }

/-- `fleetLinkPeers`. -/
def fleetLinkPeers (gw : GatewayObject) (fleetPeers : List Peer) : List LinkPeer :=
  fleetPeers.map fun p =>
    { slot := .ofInt p.slot
      publicKey := p.publicKey
      endpoint :=
        if p.externalAddress ≠ "" then joinHostPort p.externalAddress (toString p.listenPort)
        else ""
      allowedIPs := if gw.isLocal then ["0.0.0.0/0"] else [p.tunnelAddress ++ "/32"]
      persistentKeepalive := gw.effectiveWGKeepalive.toInt64 }

/-- One iteration of the forward loop of `buildLinkConfigMap`. -/
def linkForward (gw : GatewayObject) (b : ForwardBackend) : LinkForward :=
  let f := b.forward
  let proto := if f.tcp then "tcp" else "udp"
  let name := proto ++ "-" ++ toString f.port.toInt
  if gw.isLocal then
    { name, publicPort := f.port.toInt64, protocol := proto, service := "", targetPort := 0
      namespace_ := gw.effectiveForwardNamespace f, serviceName := f.service
      servicePortName := b.servicePortName }
  else
    { name, publicPort := f.port.toInt64, protocol := proto, service := gw.forwardServiceFQDN f
      targetPort := (effectiveServicePort f).toInt64, namespace_ := "", serviceName := ""
      servicePortName := "" }

/-- The part of the subnet after its last slash. -/
def subnetSuffix (subnet : String) : String := (split '/' subnet).getLast?.getD ""

/-- The one peer of a single instance. -/
def singleLinkPeer (gw : GatewayObject) (address gatewayPublicKey : String) : LinkPeer where
  slot := 0
  publicKey := gatewayPublicKey
  endpoint :=
    if address ≠ "" then joinHostPort address (toString gw.effectiveWireguardPort.toInt) else ""
  allowedIPs := if gw.isLocal then ["0.0.0.0/0"] else [gw.effectiveWGSubnet]
  persistentKeepalive := gw.effectiveWGKeepalive.toInt64

/-- `buildLinkConfigMap`: the runtime config it encodes. -/
def buildLinkConfigMap (gw : GatewayObject) (address : String) (backends : List ForwardBackend)
    (gatewayPublicKey : String) (fleetPeers : List LinkPeer) (responders : List (String × String))
    (responderTarget : String) : RuntimeConfig where
  trafficPolicy := gw.effectiveTrafficPolicy.text
  identity := gw.linkIdentityOf
  healthPort := gw.effectiveHealthPort
  podSelector := if gw.isLocal then gw.linkSelectorLabels else []
  responders := if gw.isLocal then responders else []
  responderPort := gw.effectiveResponderPort.toInt64
  responderTarget := if gw.isLocal then "" else responderTarget
  publicAddress := address
  wireguard :=
    { address := gw.effectiveWGLinkAddress ++ "/" ++ subnetSuffix gw.effectiveWGSubnet
      listenPort := 0
      mtu := gw.effectiveWGMTU.toInt64
      peers := if gw.loadBalanced then fleetPeers
        else [singleLinkPeer gw address gatewayPublicKey] }
  forwards := backends.map (linkForward gw)

/-! ## The ConfigMap -/

/-- The config a ConfigMap's text decodes to. -/
def LinkConfigMap.decode (cm : LinkConfigMap) : Option RuntimeConfig :=
  (Json.unmarshal cm.config).bind RuntimeConfig.ofJson

/-- The ConfigMap with this config and its hash. -/
def LinkConfigMap.ofConfig (objectHash : String → String) (rc : RuntimeConfig) : LinkConfigMap where
  config := rc.toJson.marshal
  hash := objectHash rc.toJson.marshal

/-- `appliedLinkPeers`: no peers when there is no ConfigMap. -/
def appliedLinkPeers (key : String) (fault : Fault) : Prog GatewayState String (List LinkPeer) := do
  match ← serve fault ("get link configmap " ++ key) (·.linkConfigMap) with
  | none => pure []
  | some cm =>
    match cm.decode with
    | none => fail ("decode link runtime config " ++ key)
    | some rc => pure rc.wireguard.peers

/-- The answers `ensureLink` gets for the ConfigMap and for the other objects. -/
structure LinkEnv where
  get : Fault
  apply : WriteOutcome
  child : ChildEnv

section

variable (objectHash : String → String) (e : LinkEnv) (gw : GatewayObject) (rc : RuntimeConfig)

/-- `applyObjectIfChanged` for the ConfigMap; `objectHash` is the hash of the rendered object. -/
def applyConfigMap (force : Bool) : Prog GatewayState String Unit := do
  let desired := LinkConfigMap.ofConfig objectHash rc
  let live ← serve e.get "get *v1.ConfigMap" (·.linkConfigMap)
  if !force ∧ live.any (·.hash = desired.hash) then pure ()
  else write e.apply "apply *v1.ConfigMap" fun s => { s with linkConfigMap := some desired }

/-- The workload of a traffic policy. -/
def applyWorkload (force : Bool) : Prog GatewayState String Unit :=
  match gw.linkIdentityOf with
  | some _ => do
    applyChild e.child force .linkClusterRoleBinding
    applyChild e.child force .linkDaemonSet
  | none => do
    applyChild e.child force .linkNetworkPolicy
    applyChild e.child force .linkDeployment
    if gw.effectiveLinkReplicas > 1 then applyChild e.child force .linkPodDisruptionBudget
    else deleteChild e.child .linkPodDisruptionBudget

/-- The objects of the link, in the order in which they are applied. -/
def applyLink (force : Bool) : Prog GatewayState String Unit := do
  applyChild e.child force .linkServiceAccount
  applyChild e.child force .linkRole
  applyChild e.child force .linkRoleBinding
  applyConfigMap objectHash e rc force
  applyWorkload e gw force

/-- `ensureLink`. -/
def ensureLink : Prog GatewayState String Unit :=
  withDirty (·.linkDirty) (fun s dirty => { s with linkDirty := dirty })
    (applyLink objectHash e gw rc)

end

/-! ## Rules -/

/-- The peers of the link ConfigMap, none when there is no ConfigMap. -/
def State.linkPeers (s : State) : Option (List LinkPeer) :=
  match s.linkConfigMap with
  | none => some []
  | some cm => cm.decode.map (·.wireguard.peers)

theorem LinkConfigMap.decode_ofConfig (objectHash : String → String) (rc : RuntimeConfig) :
    (ofConfig objectHash rc).decode = some rc := by
  simp only [decode, ofConfig, Json.unmarshal_marshal, Option.bind_some,
    RuntimeConfig.ofJson_toJson]

section

variable {P Q : GatewayState → Prop} {fault : Fault}

theorem appliedLinkPeers_spec (key : String) :
    Spec P (appliedLinkPeers key fault) (fun ps s => P s ∧ s.linkPeers = some ps) P := by
  refine serve_spec.bind fun cm => ?_
  cases cm with
  | none =>
    refine Spec.pure fun s h => ⟨h.1, ?_⟩
    rw [State.linkPeers, ← h.2]
  | some cm =>
    dsimp only
    cases hrc : cm.decode with
    | none => exact Spec.fail fun _ h => h.1
    | some rc =>
      refine Spec.pure fun s h => ⟨h.1, ?_⟩
      rw [State.linkPeers, ← h.2]
      simp [hrc]

variable {force : Bool}

/-- The ConfigMap is written, unless one with its hash stands. -/
theorem applyConfigMap_spec {objectHash : String → String} {e : LinkEnv} {rc : RuntimeConfig}
    (hkeep : ∀ s cm, P s → s.linkConfigMap = some cm →
      cm.hash = (LinkConfigMap.ofConfig objectHash rc).hash → Q s)
    (hset : ∀ s, P s → Q { s with linkConfigMap := some (.ofConfig objectHash rc) }) :
    Spec P (applyConfigMap objectHash e rc force) (fun _ => Q) (fun s => P s ∨ Q s) := by
  refine (serve_spec.orElse fun _ h => .inl h).bind fun live => ?_
  split
  · rename_i hlive
    refine Spec.pure fun s h => ?_
    cases live with
    | none => exact absurd hlive.2 (by simp)
    | some cm => exact hkeep s cm h.1 h.2.symm (by simpa using hlive.2)
  · refine (write_spec (Q := Q) fun s h => hset s h.1).orElse ?_
    exact fun s h => h.imp And.left id

/-- The property does not speak of the children. -/
abbrev IgnoresChildren (P : GatewayState → Prop) : Prop :=
  ∀ s children, P s → P { s with children := children }

theorem applyChild_frame {e : ChildEnv} {c : Child} (hP : IgnoresChildren P) :
    Keeps P (applyChild e force c) :=
  (applyChild_spec (fun _ h _ => h) fun s _ h => hP s _ h).orElse fun _ h => h.elim id id

theorem deleteChild_frame {e : ChildEnv} {c : Child} (hP : IgnoresChildren P) :
    Keeps P (deleteChild e c) :=
  (deleteChild_spec (fun _ h _ => h) fun s h => hP s _ h).orElse fun _ h => h.elim id id

theorem applyWorkload_frame {e : LinkEnv} {gw : GatewayObject} (hP : IgnoresChildren P) :
    Keeps P (applyWorkload e gw force) := by
  unfold applyWorkload
  split
  · exact (applyChild_frame hP).bind fun _ => applyChild_frame hP
  · refine (applyChild_frame hP).bind fun _ => (applyChild_frame hP).bind fun _ => ?_
    split
    · exact applyChild_frame hP
    · exact deleteChild_frame hP

/-- **What `ensureLink` does to the ConfigMap.** -/
theorem ensureLink_spec {objectHash : String → String} {e : LinkEnv} {gw : GatewayObject}
    {rc : RuntimeConfig} {E : GatewayState → Prop} (hP : IgnoresChildren P) (hQ : IgnoresChildren Q)
    (hdirtyP : ∀ s b, P s → P { s with linkDirty := b })
    (hdirtyE : ∀ s b, E s → E { s with linkDirty := b })
    (hkeep : ∀ s cm, P s → s.linkConfigMap = some cm →
      cm.hash = (LinkConfigMap.ofConfig objectHash rc).hash → Q s)
    (hset : ∀ s, P s → Q { s with linkConfigMap := some (.ofConfig objectHash rc) })
    (hPE : ∀ s, P s → E s) (hQE : ∀ s, Q s → E s) :
    Spec P (ensureLink objectHash e gw rc) (fun _ => Q) E := by
  refine withDirty_spec hdirtyP hdirtyE fun force => ?_
  refine ((applyChild_frame hP).orElse hPE).bind fun _ => ?_
  refine ((applyChild_frame hP).orElse hPE).bind fun _ => ?_
  refine ((applyChild_frame hP).orElse hPE).bind fun _ => ?_
  refine ((applyConfigMap_spec hkeep hset).orElse fun s h => h.elim (hPE s) (hQE s)).bind
    fun _ => ?_
  exact (applyWorkload_frame hQ).orElse hQE

end

end WireguardGateway.Controller

import WireguardGateway.Controller.Link
import WireguardGateway.Gcp.Single

/-!
# `Reconcile`: one pass over a Gateway

The pass in the order of the source, with each of its early returns (`ReturnPath`). What the API
server, Crossplane and the clock decide is a `PassEnv`, one answer per call; a failed call ends the
pass with what it did before in place. Reads show the current state or fail.

Events, log lines and the conditions of the status are left out: nothing reads them back.

Results: the rules for its parts, each for a property that survives what the part writes
(`memberResult_frame`, `linkPass_spec`, `overCapacityPass_spec`), and **`PassRule.spec`**, which
reduces a property of a pass to one obligation per return path.
-/

namespace WireguardGateway.Controller

open Lib Gcp Prog

/-! ## The environment of a pass -/

/-- `compositeStatus`: what Crossplane reports of the composite. -/
structure CompositeStatus where
  address : String
  serviceAccountEmail : String
  message : String
  migName : String
  instanceName : String
  deriving DecidableEq, Repr

def CompositeStatus.zero : CompositeStatus := ⟨"", "", "", "", ""⟩

/-- A link id that can be allocated. -/
abbrev AllocatedID : Type := { id : Int32 // 0 < id ∧ id ≤ 250 }

/-- The answers `ensureLinkID` gets: the id it allocates, if one is free, the write of it to the
status, and whether the annotation can be written. -/
structure LinkIDAnswers where
  allocate : Except String (Option AllocatedID)
  update : WriteOutcome
  persist : Fault

structure PassEnv (publicKeyOf : String → String) where
  addFinalizer : WriteOutcome
  backends : Backends
  backendFaults : BackendFaults
  existsRead : Fault
  linkID : LinkIDAnswers
  recordFailure : Fault
  statusRead : Fault
  observed : CompositeStatus
  overExists : Fault
  overSize : Fault
  secrets : SecretsEnv publicKeyOf
  network : Fault
  bundleRead : Fault
  linkSecretRead : Fault
  members : MembersEnv
  single : Env
  rosterRead : Fault
  compositeApply : WriteOutcome
  peersRead : Fault
  clusterIP : String
  responderPods : Except String (List (String × String))
  linkPods : Fault
  configMapGet : Fault
  configMapApply : WriteOutcome
  children : ChildEnv
  linkStatus : Fault
  mirror : WriteOutcome

/-- How a pass that returns no error ended. -/
inductive ReturnPath where
  | finalizerAdded
  | invalidTunnelAddresses
  | linkIDsExhausted
  | notProvisioned
  | overCapacity
  | full
  deriving DecidableEq, Repr

/-! ## The steps -/

/-- `fail`: the error of a step, under its name. -/
def step {α : Type} (op : String) (m : Prog GatewayState String α) : Prog GatewayState String α :=
  mapErr (fun cause => op ++ ": " ++ cause) m

/-- `ensureLinkID`: the id of the status, or none when all are held. -/
def ensuredLinkID (gw : GatewayObject) (e : LinkIDAnswers) :
    Prog GatewayState String (Option Int32) := do
  let id ← serve none "" (·.linkID)
  if !gw.isLocal then pure (some id)
  else if 0 < id then
    serve e.persist "update gateway link id annotation" fun _ => some id
  else
    match ← lift e.allocate with
    | none => pure none
    | some id =>
      write e.update "update gateway link id" fun s => { s with linkID := id.1 }
      serve e.persist "update gateway link id annotation" fun _ => some id.1

/-- `readXGatewayGCPStatus`: nothing is reported of a composite that does not exist. -/
def readXGatewayGCPStatus (fault : Fault) (observed : CompositeStatus) :
    Prog GatewayState String CompositeStatus :=
  serve fault "get xgatewaygcp" fun s => if s.composite.isSome then observed else .zero

/-- `readGatewayKeys`. -/
def readGatewayKeys (key : String) (fault : Fault) :
    Prog GatewayState String (String × String) := do
  match ← serve fault ("get bundle secret " ++ key) (·.secrets.bundle) with
  | none => fail ("get bundle secret " ++ key ++ ": not found")
  | some bundle =>
    match gatewayKeys bundle with
    | none => fail ("bundle secret " ++ key ++ " carries no gateway key pair")
    | some keys => pure keys

/-- `readLinkPeerPublicKey`. -/
def readLinkPeerPublicKey (key : String) (fault : Fault) : Prog GatewayState String String := do
  match ← serve fault ("get link secret " ++ key ++ " for peer public key") (·.secrets.link) with
  | none => fail ("get link secret " ++ key ++ " for peer public key: not found")
  | some link => pure link.peerPublicKey

/-- `mirrorStatusWithForwards`: the members of a usable result replace those of the status. -/
def mirrorStatusWithForwards (outcome : WriteOutcome) (result : Option Result) :
    Prog GatewayState String Unit :=
  write outcome "mirror status" fun s =>
    match result with
    | some r => if r.unusable then s else { s with members := r.members }
    | none => s

section

variable {publicKeyOf : String → String} (gw : GatewayObject) (e : PassEnv publicKeyOf)

/-- `reconcileSingleMember`. -/
def reconcileSingleMember (instanceName : String) : Prog GatewayState String Result :=
  if instanceName = "" then pure (retained 0)
  else do
    let (gatewayPrivateKey, linkPublicKey) ← readGatewayKeys gw.key e.bundleRead
    let gatewayPublicKey ← readLinkPeerPublicKey gw.key e.linkSecretRead
    onState (mapErr PassError.text (onRecords (reconcileSingle
      { gw.recordGateway [] with bundle := gw.bundleInputs linkPublicKey } e.single instanceName
      gw.effectiveWGGatewayAddress gatewayPrivateKey gatewayPublicKey)))

/-- `reconcileMembers`, which reads the link's public key from the bundle Secret. -/
def reconcileFleet (cfg : Config) (eligible : List String) (migName : String) :
    Prog GatewayState String (Option Result) := fun s =>
  let keys := (readGatewayKeys gw.key e.bundleRead s).1.map Prod.snd
  (do
    let (result, _, _) ← onState (reconcileMembers cfg (gw.recordGateway eligible)
      { e.members with keys } gw.region gw.replicas migName)
    pure result : Prog GatewayState String (Option Result)) s

/-- The result of the member pass of either branch. -/
def memberResult (cfg : Config) (eligible : List String) (observed : CompositeStatus) :
    Prog GatewayState String (Option Result) :=
  if gw.loadBalanced then
    step "reconcile gcp members" (reconcileFleet gw e cfg eligible observed.migName)
  else do
    let result ← step "reconcile single instance member"
      (reconcileSingleMember gw e observed.instanceName)
    pure (some result)

/-- The peers to render for a fleet: of a usable result its own, else the applied ones. -/
def fleetPeersOf (result : Option Result) : Prog GatewayState String (List LinkPeer) :=
  if !gw.loadBalanced then pure []
  else
    match result.filter fun r => !r.unusable with
    | some r => pure (fleetLinkPeers gw
        (fillPeerListenPort r.peers gw.effectiveWireguardPort.toInt))
    | none => step "read applied link peers" (appliedLinkPeers gw.key e.peersRead)

/-- The peer key of a single instance. -/
def singlePeerKey : Prog GatewayState String String :=
  if gw.loadBalanced then pure ""
  else step "read link peer public key" (readLinkPeerPublicKey gw.key e.linkSecretRead)

/-- The responder's disruption budget, for more than one replica. -/
def applyResponderBudget (force : Bool) : Prog GatewayState String Unit :=
  if gw.effectiveResponderReplicas > 1 then
    applyChild e.children force .responderPodDisruptionBudget
  else deleteChild e.children .responderPodDisruptionBudget

/-- The responder's workload in a Cluster, and the address of its Service. -/
def applyClusterResponder (force : Bool) : Prog GatewayState String String := do
  applyChild e.children force .responderDeployment
  deleteChild e.children .responderDaemonSet
  applyResponderBudget gw e force
  if e.clusterIP = "" then fail ("get responder service: " ++ gw.key ++ " has no clusterIP")
  else pure e.clusterIP

/-- The responder's workload on every node. -/
def applyLocalResponder (force : Bool) : Prog GatewayState String String := do
  applyChild e.children force .responderDaemonSet
  deleteChild e.children .responderDeployment
  deleteChild e.children .responderPodDisruptionBudget
  pure ""

/-- `ensureGatewayResponder`. -/
def ensureGatewayResponder : Prog GatewayState String String :=
  withDirty (·.responderDirty) (fun s dirty => { s with responderDirty := dirty }) fun force => do
    applyChild e.children force .responderConfigMap
    applyChild e.children force .responderService
    if gw.isLocal then applyLocalResponder e force else applyClusterResponder gw e force

/-- `ensureDNSEndpoint`. -/
def ensureDNSEndpoint (address : String) : Prog GatewayState String Unit :=
  if gw.dnsHostnames = [] ∨ address = "" then pure ()
  else write (e.children.apply .dnsEndpoint) "apply dns endpoint" fun s =>
    s.setChild .dnsEndpoint (some "")

/-- `linkStatusOf`, of which nothing but a failure matters. -/
def linkStatusOf : Prog GatewayState String Unit :=
  step "read link activity" (serve e.linkStatus "get link lease" fun _ => ())

/-- The read of a Local Gateway's link pods. -/
def listLinkPods : Prog GatewayState String Unit :=
  if gw.isLocal then step "list link pods" (serve e.linkPods "list link pods" fun _ => ())
  else pure ()

/-- The answers for the link's objects. -/
def PassEnv.link (e : PassEnv publicKeyOf) : LinkEnv where
  get := e.configMapGet
  apply := e.configMapApply
  child := e.children

/-- A pass whose replicas exceed the capacity of the subnet. -/
def overCapacityPass (valid : List ForwardBackend) : Prog GatewayState String ReturnPath := do
  step "ensure xgatewaygcp" (onState (applyOverCapacityXGatewayGCP gw e.overExists e.overSize
    e.rosterRead e.compositeApply (valid.map (·.forward))))
  linkStatusOf e
  mirrorStatusWithForwards e.mirror none
  pure .overCapacity

/-- The link and what depends on the membership it is rendered with. -/
def linkPass (objectHash : String → String) (valid : List ForwardBackend)
    (observed : CompositeStatus) (result : Option Result) :
    Prog GatewayState String ReturnPath := do
  let fleetPeers ← fleetPeersOf gw e result
  let gatewayPublicKey ← singlePeerKey gw e
  let responderClusterIP ← step "ensure responder" (ensureGatewayResponder gw e)
  let responders ← step "list responder pods" (lift e.responderPods)
  listLinkPods gw e
  step "ensure link" (ensureLink objectHash e.link gw
    (buildLinkConfigMap gw observed.address valid gatewayPublicKey fleetPeers responders
      responderClusterIP))
  step "ensure dns endpoint" (ensureDNSEndpoint gw e observed.address)
  linkStatusOf e
  mirrorStatusWithForwards e.mirror (if gw.loadBalanced then result else none)
  pure .full

/-- A pass that is not cut short. -/
def fullPass (cfg : Config) (objectHash : String → String) (eligible : List String)
    (valid : List ForwardBackend) (observed : CompositeStatus) :
    Prog GatewayState String ReturnPath := do
  step "ensure key secrets" (onSecrets (ensureSecrets e.secrets))
  step "ensure shared network" (serve e.network "apply xgatewaynetwork" fun _ => ())
  let result ← memberResult gw e cfg eligible observed
  step "ensure xgatewaygcp" (onState (ensureXGatewayGCP gw e.rosterRead e.compositeApply
    (valid.map (·.forward)) result))
  linkPass gw e objectHash valid observed result

/-- From the link id on. -/
def provisionPass (cfg : Config) (objectHash : String → String) (eligible : List String)
    (valid : List ForwardBackend) (provisioned : Bool) : Prog GatewayState String ReturnPath :=
  if valid = [] ∧ !provisioned then do
    linkStatusOf e
    mirrorStatusWithForwards e.mirror none
    pure .notProvisioned
  else do
    let observed ← step "read xgatewaygcp status" (readXGatewayGCPStatus e.statusRead e.observed)
    if gw.OverCapacity then overCapacityPass gw e valid
    else fullPass gw e cfg objectHash eligible valid observed

/-- A pass over valid tunnel addresses. -/
def tunnelPass (cfg : Config) (objectHash : String → String) (eligible : List String) :
    Prog GatewayState String ReturnPath := do
  let (valid, invalid) ← step "classify forwards"
    (lift (classifyForwards gw e.backends e.backendFaults))
  let provisioned ← step "check xgatewaygcp existence" (onState (xgatewayGCPExists e.existsRead))
  match ← step "allocate link id" (ensuredLinkID gw e.linkID) with
  | none => do
    serve e.recordFailure "allocate link id" fun _ => ()
    pure .linkIDsExhausted
  | some id =>
    let gw := { gw with linkID := id }
    provisionPass gw e cfg objectHash eligible (rejectReservedHealthPort gw valid invalid).1
      provisioned

/-- `Reconcile` of a Gateway that is not being deleted. -/
def reconcileGatewayPass (cfg : Config) (objectHash : String → String) :
    Prog GatewayState String ReturnPath := do
  if !(← serve none "" (·.finalizer)) then
    write e.addFinalizer "add finalizer" fun s => { s with finalizer := true }
    pure .finalizerAdded
  else
    match gw.eligibleAddresses with
    | .error _ => do
      mirrorStatusWithForwards e.mirror none
      pure .invalidTunnelAddresses
    | .ok eligible => tunnelPass gw e cfg objectHash eligible

end

/-! ## Rules -/

section

variable {publicKeyOf : String → String} {gw : GatewayObject} {e : PassEnv publicKeyOf}
  {cfg : Config} {P Q E : GatewayState → Prop}

/-- The link id is allocated, or found. -/
theorem ensuredLinkID_spec {env : LinkIDAnswers}
    (hid : ∀ s id, P s → 0 < id → P { s with linkID := id }) :
    Spec P (ensuredLinkID gw env) (fun r s => P s ∧ match r with
      | none => gw.isLocal = true ∧ ¬ 0 < s.linkID
      | some id => s.linkID = id ∧ (gw.isLocal = true → 0 < id)) P := by
  refine serve_spec.bind fun id => ?_
  cases hlocal : gw.isLocal with
  | false => exact Spec.pure fun s h => ⟨h.1, h.2.symm, fun h' => nomatch h'⟩
  | true =>
    by_cases hpos : 0 < id
    · simp only [Bool.not_true, Bool.false_eq_true, if_false, if_pos hpos]
      refine serve_spec.weaken (fun _ h => h) (fun r s h => ?_) fun _ h => h.1
      obtain ⟨⟨hP, rfl⟩, rfl⟩ := h
      exact ⟨hP, rfl, fun _ => hpos⟩
    · simp only [Bool.not_true, Bool.false_eq_true, if_false, if_neg hpos]
      refine (Spec.lift (fun _ _ _ h => h) fun _ h => h.1).bind fun found => ?_
      cases found with
      | none => exact Spec.pure fun s h => ⟨h.1, trivial, h.2 ▸ hpos⟩
      | some id' =>
        refine ((write_spec (Q := fun s => P s ∧ s.linkID = id'.1) ?_).orElse ?_).bind fun _ => ?_
        · exact fun s h => ⟨hid s _ h.1 id'.2.1, rfl⟩
        · rintro s (h | h) <;> exact h.1
        · refine serve_spec.weaken (fun _ h => h) (fun r s h => ?_) fun _ h => h.1
          obtain ⟨⟨hP, hs⟩, rfl⟩ := h
          exact ⟨hP, hs, fun _ => id'.2.1⟩

/-- The property speaks neither of the records nor of the memory of discovery. -/
abbrev IgnoresRecords (P : GatewayState → Prop) : Prop :=
  ∀ s w refreshed calls, P s →
    P { s with records := w, gcpAddressRefreshed := refreshed, listCalls := calls }

theorem reconcileSingleMember_frame (hP : IgnoresRecords P) (instanceName : String) :
    Keeps P (reconcileSingleMember gw e instanceName) := by
  unfold reconcileSingleMember
  split
  · exact Spec.pure fun _ h => h
  · have hbundle : Keeps P (readGatewayKeys gw.key e.bundleRead) := by
      refine serve_frame.bind fun bundle => ?_
      cases bundle with
      | none => exact Spec.fail fun _ h => h
      | some bundle =>
        dsimp only
        cases gatewayKeys bundle with
        | none => exact Spec.fail fun _ h => h
        | some keys => exact Spec.pure fun _ h => h
    have hlink : Keeps P (readLinkPeerPublicKey gw.key e.linkSecretRead) := by
      refine serve_frame.bind fun link => ?_
      cases link with
      | none => exact Spec.fail fun _ h => h
      | some link => exact Spec.pure fun _ h => h
    refine hbundle.bind fun keys => hlink.bind fun peerKey => zoom_rule fun s hs => ?_
    have hkept : ∀ t, t = s.toState → P { s with toState := t } := by
      rintro t rfl
      exact hs
    refine ((onRecords_spec _ ?_).mapErr).pre hkept
    exact fun t w ht => hP { s with toState := t } w _ _ ht

/-- **The member pass of either branch writes the records and the memory of discovery only.** -/
theorem memberResult_frame (hP : IgnoresRecords P) (eligible : List String)
    (observed : CompositeStatus) :
    Keeps P (memberResult gw e cfg eligible observed) := by
  unfold memberResult
  split
  · refine Spec.mapErr fun s hs => ?_
    refine Spec.bind (Q := fun _ => P) (zoom_rule fun s hs => ?_)
      (fun r => Spec.pure fun _ h => h) s hs
    have hkept : ∀ t, t = s.toState → P { s with toState := t } := by
      rintro t rfl
      exact hs
    refine (reconcileMembers_frame _ ?_).pre hkept
    exact fun t w refreshed calls ht => hP { s with toState := t } w refreshed calls ht
  · exact (reconcileSingleMember_frame hP _).mapErr.bind fun r => Spec.pure fun _ h => h

variable {result : Option Result} {valid : List ForwardBackend}

/-- The composite is applied. -/
theorem applyComposite_spec {op : String} {forwards : List ForwardSpec}
    (hQ : ∀ s applied, P s → AppliedRoster result s.toState applied →
      Q { s with composite := some (compositeOf gw forwards applied) }) (fault : Fault)
    (apply : WriteOutcome) :
    Spec P (step op (onState (ensureXGatewayGCP gw fault apply forwards result))) (fun _ => Q)
      fun s => P s ∨ Q s := by
  refine Spec.mapErr (zoom_rule fun s hs => ?_)
  refine (ensureXGatewayGCP_spec (P := (· = s.toState)) (Q := fun t => Q { s with toState := t })
    ?_ fault apply).orElse ?_
  · rintro t applied rfl happlied
    exact hQ s applied hs happlied
  · rintro t (rfl | h)
    · exact .inl hs
    · exact .inr h

/-- The peers a fleet's config is rendered with: of a usable result its own, else the ones of the
ConfigMap. -/
def FleetPeers (gw : GatewayObject) (result : Option Result) (s : State) (peers : List LinkPeer) :
    Prop :=
  gw.loadBalanced = true → match result.filter fun r => !r.unusable with
    | some r => peers =
        fleetLinkPeers gw (fillPeerListenPort r.peers gw.effectiveWireguardPort.toInt)
    | none => s.linkPeers = some peers

theorem fleetPeersOf_spec (result : Option Result) :
    Spec P (fleetPeersOf gw e result) (fun peers s => P s ∧ FleetPeers gw result s.toState peers)
      P := by
  unfold fleetPeersOf FleetPeers
  cases gw.loadBalanced with
  | false => exact Spec.pure fun s h => ⟨h, fun h' => nomatch h'⟩
  | true =>
    cases result.filter fun r => !r.unusable with
    | some r => exact Spec.pure fun s h => ⟨h, fun _ => rfl⟩
    | none =>
      exact (appliedLinkPeers_spec gw.key).mapErr.post fun _ _ h => ⟨h.1, fun _ => h.2⟩

theorem singlePeerKey_frame : Keeps P (singlePeerKey gw e) := by
  unfold singlePeerKey
  split
  · exact Spec.pure fun _ h => h
  · refine Spec.mapErr (serve_frame.bind fun link => ?_)
    cases link with
    | none => exact Spec.fail fun _ h => h
    | some link => exact Spec.pure fun _ h => h

theorem ensureGatewayResponder_frame (hP : IgnoresChildren P)
    (hdirty : ∀ s b, P s → P { s with responderDirty := b }) :
    Keeps P (ensureGatewayResponder gw e) := by
  refine withDirty_spec hdirty hdirty fun force => ?_
  refine (applyChild_frame hP).bind fun _ => (applyChild_frame hP).bind fun _ => ?_
  split
  · refine (applyChild_frame hP).bind fun _ => (deleteChild_frame hP).bind fun _ => ?_
    exact (deleteChild_frame hP).bind fun _ => Spec.pure fun _ h => h
  · refine (applyChild_frame hP).bind fun _ => (deleteChild_frame hP).bind fun _ => ?_
    have hbudget : Keeps P (applyResponderBudget gw e force) := by
      unfold applyResponderBudget
      split
      · exact applyChild_frame hP
      · exact deleteChild_frame hP
    refine hbudget.bind fun _ => ?_
    split
    · exact Spec.fail fun _ h => h
    · exact Spec.pure fun _ h => h

theorem ensureDNSEndpoint_frame (hP : IgnoresChildren P) (address : String) :
    Keeps P (ensureDNSEndpoint gw e address) := by
  unfold ensureDNSEndpoint
  split
  · exact Spec.pure fun _ h => h
  · exact (write_spec fun s h => hP s _ h).orElse fun _ h => h.elim id id

/-- The property does not speak of what the workloads' part of a pass writes. -/
structure IgnoresWorkloads (P : GatewayState → Prop) : Prop where
  children : IgnoresChildren P
  linkDirty : ∀ s b, P s → P { s with linkDirty := b }
  responderDirty : ∀ s b, P s → P { s with responderDirty := b }

/-- The members of the status after a pass with this result. -/
def mirroredMembers (gw : GatewayObject) (result : Option Result) (before : List MemberStatus) :
    List MemberStatus :=
  match if gw.loadBalanced then result else none with
  | some r => if r.unusable then before else r.members
  | none => before

theorem mirrorStatusWithForwards_spec {outcome : WriteOutcome}
    (hQ : ∀ s, P s → Q { s with members := mirroredMembers gw result s.members }) :
    Spec P (mirrorStatusWithForwards outcome (if gw.loadBalanced then result else none))
      (fun _ => Q) fun s => P s ∨ Q s := by
  refine write_spec fun s hs => ?_
  have h := hQ s hs
  unfold mirroredMembers at h
  cases hresult : (if gw.loadBalanced then result else none) with
  | none => rw [hresult] at h; exact h
  | some r =>
    rw [hresult] at h
    dsimp only at h ⊢
    cases hr : r.unusable <;> rw [hr] at h <;> exact h

theorem listLinkPods_frame : Keeps P (listLinkPods gw e) := by
  unfold listLinkPods
  split
  · exact Spec.mapErr serve_frame
  · exact Spec.pure fun _ h => h

/-- **From the composite on**: the ConfigMap is applied around the peers of `FleetPeers`, or stands
under its hash, and the status mirrors the members. -/
theorem linkPass_spec {objectHash : String → String} {observed : CompositeStatus}
    {R : ReturnPath → GatewayState → Prop} (hP : IgnoresWorkloads P) (hQ : IgnoresWorkloads Q)
    (hE : ∀ s b, E s → E { s with linkDirty := b })
    (hkeep : ∀ s cm rc, P s → s.linkConfigMap = some cm →
      cm.hash = (LinkConfigMap.ofConfig objectHash rc).hash →
      (∃ key peers responders target, rc =
        buildLinkConfigMap gw observed.address valid key peers responders target) → Q s)
    (hset : ∀ s key peers responders target, P s → FleetPeers gw result s.toState peers →
      Q { s with linkConfigMap := some (.ofConfig objectHash
        (buildLinkConfigMap gw observed.address valid key peers responders target)) })
    (hmirror : ∀ s, Q s → R .full { s with members := mirroredMembers gw result s.members })
    (hPE : ∀ s, P s → E s) (hQE : ∀ s, Q s → E s) (hRE : ∀ s, R .full s → E s) :
    Spec P (linkPass gw e objectHash valid observed result) R E := by
  have hpeers : ∀ peers, IgnoresWorkloads fun s => P s ∧ FleetPeers gw result s.toState peers :=
    fun peers => ⟨fun s c h => ⟨hP.children s c h.1, h.2⟩, fun s b h => ⟨hP.linkDirty s b h.1, h.2⟩,
      fun s b h => ⟨hP.responderDirty s b h.1, h.2⟩⟩
  have hPE' : ∀ peers s, P s ∧ FleetPeers gw result s.toState peers → E s :=
    fun peers s h => hPE s h.1
  refine ((fleetPeersOf_spec result).orElse hPE).bind fun peers => ?_
  refine (singlePeerKey_frame.orElse (hPE' peers)).bind fun key => ?_
  refine ((ensureGatewayResponder_frame (hpeers peers).children
    (hpeers peers).responderDirty).mapErr.orElse (hPE' peers)).bind fun target => ?_
  refine (Spec.mapErr (Spec.lift (fun _ _ _ h => h) (hPE' peers))).bind fun responders => ?_
  refine (listLinkPods_frame.orElse (hPE' peers)).bind fun _ => ?_
  refine Spec.bind (Q := fun _ => Q) (Spec.mapErr (ensureLink_spec (hpeers peers).children
    hQ.children (hpeers peers).linkDirty hE ?_ ?_ (hPE' peers) hQE)) fun _ => ?_
  · exact fun s cm h hcm hhash => hkeep s cm _ h.1 hcm hhash ⟨key, peers, responders, target, rfl⟩
  · exact fun s h => hset s key peers responders target h.1 h.2
  · refine ((ensureDNSEndpoint_frame hQ.children _).mapErr.orElse hQE).bind fun _ => ?_
    refine ((Spec.mapErr serve_frame).orElse hQE).bind fun _ => ?_
    refine ((mirrorStatusWithForwards_spec hmirror).orElse fun s h => h.elim (hQE s) (hRE s)).bind
      fun _ => ?_
    exact Spec.pure fun _ h => h

/-- **Over capacity**: an existing composite is applied again with the membership it carries. -/
theorem overCapacityPass_spec {R : ReturnPath → GatewayState → Prop}
    (hnone : ∀ s, P s → s.composite = none → R .overCapacity s)
    (happly : ∀ s c applied, P s → s.composite = some c →
      AppliedRoster (some (retained s.targetSize)) s.toState applied →
      R .overCapacity
        { s with composite := some (compositeOf gw (valid.map (·.forward)) applied) })
    (hPE : ∀ s, P s → E s) (hRE : ∀ s, R .overCapacity s → E s) :
    Spec P (overCapacityPass gw e valid) R E := by
  have hcomposite : Spec P (step "ensure xgatewaygcp" (onState (applyOverCapacityXGatewayGCP gw
      e.overExists e.overSize e.rosterRead e.compositeApply (valid.map (·.forward)))))
      (fun _ => R .overCapacity) E := by
    refine Spec.mapErr (zoom_rule fun s hs => ?_)
    refine (serve_spec.orElse ?_).bind fun found => ?_
    · rintro t rfl
      exact hPE s hs
    cases hc : s.composite with
    | none =>
      rintro t ⟨rfl, rfl⟩
      rw [hc]
      exact Spec.pure (P := (· = s.toState)) (fun t ht => ht ▸ hnone s hs hc) _ rfl
    | some c =>
      rintro t ⟨rfl, rfl⟩
      rw [hc]
      refine Spec.bind (P := (· = s.toState)) (serve_spec.orElse ?_) (fun size => ?_) _ rfl
      · rintro t rfl
        exact hPE s hs
      · refine (ensureXGatewayGCP_spec (Q := fun t => R .overCapacity { s with toState := t })
          ?_ _ _).orElse ?_
        · rintro t applied ⟨rfl, rfl⟩ happlied
          exact happly s c applied hs hc happlied
        · rintro t (⟨rfl, -⟩ | h)
          · exact hPE s hs
          · exact hRE _ h
  refine hcomposite.bind fun _ => ?_
  refine ((Spec.mapErr serve_frame).orElse hRE).bind fun _ => ?_
  refine ((write_spec fun s h => h).orElse fun s h => h.elim (hRE s) (hRE s)).bind fun _ => ?_
  exact Spec.pure fun _ h => h

/-- The forwards a pass exposes: forwards of the spec that pass, none of them on the health port. -/
structure Exposable (gw : GatewayObject) (cluster : Backends) (valid : List ForwardBackend) :
    Prop where
  spec : (valid.map (·.forward)).Sublist gw.forwards
  passes : ∀ b ∈ valid, Passes gw cluster b
  healthPort : ∀ b ∈ valid, takesHealthPort gw b = false

theorem exposable_rejectReservedHealthPort {faults : BackendFaults} {invalid : List InvalidForward}
    (h : classifyForwards gw e.backends faults = .ok (valid, invalid)) (id : Int32) :
    Exposable { gw with linkID := id } e.backends
      (rejectReservedHealthPort { gw with linkID := id } valid invalid).1 := by
  obtain ⟨hspec, hpasses⟩ := classifyForwards_valid h
  have hsub : (rejectReservedHealthPort { gw with linkID := id } valid invalid).1.Sublist valid :=
    List.filter_sublist
  refine ⟨(hsub.map _).trans hspec, fun b hb => ?_, fun b hb => ?_⟩
  · obtain ⟨hconsented, hpublished⟩ := hpasses b (hsub.subset hb)
    exact ⟨hconsented, hpublished⟩
  · have hfree := (List.mem_filter.mp hb).2
    simpa using hfree

/-- What is to be shown of a pass: `P` holds up to the composite, and each
return path ends in `R`. -/
structure PassRule (gw : GatewayObject) (e : PassEnv publicKeyOf) (cfg : Config)
    (objectHash : String → String) (P E : GatewayState → Prop)
    (R : ReturnPath → GatewayState → Prop) : Prop where
  linkID : ∀ s id, P s → 0 < id → P { s with linkID := id }
  finalizer : ∀ s, P s → s.finalizer = false → R .finalizerAdded { s with finalizer := true }
  invalid : ∀ s err, P s → s.finalizer = true → gw.eligibleAddresses = .error err →
    R .invalidTunnelAddresses s
  exhausted : ∀ s, P s → gw.isLocal = true → ¬ 0 < s.linkID → R .linkIDsExhausted s
  idle : ∀ s, P s → s.composite = none → R .notProvisioned s
  overCapacity : ∀ id valid, Exposable { gw with linkID := id } e.backends valid →
    (∃ eligible, gw.eligibleAddresses = .ok eligible) → gw.OverCapacity →
    Spec (fun s => P s ∧ s.finalizer = true ∧ s.linkID = id)
      (overCapacityPass { gw with linkID := id } e valid) R E
  full : ∀ id valid eligible observed, Exposable { gw with linkID := id } e.backends valid →
    gw.eligibleAddresses = .ok eligible → ¬ gw.OverCapacity → (gw.isLocal = true → 0 < id) →
    Spec (fun s => P s ∧ s.finalizer = true ∧ s.linkID = id ∧
        observed = if s.composite.isSome then e.observed else .zero)
      (fullPass { gw with linkID := id } e cfg objectHash eligible valid observed) R E
  before : ∀ s, P s → E s
  after : ∀ p s, R p s → E s

namespace PassRule

variable {objectHash : String → String} {R : ReturnPath → GatewayState → Prop}

theorem mirror (h : PassRule gw e cfg objectHash P E R) (p : ReturnPath) :
    Spec (R p) (do mirrorStatusWithForwards e.mirror none; pure p) R E := by
  have hwrite : Spec (R p) (mirrorStatusWithForwards e.mirror none) (fun _ => R p)
      fun s => R p s ∨ R p s :=
    write_spec fun s h => h
  refine (hwrite.orElse fun s hs => hs.elim (h.after p s) (h.after p s)).bind fun _ => ?_
  exact Spec.pure fun _ h => h

theorem provision (h : PassRule gw e cfg objectHash P E R) {id : Int32}
    {valid : List ForwardBackend} {eligible : List String} {provisioned : Bool}
    (hvalid : Exposable { gw with linkID := id } e.backends valid)
    (htunnel : gw.eligibleAddresses = .ok eligible) (hlocal : gw.isLocal = true → 0 < id) :
    Spec (fun s => P s ∧ s.finalizer = true ∧ s.linkID = id ∧ provisioned = s.composite.isSome)
      (provisionPass { gw with linkID := id } e cfg objectHash eligible valid provisioned) R E := by
  unfold provisionPass
  split
  · rename_i hidle
    refine ((Spec.mapErr serve_frame).orElse fun s hs => h.before s hs.1).bind fun _ => ?_
    refine (h.mirror .notProvisioned).pre fun s hs => h.idle s hs.1 ?_
    have hprovisioned := hidle.2
    rw [hs.2.2.2] at hprovisioned
    simpa using hprovisioned
  · refine ((Spec.mapErr serve_spec).orElse fun s hs => h.before s hs.1).bind fun observed => ?_
    split
    · rename_i hover
      exact (h.overCapacity id valid hvalid ⟨eligible, htunnel⟩ hover).pre fun s hs =>
        ⟨hs.1.1, hs.1.2.1, hs.1.2.2.1⟩
    · rename_i hover
      exact (h.full id valid eligible observed hvalid htunnel hover hlocal).pre fun s hs =>
        ⟨hs.1.1, hs.1.2.1, hs.1.2.2.1, hs.2⟩

theorem tunnel (h : PassRule gw e cfg objectHash P E R) {eligible : List String}
    (htunnel : gw.eligibleAddresses = .ok eligible) :
    Spec (fun s => P s ∧ s.finalizer = true) (tunnelPass gw e cfg objectHash eligible) R E := by
  refine Spec.bind (Q := fun r s => (P s ∧ s.finalizer = true) ∧
    classifyForwards gw e.backends e.backendFaults = .ok r) ?_ fun r => ?_
  · exact Spec.mapErr (Spec.lift (fun r hr s hs => ⟨hs, hr⟩) fun s hs => h.before s hs.1)
  obtain ⟨valid, invalid⟩ := r
  refine Spec.bind (Q := fun provisioned s => (P s ∧ s.finalizer = true ∧
    provisioned = s.composite.isSome) ∧
    classifyForwards gw e.backends e.backendFaults = .ok (valid, invalid)) ?_ fun provisioned => ?_
  · refine Spec.mapErr (zoom_rule fun s hs => ?_)
    refine serve_spec.weaken (fun _ ht => ht) (fun found t ht => ?_) fun t ht => ?_
    · obtain ⟨rfl, rfl⟩ := ht
      exact ⟨⟨hs.1.1, hs.1.2, rfl⟩, hs.2⟩
    · subst ht
      exact h.before s hs.1.1
  refine Spec.bind (Spec.mapErr (ensuredLinkID_spec (P := fun s => (P s ∧ s.finalizer = true ∧
    provisioned = s.composite.isSome) ∧ classifyForwards gw e.backends e.backendFaults =
      .ok (valid, invalid)) ?_ |>.orElse fun s hs => h.before s hs.1.1)) fun found => ?_
  · exact fun s id hs hpos => ⟨⟨h.linkID s id hs.1.1 hpos, hs.1.2⟩, hs.2⟩
  cases found with
  | none =>
    refine (serve_frame.orElse fun s hs => h.before s hs.1.1.1).bind fun _ => ?_
    exact Spec.pure fun s hs => h.exhausted s hs.1.1.1 hs.2.1 hs.2.2
  | some id =>
    intro s hs
    have hvalid := exposable_rejectReservedHealthPort hs.1.2 id
    exact h.provision hvalid htunnel hs.2.2 s ⟨hs.1.1.1, hs.1.1.2.1, hs.2.1, hs.1.1.2.2⟩

/-- **The rule for a pass.** -/
theorem spec (h : PassRule gw e cfg objectHash P E R) :
    Spec P (reconcileGatewayPass gw e cfg objectHash) R E := by
  refine (serve_spec.orElse h.before).bind fun finalizer => ?_
  cases finalizer with
  | false =>
    have hwrite : Spec (fun s => P s ∧ false = s.finalizer)
        (write e.addFinalizer "add finalizer" fun s => { s with finalizer := true })
        (fun _ => R .finalizerAdded) E :=
      (write_spec fun s hs => h.finalizer s hs.1 hs.2.symm).orElse
        fun s hs => hs.elim (fun hs => h.before s hs.1) (h.after _ s)
    exact hwrite.bind fun _ => Spec.pure fun _ h => h
  | true =>
    show Spec _ (match gw.eligibleAddresses with
      | .error _ => (do mirrorStatusWithForwards e.mirror none; pure .invalidTunnelAddresses)
      | .ok eligible => tunnelPass gw e cfg objectHash eligible) R E
    cases htunnel : gw.eligibleAddresses with
    | error err =>
      exact (h.mirror .invalidTunnelAddresses).pre fun s hs =>
        h.invalid s err hs.1 hs.2.symm htunnel
    | ok eligible =>
      exact (h.tunnel htunnel).pre fun s hs => ⟨hs.1, hs.2.symm⟩

end PassRule

end

end WireguardGateway.Controller

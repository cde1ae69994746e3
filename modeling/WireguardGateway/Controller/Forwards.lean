import WireguardGateway.Controller.Calls
import WireguardGateway.Controller.Gateway

/-!
# Which forwards are exposed

`classifyForwards` splits the forwards of the spec by what it finds in the cluster: the consent
label of a foreign namespace, the backend's Service, its type and the port it publishes.
`rejectReservedHealthPort` then drops a Local Gateway's TCP forward on its own health port.

Results:
* `classifyForward_valid`: what a valid forward has passed;
* **`classifyForwards_valid`**: the valid forwards are the forwards of the spec that pass, in order.
-/

namespace WireguardGateway.Controller

open Lib Gcp

/-! ## The cluster -/

inductive TargetPort where
  | number (port : Int32)
  | named (name : String)
  deriving DecidableEq, Repr

/-- A port of a Service; an empty protocol is TCP. -/
structure ServicePort where
  name : String
  protocol : String
  port : Int32
  targetPort : TargetPort
  deriving DecidableEq, Repr

structure Service where
  externalName : Bool
  clusterIP : String
  ports : List ServicePort
  deriving DecidableEq, Repr

/-- What `classifyForwards` reads: the value of the consent label of each namespace, and the
Services by namespace and name. -/
structure Backends where
  namespaces : String → Option (Option String)
  services : String → String → Option Service

/-- Whether a read of a namespace or of a Service fails. -/
structure BackendFaults where
  namespace_ : String → Fault
  service : String → String → Fault

/-! ## Classification -/

inductive InvalidReason where
  | crossNamespaceForwardDenied
  | targetNamespaceNotFound
  | unsupportedServiceType
  | serviceNotFound
  | targetPortNotListening
  | reservedHealthPort
  deriving DecidableEq, Repr

structure InvalidForward where
  reason : InvalidReason
  message : String
  deriving DecidableEq, Repr

/-- A valid forward with its backend port, `0` for a named one, and the name of the Service port. -/
structure ForwardBackend where
  forward : ForwardSpec
  backendPort : Int32
  servicePortName : String
  deriving DecidableEq, Repr

def crossNamespaceIngressLabel : String := "wgnet.dev/allow-gateway-ingress"

def crossNamespaceIngressValue : String := "true"

/-- `namespaceAllowsIngress` of the value of the consent label. -/
def namespaceAllowsIngress (label : Option String) : Bool :=
  label == some crossNamespaceIngressValue

/-- `servicePortFor`. -/
def servicePortFor (svc : Service) (port : Int32) (proto : String) : Option ServicePort :=
  svc.ports.find? fun p =>
    p.port == port && (if p.protocol = "" then "TCP" else p.protocol) == proto

/-- `backendPortOf`. -/
def backendPortOf (sp : ServicePort) : Int32 :=
  match sp.targetPort with
  | .number port => port
  | .named _ => 0

/-- `unsupportedServiceMessage`: none when the Service is supported. -/
def unsupportedServiceMessage (svc : Service) (name namespace_ : String) (local_ : Bool) :
    Option String :=
  if svc.externalName then
    some ("forward backend Service " ++ quote name ++ " in namespace " ++ quote namespace_ ++
      " has unsupported type \"ExternalName\": an ExternalName Service publishes no endpoints to" ++
      " forward to")
  else if !local_ ∧ (svc.clusterIP = "" ∨ svc.clusterIP = "None") then
    some ("forward backend Service " ++ quote name ++ " in namespace " ++ quote namespace_ ++
      " is headless: the Cluster traffic policy requires a ClusterIP to DNAT to, set" ++
      " spec.trafficPolicy to Local to forward to a headless Service")
  else none

section

variable (gw : GatewayObject) (cluster : Backends) (faults : BackendFaults)

/-- The consent of the namespace: none if it is the Gateway's own or consents, else why not. -/
def refusedNamespace (ns : String) : Except String (Option InvalidForward) :=
  if ns = gw.namespace_ then .ok none
  else
    match faults.namespace_ ns with
    | some cause => .error ("get target namespace " ++ quote ns ++ ": " ++ cause)
    | none =>
      match cluster.namespaces ns with
      | none => .ok (some ⟨.targetNamespaceNotFound,
          "forward target namespace " ++ quote ns ++ " does not exist"⟩)
      | some label =>
        if namespaceAllowsIngress label then .ok none
        else .ok (some ⟨.crossNamespaceForwardDenied, "cross-namespace forward to " ++ quote ns ++
          " denied: target namespace must carry label " ++ crossNamespaceIngressLabel ++ "=" ++
          crossNamespaceIngressValue⟩)

/-- The backend of the forward, or why it has none. -/
def backendOf (f : ForwardSpec) (ns : String) : Except String (InvalidForward ⊕ ForwardBackend) :=
  match faults.service ns f.service with
  | some cause => .error ("get forward Service " ++ ns ++ "/" ++ f.service ++ ": " ++ cause)
  | none =>
    match cluster.services ns f.service with
    | none => .ok (.inl ⟨.serviceNotFound, "forward backend Service " ++ quote f.service ++
        " in namespace " ++ quote ns ++ " not found yet"⟩)
    | some svc =>
      match unsupportedServiceMessage svc f.service ns gw.isLocal with
      | some message => .ok (.inl ⟨.unsupportedServiceType, message⟩)
      | none =>
        match servicePortFor svc (effectiveServicePort f) f.protocol with
        | none => .ok (.inl ⟨.targetPortNotListening, "forward backend Service " ++
            quote f.service ++ " in namespace " ++ quote ns ++ " does not publish " ++ f.protocol ++
            " port " ++ toString (effectiveServicePort f).toInt⟩)
        | some sp => .ok (.inr ⟨f, backendPortOf sp, sp.name⟩)

/-- One iteration of the loop of `classifyForwards`. -/
def classifyForward (f : ForwardSpec) : Except String (InvalidForward ⊕ ForwardBackend) := do
  let ns := gw.effectiveForwardNamespace f
  match ← refusedNamespace gw cluster faults ns with
  | some invalid => .ok (.inl invalid)
  | none => backendOf gw cluster faults f ns

/-- `classifyForwards`: the valid forwards and the invalid ones. -/
def classifyForwards : Except String (List ForwardBackend × List InvalidForward) := do
  let verdicts ← gw.forwards.mapM (classifyForward gw cluster faults)
  return (verdicts.filterMap Sum.getRight?, verdicts.filterMap Sum.getLeft?)

/-- The forward takes the health port of a Local Gateway. -/
def takesHealthPort (b : ForwardBackend) : Bool :=
  gw.isLocal && b.forward.tcp && b.forward.port.toInt64 == gw.effectiveHealthPort

/-- `rejectReservedHealthPort`. -/
def rejectReservedHealthPort (valid : List ForwardBackend) (invalid : List InvalidForward) :
    List ForwardBackend × List InvalidForward :=
  (valid.filter fun b => !takesHealthPort gw b,
    invalid ++ (valid.filter (takesHealthPort gw)).map fun _ =>
      ⟨.reservedHealthPort, "forward TCP port " ++ toString gw.effectiveHealthPort.toInt ++
        " collides with this gateway's own health port"⟩)

end

/-! ## What a valid forward has passed -/

/-- The forward passes every check in this state of the cluster. -/
structure Passes (gw : GatewayObject) (cluster : Backends) (b : ForwardBackend) : Prop where
  consented : gw.effectiveForwardNamespace b.forward ≠ gw.namespace_ →
    cluster.namespaces (gw.effectiveForwardNamespace b.forward) =
      some (some crossNamespaceIngressValue)
  published : ∃ svc sp, cluster.services (gw.effectiveForwardNamespace b.forward)
      b.forward.service = some svc ∧ svc.externalName = false ∧
    (gw.isLocal = false → svc.clusterIP ≠ "" ∧ svc.clusterIP ≠ "None") ∧
    servicePortFor svc (effectiveServicePort b.forward) b.forward.protocol = some sp ∧
    b.backendPort = backendPortOf sp ∧ b.servicePortName = sp.name

section

variable {gw : GatewayObject} {cluster : Backends} {faults : BackendFaults}

theorem refusedNamespace_none {ns : String} (h : refusedNamespace gw cluster faults ns = .ok none) :
    ns ≠ gw.namespace_ → cluster.namespaces ns = some (some crossNamespaceIngressValue) := by
  intro hne
  rw [refusedNamespace, if_neg hne] at h
  split at h
  · cases h
  · split at h
    · cases h
    · rename_i label hlabel
      split at h
      · rename_i hallowed
        rw [hlabel, beq_iff_eq.mp hallowed]
      · cases h

theorem unsupportedServiceMessage_none {svc : Service} {name ns : String} {local_ : Bool}
    (h : unsupportedServiceMessage svc name ns local_ = none) :
    svc.externalName = false ∧
      (local_ = false → svc.clusterIP ≠ "" ∧ svc.clusterIP ≠ "None") := by
  unfold unsupportedServiceMessage at h
  split at h
  · cases h
  · rename_i hname
    split at h
    · cases h
    · rename_i hip
      refine ⟨by simpa using hname, fun hlocal => ?_⟩
      subst hlocal
      simpa using hip

/-- A valid forward is the forward, and passes. -/
theorem classifyForward_valid {f : ForwardSpec} {b : ForwardBackend}
    (h : classifyForward gw cluster faults f = .ok (.inr b)) :
    b.forward = f ∧ Passes gw cluster b := by
  simp only [classifyForward] at h
  cases hns : refusedNamespace gw cluster faults (gw.effectiveForwardNamespace f) with
  | error e => rw [hns] at h; cases h
  | ok refused =>
    rw [hns] at h
    cases refused with
    | some invalid => cases h
    | none =>
      have hb : backendOf gw cluster faults f (gw.effectiveForwardNamespace f) = .ok (.inr b) := h
      unfold backendOf at hb
      split at hb
      · cases hb
      split at hb
      · cases hb
      rename_i svc hsvc
      split at hb
      · cases hb
      rename_i hsupported
      split at hb
      · cases hb
      rename_i sp hsp
      cases hb
      obtain ⟨hname, hip⟩ := unsupportedServiceMessage_none hsupported
      exact ⟨rfl, refusedNamespace_none hns, svc, sp, hsvc, hname, hip, hsp, rfl, rfl⟩

/-- The verdicts, one per forward. -/
theorem mapM_classifyForward : ∀ {fs : List ForwardSpec}
    {verdicts : List (InvalidForward ⊕ ForwardBackend)},
    fs.mapM (classifyForward gw cluster faults) = .ok verdicts →
      ((verdicts.filterMap Sum.getRight?).map (·.forward)).Sublist fs ∧
        ∀ b ∈ verdicts.filterMap Sum.getRight?, Passes gw cluster b
  | [], _, h => by
    cases h
    exact ⟨.slnil, fun _ hb => (nomatch hb)⟩
  | f :: fs, verdicts, h => by
    rw [List.mapM_cons] at h
    cases hf : classifyForward gw cluster faults f with
    | error e => rw [hf] at h; cases h
    | ok verdict =>
      cases hfs : fs.mapM (classifyForward gw cluster faults) with
      | error e => rw [hf, hfs] at h; cases h
      | ok rest =>
        rw [hf, hfs] at h
        cases h
        obtain ⟨hsub, hpass⟩ := mapM_classifyForward hfs
        cases verdict with
        | inl invalid => exact ⟨hsub.cons f, hpass⟩
        | inr b =>
          obtain ⟨rfl, hb⟩ := classifyForward_valid hf
          exact ⟨hsub.cons_cons _, List.forall_mem_cons.mpr ⟨hb, hpass⟩⟩

/-- **The valid forwards are the ones of the spec that pass**, in the order of the spec. -/
theorem classifyForwards_valid {valid : List ForwardBackend} {invalid : List InvalidForward}
    (h : classifyForwards gw cluster faults = .ok (valid, invalid)) :
    (valid.map (·.forward)).Sublist gw.forwards ∧ ∀ b ∈ valid, Passes gw cluster b := by
  unfold classifyForwards at h
  cases hverdicts : gw.forwards.mapM (classifyForward gw cluster faults) with
  | error e => rw [hverdicts] at h; cases h
  | ok verdicts =>
    rw [hverdicts] at h
    cases h
    exact mapM_classifyForward hverdicts

end

end WireguardGateway.Controller

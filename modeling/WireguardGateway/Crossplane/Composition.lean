import WireguardGateway.Controller.Composite

/-!
# `composition.gotmpl`: what the composition renders

The template of the `XGatewayGCP` composition. It reads the composite's spec and the composed
resources Crossplane observed, and renders the composed resources to keep; one that was rendered
before and is left out now is deleted.

* A composed resource is what the template reads of it. `dig` gives a missing field its default, so
  an absent field and an empty one are the same here; the defaults of the spec's optional fields are
  those the template gives `dig`.
* `Observed` lists the resources in the order of their names, as `range` visits them.
* The template's variables are definitions under their own names; its two `fail`s are the errors of
  `render`.

Result: `render_ok`, the two checks a successful render passed and what it rendered.
-/

namespace WireguardGateway.Crossplane

open Lib Controller

/-! ## Input -/

/-- The composite's spec. -/
structure XGatewayGCPSpec where
  region : String
  zone : String
  machineType : String
  sharedNetworkName : String
  secretId : String
  wgListenPort : Int
  wgMTU : Int
  serviceAccountId : String := ""
  loadBalanced : Bool := false
  zones : List String := []
  targetSize : Int := 0
  healthPort : Int := 0
  sessionAffinity : String := "NONE"
  members : List XGatewayMember := []
  templateRevision : String := ""
  addressType : String := "Reserved"
  externalName : String := ""
  externalIP : String := ""
  providerConfigName : String := "default"
  allowedPorts : List AllowedPort := []
  enableOsLogin : Bool := true
  image : String := ""
  diskSizeGB : Int := 20
  userData : String := ""
  wgLinkAddress : String := ""
  trafficPolicy : String := "cluster"
  projectID : String := ""
  spot : Bool := false
  deriving DecidableEq, Repr

/-- What an instance and an instance template have in common. A missing `natIp` is an empty access
config. -/
structure Machine where
  machineType : String
  metadataStartupScript : String
  image : Option String
  diskSizeGB : Int
  metadata : List (String × String)
  network : String
  natIp : Option String
  serviceAccountEmail : String
  spot : Bool
  deriving DecidableEq, Repr

/-- `spec.forProvider` of an instance template. -/
structure TemplateParameters where
  namePrefix : String
  machine : Machine
  deriving DecidableEq, Repr

/-- One entry of `status.conditions`. -/
structure Condition where
  type : String
  status : String
  message : String
  deriving DecidableEq, Repr

/-- What the template reads of an observed resource: `forProvider` of an instance template, the
`instanceTemplate` of each entry of `spec.forProvider.version` and of `status.atProvider.version`,
`isReached` of each version target of each entry of `status.atProvider.status`, and `natIp` of each
access config of each network interface. -/
structure ComposedResource where
  externalName : String := ""
  forProvider : Option TemplateParameters := none
  specVersions : List String := []
  address : String := ""
  email : String := ""
  serviceAccountEmail : String := ""
  networkInterface : List (List String) := []
  selfLink : String := ""
  ipAddress : String := ""
  name : String := ""
  instanceGroup : String := ""
  id : String := ""
  statusVersions : List String := []
  versionTargets : List (List Bool) := []
  conditions : List Condition := []
  deriving DecidableEq, Repr

/-- The observed composed resources. -/
abbrev Observed : Type := List (String × ComposedResource)

/-- `hasKey`. -/
def Observed.has (obs : Observed) (name : String) : Bool := obs.any fun r => r.1 == name

/-- `getComposedResource`: the resource, or nothing, of which every `dig` reads its default. -/
def Observed.get (obs : Observed) (name : String) : ComposedResource :=
  (obs.lookup name).getD {}

/-! ## Output -/

/-- The kinds of managed resources. -/
inductive Kind where
  | firewall
  | address
  | serviceAccount
  | instance_
  | instanceTemplate
  | regionInstanceGroupManager
  | regionHealthCheck
  | regionBackendService
  | forwardingRule
  | secret
  | secretVersion
  | secretIAMMember
  deriving DecidableEq, Repr

/-- The intervals and thresholds of a health check. -/
structure HealthCheckTimes where
  checkIntervalSec : Nat
  timeoutSec : Nat
  healthyThreshold : Nat
  unhealthyThreshold : Nat
  deriving DecidableEq, Repr

/-- The managed instance group. -/
structure GroupManager where
  name : String
  region : String
  baseInstanceName : String
  distributionPolicyZones : List String
  targetSize : Int
  instanceTemplate : String
  healthCheck : Option String
  maxUnavailableFixed : Nat
  deriving DecidableEq, Repr

/-- What is rendered of a resource beside its names: the fields that are not fixed texts. -/
inductive Manifest where
  | firewall (sourceRanges : List String) (network targetServiceAccount : String)
      (allow : List (String × List String))
  | address (observeOnly : Bool) (region : String)
  | serviceAccount
  | instance_ (zone : String) (machine : Machine)
  | instanceTemplate (forProvider : Option TemplateParameters)
  | regionInstanceGroupManager (group : GroupManager)
  | regionHealthCheck (region : String) (port : Int) (times : HealthCheckTimes)
  | regionBackendService (region sessionAffinity group : String)
  | forwardingRule (region : String) (ipAddress : Option String)
  | secret (member : String)
  | secretVersion (member kubernetesSecretName : String)
  | secretIAMMember (member email : String)
  deriving DecidableEq, Repr

@[simp] def Manifest.kind : Manifest → Kind
  | .firewall .. => .firewall
  | .address .. => .address
  | .serviceAccount => .serviceAccount
  | .instance_ .. => .instance_
  | .instanceTemplate .. => .instanceTemplate
  | .regionInstanceGroupManager .. => .regionInstanceGroupManager
  | .regionHealthCheck .. => .regionHealthCheck
  | .regionBackendService .. => .regionBackendService
  | .forwardingRule .. => .forwardingRule
  | .secret .. => .secret
  | .secretVersion .. => .secretVersion
  | .secretIAMMember .. => .secretIAMMember

/-- A rendered resource: `name` is its `composition-resource-name`. -/
structure Resource where
  name : String
  externalName : Option String
  manifest : Manifest
  providerConfig : String
  deriving DecidableEq, Repr

/-- The status of the composite. -/
structure XGatewayGCPStatus where
  address : String
  migName : String
  instanceName : String
  serviceAccountEmail : String
  message : String
  deriving DecidableEq, Repr

/-- What a run of the function desires. -/
structure Rendered where
  resources : List Resource
  status : XGatewayGCPStatus
  deriving DecidableEq, Repr

/-- A resource of this name and kind is rendered. -/
def Rendered.Has (out : Rendered) (name : String) (kind : Kind) : Prop :=
  ∃ r ∈ out.resources, r.name = name ∧ r.manifest.kind = kind

instance (out : Rendered) (name : String) (kind : Kind) : Decidable (out.Has name kind) :=
  List.decidableBEx _ out.resources

/-! ## The variables of the template -/

section

variable (compositeName : String) (spec : XGatewayGCPSpec) (obs : Observed)

/-- A template is named by its revision, so that a new one does not replace it. -/
def templateResourceName : String := "template-" ++ spec.templateRevision

/-- Its name in the cloud. -/
def templateExternalName : String := compositeName ++ "-" ++ spec.templateRevision

/-- A comment that changes with the revision. -/
def metadataStartupScript : String :=
  "# gateway-bootstrap-revision: " ++ spec.templateRevision

/-- The ranges of the health checkers. -/
def probeFirewallCIDRs : List String :=
  ["35.191.0.0/16", "209.85.204.0/22", "130.211.0.0/22", "209.85.152.0/22"]

/-- An address the composite owns. -/
def isReserved : Bool := spec.addressType == "Reserved"

/-- An address the cloud picks. -/
def isEphemeral : Bool := spec.addressType == "Ephemeral"

/-- An address that exists, by name. -/
def isExternalName : Bool := spec.addressType == "External" && spec.externalName != ""

/-- The same, by value. -/
def isExternalIP : Bool := spec.addressType == "External" && spec.externalIP != ""

/-- The resource whose address is bound, if there is one. -/
def addressResourceName : String :=
  if isExternalName spec then "address-observed" else if isReserved spec then "address" else ""

/-- The address has to be observed first. -/
def targetFromAddress : Bool := addressResourceName spec != ""

/-- That address, empty until it is observed. -/
def observedAddressIP : String :=
  if targetFromAddress spec then (obs.get (addressResourceName spec)).address else ""

/-- The service account, empty until it exists. -/
def saEmail : String := (obs.get "service-account").email

/-- An observed VM keeps its own service account. -/
def instanceSAEmail : String :=
  if saEmail obs = "" then (obs.get "instance").serviceAccountEmail else saEmail obs

/-- The address the instance has. -/
def observedNatIP : String := (((obs.get "instance").networkInterface.headD []).headD "")

/-- The address to bind is known. -/
def targetIPKnown : Bool := !targetFromAddress spec || observedAddressIP spec obs != ""

/-- The address to bind, empty for one the cloud picks. -/
def targetIP : String :=
  if isExternalIP spec then spec.externalIP
  else if targetFromAddress spec then observedAddressIP spec obs
  else ""

/-- The forwarded ports of a protocol. -/
def portsOf (protocol : String) : List String :=
  (spec.allowedPorts.filter (·.protocol == protocol)).map fun p => toString p.port

/-- What the firewall lets in over TCP. -/
def tcpPorts : List String := portsOf spec "tcp"

/-- And over UDP: WireGuard first. -/
def udpPorts : List String := toString spec.wgListenPort :: portsOf spec "udp"

/-- The address a resource binds, given the one that was observed of it. -/
def bindIP (observedIP : String) : String :=
  if !isEphemeral spec && targetIPKnown spec obs then targetIP spec obs else observedIP

/-- The address of a single instance. -/
def boundIP : String := bindIP spec obs (observedNatIP obs)

/-- An observed instance always re-renders. -/
def instanceReady : Bool := obs.has "instance" || saEmail obs != "" && targetIPKnown spec obs

/-- The template of this revision exists. -/
def templateObserved : Bool := obs.has (templateResourceName spec)

/-- Its link, empty until it does. -/
def currentTemplateSelfLink : String := (obs.get (templateResourceName spec)).selfLink

/-- The template the MIG is rendered with, or the second `fail`. -/
def migTemplateSelfLink : Except String String :=
  if currentTemplateSelfLink spec obs = "" ∧ obs.has "mig" then
    match (obs.get "mig").specVersions with
    | [] => .error "observed MIG has no version entry"
    | version :: _ => .ok version
  else .ok (currentTemplateSelfLink spec obs)

/-- The load-balanced branch is rendered, and stays. -/
def loadBalancedReady : Bool :=
  saEmail obs != "" || templateObserved spec obs || obs.has "mig"

/-- The address of the load balancer. -/
def forwardingRuleBoundIP : String := bindIP spec obs (obs.get "forwarding-rule").ipAddress

/-- The template the MIG runs. -/
def migObservedTemplateSelfLink : String :=
  if obs.has "mig" then (obs.get "mig").statusVersions.headD "" else ""

/-- Whether each version has reached its target. -/
def migVersionTargets : List Bool := (obs.get "mig").versionTargets.flatten

/-- All have, and there is one. -/
def migRolloutReached : Bool := !(migVersionTargets obs).isEmpty && (migVersionTargets obs).all id

/-- The MIG runs the current template, everywhere. -/
def migRolloutComplete : Bool :=
  obs.has "mig" && currentTemplateSelfLink spec obs != "" &&
    migObservedTemplateSelfLink obs == currentTemplateSelfLink spec obs && migRolloutReached obs

/-- `hasPrefix "template-"`. -/
def isTemplateName (name : String) : Bool := "template-".toList.isPrefixOf name.toList

/-- Older templates remain until the observed MIG targets the current template and reaches it. -/
def oldTemplateNames : List String :=
  (obs.map Prod.fst).filter fun name =>
    isTemplateName name && name != templateResourceName spec && !migRolloutComplete spec obs

/-- The first failing condition of a resource. -/
def failure (conditions : List Condition) : Option Condition :=
  conditions.find? fun c =>
    (c.type == "Synced" || c.type == "Ready") && c.status == "False" && c.message != ""

/-- The message of the first resource that fails. -/
def message : String :=
  (obs.findSome? fun (name, res) =>
    (failure res.conditions).map fun c => name ++ ": " ++ c.message).getD ""

/-! ## The resources -/

/-- An entry of a map that is left out when the value is empty. -/
def entry (key value : String) : List (String × String) :=
  if value = "" then [] else [(key, value)]

/-- What the VM reads of its metadata server. -/
def machineMetadata : List (String × String) :=
  entry "user-data" spec.userData ++
  [("secret-id", spec.secretId), ("wg-listen-port", toString spec.wgListenPort),
    ("wg-mtu", toString spec.wgMTU)] ++
  entry "wg-link-address" spec.wgLinkAddress ++
  [("traffic-policy", spec.trafficPolicy)] ++
  entry "project-id" spec.projectID ++
  [("disable-legacy-endpoints", "true"), ("block-project-ssh-keys", "true"),
    ("enable-oslogin", if spec.enableOsLogin then "TRUE" else "FALSE")]

/-- What an instance and a template have in common. -/
def machine (natIp : Option String) : Machine where
  machineType := spec.machineType
  metadataStartupScript := metadataStartupScript spec
  image := if spec.image = "" then none else some spec.image
  diskSizeGB := spec.diskSizeGB
  metadata := machineMetadata spec
  network := spec.sharedNetworkName
  natIp
  serviceAccountEmail := instanceSAEmail obs
  spot := spec.spot

/-- A resource with the provider config of the spec. -/
@[simp] def resource (name : String) (manifest : Manifest) (externalName : Option String := none) :
    Resource :=
  { name, externalName, manifest, providerConfig := spec.providerConfigName }

/-- Ingress to the VMs of the service account. -/
@[simp] def firewallResource : Resource :=
  resource spec "firewall" (.firewall ["0.0.0.0/0"] spec.sharedNetworkName (instanceSAEmail obs)
    ((if (tcpPorts spec).isEmpty then [] else [("tcp", tcpPorts spec)]) ++
      [("udp", udpPorts spec)]))

/-- SSH through the identity-aware proxy. -/
@[simp] def firewallIapResource : Resource :=
  resource spec "firewall-iap" (.firewall ["35.235.240.0/20"] spec.sharedNetworkName
    (instanceSAEmail obs) [("tcp", ["22"])])

/-- The health checks. -/
@[simp] def firewallProbeResource : Resource :=
  resource spec "firewall-probe" (.firewall probeFirewallCIDRs spec.sharedNetworkName
    (instanceSAEmail obs) [("tcp", [toString spec.healthPort])])
    (some (compositeName ++ "-firewall-probe"))

/-- The address: created, or observed only. -/
def addressResources : List Resource :=
  (if isReserved spec then [resource spec "address" (.address false spec.region)] else []) ++
  (if isExternalName spec then
    [resource spec "address-observed" (.address true spec.region) (some spec.externalName)]
  else [])

/-- The account the VMs run as. -/
@[simp] def serviceAccountResource : Resource :=
  resource spec "service-account" .serviceAccount (some spec.serviceAccountId)

/-- The VM, bound to its address if that is known. -/
@[simp] def instanceResource : Resource :=
  resource spec "instance" (.instance_ spec.zone (machine spec obs
    (if isEphemeral spec || boundIP spec obs == "" then none else some (boundIP spec obs))))

/-- The template of this revision; it has no address. -/
@[simp] def currentTemplateResource : Resource :=
  resource spec (templateResourceName spec)
    (.instanceTemplate (some ⟨templateExternalName compositeName spec, machine spec obs none⟩))
    (some (templateExternalName compositeName spec))

/-- An older template is rendered with what was observed of it. -/
@[simp] def oldTemplateResource (name : String) : Resource :=
  resource spec name (.instanceTemplate (obs.get name).forProvider)
    (some (obs.get name).externalName)

/-- The managed instance group. -/
@[simp] def migResource (migTemplateSelfLink : String) : Resource :=
  resource spec "mig" (.regionInstanceGroupManager
    { name := compositeName ++ "-mig"
      region := spec.region
      baseInstanceName := compositeName
      distributionPolicyZones := spec.zones
      targetSize := spec.targetSize
      instanceTemplate := migTemplateSelfLink
      healthCheck :=
        if (obs.get "health-check-mig").selfLink = "" then none
        else some (obs.get "health-check-mig").selfLink
      maxUnavailableFixed := spec.zones.length })

/-- A health check of the group or of the load balancer. -/
@[simp] def healthCheckResource (name : String) (times : HealthCheckTimes) : Resource :=
  resource spec name (.regionHealthCheck spec.region spec.healthPort times)
    (some (compositeName ++ "-" ++ name))

/-- The load balancer's backend: the group. -/
@[simp] def backendServiceResource : Resource :=
  resource spec "backend-service" (.regionBackendService spec.region spec.sessionAffinity
    (obs.get "mig").instanceGroup) (some (compositeName ++ "-backend-service"))

/-- The load balancer's address. -/
@[simp] def forwardingRuleResource : Resource :=
  resource spec "forwarding-rule" (.forwardingRule spec.region
    (if !isEphemeral spec && forwardingRuleBoundIP spec obs != "" then
      some (forwardingRuleBoundIP spec obs)
    else none)) (some (compositeName ++ "-forwarding-rule"))

/-- The resources of the load-balanced branch. -/
def loadBalancedResources (migTemplateSelfLink : String) : List Resource :=
  currentTemplateResource compositeName spec obs ::
  (oldTemplateNames spec obs).map (oldTemplateResource spec obs) ++
  (if migTemplateSelfLink = "" then []
    else [migResource compositeName spec obs migTemplateSelfLink]) ++
  [healthCheckResource compositeName spec "health-check-lb" ⟨5, 5, 2, 2⟩,
    healthCheckResource compositeName spec "health-check-mig" ⟨30, 10, 2, 10⟩] ++
  (if obs.has "backend-service" || (obs.get "mig").instanceGroup != "" then
    [backendServiceResource compositeName spec obs]
  else []) ++
  (if obs.has "forwarding-rule" || forwardingRuleBoundIP spec obs != "" then
    [forwardingRuleResource compositeName spec obs]
  else []) ++
  (if instanceSAEmail obs = "" then [] else [firewallProbeResource compositeName spec obs])

/-- The secret of a member, and access to it. -/
@[simp] def memberResources (m : XGatewayMember) : List Resource :=
  [resource spec m.cloudSecretName (.secret m.name) (some m.cloudSecretName),
    resource spec m.cloudSecretVersionName (.secretVersion m.name m.kubernetesSecretName)] ++
  (if instanceSAEmail obs = "" then []
    else [resource spec m.cloudSecretIamMemberName (.secretIAMMember m.name (instanceSAEmail obs))])

/-- The status the controller reads. -/
def renderedStatus : XGatewayGCPStatus where
  address := if spec.loadBalanced then forwardingRuleBoundIP spec obs else boundIP spec obs
  migName := if spec.loadBalanced then (obs.get "mig").name else ""
  instanceName :=
    if !spec.loadBalanced && obs.has "instance" && (obs.get "instance").id != "" then
      (obs.get "instance").externalName
    else ""
  serviceAccountEmail := saEmail obs
  message := message obs

/-- The documents of the template, in its order. -/
def renderedResources (migTemplateSelfLink : String) : List Resource :=
  (if instanceSAEmail obs = "" then [] else [firewallResource spec obs]) ++
  (if instanceSAEmail obs = "" ∨ !spec.enableOsLogin then [] else [firewallIapResource spec obs]) ++
  addressResources spec ++
  [serviceAccountResource spec] ++
  (if !spec.loadBalanced && instanceReady spec obs then [instanceResource spec obs] else []) ++
  (if spec.loadBalanced && loadBalancedReady spec obs then
    loadBalancedResources compositeName spec obs migTemplateSelfLink
  else []) ++
  spec.members.flatMap (memberResources spec obs)

/-- The template. -/
def render : Except String Rendered := do
  if obs.has "instance" ∧ instanceSAEmail obs = "" then
    throw "instance observed without a service-account email"
  let migTemplateSelfLink ← migTemplateSelfLink spec obs
  return { resources := renderedResources compositeName spec obs migTemplateSelfLink
           status := renderedStatus spec obs }

end

/-- What a successful render has checked, and what it rendered. -/
theorem render_ok {compositeName : String} {spec : XGatewayGCPSpec} {obs : Observed}
    {out : Rendered} (h : render compositeName spec obs = .ok out) :
    (obs.has "instance" → instanceSAEmail obs ≠ "") ∧
      ∃ link, migTemplateSelfLink spec obs = .ok link ∧
        out.resources = renderedResources compositeName spec obs link := by
  unfold render at h
  split at h
  · cases h
  · rename_i hinstance
    obtain ⟨link, hlink, hout⟩ : ∃ link, migTemplateSelfLink spec obs = .ok link ∧
        out = ⟨renderedResources compositeName spec obs link, renderedStatus spec obs⟩ := by
      cases hlink : migTemplateSelfLink spec obs with
      | error e => rw [hlink] at h; cases h
      | ok link => rw [hlink] at h; cases h; exact ⟨link, rfl, rfl⟩
    exact ⟨fun hobs hempty => hinstance ⟨hobs, hempty⟩, link, hlink, by rw [hout]⟩

end WireguardGateway.Crossplane

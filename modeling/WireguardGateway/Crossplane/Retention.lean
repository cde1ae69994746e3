import WireguardGateway.Crossplane.Composition

/-!
# What the composition keeps

A composed resource that is observed and not rendered is deleted. The template guards the VM itself:
an observed instance is rendered with its own service account, or the render fails. The other
resources that name the service account have no such guard: they are left out while its email is not
observed, and a template is rendered with an empty one.

`Role` names the resources the spec calls for. `Retained` is the condition on the observed state
under which the render keeps all of them.

Results:
* `has_iff`: which of them are rendered;
* **`render_retains_iff`**: a successful render keeps what is observed, with a service account,
  exactly if `Retained` holds;
* **`templates_outlive_rollout`**: the template of the rendered MIG is rendered, and an older one is
  left out only after the rollout.
-/

namespace WireguardGateway.Crossplane

open Lib Controller

/-! ## What the spec calls for -/

/-- The resources a spec can call for. -/
inductive Role where
  | serviceAccount
  | firewall
  | firewallIap
  | firewallProbe
  | address
  | addressObserved
  | instance_
  | template
  | mig
  | backendService
  | forwardingRule
  | secret (m : XGatewayMember)
  | secretVersion (m : XGatewayMember)
  | secretIAMMember (m : XGatewayMember)
  deriving DecidableEq, Repr

@[simp] def Role.name (spec : XGatewayGCPSpec) : Role → String
  | .serviceAccount => "service-account"
  | .firewall => "firewall"
  | .firewallIap => "firewall-iap"
  | .firewallProbe => "firewall-probe"
  | .address => "address"
  | .addressObserved => "address-observed"
  | .instance_ => "instance"
  | .template => templateResourceName spec
  | .mig => "mig"
  | .backendService => "backend-service"
  | .forwardingRule => "forwarding-rule"
  | .secret m => m.cloudSecretName
  | .secretVersion m => m.cloudSecretVersionName
  | .secretIAMMember m => m.cloudSecretIamMemberName

@[simp] def Role.kind : Role → Kind
  | .serviceAccount => .serviceAccount
  | .firewall | .firewallIap | .firewallProbe => .firewall
  | .address | .addressObserved => .address
  | .instance_ => .instance_
  | .template => .instanceTemplate
  | .mig => .regionInstanceGroupManager
  | .backendService => .regionBackendService
  | .forwardingRule => .forwardingRule
  | .secret _ => .secret
  | .secretVersion _ => .secretVersion
  | .secretIAMMember _ => .secretIAMMember

/-- The spec calls for the resource. -/
@[simp] def Role.CalledFor (spec : XGatewayGCPSpec) : Role → Prop
  | .serviceAccount | .firewall => True
  | .firewallIap => spec.enableOsLogin
  | .address => isReserved spec
  | .addressObserved => isExternalName spec
  | .instance_ => !spec.loadBalanced
  | .firewallProbe | .template | .mig | .backendService | .forwardingRule => spec.loadBalanced
  | .secret m | .secretVersion m | .secretIAMMember m => m ∈ spec.members

/-! ## The condition -/

/-- The service account's email is observed, of the account itself or of the instance that runs
under it. -/
def EmailKnown (obs : Observed) : Prop :=
  (obs.get "service-account").email ≠ "" ∨ (obs.get "instance").serviceAccountEmail ≠ ""

/-- The account's email, the current template or the MIG is observed. -/
def Anchored (spec : XGatewayGCPSpec) (obs : Observed) : Prop :=
  (obs.get "service-account").email ≠ "" ∨ obs.has (templateResourceName spec) ∨ obs.has "mig"

/-- The observed MIG targets the current template, and every version target it reports, of which
there is one, is reached. -/
def RolledOut (spec : XGatewayGCPSpec) (obs : Observed) : Prop :=
  obs.has "mig" ∧ (obs.get (templateResourceName spec)).selfLink ≠ "" ∧
    (obs.get "mig").statusVersions.headD "" = (obs.get (templateResourceName spec)).selfLink ∧
    (obs.get "mig").versionTargets.flatten ≠ [] ∧
    ∀ reached ∈ (obs.get "mig").versionTargets.flatten, reached = true

/-- The service account of an instance template, none being an empty one. -/
def templateEmail (forProvider : Option TemplateParameters) : String :=
  (forProvider.map fun p => p.machine.serviceAccountEmail).getD ""

/-- The service account of a machine. -/
@[simp] def Manifest.machineEmail : Manifest → Option String
  | .instance_ _ machine => some machine.serviceAccountEmail
  | .instanceTemplate forProvider => some (templateEmail forProvider)
  | _ => none

/-- What is observed and still called for is rendered again. -/
def KeepsObserved (spec : XGatewayGCPSpec) (obs : Observed) (out : Rendered) : Prop :=
  ∀ role : Role, role.CalledFor spec → obs.has (role.name spec) →
    out.Has (role.name spec) role.kind

/-- No observed instance or instance template is rendered without a service account. -/
def KeepsAccounts (obs : Observed) (out : Rendered) : Prop :=
  ∀ r ∈ out.resources, obs.has r.name → r.manifest.machineEmail ≠ some ""

instance (obs : Observed) (out : Rendered) : Decidable (KeepsAccounts obs out) :=
  List.decidableBAll _ out.resources

/-- The observed state lets the template keep everything. -/
structure Retained (spec : XGatewayGCPSpec) (obs : Observed) : Prop where
  firewalls : obs.has "firewall" ∨ spec.enableOsLogin ∧ obs.has "firewall-iap" → EmailKnown obs
  iamMembers : ∀ m ∈ spec.members, obs.has m.cloudSecretIamMemberName → EmailKnown obs
  template : spec.loadBalanced → obs.has (templateResourceName spec) → EmailKnown obs
  probe : spec.loadBalanced → obs.has "firewall-probe" → EmailKnown obs ∧ Anchored spec obs
  balancer : spec.loadBalanced → obs.has "backend-service" ∨ obs.has "forwarding-rule" →
    Anchored spec obs
  mig : spec.loadBalanced → obs.has "mig" → (obs.get (templateResourceName spec)).selfLink ≠ "" ∨
    (obs.get "mig").specVersions.headD "" ≠ ""
  oldTemplates : spec.loadBalanced → Anchored spec obs → ¬RolledOut spec obs →
    ∀ name, isTemplateName name → name ≠ templateResourceName spec → obs.has name →
      templateEmail (obs.get name).forProvider ≠ ""

/-! ## What is rendered -/

section

variable {compositeName : String} {spec : XGatewayGCPSpec} {obs : Observed} {link : String}

theorem instanceSAEmail_ne : instanceSAEmail obs ≠ "" ↔ EmailKnown obs := by
  unfold instanceSAEmail EmailKnown saEmail
  split
  · rename_i h
    simp [h]
  · rename_i h
    simp [h]

theorem loadBalancedReady_iff : loadBalancedReady spec obs = true ↔ Anchored spec obs := by
  simp [loadBalancedReady, Anchored, saEmail, templateObserved, or_assoc]

theorem migRolloutComplete_iff : migRolloutComplete spec obs = true ↔ RolledOut spec obs := by
  simp only [migRolloutComplete, RolledOut, migRolloutReached, migVersionTargets,
    migObservedTemplateSelfLink, currentTemplateSelfLink, Bool.and_eq_true, bne_iff_ne, beq_iff_eq,
    Bool.not_eq_true', List.isEmpty_eq_false_iff, List.all_eq_true, id_eq, and_assoc]
  constructor
  · rintro ⟨hmig, hself, htarget, hne, hall⟩
    exact ⟨hmig, hself, by rwa [if_pos hmig] at htarget, hne, hall⟩
  · rintro ⟨hmig, hself, htarget, hne, hall⟩
    exact ⟨hmig, hself, by rwa [if_pos hmig], hne, hall⟩

theorem mem_oldTemplateNames {name : String} : name ∈ oldTemplateNames spec obs ↔
    obs.has name ∧ isTemplateName name ∧ name ≠ templateResourceName spec ∧
      ¬RolledOut spec obs := by
  rw [← migRolloutComplete_iff]
  simp [oldTemplateNames, Observed.has, and_assoc]

/-- Some resource of the list has this name and kind. -/
def Renders (l : List Resource) (name : String) (kind : Kind) : Prop :=
  ∃ r ∈ l, r.name = name ∧ r.manifest.kind = kind

section

variable {l l' : List Resource} {name : String} {kind : Kind}

@[simp] theorem renders_nil : ¬Renders [] name kind := by simp [Renders]

@[simp] theorem renders_cons {r : Resource} :
    Renders (r :: l) name kind ↔
      (r.name = name ∧ r.manifest.kind = kind) ∨ Renders l name kind := by
  simp [Renders]

@[simp] theorem renders_append :
    Renders (l ++ l') name kind ↔ Renders l name kind ∨ Renders l' name kind := by
  simp [Renders, or_and_right, exists_or]

@[simp] theorem renders_ite {c : Prop} [Decidable c] :
    Renders (if c then l else l') name kind ↔
      c ∧ Renders l name kind ∨ ¬c ∧ Renders l' name kind := by
  by_cases hc : c <;> simp [hc]

theorem renders_flatMap {α : Type} {xs : List α} {f : α → List Resource} :
    Renders (xs.flatMap f) name kind ↔ ∃ x ∈ xs, Renders (f x) name kind := by
  simp only [Renders, List.mem_flatMap]
  constructor
  · rintro ⟨r, ⟨x, hx, hr⟩, h⟩
    exact ⟨x, hx, r, hr, h⟩
  · rintro ⟨x, hx, r, hr, h⟩
    exact ⟨r, ⟨x, hx, hr⟩, h⟩

end

/-- What lets a resource the spec calls for be rendered. -/
@[simp] def Role.Gate (spec : XGatewayGCPSpec) (obs : Observed) (link : String) : Role → Prop
  | .serviceAccount | .address | .addressObserved | .secret _ | .secretVersion _ => True
  | .firewall | .firewallIap | .secretIAMMember _ => EmailKnown obs
  | .firewallProbe => Anchored spec obs ∧ EmailKnown obs
  | .instance_ => instanceReady spec obs
  | .template => Anchored spec obs
  | .mig => Anchored spec obs ∧ link ≠ ""
  | .backendService => Anchored spec obs ∧
      (obs.has "backend-service" ∨ (obs.get "mig").instanceGroup ≠ "")
  | .forwardingRule => Anchored spec obs ∧
      (obs.has "forwarding-rule" ∨ forwardingRuleBoundIP spec obs ≠ "")

/-- **What is rendered of what the spec calls for.** -/
theorem has_iff (role : Role) (hcalled : role.CalledFor spec) :
    Renders (renderedResources compositeName spec obs link) (role.name spec) role.kind ↔
      role.Gate spec obs link := by
  unfold renderedResources loadBalancedResources addressResources
  rw [List.map_eq_flatMap]
  cases role with
  | serviceAccount => simp
  | firewall => simpa [renders_flatMap] using instanceSAEmail_ne
  | firewallIap =>
    have : spec.enableOsLogin = true := hcalled
    simpa [renders_flatMap, this] using instanceSAEmail_ne
  | firewallProbe =>
    have : spec.loadBalanced = true := hcalled
    simp [renders_flatMap, this, loadBalancedReady_iff, ← instanceSAEmail_ne]
  | address =>
    have : isReserved spec = true := hcalled
    simp [this]
  | addressObserved =>
    have : isExternalName spec = true := hcalled
    simp [this]
  | instance_ =>
    have : spec.loadBalanced = false := by simpa using hcalled
    simp [renders_flatMap, this]
  | template | backendService | forwardingRule =>
    have : spec.loadBalanced = true := hcalled
    simp [renders_flatMap, this, loadBalancedReady_iff]
  | mig =>
    have : spec.loadBalanced = true := hcalled
    simp [renders_flatMap, this, loadBalancedReady_iff, and_comm]
  | secret m | secretVersion m =>
    simp only [Role.Gate, iff_true, renders_append, renders_flatMap]
    exact .inr ⟨m, hcalled, by simp⟩
  | secretIAMMember m =>
    rw [Role.Gate, ← instanceSAEmail_ne]
    constructor
    · intro h
      obtain ⟨m', -, hm'⟩ : ∃ m' ∈ spec.members, instanceSAEmail obs ≠ "" ∧
          m'.cloudSecretIamMemberName = m.cloudSecretIamMemberName := by
        simpa [renders_flatMap] using h
      exact hm'.1
    · intro h
      simp only [renders_append, renders_flatMap]
      exact .inr ⟨m, hcalled, by simp [h]⟩

/-- The MIG is rendered with a template if its own spec names one, or the current one is there. -/
theorem migTemplateSelfLink_ne (h : migTemplateSelfLink spec obs = .ok link)
    (hmig : obs.has "mig") : link ≠ "" ↔
      (obs.get (templateResourceName spec)).selfLink ≠ "" ∨
        (obs.get "mig").specVersions.headD "" ≠ "" := by
  unfold migTemplateSelfLink currentTemplateSelfLink at h
  split at h
  · rename_i hc
    split at h
    · cases h
    · rename_i version _ hversions
      cases h
      simp [hc.1, hversions]
  · rename_i hc
    cases h
    have hne : (obs.get (templateResourceName spec)).selfLink ≠ "" := fun h => hc ⟨h, hmig⟩
    simp [hne]

theorem forall_mem_ite {α : Type} {c : Prop} [Decidable c] {l l' : List α} {p : α → Prop} :
    (∀ r ∈ if c then l else l', p r) ↔ (c → ∀ r ∈ l, p r) ∧ (¬c → ∀ r ∈ l', p r) := by
  by_cases hc : c <;> simp [hc]

/-- The machines that are rendered are the instance, the current template and the older ones. -/
theorem forall_machine_iff :
    (∀ r ∈ renderedResources compositeName spec obs link, obs.has r.name →
      r.manifest.machineEmail ≠ some "") ↔
      (spec.loadBalanced = false → instanceReady spec obs → obs.has "instance" →
        EmailKnown obs) ∧
      (spec.loadBalanced → Anchored spec obs →
        (obs.has (templateResourceName spec) → EmailKnown obs) ∧
        ∀ name ∈ oldTemplateNames spec obs, obs.has name →
          templateEmail (obs.get name).forProvider ≠ "") := by
  have hmachine : ∀ natIp, (machine spec obs natIp).serviceAccountEmail = instanceSAEmail obs :=
    fun _ => rfl
  have hcurrent : ∀ p : TemplateParameters,
      templateEmail (some p) = p.machine.serviceAccountEmail := fun _ => rfl
  unfold renderedResources loadBalancedResources addressResources
  simp only [List.forall_mem_append, List.forall_mem_cons, List.forall_mem_map, forall_mem_ite,
    List.forall_mem_flatMap, memberResources]
  simp [hmachine, hcurrent, ← instanceSAEmail_ne, ← loadBalancedReady_iff]

/-- The same in terms of what is observed. -/
theorem machine_accounts_iff :
    (∀ r ∈ renderedResources compositeName spec obs link, obs.has r.name →
      r.manifest.machineEmail ≠ some "") ↔
      (spec.loadBalanced = false → obs.has "instance" → EmailKnown obs) ∧
      (spec.loadBalanced → obs.has (templateResourceName spec) → EmailKnown obs) ∧
      (spec.loadBalanced → Anchored spec obs → ¬RolledOut spec obs →
        ∀ name, isTemplateName name → name ≠ templateResourceName spec → obs.has name →
          templateEmail (obs.get name).forProvider ≠ "") := by
  rw [forall_machine_iff]
  constructor
  · rintro ⟨hinstance, hbalanced⟩
    refine ⟨fun hlb hobs => hinstance hlb (by simp [instanceReady, hobs]) hobs,
      fun hlb hobs => (hbalanced hlb (.inr (.inl hobs))).1 hobs,
      fun hlb hanchored hout name htemplate hold hobs => ?_⟩
    have hname := mem_oldTemplateNames.mpr ⟨hobs, htemplate, hold, hout⟩
    exact (hbalanced hlb hanchored).2 name hname hobs
  · rintro ⟨hinstance, hcurrent, hold⟩
    refine ⟨fun hlb _ hobs => hinstance hlb hobs,
      fun hlb hanchored => ⟨fun hobs => hcurrent hlb hobs, fun name hname hobs => ?_⟩⟩
    obtain ⟨-, htemplate, hne, hout⟩ := mem_oldTemplateNames.mp hname
    exact hold hlb hanchored hout name htemplate hne hobs

end

/-! ## Main results -/

section

variable {compositeName : String} {spec : XGatewayGCPSpec} {obs : Observed} {out : Rendered}

/-- **A successful render keeps what is observed exactly if the service account's email is.** -/
theorem render_retains_iff (h : render compositeName spec obs = .ok out) :
    KeepsObserved spec obs out ∧ KeepsAccounts obs out ↔ Retained spec obs := by
  obtain ⟨hinstance, link, hlink, hout⟩ := render_ok h
  have hhas : ∀ role : Role, role.CalledFor spec →
      (out.Has (role.name spec) role.kind ↔ role.Gate spec obs link) := fun role hcalled => by
    rw [Rendered.Has, hout]
    exact has_iff role hcalled
  rw [KeepsAccounts, hout, machine_accounts_iff]
  constructor
  · rintro ⟨hkeeps, -, htemplate, hold⟩
    have hgate : ∀ role : Role, role.CalledFor spec → obs.has (role.name spec) →
        role.Gate spec obs link := fun role hcalled hobs =>
      (hhas role hcalled).mp (hkeeps role hcalled hobs)
    exact
      { firewalls := fun hobs => hobs.elim (hgate .firewall trivial)
          fun ⟨hlogin, hiap⟩ => hgate .firewallIap hlogin hiap
        iamMembers := fun m hm => hgate (.secretIAMMember m) hm
        template := htemplate
        probe := fun hlb hobs => (hgate .firewallProbe hlb hobs).symm
        balancer := fun hlb hobs => hobs.elim (fun hobs => (hgate .backendService hlb hobs).1)
          fun hobs => (hgate .forwardingRule hlb hobs).1
        mig := fun hlb hobs => (migTemplateSelfLink_ne hlink hobs).mp (hgate .mig hlb hobs).2
        oldTemplates := hold }
  · intro hretained
    refine ⟨fun role hcalled hobs => (hhas role hcalled).mpr ?_,
      fun _ hobs => instanceSAEmail_ne.mp (hinstance hobs), hretained.template,
      hretained.oldTemplates⟩
    cases role with
    | serviceAccount | address | addressObserved | secret | secretVersion => trivial
    | firewall => exact hretained.firewalls (.inl hobs)
    | firewallIap => exact hretained.firewalls (.inr ⟨hcalled, hobs⟩)
    | firewallProbe => exact (hretained.probe hcalled hobs).symm
    | instance_ => simpa [instanceReady] using .inl hobs
    | template => exact .inr (.inl hobs)
    | mig =>
      have hne := (migTemplateSelfLink_ne hlink hobs).mpr (hretained.mig hcalled hobs)
      exact ⟨.inr (.inr hobs), hne⟩
    | backendService => exact ⟨hretained.balancer hcalled (.inl hobs), .inl hobs⟩
    | forwardingRule => exact ⟨hretained.balancer hcalled (.inr hobs), .inl hobs⟩
    | secretIAMMember m => exact hretained.iamMembers m hcalled hobs

/-- A load-balanced composite with one member. -/
def fleet : XGatewayGCPSpec where
  region := "r"
  zone := "r-a"
  machineType := "e2"
  sharedNetworkName := "net"
  secretId := "gw-u-p"
  wgListenPort := 51820
  wgMTU := 1380
  loadBalanced := true
  zones := ["r-a"]
  targetSize := 1
  healthPort := 27000
  members := [⟨"gw-u-p-0-iam", "gw-u-p-0", "gw-u-p-0-version", "gw-u-p-0", "0", 0, "10.0.0.3"⟩]
  templateRevision := "b"

/-- Its resources while the MIG is moved from template `a` to template `b`; the service account
reports this email. -/
def rollingOut (email : String) : Observed :=
  [("firewall", {}), ("gw-u-p-0", {}), ("gw-u-p-0-iam", {}), ("gw-u-p-0-version", {}),
    ("mig", { specVersions := ["/templates/a"], statusVersions := ["/templates/a"],
              versionTargets := [[true]], instanceGroup := "/groups/gw" }),
    ("service-account", { email := email }),
    ("template-a", { selfLink := "/templates/a"
                     forProvider := some ⟨"gw-a", machine fleet
                       [("service-account", { email := "sa@p" })] none⟩ }),
    ("template-b", { selfLink := "/templates/b" })]

/-- Once the email is not observed, the firewall and the access to the bundle go, and the current
template is rendered without a service account. -/
theorem retention_lost : ∃ out, render "gw" fleet (rollingOut "") = .ok out ∧
    ¬KeepsObserved fleet (rollingOut "") out ∧ ¬KeepsAccounts (rollingOut "") out := by
  refine ⟨_, rfl, fun hkeeps => ?_, by decide⟩
  exact absurd (hkeeps .firewall trivial (by decide)) (by decide)

theorem render_retains_rollingOut : ∃ out, render "gw" fleet (rollingOut "sa@p") = .ok out ∧
    KeepsObserved fleet (rollingOut "sa@p") out ∧ KeepsAccounts (rollingOut "sa@p") out := by
  have hemail : EmailKnown (rollingOut "sa@p") := .inl (by decide)
  have hanchored : Anchored fleet (rollingOut "sa@p") := .inl (by decide)
  have hold : ∀ r ∈ rollingOut "sa@p", isTemplateName r.1 → r.1 ≠ templateResourceName fleet →
      templateEmail (((rollingOut "sa@p").get r.1)).forProvider ≠ "" := by decide
  refine ⟨_, rfl, (render_retains_iff rfl).mpr
    { firewalls := fun _ => hemail
      iamMembers := fun _ _ _ => hemail
      template := fun _ _ => hemail
      probe := fun _ _ => ⟨hemail, hanchored⟩
      balancer := fun _ _ => hanchored
      mig := fun _ _ => .inl (by decide)
      oldTemplates := fun _ _ _ name htemplate hne hobs => ?_ }⟩
  obtain ⟨r, hr, rfl⟩ : ∃ r ∈ rollingOut "sa@p", r.1 = name := by
    simpa [Observed.has] using hobs
  exact hold r hr htemplate hne

/-- The template of the MIG. -/
@[simp] def Manifest.migTemplate : Manifest → Option String
  | .regionInstanceGroupManager group => some group.instanceTemplate
  | _ => none

/-- A template that is observed, or the current one. -/
def TemplateOf (spec : XGatewayGCPSpec) (obs : Observed) (name : String) : Prop :=
  name = templateResourceName spec ∨ isTemplateName name ∧ obs.has name

/-- Every template is rendered until the rollout is complete. -/
theorem renders_template {link name : String} (hlb : spec.loadBalanced)
    (hanchored : Anchored spec obs) (hname : TemplateOf spec obs name)
    (hrollout : ¬RolledOut spec obs) :
    Renders (renderedResources compositeName spec obs link) name .instanceTemplate := by
  by_cases hcurrent : name = templateResourceName spec
  · subst hcurrent
    exact (has_iff .template hlb).mpr hanchored
  · obtain ⟨htemplate, hobs⟩ := hname.resolve_left hcurrent
    have hold : name ∈ oldTemplateNames spec obs :=
      mem_oldTemplateNames.mpr ⟨hobs, htemplate, hcurrent, hrollout⟩
    have hready : loadBalancedReady spec obs = true := loadBalancedReady_iff.mpr hanchored
    rw [renderedResources, loadBalancedResources, List.map_eq_flatMap]
    simp [renders_flatMap, hlb, hready, hold]

/-- A MIG is rendered with the template that was chosen for it. -/
theorem migTemplate_rendered {link : String} :
    ∀ r ∈ renderedResources compositeName spec obs link,
      ∀ link', r.manifest.migTemplate = some link' → link' = link ∧ Anchored spec obs := by
  unfold renderedResources loadBalancedResources addressResources
  simp only [List.forall_mem_append, List.forall_mem_cons, List.forall_mem_map, forall_mem_ite,
    List.forall_mem_flatMap, memberResources]
  simp only [← loadBalancedReady_iff]
  simp +contextual

/-- **No template is retired while it is in use.** -/
theorem templates_outlive_rollout (h : render compositeName spec obs = .ok out)
    (hlb : spec.loadBalanced) :
    (∀ r ∈ out.resources, ∀ link, r.manifest.migTemplate = some link →
      ∀ name, TemplateOf spec obs name → (obs.get name).selfLink = link →
        out.Has name .instanceTemplate ∨
          ((obs.get (templateResourceName spec)).selfLink = link ∧
            out.Has (templateResourceName spec) .instanceTemplate)) ∧
    ∀ name, isTemplateName name → obs.has name → ¬out.Has name .instanceTemplate →
      RolledOut spec obs ∨ (¬obs.has "mig" ∧ ¬obs.has (templateResourceName spec) ∧
        (obs.get "service-account").email = "") := by
  obtain ⟨-, link, hlink, hout⟩ := render_ok h
  simp only [Rendered.Has, hout]
  constructor
  · intro r hr link' hmig name hname hself
    obtain ⟨rfl, hanchored⟩ := migTemplate_rendered r hr link' hmig
    by_cases hrollout : RolledOut spec obs
    · -- the MIG is rendered with the current template
      have hcurrent : (obs.get (templateResourceName spec)).selfLink = link' := by
        rw [migTemplateSelfLink, if_neg fun hempty => hrollout.2.1 hempty.1] at hlink
        exact Except.ok.inj hlink
      exact .inr ⟨hcurrent, (has_iff .template hlb).mpr hanchored⟩
    · exact .inl (renders_template hlb hanchored hname hrollout)
  · intro name htemplate hobs hmissing
    by_cases hanchored : Anchored spec obs
    · refine .inl (Classical.not_not.mp fun hrollout => hmissing ?_)
      exact renders_template hlb hanchored (.inr ⟨htemplate, hobs⟩) hrollout
    · simp only [Anchored, not_or, ne_eq, Classical.not_not] at hanchored
      exact .inr ⟨hanchored.2.2, hanchored.2.1, hanchored.1⟩

/-- While the MIG moves to template `b`, which it is rendered with, both templates are rendered. -/
theorem templates_outlive_rollingOut : ∃ out, render "gw" fleet (rollingOut "sa@p") = .ok out ∧
    (∃ r ∈ out.resources, r.manifest.migTemplate = some "/templates/b") ∧
    out.Has "template-b" .instanceTemplate ∧ out.Has "template-a" .instanceTemplate := by
  have hmig : ∃ out, render "gw" fleet (rollingOut "sa@p") = .ok out ∧
      ∃ r ∈ out.resources, r.manifest.migTemplate = some "/templates/b" := ⟨_, rfl, by decide⟩
  obtain ⟨out, hout, r, hr, hlink⟩ := hmig
  obtain ⟨hused, hretired⟩ := templates_outlive_rollout hout rfl
  have hmoving : ¬RolledOut fleet (rollingOut "sa@p") := fun h => absurd h.2.2.1 (by decide)
  refine ⟨out, hout, ⟨r, hr, hlink⟩, ?_, ?_⟩
  · exact (hused r hr _ hlink "template-b" (.inl rfl) rfl).elim id And.right
  · by_contra hmissing
    rcases hretired "template-a" (by decide) (by decide) hmissing with hrolled | ⟨hmig, -⟩
    · exact hmoving hrolled
    · exact hmig (by decide)

end

end WireguardGateway.Crossplane

import WireguardGateway.Gcp.Rounds

/-!
# Confirming that a retired member's resources are gone

A record is released after two uncached checks. `confirmManagedResourcesAbsent` asks for the three
Secret Manager resources of the member by the names the composite's roster carries, and
`compositeSynced` asks whether the composite is synced at its current generation.

The resources themselves are rendered by the composition (`memberManifests`): without a
`metadata.name`, so that their object names are Crossplane's choice, in the composite's namespace.
The check passes neither: it asks for the *roster* names and for no namespace at all. A read of a
namespaced kind without a namespace never returns an object; what it answers instead (`Unscoped`) is
the API's affair, and the same in every state of the cluster.

Results:
* `confirm_eq_absent_iff`: the check reports absence exactly when each of its three reads is
  answered with NotFound;
* **`confirm_meets_iff`**: so it says nothing about the resources, and is right about them only
  where that fixed answer happens to be.
-/

namespace WireguardGateway.Gcp

open Lib

/-! ## The checks -/

/-- The kinds of `secretmanager.gcp.m.upbound.io/v1beta1` that a member has one resource of each. -/
inductive ManagedKind where
  | secret
  | secretVersion
  | secretIAMMember
  deriving DecidableEq, Repr

namespace ManagedKind

def label : ManagedKind → String
  | .secret => "Secret Manager Secret"
  | .secretVersion => "Secret Manager SecretVersion"
  | .secretIAMMember => "Secret Manager SecretIAMMember"

/-- The name the check asks for. -/
def nameIn (names : ManagedResourceNames) : ManagedKind → String
  | .secret => names.cloudSecretName
  | .secretVersion => names.cloudSecretVersionName
  | .secretIAMMember => names.cloudSecretIAMMemberName

/-- The checks, in order. -/
def checks : List ManagedKind := [.secret, .secretVersion, .secretIAMMember]

theorem mem_checks (k : ManagedKind) : k ∈ checks := by cases k <;> decide

end ManagedKind

structure ObjectKey where
  namespaceName : String
  name : String
  deriving DecidableEq, Repr

/-- The answer to a GET, as far as a caller tells answers apart. -/
inductive GetAnswer where
  | found
  | notFound
  | failed (cause : String)
  deriving DecidableEq, Repr

/-- One check: the first resource found is the reason, a failed read ends the confirmation. -/
def confirmCheck (get : ManagedKind → ObjectKey → GetAnswer) (names : ManagedResourceNames)
    (blockedReason : String) (k : ManagedKind) : Except String String :=
  let name := k.nameIn names
  match get k { namespaceName := "", name } with
  | .found =>
    .ok (if blockedReason = "" then k.label ++ " " ++ quote name ++ " still present"
      else blockedReason)
  | .notFound => .ok blockedReason
  | .failed cause =>
    .error ("gcpmembers: confirming " ++ k.label ++ " " ++ quote name ++ " absent: " ++ cause)

/-- `ConfirmManagedResourcesAbsent`: all three reads, also when an early one finds its resource. -/
def confirmManagedResourcesAbsent (get : ManagedKind → ObjectKey → GetAnswer)
    (names : ManagedResourceNames) : Except String (Bool × String) :=
  match ManagedKind.checks.foldlM (confirmCheck get names) "" with
  | .error err => .error err
  | .ok blockedReason =>
    if blockedReason ≠ "" then .ok (false, blockedReason) else .ok (true, "")

/-- An entry of `status.conditions`. -/
structure Condition where
  type : String
  status : String
  observedGeneration : Option Int
  deriving DecidableEq, Repr

/-- The uncached read of the composite. Its conditions may have another shape than a list, and an
entry another shape than an object. -/
inductive CompositeRead where
  | found (generation : Int) (conditions : Except String (List (Option Condition)))
  | notFound
  | failed (cause : String)

/-- `CompositeSynced`: the first `Synced` condition decides. -/
def compositeSynced (gatewayNamespace gatewayName : String) :
    CompositeRead → Except String (Bool × String)
  | .notFound => .ok (false, "composite not found")
  | .failed cause =>
    .error ("gcpmembers: reading composite " ++ gatewayNamespace ++ "/" ++ gatewayName ++ ": " ++
      cause)
  | .found _ (.error cause) =>
    .error ("gcpmembers: reading composite " ++ gatewayNamespace ++ "/" ++ gatewayName ++
      " status.conditions: " ++ cause)
  | .found generation (.ok conditions) =>
    match (conditions.filterMap id).find? (·.type = "Synced") with
    | none => .ok (false, "composite has no Synced condition")
    | some cond =>
      if cond.status ≠ "True" then .ok (false, "composite Synced condition is not True")
      else if cond.observedGeneration ≠ some generation then
        .ok (false, "composite Synced condition has a stale observedGeneration")
      else .ok (true, "")

theorem ManagedKind.label_append_ne (k : ManagedKind) (t : String) : k.label ++ t ≠ "" := by
  cases k <;> simp [label]

variable {names : ManagedResourceNames}

/-- The loop ends without a reason when every read it makes is answered with NotFound. -/
theorem foldlM_confirmCheck {get : ManagedKind → ObjectKey → GetAnswer} :
    ∀ {ks : List ManagedKind} {reason : String},
      ks.foldlM (confirmCheck get names) reason = .ok "" ↔
        reason = "" ∧ ∀ k ∈ ks, get k { namespaceName := "", name := k.nameIn names } = .notFound
  | [], reason => by simp [pure, Except.pure]
  | k :: ks, reason => by
    rw [List.foldlM_cons, confirmCheck]
    cases hk : get k { namespaceName := "", name := k.nameIn names } with
    | failed cause => simp [hk, bind, Except.bind]
    | notFound =>
      simp only [bind, Except.bind, foldlM_confirmCheck, List.forall_mem_cons, hk, true_and]
    | found =>
      have hne : (if reason = "" then
          k.label ++ " " ++ quote (k.nameIn names) ++ " still present" else reason) ≠ "" := by
        split
        · rw [String.append_assoc, String.append_assoc]
          exact k.label_append_ne _
        · assumption
      simp only [bind, Except.bind, foldlM_confirmCheck, List.forall_mem_cons, hk]
      simp [hne]

/-- **The check reports absence exactly when each of its reads is answered with NotFound.** -/
theorem confirm_eq_absent_iff {get : ManagedKind → ObjectKey → GetAnswer} :
    (∃ reason, confirmManagedResourcesAbsent get names = .ok (true, reason)) ↔
      ∀ k, get k { namespaceName := "", name := k.nameIn names } = .notFound := by
  have hfold : ManagedKind.checks.foldlM (confirmCheck get names) "" = .ok "" ↔
      ∀ k, get k { namespaceName := "", name := k.nameIn names } = .notFound := by
    rw [foldlM_confirmCheck]
    exact ⟨fun h k => h.2 k k.mem_checks, fun h => ⟨rfl, fun k _ => h k⟩⟩
  rw [← hfold, confirmManagedResourcesAbsent]
  cases ManagedKind.checks.foldlM (confirmCheck get names) "" with
  | error err => simp
  | ok reason => by_cases hr : reason = "" <;> simp [hr]

/-! ## The resources of a member -/

/-- A composed resource as the composition renders it: the parts of its metadata that decide its
identity. -/
structure Manifest where
  kind : ManagedKind
  metadataName : Option String
  resourceName : String
  externalName : Option String
  memberLabel : Option String
  deriving DecidableEq, Repr

/-- The resources the composition renders for a roster entry; the binding waits for the service
account. -/
def memberManifests (x : RosterEntry) (instanceSAEmail : String) : List Manifest :=
  [{ kind := .secret
     metadataName := none
     resourceName := x.names.cloudSecretName
     externalName := some x.names.cloudSecretName
     memberLabel := some x.name },
    { kind := .secretVersion
      metadataName := none
      resourceName := x.names.cloudSecretVersionName
      externalName := none
      memberLabel := none }] ++
  if instanceSAEmail ≠ "" then
    [{ kind := .secretIAMMember
       metadataName := none
       resourceName := x.names.cloudSecretIAMMemberName
       externalName := none
       memberLabel := none }]
  else []

/-- The names Crossplane gives to composed resources whose template has none. -/
abbrev Naming : Type := (composite : ObjectKey) → (resourceName : String) → String

/-- The object of a composed resource, in the namespace of its composite. -/
def Manifest.object (naming : Naming) (composite : ObjectKey) (m : Manifest) : ObjectKey where
  namespaceName := composite.namespaceName
  name := m.metadataName.getD (naming composite m.resourceName)

/-- The managed resources that exist. -/
structure Cluster where
  objects : List (ManagedKind × ObjectKey)

/-- The answer to a GET of a namespaced kind without a namespace: NotFound, or an error. -/
abbrev Unscoped : Type := ManagedKind → (name : String) → Option String

/-- A GET of a managed resource. -/
def Cluster.get (c : Cluster) (api : Unscoped) (k : ManagedKind) (key : ObjectKey) : GetAnswer :=
  if key.namespaceName = "" then (api k key.name).elim .notFound .failed
  else if (k, key) ∈ c.objects then .found
  else .notFound

/-- None of the resources rendered for the entry exists. -/
def Cluster.Free (c : Cluster) (naming : Naming) (composite : ObjectKey) (x : RosterEntry)
    (instanceSAEmail : String) : Prop :=
  ∀ m ∈ memberManifests x instanceSAEmail, (m.kind, m.object naming composite) ∉ c.objects

/-- Every read the check makes for `names` is answered with NotFound. -/
def Unscoped.AllNotFound (api : Unscoped) (names : ManagedResourceNames) : Prop :=
  ∀ k : ManagedKind, api k (k.nameIn names) = none

/-- The check reports that the resources of `names` are absent. -/
def Cluster.ReportsAbsent (c : Cluster) (api : Unscoped) (names : ManagedResourceNames) : Prop :=
  ∃ reason, confirmManagedResourcesAbsent (c.get api) names = .ok (true, reason)

theorem Cluster.reportsAbsent_iff {c : Cluster} {api : Unscoped} :
    c.ReportsAbsent api names ↔ api.AllNotFound names := by
  rw [ReportsAbsent, confirm_eq_absent_iff]
  refine forall_congr' fun k => ?_
  rw [get, if_pos rfl]
  cases api k (k.nameIn names) <;> simp

/-- The environment of a pass whose confirmations are answered by the cluster. -/
def Env.ConfirmsIn (e : Env) (g : Gateway) (c : Cluster) (api : Unscoped) : Prop :=
  ∀ n names, g.resolveNames n = .ok names →
    e.confirm n = confirmManagedResourcesAbsent (c.get api) names

/-- A release is let through by what the two checks answer. -/
theorem releaseBlocked_eq_none {e : Env} {n : String} :
    releaseBlocked e n = none ↔
      (∃ reason, e.confirm n = .ok (true, reason)) ∧ ∃ reason, e.synced n = .ok (true, reason) := by
  unfold releaseBlocked
  split
  · simp_all
  · simp_all
  · split <;> simp_all

/-- **When the confirmation is right.** For every Gateway and member, in every state of the
cluster: the check agrees with the member's resources exactly where the answer to its reads without
a namespace happens to; in no case does it agree in every state; and the release of the record is
let through or blocked by that answer alone. -/
theorem confirm_meets_iff (g : Gateway) {n : String} {names : ManagedResourceNames}
    (hnames : g.resolveNames n = .ok names) (slot : Int) (address : String) (naming : Naming)
    (instanceSAEmail : String) (api : Unscoped) :
    let composite : ObjectKey := { namespaceName := g.gatewayNamespace, name := g.gatewayName }
    let x : RosterEntry := { name := n, slot, tunnelAddress := address, names }
    (∀ c : Cluster, (c.ReportsAbsent api names ↔ c.Free naming composite x instanceSAEmail) ↔
      (api.AllNotFound names ↔ c.Free naming composite x instanceSAEmail)) ∧
    (¬ ∀ c : Cluster, c.ReportsAbsent api names ↔ c.Free naming composite x instanceSAEmail) ∧
    ∀ (c : Cluster) (e : Env), e.ConfirmsIn g c api →
      (releaseBlocked e n = none ↔
        api.AllNotFound names ∧ ∃ reason, e.synced n = .ok (true, reason)) := by
  intro composite x
  refine ⟨fun c => by rw [Cluster.reportsAbsent_iff], fun hall => ?_, fun c e he => ?_⟩
  · simp only [Cluster.reportsAbsent_iff] at hall
    -- the same answer for a cluster without resources and for one with the member's Secret
    have hempty := (hall { objects := [] }).mpr fun m _ => List.not_mem_nil
    let m : Manifest := (memberManifests x instanceSAEmail).head (by simp [memberManifests])
    exact (hall { objects := [(m.kind, m.object naming composite)] }).mp hempty m
      (List.head_mem _) List.mem_cons_self
  · rw [releaseBlocked_eq_none, he n names hnames, ← Cluster.reportsAbsent_iff]
    exact Iff.rfl

/-- The names of member `a` of the small fleet. -/
def namesOfA : ManagedResourceNames where
  kubernetesSecretName := "gw-u1-p-a"
  cloudSecretName := "gw-u1-p-a"
  cloudSecretVersionName := "gw-u1-p-a-version"
  cloudSecretIAMMemberName := "gw-u1-p-a-iam"

def entryOfA : RosterEntry :=
  { name := "a", slot := 0, tunnelAddress := "10.99.0.1", names := namesOfA }

def fleetComposite : ObjectKey := { namespaceName := "ns", name := "gw" }

/-- Generated object names, different from every roster name. -/
def generated : Naming := fun composite resourceName => composite.name ++ "-x7k2p-" ++ resourceName

/-- In a cluster with no resource at all, an API that answers NotFound makes the check right. -/
theorem confirm_meets_iff_empty :
    Cluster.ReportsAbsent { objects := [] } (fun _ _ => none) namesOfA ↔
      Cluster.Free { objects := [] } generated fleetComposite entryOfA "sa@p" :=
  have hnames : fleet.resolveNames "a" = .ok namesOfA := by decide +kernel
  ((confirm_meets_iff fleet hnames 0 "10.99.0.1" generated "sa@p" fun _ _ => none).1
    { objects := [] }).mpr ⟨fun _ _ _ => List.not_mem_nil, fun _ _ => rfl⟩

/-- The three resources of `a`. -/
def clusterOfA : Cluster where
  objects := (memberManifests entryOfA "sa@p").map fun m =>
    (m.kind, m.object generated fleetComposite)

/-- A pass whose confirmations are answered by the cluster. -/
def Env.confirming (c : Cluster) (api : Unscoped) : Env :=
  { EnvOf.calm .live with
    confirm := fun n => (fleet.resolveNames n).bind (confirmManagedResourcesAbsent (c.get api)) }

/-- `a` runs, is listed on its way out, and is then up for release. -/
def retireRun (c : Cluster) (api : Unscoped) : List Round :=
  [seesA (.confirming c api) .none, seesA (.confirming c api) .deleting,
    seesNothing (.confirming c api)]

/-- **A record is released while its three resources exist**, when the API answers NotFound, and is
kept although none exists, when it answers with an error. -/
theorem retireRun_ignores_resources :
    clusterOfA.objects.length = 3 ∧
      (runRounds fleet emptyWorld (retireRun clusterOfA fun _ _ => none)).store.records = [] ∧
      (runRounds fleet emptyWorld (retireRun { objects := [] } fun _ _ =>
          some "an empty namespace may not be set when a resource name is provided")
        ).store.records.map (fun r => (r.name, r.pendingConfirmation)) = [("a", true)] := by
  decide +kernel

end WireguardGateway.Gcp

import WireguardGateway.Controller.Composite
import WireguardGateway.Controller.Secrets

/-!
# The state of a Gateway and its children

`GatewayState` adds to `State` what the rest of a pass leaves behind: the finalizer, the link id of
the status, the key Secrets, and the objects the operator applies for the Gateway. Of those objects
a pass reads the hash of the last apply only, so that is what is kept of them; the link ConfigMap,
whose content is read back, is part of `State`.

Results: `applyChild_spec`, `deleteChild_spec` and `withDirty_spec`, the rules for the calls that
apply and delete children.
-/

namespace WireguardGateway.Controller

open Lib Gcp Prog

/-- The objects a pass applies for a Gateway, beside the link ConfigMap. -/
inductive Child where
  | linkServiceAccount
  | linkRole
  | linkRoleBinding
  | linkClusterRoleBinding
  | linkDaemonSet
  | linkNetworkPolicy
  | linkDeployment
  | linkPodDisruptionBudget
  | responderConfigMap
  | responderService
  | responderDaemonSet
  | responderDeployment
  | responderPodDisruptionBudget
  | dnsEndpoint
  deriving DecidableEq, Repr

/-- The type, as the error texts name it. -/
def Child.kind : Child → String
  | .linkServiceAccount => "*v1.ServiceAccount"
  | .linkRole => "*v1.Role"
  | .linkRoleBinding => "*v1.RoleBinding"
  | .linkClusterRoleBinding => "*v1.ClusterRoleBinding"
  | .linkDaemonSet | .responderDaemonSet => "*v1.DaemonSet"
  | .linkNetworkPolicy => "*v1.NetworkPolicy"
  | .linkDeployment | .responderDeployment => "*v1.Deployment"
  | .linkPodDisruptionBudget | .responderPodDisruptionBudget => "*v1.PodDisruptionBudget"
  | .responderConfigMap => "*v1.ConfigMap"
  | .responderService => "*v1.Service"
  | .dnsEndpoint => "dns endpoint"

/-- `children` is the hash annotation of each object that exists. -/
structure GatewayState extends State where
  finalizer : Bool
  linkID : Int32
  secrets : KeySecrets
  children : Child → Option String
  responderDirty : Bool

/-- The state with one child set or removed. -/
def GatewayState.setChild (s : GatewayState) (c : Child) (hash : Option String) : GatewayState :=
  { s with children := Function.update s.children c hash }

/-- Run a program over what the passes read back from one another. -/
def onState {α : Type} (m : Prog State String α) : Prog GatewayState String α :=
  zoom (·.toState) (fun s t => { s with toState := t }) m

/-- Run a program over the key Secrets. -/
def onSecrets {α : Type} (m : Prog KeySecrets String α) : Prog GatewayState String α :=
  zoom (·.secrets) (fun s k => { s with secrets := k }) m

/-- The answers for the children, and the hash of what is rendered for each of them. -/
structure ChildEnv where
  get : Child → Fault
  apply : Child → WriteOutcome
  delete : Child → WriteOutcome
  hash : Child → String

/-- `applyObjectIfChanged`. -/
def applyChild (e : ChildEnv) (force : Bool) (c : Child) : Prog GatewayState String Unit := do
  let live ← serve (e.get c) ("get " ++ c.kind) (·.children c)
  if !force ∧ live = some (e.hash c) then pure ()
  else write (e.apply c) ("apply " ++ c.kind) fun s => s.setChild c (some (e.hash c))

/-- `deleteResponderLeftover`, and the same for the link's disruption budget. -/
def deleteChild (e : ChildEnv) (c : Child) : Prog GatewayState String Unit := do
  let live ← serve (e.get c) "get" (·.children c)
  if live = none then pure ()
  else write (e.delete c) ("delete " ++ c.kind) fun s => s.setChild c none

/-- Take the dirty flag for the run of `body`; one that fails under it leaves it set. -/
def withDirty {σ α : Type} (get : σ → Bool) (set : σ → Bool → σ)
    (body : Bool → Prog σ String α) : Prog σ String α := fun s =>
  let force := get s
  match body force (set s false) with
  | (.ok a, s') => (.ok a, s')
  | (.error err, s') => (.error err, if force then set s' true else s')

/-! ## Rules -/

section

variable {α : Type}

variable {P Q : GatewayState → Prop} {e : ChildEnv} {c : Child}

/-- An applied child exists: it did before, or was written. -/
theorem applyChild_spec {force : Bool} (hkeep : ∀ s, P s → (s.children c).isSome → Q s)
    (hset : ∀ s hash, P s → Q (s.setChild c (some hash))) :
    Spec P (applyChild e force c) (fun _ => Q) (fun s => P s ∨ Q s) := by
  refine (serve_spec.orElse fun _ h => .inl h).bind fun live => ?_
  split
  · rename_i hlive
    refine Spec.pure fun s h => hkeep s h.1 ?_
    rw [← h.2, hlive.2, Option.isSome_some]
  · refine (write_spec (Q := Q) fun s h => hset s _ h.1).orElse ?_
    exact fun s h => h.imp And.left id

/-- A deleted child is gone: it was before, or was deleted. -/
theorem deleteChild_spec (hkeep : ∀ s, P s → s.children c = none → Q s)
    (hset : ∀ s, P s → Q (s.setChild c none)) :
    Spec P (deleteChild e c) (fun _ => Q) (fun s => P s ∨ Q s) := by
  refine (serve_spec.orElse fun _ h => .inl h).bind fun live => ?_
  split
  · rename_i hlive
    exact Spec.pure fun s h => hkeep s h.1 (by rw [← h.2, hlive])
  · refine (write_spec (Q := Q) fun s h => hset s h.1).orElse ?_
    exact fun s h => h.imp And.left id

/-- The dirty flag carries no other property. -/
theorem withDirty_spec {σ : Type} {get : σ → Bool} {set : σ → Bool → σ}
    {body : Bool → Prog σ String α} {P : σ → Prop} {Q : α → σ → Prop} {E : σ → Prop}
    (hP : ∀ s b, P s → P (set s b)) (hE : ∀ s b, E s → E (set s b))
    (h : ∀ force, Spec P (body force) Q E) : Spec P (withDirty get set body) Q E := by
  intro s hs
  obtain ⟨hok, herr⟩ := h (get s) (set s false) (hP s false hs)
  unfold withDirty
  dsimp only
  rcases hrun : body (get s) (set s false) with ⟨err | a, s'⟩
  · refine ⟨fun _ _ h => (nomatch h), fun err' s'' h => ?_⟩
    cases h
    split
    · exact hE s' true (herr err s' hrun)
    · exact herr err s' hrun
  · refine ⟨fun a' s'' h => ?_, fun _ _ h => (nomatch h)⟩
    cases h
    exact hok a s' hrun

end

end WireguardGateway.Controller

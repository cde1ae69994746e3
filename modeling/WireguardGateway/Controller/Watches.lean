import Mathlib.Logic.Function.Basic
import WireguardGateway.Controller.Runs

/-!
# Which Gateways an event wakes

`gatewaysForService` and `gatewaysForNamespace`
(`internal/controller/gateway_controller.go:931-974`) map a changed Service or Namespace to the
Gateways that are reconciled for it. No other watch tells a Gateway that a backend or its consent
changed, so one they leave out must be classified as before.

Result: **`unwoken_unaffected`**, for every sequence of such changes.
-/

namespace WireguardGateway.Controller

/-- A change of an object that `classifyForwards` reads; `none` is a deletion. -/
inductive ClusterEvent where
  | service (namespace_ name : String) (service : Option Service)
  | namespace_ (name : String) (label : Option (Option String))

def Backends.after (c : Backends) : ClusterEvent → Backends
  | .service ns name service =>
    { c with
      services := Function.update c.services ns (Function.update (c.services ns) name service) }
  | .namespace_ name label => { c with namespaces := Function.update c.namespaces name label }

/-- A request for each listed Gateway with a forward of the kind; none when the list fails. -/
def requestsFor (listed : Except String (List GatewayObject))
    (concerns : GatewayObject → ForwardSpec → Bool) : List (String × String) :=
  match listed with
  | .error _ => []
  | .ok gateways =>
    (gateways.filter fun gw => gw.forwards.any (concerns gw)).map fun gw => (gw.namespace_, gw.name)

def gatewaysForService (listed : Except String (List GatewayObject)) (ns name : String) :
    List (String × String) :=
  requestsFor listed fun gw f => f.service == name && gw.effectiveForwardNamespace f == ns

def gatewaysForNamespace (listed : Except String (List GatewayObject)) (name : String) :
    List (String × String) :=
  requestsFor listed fun gw f =>
    gw.effectiveForwardNamespace f == name && gw.effectiveForwardNamespace f != gw.namespace_

/-- An event, with what listing the Gateways returned when it was mapped. -/
structure Delivery where
  listed : Except String (List GatewayObject)
  event : ClusterEvent

def Delivery.requests (d : Delivery) : List (String × String) :=
  match d.event with
  | .service ns name _ => gatewaysForService d.listed ns name
  | .namespace_ name _ => gatewaysForNamespace d.listed name

/-- The map functions see the Gateway and leave it out. -/
structure Unwoken (gw : GatewayObject) (d : Delivery) : Prop where
  listed : ∃ gateways, d.listed = .ok gateways ∧ gw ∈ gateways
  unrequested : (gw.namespace_, gw.name) ∉ d.requests

section

variable {gw : GatewayObject} {c c' : Backends} {faults : BackendFaults}

theorem not_concerned {listed : Except String (List GatewayObject)}
    {concerns : GatewayObject → ForwardSpec → Bool}
    (hlisted : ∃ gateways, listed = .ok gateways ∧ gw ∈ gateways)
    (h : (gw.namespace_, gw.name) ∉ requestsFor listed concerns) {f : ForwardSpec}
    (hf : f ∈ gw.forwards) : concerns gw f = false := by
  obtain ⟨gateways, rfl, hgw⟩ := hlisted
  by_contra hc
  refine h (List.mem_map_of_mem (List.mem_filter.mpr ⟨hgw, ?_⟩))
  exact List.any_eq_true.mpr ⟨f, hf, Bool.not_eq_false _ ▸ hc⟩

/-- What a classification reads. -/
theorem classifyForward_congr {f : ForwardSpec}
    (hns : gw.effectiveForwardNamespace f ≠ gw.namespace_ →
      c'.namespaces (gw.effectiveForwardNamespace f) =
        c.namespaces (gw.effectiveForwardNamespace f))
    (hsvc : c'.services (gw.effectiveForwardNamespace f) f.service =
      c.services (gw.effectiveForwardNamespace f) f.service) :
    classifyForward gw c' faults f = classifyForward gw c faults f := by
  have hrefused : refusedNamespace gw c' faults (gw.effectiveForwardNamespace f) =
      refusedNamespace gw c faults (gw.effectiveForwardNamespace f) := by
    unfold refusedNamespace
    split_ifs with hown
    · rfl
    · rw [hns hown]
  simp only [classifyForward, backendOf, hrefused, hsvc]

theorem mapM_classifyForward_congr : ∀ {fs : List ForwardSpec},
    (∀ f ∈ fs, classifyForward gw c' faults f = classifyForward gw c faults f) →
      fs.mapM (classifyForward gw c' faults) = fs.mapM (classifyForward gw c faults)
  | [], _ => rfl
  | f :: fs, h => by
    obtain ⟨hf, hfs⟩ := List.forall_mem_cons.mp h
    rw [List.mapM_cons, List.mapM_cons, hf, mapM_classifyForward_congr hfs]

/-- One event that wakes others only. -/
theorem Unwoken.classifyForwards_after {d : Delivery} (h : Unwoken gw d) :
    classifyForwards gw (c.after d.event) faults = classifyForwards gw c faults := by
  obtain ⟨listed, event⟩ := d
  unfold classifyForwards
  rw [mapM_classifyForward_congr fun f hf => ?_]
  cases event with
  | service ns name svc =>
    have hnot := not_concerned h.listed h.unrequested hf
    refine classifyForward_congr (fun _ => rfl) ?_
    show Function.update c.services ns _ _ _ = _
    by_cases hns : gw.effectiveForwardNamespace f = ns
    · have hname : f.service ≠ name := by
        rintro rfl
        simp [hns] at hnot
      rw [hns, Function.update_self, Function.update_of_ne hname]
    · rw [Function.update_of_ne hns]
  | namespace_ name label =>
    have hnot := not_concerned h.listed h.unrequested hf
    refine classifyForward_congr (fun hforeign => Function.update_of_ne ?_ _ _) rfl
    rintro rfl
    simp [hforeign] at hnot

/-- **A Gateway that no event wakes is classified as before**, after any sequence of changes. -/
theorem unwoken_unaffected (gw : GatewayObject) (faults : BackendFaults) (ds : List Delivery)
    (hds : ∀ d ∈ ds, Unwoken gw d) (c : Backends) :
    classifyForwards gw (ds.foldl (fun c d => c.after d.event) c) faults =
      classifyForwards gw c faults := by
  induction ds generalizing c with
  | nil => rfl
  | cons d ds ih =>
    rw [List.foldl_cons, ih fun d hd => hds d (List.mem_cons_of_mem _ hd)]
    exact (hds d List.mem_cons_self).classifyForwards_after

end

/-- A Service that the Gateway does not forward to goes. -/
theorem unwoken_unaffected_other :
    let faults : BackendFaults := ⟨fun _ => none, fun _ _ => none⟩
    classifyForwards webGateway ((webCluster none).after (.service "apps" "api" none)) faults =
      classifyForwards webGateway (webCluster none) faults :=
  unwoken_unaffected webGateway _ [⟨.ok [webGateway], .service "apps" "api" none⟩]
    (by simpa using ⟨⟨_, rfl, List.mem_cons_self⟩, by decide⟩) _

end WireguardGateway.Controller

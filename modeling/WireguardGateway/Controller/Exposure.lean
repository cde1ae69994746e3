import WireguardGateway.Controller.Runs

/-!
# What a Gateway exposes

The ports a Gateway opens stand in two objects: `allowedPorts` of the composite and the forwards of
the link ConfigMap. A pass that is not cut short renders both from the forwards it classified. But a
pass over invalid tunnel addresses returns before it classifies anything, and one over capacity
before it renders the ConfigMap: what those objects carried before stays, consented to or not.

Results, over every run of a Gateway:
* `exposureInv_pass`: a composite is there only under the finalizer and with a link id, and the
  ConfigMap is one the operator rendered;
* **`exposes_valid_iff`**: after a pass that returns, both objects carry only forwards that pass, if
  and only if the parts it did not reach carried only such forwards before it;
* `withdrawn_still_exposed`: consent is withdrawn, the subnet is edited, and the pass
  returns with the port open.
-/

namespace WireguardGateway.Controller

open Lib Gcp Prog

/-! ## Exposure -/

/-- The ports the composite opens. -/
def State.openPorts (s : State) : List AllowedPort := (s.composite.bind (·.allowedPorts)).getD []

/-- The forwards of the link ConfigMap. -/
def State.linkForwards (s : State) : List LinkForward :=
  ((s.linkConfigMap.bind LinkConfigMap.decode).map (·.forwards)).getD []

section

variable (gw : GatewayObject) (cluster : Backends)

/-- A forward of the spec that passes every check. -/
def Valid (b : ForwardBackend) : Prop := b.forward ∈ gw.forwards ∧ Passes gw cluster b

/-- The composite opens ports of valid forwards only. -/
def OpensValid (s : State) : Prop :=
  ∀ p ∈ s.openPorts, ∃ b, Valid gw cluster b ∧ p = b.forward.allowedPort

/-- The link ConfigMap carries valid forwards only. -/
def ForwardsValid (s : State) : Prop :=
  ∀ f ∈ s.linkForwards, ∃ b, Valid gw cluster b ∧ f = linkForward gw b

/-- Both do. -/
def ExposesValid (s : State) : Prop := OpensValid gw cluster s ∧ ForwardsValid gw cluster s

/-- What a pass does not render is valid before it: both objects if the tunnel addresses are not,
the ConfigMap if the replicas exceed the capacity. -/
def StaysValid (s : State) : Prop :=
  match gw.eligibleAddresses with
  | .error _ => ExposesValid gw cluster s
  | .ok _ => gw.OverCapacity → ForwardsValid gw cluster s

end

/-! ## The invariant -/

/-- A composite is applied only after the finalizer is set and, for a Local Gateway, a link id is
allocated. -/
def Provisioned (local_ : Bool) (s : GatewayState) : Prop :=
  s.composite.isSome → s.finalizer = true ∧ (local_ = true → 0 < s.linkID)

/-- The link ConfigMap is one the operator rendered. -/
def Rendered (objectHash : String → String) (s : GatewayState) : Prop :=
  ∀ cm, s.linkConfigMap = some cm → ∃ rc, cm = .ofConfig objectHash rc

def ExposureInv (objectHash : String → String) (local_ : Bool) (s : GatewayState) : Prop :=
  Provisioned local_ s ∧ Rendered objectHash s

section

variable {publicKeyOf : String → String} {gw : GatewayObject} {e : PassEnv publicKeyOf}
  {cfg : Config} {objectHash : String → String} {valid : List ForwardBackend}

/-- The forwards a pass exposes are valid; the link id plays no part in that. -/
theorem Exposable.allValid {id : Int32}
    (h : Exposable { gw with linkID := id } e.backends valid) :
    ∀ b ∈ valid, Valid gw e.backends b := by
  intro b hb
  obtain ⟨hconsented, hpublished⟩ := h.passes b hb
  exact ⟨h.spec.subset (List.mem_map_of_mem hb), hconsented, hpublished⟩

theorem opensValid_compositeOf {gw' : GatewayObject} {s : State} {applied : Option Result}
    (h : ∀ b ∈ valid, Valid gw e.backends b) :
    OpensValid gw e.backends
      { s with composite := some (compositeOf gw' (valid.map (·.forward)) applied) } := by
  intro p hp
  have hports : p ∈ valid.map fun b => b.forward.allowedPort := by
    simp only [State.openPorts, compositeOf, allowedPortsOf, Option.bind_some] at hp
    split at hp
    · cases hp
    · simpa using hp
  obtain ⟨b, hb, rfl⟩ := List.mem_map.mp hports
  exact ⟨b, h b hb, rfl⟩

theorem forwardsValid_ofConfig {s : State} {rc : RuntimeConfig}
    (h : ∀ b ∈ valid, Valid gw e.backends b) (hrc : rc.forwards = valid.map (linkForward gw))
    (hs : s.linkConfigMap = some (.ofConfig objectHash rc)) : ForwardsValid gw e.backends s := by
  intro f hf
  rw [State.linkForwards, hs, Option.bind_some, LinkConfigMap.decode_ofConfig] at hf
  have hmem : f ∈ valid.map (linkForward gw) := by
    rw [← hrc]
    exact hf
  obtain ⟨b, hb, rfl⟩ := List.mem_map.mp hmem
  exact ⟨b, h b hb, rfl⟩

variable {s : GatewayState}

/-- A ConfigMap under the hash of a config is the ConfigMap of that config. -/
theorem Rendered.eq_of_hash {cm : LinkConfigMap} {rc : RuntimeConfig} (h : Rendered objectHash s)
    (hhash : Function.Injective objectHash) (hs : s.linkConfigMap = some cm)
    (hcm : cm.hash = (LinkConfigMap.ofConfig objectHash rc).hash) :
    cm = .ofConfig objectHash rc := by
  obtain ⟨rc', rfl⟩ := h cm hs
  have hconfig : rc'.toJson.marshal = rc.toJson.marshal := hhash hcm
  rw [LinkConfigMap.ofConfig, hconfig, LinkConfigMap.ofConfig]

/-- What holds once the composite is about to be applied. -/
def Ready (objectHash : String → String) (local_ : Bool) (s : GatewayState) : Prop :=
  (s.finalizer = true ∧ (local_ = true → 0 < s.linkID)) ∧ Rendered objectHash s

theorem Ready.inv {local_ : Bool} (h : Ready objectHash local_ s) :
    ExposureInv objectHash local_ s := ⟨fun _ => h.1, h.2⟩

/-- **A pass that is not cut short** exposes valid forwards only. -/
theorem fullPass_exposes {id : Int32} {eligible : List String} {observed : CompositeStatus}
    (hhash : Function.Injective objectHash)
    (h : Exposable { gw with linkID := id } e.backends valid) :
    Spec (Ready objectHash gw.isLocal)
      (fullPass { gw with linkID := id } e cfg objectHash eligible valid observed)
      (fun _ s => Ready objectHash gw.isLocal s ∧ ExposesValid gw e.backends s.toState)
      (ExposureInv objectHash gw.isLocal) := by
  have hinv : ∀ s, Ready objectHash gw.isLocal s → ExposureInv objectHash gw.isLocal s :=
    fun s h => h.inv
  refine Spec.bind (Q := fun _ => Ready objectHash gw.isLocal) ?_ fun _ => ?_
  · exact Spec.mapErr (zoom_rule fun s hs t _ => ⟨fun _ _ _ => hs, fun _ _ _ => hs.inv⟩)
  refine (serve_frame.mapErr.orElse hinv).bind fun _ => ?_
  refine ((memberResult_frame (fun _ _ _ _ h => h) _ _).orElse hinv).bind fun result => ?_
  refine Spec.bind (Q := fun _ s => Ready objectHash gw.isLocal s ∧
    OpensValid gw e.backends s.toState) ((applyComposite_spec ?_ _ _).orElse ?_) fun _ => ?_
  · exact fun s applied hs _ => ⟨hs, opensValid_compositeOf h.allValid⟩
  · rintro s (hs | hs)
    · exact hs.inv
    · exact hs.1.inv
  refine linkPass_spec (Q := fun s => Ready objectHash gw.isLocal s ∧
    ExposesValid gw e.backends s.toState) ⟨fun _ _ h => h, fun _ _ h => h, fun _ _ h => h⟩
    ⟨fun _ _ h => h, fun _ _ h => h, fun _ _ h => h⟩ (fun _ _ h => h) ?_ ?_ (fun _ h => h)
    (fun s h => h.1.inv) (fun s h => h.1.inv) fun s h => h.1.inv
  · rintro s cm rc hs hcm hrc ⟨key, peers, responders, target, rfl⟩
    have heq := hs.1.2.eq_of_hash hhash hcm hrc
    exact ⟨hs.1, hs.2, forwardsValid_ofConfig h.allValid rfl (hcm.trans (congrArg some heq))⟩
  · intro s key peers responders target hs _
    refine ⟨⟨hs.1.1, fun cm hcm => ⟨_, (Option.some.inj hcm).symm⟩⟩, hs.2, ?_⟩
    exact forwardsValid_ofConfig h.allValid rfl rfl

/-- The obligations of a pass from `s₀`. -/
theorem passRule_exposes (hhash : Function.Injective objectHash) (s₀ : GatewayState) :
    PassRule gw e cfg objectHash
      (fun s => ExposureInv objectHash gw.isLocal s ∧ s.composite = s₀.composite ∧
        s.linkConfigMap = s₀.linkConfigMap)
      (ExposureInv objectHash gw.isLocal)
      (fun _ s => ExposureInv objectHash gw.isLocal s ∧ (s.composite.isSome →
        (ExposesValid gw e.backends s.toState ↔ StaysValid gw e.backends s₀.toState))) where
  linkID := fun s id hs hpos => ⟨⟨fun hc => ⟨(hs.1.1 hc).1, fun _ => hpos⟩, hs.1.2⟩, hs.2⟩
  finalizer := by
    intro s hs hfinalizer
    -- without the finalizer there is no composite
    refine ⟨⟨fun hc => ⟨rfl, (hs.1.1 hc).2⟩, hs.1.2⟩, fun hc => ?_⟩
    rw [(hs.1.1 hc).1] at hfinalizer
    cases hfinalizer
  invalid := by
    rintro s err ⟨hinv, hc, hcm⟩ - htunnel
    refine ⟨hinv, fun _ => ?_⟩
    simp only [StaysValid, htunnel, ExposesValid, OpensValid, ForwardsValid, State.openPorts,
      State.linkForwards, hc, hcm]
  exhausted := by
    intro s hs hlocal hid
    exact ⟨hs.1, fun hc => absurd ((hs.1.1 hc).2 hlocal) hid⟩
  idle := by
    intro s hs hnone
    refine ⟨hs.1, fun hc => ?_⟩
    rw [hnone] at hc
    cases hc
  overCapacity := by
    rintro id valid h ⟨eligible, htunnel⟩ hover
    have hstays : StaysValid gw e.backends s₀.toState ↔ ForwardsValid gw e.backends s₀.toState := by
      rw [StaysValid, htunnel]
      exact ⟨fun h => h hover, fun h _ => h⟩
    refine overCapacityPass_spec ?_ ?_ (fun s hs => hs.1.1) fun s hs => hs.1
    · intro s hs hnone
      refine ⟨hs.1.1, fun hc => ?_⟩
      rw [hnone] at hc
      cases hc
    · rintro s c applied ⟨⟨hinv, -, hcm⟩, -⟩ hc -
      refine ⟨⟨fun _ => hinv.1 (by rw [hc]; rfl), hinv.2⟩, fun _ => ?_⟩
      rw [hstays, ExposesValid, and_iff_right (opensValid_compositeOf h.allValid)]
      simp only [ForwardsValid, State.linkForwards, hcm]
  full := by
    intro id valid eligible observed h htunnel hover hlocal
    refine (fullPass_exposes hhash h).weaken ?_ (fun p s hs => ⟨hs.1.inv, fun _ => ?_⟩)
      fun _ hs => hs
    · rintro s ⟨hs, hfinalizer, rfl, -⟩
      exact ⟨⟨hfinalizer, hlocal⟩, hs.1.2⟩
    · rw [StaysValid, htunnel]
      exact ⟨fun _ h => absurd h hover, fun _ => hs.2⟩
  before := fun s hs => hs.1
  after := fun p s hs => hs.1

/-- **The step lemma**: a pass keeps the invariant. -/
theorem exposureInv_pass (hhash : Function.Injective objectHash)
    (h : ExposureInv objectHash gw.isLocal s) :
    ExposureInv objectHash gw.isLocal (reconcileGatewayPass gw e cfg objectHash s).2 := by
  have hrule : PassRule gw e cfg objectHash _ _ _ := passRule_exposes hhash s
  exact (hrule.spec.post fun _ _ h => h.1).state ⟨h, rfl, rfl⟩

theorem exposureInv_run {gw₀ : GatewayObject} {records : World}
    {xs : List (GatewayStep publicKeyOf)} (hhash : Function.Injective objectHash)
    (h : Guarded (GatewayStep.next cfg objectHash) (fun _ x => x.Admissible gw₀)
      (.created records) xs) :
    ExposureInv objectHash gw₀.isLocal
      (replay (GatewayStep.next cfg objectHash) (.created records) xs) := by
  refine run_invariant (fun _ _ _ _ _ h => h) (fun gw' e s hsame hs => ?_) h ?_
  · rw [← hsame.isLocal] at hs ⊢
    exact exposureInv_pass hhash hs
  · exact ⟨fun h => (nomatch h), fun _ h => (nomatch h)⟩

/-- **What stays exposed**: in every run of a Gateway, after a pass that returns without error with
a composite in place, both objects carry only forwards that pass every check in the cluster the pass
read, if and only if what the pass did not render carried only such forwards before it. -/
theorem exposes_valid_iff {gw₀ : GatewayObject} (hhash : Function.Injective objectHash)
    (records : World) (xs : List (GatewayStep publicKeyOf)) (gw : GatewayObject)
    (e : PassEnv publicKeyOf)
    (hrun : Guarded (GatewayStep.next cfg objectHash) (fun _ x => x.Admissible gw₀)
      (.created records) (xs ++ [.pass gw e])) (p : ReturnPath) (s' : GatewayState)
    (hpass : reconcileGatewayPass gw e cfg objectHash
      (replay (GatewayStep.next cfg objectHash) (.created records) xs) = (.ok p, s'))
    (hcomposite : s'.composite.isSome) :
    ExposesValid gw e.backends s'.toState ↔ StaysValid gw e.backends
      (replay (GatewayStep.next cfg objectHash) (.created records) xs).toState := by
  have hinv := exposureInv_run hhash hrun.left
  rw [← (show SameGateway gw₀ gw from hrun.at).isLocal] at hinv
  exact (((passRule_exposes hhash _).spec _ ⟨hinv, rfl, rfl⟩).1 p s' hpass).2 hcomposite

end

section

/-- A pass over the Gateway while its target namespace consents. -/
def consentedPass : GatewayStep derive := .pass webGateway (.calm (webCluster (some "true")) .zero)

/-- The subnet is edited to one that the addresses of the tunnel are not in. -/
def withdrawnGateway : GatewayObject :=
  { webGateway with wireguard := { defaultTunnel with subnet := "10.99.0.0/31" } }

def withdrawnEnv : PassEnv derive := .calm (webCluster none) .zero

/-- The finalizer is added, the forward is exposed. -/
def exposedState : GatewayState :=
  replay (GatewayStep.next calmConfig id) (.created emptyWorld) [consentedPass, consentedPass]

theorem exposes_valid_iff_consented :
    ExposesValid webGateway (webCluster (some "true")) exposedState.toState := by
  have hrun : Guarded (GatewayStep.next calmConfig id) (fun _ x => x.Admissible webGateway)
      (.created emptyWorld) ([consentedPass] ++ [consentedPass]) :=
    .cons (SameGateway.refl _) (.single (SameGateway.refl _))
  refine (exposes_valid_iff Function.injective_id emptyWorld [consentedPass] webGateway
    (.calm (webCluster (some "true")) .zero) hrun .full exposedState rfl rfl).mpr ?_
  exact fun h => nomatch h.1

/-- **Consent is withdrawn and the port stays open**: the pass over the edited subnet returns
without error, and the composite still opens the port. -/
theorem withdrawn_still_exposed :
    SameGateway webGateway withdrawnGateway ∧
    (reconcileGatewayPass withdrawnGateway withdrawnEnv calmConfig id exposedState).1 =
      .ok .invalidTunnelAddresses ∧
    (reconcileGatewayPass withdrawnGateway withdrawnEnv calmConfig id exposedState).2.openPorts =
      [{ port := 443, protocol := "tcp" }] ∧
    ¬ ExposesValid withdrawnGateway withdrawnEnv.backends
      (reconcileGatewayPass withdrawnGateway withdrawnEnv calmConfig id
        exposedState).2.toState := by
  have hports : (reconcileGatewayPass withdrawnGateway withdrawnEnv calmConfig id
      exposedState).2.openPorts = [{ port := 443, protocol := "tcp" }] := by decide +kernel
  refine ⟨⟨rfl, rfl, rfl, rfl, rfl, rfl, fun h => nomatch h⟩, by rfl, hports, ?_⟩
  rintro ⟨hopen, -⟩
  obtain ⟨b, ⟨hmem, hconsented, -⟩, -⟩ := hopen _ (by rw [hports]; exact List.mem_cons_self)
  rw [List.mem_singleton.mp hmem] at hconsented
  exact absurd (hconsented (by decide)) (by decide)

end

end WireguardGateway.Controller

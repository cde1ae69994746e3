import WireguardGateway.Controller.Runs

/-!
# Which children exist

A pass applies the children its spec calls for and deletes the disruption budgets and the responder
workload it does not. The children of the other traffic policy need no deletion, since the policy
never changes. What is neither is the DNSEndpoint: it is applied while there are hostnames and an
address, and nothing deletes it.

Results, over every run of a Gateway:
* `withinPolicy_run`: the link's children of the other traffic policy never exist;
* `fullPass_children`: the children after a pass that is not cut short;
* **`children_as_created_iff`**: they are those of a Gateway created with the present spec and given
  the same address, if and only if there was no DNSEndpoint before the pass or one is called for;
* `dnsEndpoint_outlives_hostnames`: the hostnames are removed, and the DNSEndpoint stays.
-/

namespace WireguardGateway.Controller

open Lib Gcp Prog

/-! ## The children of a spec -/

/-- The children that exist. -/
def GatewayState.existing (s : GatewayState) : Child → Bool := fun c => (s.children c).isSome

/-- The link's children that only the other traffic policy has; and a DNSEndpoint, unless `dns`. -/
def Child.foreign (local_ dns : Bool) : Child → Bool
  | .linkClusterRoleBinding | .linkDaemonSet => !local_
  | .linkNetworkPolicy | .linkDeployment | .linkPodDisruptionBudget => local_
  | .dnsEndpoint => !dns
  | _ => false

/-- The children the spec calls for, given the address. -/
def wanted (gw : GatewayObject) (address : String) : Child → Bool
  | .linkServiceAccount | .linkRole | .linkRoleBinding | .responderConfigMap | .responderService =>
    true
  | .linkClusterRoleBinding | .linkDaemonSet | .responderDaemonSet => gw.isLocal
  | .linkNetworkPolicy | .linkDeployment | .responderDeployment => !gw.isLocal
  | .linkPodDisruptionBudget => !gw.isLocal && gw.effectiveLinkReplicas > 1
  | .responderPodDisruptionBudget => !gw.isLocal && gw.effectiveResponderReplicas > 1
  | .dnsEndpoint => gw.dnsHostnames ≠ [] ∧ address ≠ ""

/-- None of the foreign children exists. -/
def WithinPolicy (local_ dns : Bool) (f : Child → Bool) : Prop :=
  ∀ c, c.foreign local_ dns = true → f c = false

theorem WithinPolicy.update {local_ dns : Bool} {f : Child → Bool} (h : WithinPolicy local_ dns f)
    (c : Child) (hc : c.foreign local_ dns = false) (b : Bool) :
    WithinPolicy local_ dns (Function.update f c b) := by
  intro c' hc'
  rw [Function.update_of_ne fun heq => by rw [heq, hc] at hc'; cases hc']
  exact h c' hc'

/-! ## One child -/

section

variable {e : ChildEnv} {c : Child} {f : Child → Bool} {local_ dns : Bool}

theorem existing_setChild (s : GatewayState) (c : Child) (hash : Option String) :
    (s.setChild c hash).existing = Function.update s.existing c hash.isSome := by
  funext c'
  by_cases h : c' = c
  · subst h
    simp [GatewayState.existing, GatewayState.setChild]
  · simp [GatewayState.existing, GatewayState.setChild, h]

/-- The children are `f`, which is within the policy. -/
def Children (local_ dns : Bool) (f : Child → Bool) (s : GatewayState) : Prop :=
  s.existing = f ∧ WithinPolicy local_ dns f

theorem Children.within {s : GatewayState} (h : Children local_ dns f s) :
    WithinPolicy local_ dns s.existing := h.1 ▸ h.2

theorem Children.of_eq {f' : Child → Bool} {s : GatewayState} (h : Children local_ dns f' s)
    (heq : ∀ c, f' c = f c) : Children local_ dns f s := funext heq ▸ h

theorem applyChild_children {force : Bool} (hc : c.foreign local_ dns = false) :
    Spec (Children local_ dns f) (applyChild e force c)
      (fun _ => Children local_ dns (Function.update f c true))
      (fun s => WithinPolicy local_ dns s.existing) := by
  refine (applyChild_spec (Q := Children local_ dns (Function.update f c true)) ?_ ?_).orElse
    fun s hs => hs.elim Children.within Children.within
  · rintro s ⟨rfl, hf⟩ hs
    rw [Function.update_eq_self_iff.mpr hs.symm]
    exact ⟨rfl, hf⟩
  · rintro s hash ⟨rfl, hf⟩
    exact ⟨existing_setChild s c (some hash), hf.update c hc true⟩

theorem deleteChild_children (hc : c.foreign local_ dns = false) :
    Spec (Children local_ dns f) (deleteChild e c)
      (fun _ => Children local_ dns (Function.update f c false))
      (fun s => WithinPolicy local_ dns s.existing) := by
  refine (deleteChild_spec (Q := Children local_ dns (Function.update f c false)) ?_ ?_).orElse
    fun s hs => hs.elim Children.within Children.within
  · rintro s ⟨rfl, hf⟩ hs
    rw [Function.update_eq_self_iff.mpr (by simp [GatewayState.existing, hs])]
    exact ⟨rfl, hf⟩
  · rintro s ⟨rfl, hf⟩
    exact ⟨existing_setChild s c none, hf.update c hc false⟩

/-- A child that is applied under a condition, and deleted otherwise. -/
theorem applyOrDelete_children {force : Bool} {b : Prop} [Decidable b]
    (hc : c.foreign local_ dns = false) :
    Spec (Children local_ dns f) (if b then applyChild e force c else deleteChild e c)
      (fun _ => Children local_ dns (Function.update f c b))
      (fun s => WithinPolicy local_ dns s.existing) := by
  split
  · rename_i hb
    rw [decide_eq_true hb]
    exact applyChild_children hc
  · rename_i hb
    rw [decide_eq_false hb]
    exact deleteChild_children hc

end

/-! ## The stages of a pass -/

/-- What a child belongs to. -/
inductive Component where
  | access
  | workload
  | responder
  | dns
  deriving DecidableEq, Repr

def Child.component : Child → Component
  | .linkServiceAccount | .linkRole | .linkRoleBinding => .access
  | .linkClusterRoleBinding | .linkDaemonSet | .linkNetworkPolicy | .linkDeployment
  | .linkPodDisruptionBudget => .workload
  | .responderConfigMap | .responderService | .responderDaemonSet | .responderDeployment
  | .responderPodDisruptionBudget => .responder
  | .dnsEndpoint => .dns

/-- The children of one component as the spec calls for them, the others as in `f`. -/
def withComponent (gw : GatewayObject) (k : Component) (f : Child → Bool) : Child → Bool := fun c =>
  if c.component = k then wanted gw "" c else f c

abbrev Within (isLocal dns : Bool) (s : GatewayState) : Prop := WithinPolicy isLocal dns s.existing

section

variable {publicKeyOf : String → String} {gw : GatewayObject} {e : PassEnv publicKeyOf}
  {cfg : Config} {objectHash : String → String} {f : Child → Bool} {dns : Bool}

variable {address : String} {force : Bool} {env : LinkEnv}

theorem ensureGatewayResponder_children :
    Spec (Children gw.isLocal dns f) (ensureGatewayResponder gw e)
      (fun _ => Children gw.isLocal dns (withComponent gw .responder f))
      (Within gw.isLocal dns) := by
  refine withDirty_spec (fun _ _ h => h) (fun _ _ h => h) fun force => ?_
  refine (applyChild_children rfl).bind fun _ => (applyChild_children rfl).bind fun _ => ?_
  cases hlocal : gw.isLocal with
  | true =>
    refine (applyChild_children rfl).bind fun _ => (deleteChild_children rfl).bind fun _ => ?_
    refine (deleteChild_children rfl).bind fun _ => Spec.pure fun s hs => hs.of_eq fun c => ?_
    cases c <;> simp [withComponent, Child.component, wanted, hlocal]
  | false =>
    refine (applyChild_children rfl).bind fun _ => (deleteChild_children rfl).bind fun _ => ?_
    refine (applyOrDelete_children rfl).bind fun _ => ?_
    split
    · exact Spec.fail fun s hs => hs.within
    · refine Spec.pure fun s hs => hs.of_eq fun c => ?_
      cases c <;> simp [withComponent, Child.component, wanted, hlocal]

theorem applyWorkload_children (hid : gw.isLocal = true → 0 < gw.linkID) :
    Spec (Children gw.isLocal dns f) (applyWorkload env gw force)
      (fun _ => Children gw.isLocal dns (withComponent gw .workload f))
      (Within gw.isLocal dns) := by
  refine Spec.given (fun _ hs => hs.2) fun hf => ?_
  unfold applyWorkload
  -- the children of the other policy are absent before and after
  cases hlocal : gw.isLocal with
  | true =>
    have hident : gw.linkIdentityOf.isSome := by
      have hpos : ¬ gw.linkID ≤ 0 := Int32.not_le.mpr (hid hlocal)
      simp [GatewayObject.linkIdentityOf, hlocal, hpos]
    obtain ⟨ident, hident⟩ := Option.isSome_iff_exists.mp hident
    rw [hident]
    rw [hlocal] at hf
    refine (applyChild_children rfl).bind fun _ => (applyChild_children rfl).post fun _ s hs =>
      hs.of_eq fun c => ?_
    cases c <;> simp [withComponent, Child.component, wanted, hlocal,
      hf _ (rfl : Child.foreign true dns .linkNetworkPolicy = true),
      hf _ (rfl : Child.foreign true dns .linkDeployment = true),
      hf _ (rfl : Child.foreign true dns .linkPodDisruptionBudget = true)]
  | false =>
    have hident : gw.linkIdentityOf = none := by simp [GatewayObject.linkIdentityOf, hlocal]
    rw [hident]
    rw [hlocal] at hf
    refine (applyChild_children rfl).bind fun _ => (applyChild_children rfl).bind fun _ => ?_
    refine (applyOrDelete_children rfl).post fun _ s hs => hs.of_eq fun c => ?_
    cases c <;> simp [withComponent, Child.component, wanted, hlocal,
      hf _ (rfl : Child.foreign false dns .linkClusterRoleBinding = true),
      hf _ (rfl : Child.foreign false dns .linkDaemonSet = true)]

theorem applyConfigMap_children {rc : RuntimeConfig} :
    Spec (Children gw.isLocal dns f) (applyConfigMap objectHash env rc force)
      (fun _ s => Children gw.isLocal dns f s ∧ s.linkConfigMap.isSome)
      (Within gw.isLocal dns) := by
  refine (applyConfigMap_spec (Q := fun s => Children gw.isLocal dns f s ∧ s.linkConfigMap.isSome)
    ?_ ?_).orElse fun s hs => hs.elim Children.within fun h => h.1.within
  · exact fun s cm hs hcm _ => ⟨hs, by rw [hcm]; rfl⟩
  · exact fun s hs => ⟨hs, rfl⟩

theorem ensureLink_children {rc : RuntimeConfig} (hid : gw.isLocal = true → 0 < gw.linkID) :
    Spec (Children gw.isLocal dns f) (ensureLink objectHash env gw rc)
      (fun _ s => Children gw.isLocal dns (withComponent gw .workload (withComponent gw .access f))
        s ∧ s.linkConfigMap.isSome)
      (Within gw.isLocal dns) := by
  refine withDirty_spec (fun _ _ h => h) (fun _ _ h => h) fun force => ?_
  refine (applyChild_children rfl).bind fun _ => (applyChild_children rfl).bind fun _ => ?_
  refine Spec.bind (Q := fun _ => Children gw.isLocal dns (withComponent gw .access f))
    ((applyChild_children rfl).post fun _ s hs => hs.of_eq fun c => ?_) fun _ =>
      applyConfigMap_children.bind fun _ => ?_
  · cases c <;> simp [withComponent, Child.component, wanted]
  · have hkept : Spec (fun s => s.linkConfigMap.isSome) (applyWorkload env gw force) _ _ :=
      applyWorkload_frame fun _ _ h => h
    exact ((applyWorkload_children hid).and hkept).orElse fun _ h => h.1

theorem ensureDNSEndpoint_children (hdns : wanted gw address .dnsEndpoint = true → dns = true) :
    Spec (Children gw.isLocal dns f) (ensureDNSEndpoint gw e address)
      (fun _ => Children gw.isLocal dns
        (Function.update f .dnsEndpoint (f .dnsEndpoint || wanted gw address .dnsEndpoint)))
      (Within gw.isLocal dns) := by
  unfold ensureDNSEndpoint
  split
  · rename_i hnone
    have hwanted : wanted gw address .dnsEndpoint = false := by
      simpa [wanted, or_iff_not_imp_left] using hnone
    rw [hwanted, Bool.or_false, Function.update_eq_self]
    exact Spec.pure fun s hs => hs
  · rename_i hsome
    have hwanted : wanted gw address .dnsEndpoint = true := by
      simpa [wanted, not_or] using hsome
    rw [hwanted, Bool.or_true]
    refine (write_spec ?_).orElse fun s hs => hs.elim Children.within Children.within
    rintro s ⟨rfl, hf⟩
    exact ⟨existing_setChild s _ _, hf.update _ (by rw [Child.foreign, hdns hwanted]; rfl) true⟩

/-- The children after a pass that is not cut short: those of the spec, and a DNSEndpoint that was
there before. -/
def afterPass (gw : GatewayObject) (address : String) (f : Child → Bool) : Child → Bool := fun c =>
  wanted gw address c || (f c && c == .dnsEndpoint)

theorem linkPass_children {valid : List ForwardBackend} {observed : CompositeStatus}
    {result : Option Result} (hid : gw.isLocal = true → 0 < gw.linkID)
    (hwanted : wanted gw observed.address .dnsEndpoint = true → dns = true) :
    Spec (Children gw.isLocal dns f) (linkPass gw e objectHash valid observed result)
      (fun p s => p = .full ∧ Children gw.isLocal dns (afterPass gw observed.address f) s ∧
        s.linkConfigMap.isSome)
      (Within gw.isLocal dns) := by
  refine Spec.bind (Q := fun _ => Children gw.isLocal dns f) ((fleetPeersOf_spec result).weaken
    (fun _ h => h) (fun _ _ h => h.1) fun _ h => h.within) fun peers => ?_
  refine (singlePeerKey_frame.orElse fun _ h => h.within).bind fun key => ?_
  refine ensureGatewayResponder_children.mapErr.bind fun target => ?_
  refine (Spec.mapErr (Spec.lift (fun _ _ _ h => h) fun _ h => h.within)).bind fun responders => ?_
  refine (listLinkPods_frame.orElse fun _ h => h.within).bind fun _ => ?_
  refine (ensureLink_children hid).mapErr.bind fun _ => ?_
  refine Spec.bind (Q := fun _ s => Children gw.isLocal dns (afterPass gw observed.address f) s ∧
    s.linkConfigMap.isSome) (Spec.mapErr (((ensureDNSEndpoint_children hwanted).and
      (ensureDNSEndpoint_frame (fun _ _ h => h) observed.address)).weaken (fun _ h => h)
        (fun _ s hs => ⟨hs.1.of_eq fun c => ?_, hs.2⟩) fun _ h => h.1)) fun _ => ?_
  · cases c <;> simp [withComponent, Child.component, afterPass, wanted, Bool.or_comm]
  · have hafter : ∀ s, Children gw.isLocal dns (afterPass gw observed.address f) s ∧
        s.linkConfigMap.isSome → Within gw.isLocal dns s := fun s h => h.1.within
    refine (serve_frame.mapErr.orElse hafter).bind fun _ => ?_
    refine ((mirrorStatusWithForwards_spec fun s hs => hs).orElse
      fun s hs => hs.elim (hafter s) (hafter s)).bind fun _ => ?_
    exact Spec.pure fun s hs => ⟨rfl, hs⟩

/-- **The children after a pass that is not cut short.** -/
theorem fullPass_children {valid : List ForwardBackend} {eligible : List String}
    {observed : CompositeStatus} (hid : gw.isLocal = true → 0 < gw.linkID)
    (hwanted : wanted gw observed.address .dnsEndpoint = true → dns = true) :
    Spec (Children gw.isLocal dns f) (fullPass gw e cfg objectHash eligible valid observed)
      (fun p s => p = .full ∧ Children gw.isLocal dns (afterPass gw observed.address f) s ∧
        s.linkConfigMap.isSome)
      (Within gw.isLocal dns) := by
  refine Spec.bind (Q := fun _ => Children gw.isLocal dns f) ?_ fun _ => ?_
  · exact Spec.mapErr (zoom_rule fun s hs t _ => ⟨fun _ _ _ => hs, fun _ _ _ => hs.within⟩)
  refine (serve_frame.mapErr.orElse fun _ h => h.within).bind fun _ => ?_
  refine ((memberResult_frame (fun _ _ _ _ h => h) _ _).orElse fun _ h => h.within).bind
    fun result => ?_
  exact Spec.bind (Q := fun _ => Children gw.isLocal dns f) ((applyComposite_spec
    (fun s applied hs _ => hs) _ _).orElse fun s hs => hs.elim Children.within Children.within)
    fun _ => linkPass_children hid hwanted

/-! ## A pass -/

/-- The address a pass reads: none before there is a composite. -/
def GatewayState.addressRead (s : GatewayState) (e : PassEnv publicKeyOf) : String :=
  if s.composite.isSome then e.observed.address else ""

/-- The obligations of a pass from `s₀`. -/
theorem passRule_children {s₀ : GatewayState} (h₀ : WithinPolicy gw.isLocal dns s₀.existing)
    (hdns : wanted gw (s₀.addressRead e) .dnsEndpoint = true → dns = true) :
    PassRule gw e cfg objectHash
      (fun s => s.existing = s₀.existing ∧ s.composite = s₀.composite)
      (fun s => WithinPolicy gw.isLocal dns s.existing)
      (fun p s => WithinPolicy gw.isLocal dns s.existing ∧ (p = .full →
        s.existing = afterPass gw (s₀.addressRead e) s₀.existing ∧ s.linkConfigMap.isSome)) where
  linkID := fun _ _ hs _ => hs
  finalizer := fun _ hs _ => ⟨hs.1 ▸ h₀, fun h => nomatch h⟩
  invalid := fun _ _ hs _ _ => ⟨hs.1 ▸ h₀, fun h => nomatch h⟩
  exhausted := fun _ hs _ _ => ⟨hs.1 ▸ h₀, fun h => nomatch h⟩
  idle := fun _ hs _ => ⟨hs.1 ▸ h₀, fun h => nomatch h⟩
  overCapacity := by
    intro id valid _ _ _
    refine overCapacityPass_spec (fun s hs _ => ⟨hs.1.1 ▸ h₀, fun h => nomatch h⟩)
      (fun s c applied hs _ _ => ⟨?_, fun h => nomatch h⟩) (fun s hs => hs.1.1 ▸ h₀)
        fun s hs => hs.1
    exact hs.1.1 ▸ h₀
  full := by
    rintro id valid eligible observed - - - hlocal s ⟨⟨hexisting, hcomposite⟩, -, -, rfl⟩
    have hobserved : (if s.composite.isSome then e.observed else CompositeStatus.zero).address =
        s₀.addressRead e := by
      rw [hcomposite, GatewayState.addressRead]
      split <;> rfl
    have hwanted : wanted { gw with linkID := id }
        (if s.composite.isSome then e.observed else CompositeStatus.zero).address .dnsEndpoint =
          true → dns = true := by
      rw [hobserved]
      exact hdns
    have hfull : Spec _ (fullPass { gw with linkID := id } e cfg objectHash eligible valid _) _ _ :=
      fullPass_children (f := s₀.existing) hlocal hwanted
    refine hfull.post (fun p s hs => ⟨hs.2.1.within, fun _ => ?_⟩) s
      ⟨hexisting, h₀⟩
    rw [← hobserved]
    exact ⟨hs.2.1.1, hs.2.2⟩
  before := fun s hs => hs.1 ▸ h₀
  after := fun p s hs => hs.1

/-- **The step lemma.** -/
theorem withinPolicy_pass {s : GatewayState} (h : WithinPolicy gw.isLocal dns s.existing)
    (hdns : wanted gw (s.addressRead e) .dnsEndpoint = true → dns = true) :
    WithinPolicy gw.isLocal dns (reconcileGatewayPass gw e cfg objectHash s).2.existing :=
  ((passRule_children h hdns).spec.post fun _ _ h => h.1).state
    ⟨rfl, rfl⟩

/-- The children after a pass that was not cut short. -/
theorem pass_existing {s s' : GatewayState} (h : WithinPolicy gw.isLocal true s.existing)
    (hpass : reconcileGatewayPass gw e cfg objectHash s = (.ok .full, s')) :
    s'.existing = afterPass gw (s.addressRead e) s.existing ∧ s'.linkConfigMap.isSome :=
  (((passRule_children h fun _ => rfl).spec s ⟨rfl, rfl⟩).1 .full s' hpass).2 rfl

/-! ## Runs -/

/-- The policy of a Gateway never changes, so the other policy's children never exist. -/
theorem withinPolicy_run {gw₀ : GatewayObject} {records : World}
    {xs : List (GatewayStep publicKeyOf)}
    (h : Guarded (GatewayStep.next cfg objectHash) (fun _ x => x.Admissible gw₀)
      (.created records) xs) :
    WithinPolicy gw₀.isLocal true
      (replay (GatewayStep.next cfg objectHash) (.created records) xs).existing := by
  refine run_invariant (I := fun s => WithinPolicy gw₀.isLocal true s.existing)
    (fun _ _ _ _ _ h => h) (fun gw' e s hsame hs => ?_) h fun _ _ => rfl
  rw [← hsame.isLocal] at hs ⊢
  exact withinPolicy_pass hs fun _ => rfl

/-- A pass of a Gateway created with this spec and given this address. -/
def AsCreated (gw : GatewayObject) (address : String) (gw' : GatewayObject)
    (e : PassEnv publicKeyOf) : Prop :=
  gw' = gw ∧ e.observed.address = address

theorem withinPolicy_asCreated {records : World} {xs : List (GatewayStep publicKeyOf)}
    (h : Guarded (GatewayStep.next cfg objectHash) (fun _ x => x.Each (AsCreated gw address))
      (.created records) xs) :
    WithinPolicy gw.isLocal (wanted gw address .dnsEndpoint)
      (replay (GatewayStep.next cfg objectHash) (.created records) xs).existing := by
  refine run_invariant
    (I := fun s => WithinPolicy gw.isLocal (wanted gw address .dnsEndpoint) s.existing)
    (fun _ _ _ _ _ h => h) ?_ h fun _ _ => rfl
  rintro gw' e s ⟨rfl, rfl⟩ hs
  refine withinPolicy_pass hs fun hread => ?_
  -- a pass before the composite reads no address, and then calls for no DNSEndpoint
  rw [GatewayState.addressRead] at hread
  split at hread
  · exact hread
  · simp [wanted] at hread

theorem afterPass_eq_wanted_iff :
    afterPass gw address f = wanted gw address ↔
      f .dnsEndpoint = false ∨ wanted gw address .dnsEndpoint = true := by
  constructor
  · intro h
    have hdns := congrFun h .dnsEndpoint
    cases hf : f .dnsEndpoint with
    | false => exact .inl rfl
    | true =>
      rw [afterPass, hf] at hdns
      simpa using hdns.symm
  · rintro h
    funext c
    by_cases hc : c = .dnsEndpoint
    · subst hc
      obtain h | h := h <;> simp [afterPass, h]
    · simp [afterPass, hc]

/-- **Children follow the spec, up to the DNSEndpoint**: after a run of admissible edits and passes
that ends in a pass that is not cut short, the children that exist are those of a Gateway that was
created with the present spec and given the same address, if and only if there was no DNSEndpoint
before the pass, or there are hostnames and an address. -/
theorem children_as_created_iff {gw₀ : GatewayObject} (records records' : World)
    (xs ys : List (GatewayStep publicKeyOf)) (gw : GatewayObject) (e e' : PassEnv publicKeyOf)
    (hrun : Guarded (GatewayStep.next cfg objectHash) (fun _ x => x.Admissible gw₀)
      (.created records) (xs ++ [.pass gw e])) (s t s' t' : GatewayState)
    (hs : replay (GatewayStep.next cfg objectHash) (.created records) xs = s)
    (hpass : reconcileGatewayPass gw e cfg objectHash s = (.ok .full, s'))
    (hcreated : Guarded (GatewayStep.next cfg objectHash)
      (fun _ x => x.Each (AsCreated gw (s.addressRead e))) (.created records')
        (ys ++ [.pass gw e']))
    (ht : replay (GatewayStep.next cfg objectHash) (.created records') ys = t)
    (haddress : t.addressRead e' = s.addressRead e)
    (hpass' : reconcileGatewayPass gw e' cfg objectHash t = (.ok .full, t')) :
    (s'.existing = t'.existing ∧ s'.linkConfigMap.isSome = t'.linkConfigMap.isSome) ↔
      s.existing .dnsEndpoint = false ∨ wanted gw (s.addressRead e) .dnsEndpoint = true := by
  have hsame : SameGateway gw₀ gw := hrun.at
  have hs' : s'.existing = afterPass gw (s.addressRead e) s.existing ∧ s'.linkConfigMap.isSome := by
    have hwithin := withinPolicy_run hrun.left
    rw [← hsame.isLocal, hs] at hwithin
    exact pass_existing hwithin hpass
  have hwithin := withinPolicy_asCreated hcreated.left
  rw [ht] at hwithin
  have ht' : t'.existing = wanted gw (s.addressRead e) ∧ t'.linkConfigMap.isSome := by
    have hafter := ((passRule_children hwithin (by rw [haddress]; exact id)).spec t ⟨rfl, rfl⟩).1
      .full t' hpass'
    obtain ⟨hexisting, hcm⟩ := hafter.2 rfl
    refine ⟨?_, hcm⟩
    rw [hexisting, haddress, afterPass_eq_wanted_iff]
    cases hwanted : wanted gw (s.addressRead e) .dnsEndpoint with
    | true => exact .inr rfl
    | false => exact .inl (hwithin .dnsEndpoint (by rw [Child.foreign, hwanted]; rfl))
  rw [hs'.1, ht'.1, hs'.2, ht'.2, afterPass_eq_wanted_iff]
  exact and_iff_left rfl

end

section

/-- The Gateway with a hostname. -/
def namedGateway : GatewayObject := { webGateway with dnsHostnames := ["www.example"] }

/-- A second hostname is added. -/
def renamedGateway : GatewayObject :=
  { webGateway with dnsHostnames := ["www.example", "web.example"] }

/-- A pass that is told the address. -/
def addressedEnv : PassEnv derive :=
  .calm (webCluster (some "true")) { CompositeStatus.zero with address := "203.0.113.7" }

/-- A pass of an operator that has just started, which applies every object again. -/
def freshPass (gw : GatewayObject) : List (GatewayStep derive) := [.restart, .pass gw addressedEnv]

/-- The finalizer, the composite, and then the children with the address. -/
def threePasses (gw : GatewayObject) : List (GatewayStep derive) :=
  freshPass gw ++ freshPass gw ++ freshPass gw ++ [.restart]

/-- The state after a run. -/
def stateAfter (xs : List (GatewayStep derive)) : GatewayState :=
  replay (GatewayStep.next calmConfig id) (.created emptyWorld) xs

/-- The state after one more pass. -/
def passAfter (xs : List (GatewayStep derive)) (gw : GatewayObject) : GatewayState :=
  (reconcileGatewayPass gw addressedEnv calmConfig id (stateAfter xs)).2

theorem guarded_threePasses {G : GatewayObject → PassEnv derive → Prop} {gw : GatewayObject}
    (h : G gw addressedEnv) {gw' : GatewayObject} (h' : G gw' addressedEnv) :
    Guarded (GatewayStep.next calmConfig id) (fun _ x => x.Each G) (.created emptyWorld)
      (threePasses gw ++ [.pass gw' addressedEnv]) :=
  .cons trivial (.cons h (.cons trivial (.cons h (.cons trivial (.cons h (.cons trivial
    (.single h')))))))

/-- A fourth pass over a second hostname leaves the children of a Gateway created with both. -/
theorem children_as_created_iff_renamed :
    (passAfter (threePasses namedGateway) renamedGateway).existing =
      (passAfter (threePasses renamedGateway) renamedGateway).existing := by
  have haddress : (stateAfter (threePasses namedGateway)).addressRead addressedEnv =
      "203.0.113.7" := by decide +kernel
  have hnamed : SameGateway webGateway namedGateway :=
    ⟨rfl, rfl, rfl, rfl, rfl, rfl, fun h => nomatch h⟩
  have hrenamed : SameGateway webGateway renamedGateway :=
    ⟨rfl, rfl, rfl, rfl, rfl, rfl, fun h => nomatch h⟩
  refine ((children_as_created_iff emptyWorld emptyWorld (threePasses namedGateway)
    (threePasses renamedGateway) renamedGateway addressedEnv addressedEnv
    (guarded_threePasses hnamed hrenamed) (stateAfter (threePasses namedGateway))
    (stateAfter (threePasses renamedGateway)) _ _ rfl (eq_mk_of_fst (by decide +kernel)) ?_ rfl
    (by decide +kernel) (eq_mk_of_fst (by decide +kernel))).mpr (.inr (by decide +kernel))).1
  · rw [haddress]
    exact guarded_threePasses ⟨rfl, rfl⟩ ⟨rfl, rfl⟩

/-- **The hostnames are removed and the DNSEndpoint stays**; a Gateway created
without them has none. -/
theorem dnsEndpoint_outlives_hostnames :
    SameGateway webGateway namedGateway ∧
    (reconcileGatewayPass webGateway addressedEnv calmConfig id
      (stateAfter (threePasses namedGateway))).1 = .ok .full ∧
    (reconcileGatewayPass webGateway addressedEnv calmConfig id
      (stateAfter (threePasses webGateway))).1 = .ok .full ∧
    (stateAfter (threePasses namedGateway)).addressRead addressedEnv =
      (stateAfter (threePasses webGateway)).addressRead addressedEnv ∧
    (passAfter (threePasses namedGateway) webGateway).existing .dnsEndpoint = true ∧
    (passAfter (threePasses webGateway) webGateway).existing .dnsEndpoint = false := by
  refine ⟨⟨rfl, rfl, rfl, rfl, rfl, rfl, fun h => nomatch h⟩, ?_, ?_, ?_, ?_, ?_⟩ <;> decide +kernel

end

end WireguardGateway.Controller

import WireguardGateway.Controller.Runs

/-!
# A pass without a snapshot keeps the membership

A load-balanced Gateway's membership stands in four places: the composite's roster and target size,
the peers of the link ConfigMap, the members of the status, and the records. A pass that gets no
usable snapshot (no credentials, a failed `List`, no name of the instance group yet, or replicas
over the capacity) has none to render and so renders the applied one: it decodes the roster and the
peers and encodes them again.

Results, over every run of a load-balanced Gateway:
* `membershipInv_pass`: the composite is one the operator encoded, with a target
  size within the capacity;
* **`membership_kept`**: the target size is within the capacity after every run, and a pass in which
  no call of `List` succeeds leaves all four as they were.
-/

namespace WireguardGateway.Controller

open Lib Gcp Prog

/-! ## Membership -/

/-- The roster and the target size of the composite, if there is one. -/
def State.membership (s : State) : Option (Option (List Json) × Option Int) :=
  s.composite.map fun c => (c.members, c.targetSize)

/-- The four places carry the same membership. -/
structure SameMembers (s s' : State) : Prop where
  composite : s'.membership = s.membership
  peers : s'.linkPeers = s.linkPeers
  status : s'.members = s.members
  records : s'.records = s.records

theorem Composite.SameMembership.state {c c' : Composite} (h : c.SameMembership c') {s s' : State}
    (hs : s.composite = some c) (hs' : s'.composite = some c') : s'.membership = s.membership := by
  rw [State.membership, State.membership, hs, hs', Option.map_some, Option.map_some, h.1, h.2]

theorem linkPeers_congr {s t : State} (h : s.linkConfigMap = t.linkConfigMap) :
    s.linkPeers = t.linkPeers := by
  rw [State.linkPeers, h, State.linkPeers]

/-- The subnet of a load-balanced Gateway, and with it its capacity, never changes. -/
theorem SameGateway.capacity {gw gw' : GatewayObject} (h : SameGateway gw gw')
    (hlb : gw.loadBalanced = true) :
    capacity gw'.effectiveWGSubnet = capacity gw.effectiveWGSubnet := by
  rw [GatewayObject.effectiveWGSubnet, (h.tunnel hlb).1, GatewayObject.effectiveWGSubnet]

section

variable {publicKeyOf : String → String} {gw : GatewayObject} {e : PassEnv publicKeyOf}
  {cfg : Config} {objectHash : String → String} {valid : List ForwardBackend}

/-- The result of the member pass of a fleet. -/
theorem memberResult_fleet (hlb : gw.loadBalanced = true) (eligible : List String)
    (observed : CompositeStatus) (s₀ : GatewayState) :
    Spec (· = s₀) (memberResult gw e cfg eligible observed)
      (fun r s => MembersResult (gw.recordGateway eligible) gw.replicas s₀.toState r s.toState)
      fun _ => True := by
  unfold memberResult
  rw [if_pos hlb]
  refine Spec.mapErr fun s hs => ?_
  refine Spec.bind (zoom_rule (P := (· = s₀)) (E := fun _ => True)
    (Q := fun r s => MembersResult (gw.recordGateway eligible) gw.replicas s₀.toState r.1 s.toState)
    fun s hs => ?_) (fun r => Spec.pure fun _ h => h) s hs
  subst hs
  exact reconcileMembers_result gw.replicas s.toState

/-- The composite, the ConfigMap and the status are as in `t`. -/
def SameObjects (t s : State) : Prop :=
  s.composite = t.composite ∧ s.linkConfigMap = t.linkConfigMap ∧ s.members = t.members

/-- The composite exists, or the replicas exceed the capacity. -/
def Retains (gw : GatewayObject) (t : State) : Prop := t.composite.isSome ∨ gw.OverCapacity

/-- The result is unusable, so the membership is the one of `t`, in the ConfigMap `cm` says so. -/
def Carries (cm : State → Prop) (t : State) (r : Option Result) (s : State) : Prop :=
  (∃ x, r = some x ∧ x.unusable = true) ∧ s.membership = t.membership ∧ cm s ∧
    s.members = t.members ∧ s.records = t.records

/-- What holds after the composite is applied. -/
def Reapplied (cm : State → Prop) (capacity : Nat) (gw : GatewayObject) (t : State)
    (r : Option Result) (s : GatewayState) : Prop :=
  CompositeInv capacity s.toState ∧ (Retains gw t → Fetched t s.toState ∨ Carries cm t r s.toState)

section

variable {t : State} {r : Option Result} {eligible : List String}

theorem MembersResult.targetSize {s : State}
    (h : MembersResult (gw.recordGateway eligible) gw.replicas t r s)
    (hfits : gw.replicas.toInt ≤ capacity gw.effectiveWGSubnet)
    (hinv : CompositeInv (capacity gw.effectiveWGSubnet) t) :
    ∀ x, r = some x → ∃ n : Int32, x.targetSize = n.toInt ∧
      n.toInt ≤ capacity gw.effectiveWGSubnet := by
  rintro x rfl
  obtain ⟨hnone, -⟩ | ⟨x', hx, ⟨-, hsize, -⟩ | ⟨-, -, hsize⟩⟩ := h
  · cases hnone
  · cases hx
    rw [hsize]
    exact hinv.targetSize
  · cases hx
    refine ⟨gw.replicas, ?_, hfits⟩
    rw [hsize, computeTargetSize]
    exact if_pos hfits

/-- The composite is applied with the result of the member pass. -/
theorem reapplied_composite (hlb : gw.loadBalanced = true)
    (hfits : gw.replicas.toInt ≤ capacity gw.effectiveWGSubnet)
    (hinv : CompositeInv (capacity gw.effectiveWGSubnet) t) {s : GatewayState}
    {forwards : List ForwardSpec} {applied : Option Result} (hkept : SameObjects t s.toState)
    (hresult : MembersResult (gw.recordGateway eligible) gw.replicas t r s.toState)
    (happlied : AppliedRoster r s.toState applied) :
    Reapplied (·.linkConfigMap = t.linkConfigMap) (capacity gw.effectiveWGSubnet) gw t r
      { s with composite := some (compositeOf gw forwards applied) } := by
  refine ⟨fun c hc => ?_, fun hretains => ?_⟩
  · cases hc
    exact applied_compositeOf hlb (fun _ => hfits) (hresult.targetSize hfits hinv) happlied
  · have hsome : t.composite.isSome :=
      hretains.resolve_right fun hover => absurd hover.2 (not_lt.mpr hfits)
    obtain ⟨c, hc⟩ := Option.isSome_iff_exists.mp hsome
    obtain ⟨-, hnone⟩ | ⟨x, rfl, ⟨hunusable, hsize, hrecords⟩ | ⟨-, hfetched, -⟩⟩ := hresult
    · rw [hc] at hnone
      cases hnone
    · have hcs : s.composite = some c := hkept.1.trans hc
      have hread : c.targetSize = some x.targetSize := by
        rw [hsize]
        exact (hinv c hc).read hc
      have hsame : c.SameMembership (compositeOf gw forwards applied) :=
        sameMembership_retained hlb hunusable (hinv c hc) hread hcs happlied
      exact .inr ⟨⟨x, rfl, hunusable⟩, hsame.state hc rfl, hkept.2.1, hkept.2.2, hrecords⟩
    · exact .inl hfetched

/-- The ConfigMap rendered around the peers of an unusable result has the peers it had. -/
theorem linkPeers_rendered (hlb : gw.loadBalanced = true) {x : Result} (hx : x.unusable = true)
    {s : State} {peers : List LinkPeer} (h : FleetPeers gw (some x) s peers) {address key : String}
    {responders : List (String × String)} {target : String} :
    ({ s with linkConfigMap := some (.ofConfig objectHash
      (buildLinkConfigMap gw address valid key peers responders target)) } : State).linkPeers =
      s.linkPeers := by
  have hpeers : s.linkPeers = some peers := by
    have hread := h hlb
    simp only [Option.filter, hx, Bool.not_true, Bool.false_eq_true, if_false] at hread
    exact hread
  rw [hpeers, State.linkPeers]
  simp [LinkConfigMap.decode_ofConfig, buildLinkConfigMap, hlb]

/-- What a pass leaves. -/
def KeepsMembership (capacity : Nat) (gw : GatewayObject) (t : State) (s : GatewayState) : Prop :=
  CompositeInv capacity s.toState ∧ (Retains gw t → Fetched t s.toState ∨ SameMembers t s.toState)

theorem linkPass_membership (hlb : gw.loadBalanced = true) {observed : CompositeStatus}
    (cap : Nat) : Spec (Reapplied (·.linkConfigMap = t.linkConfigMap) cap gw t r)
      (linkPass gw e objectHash valid observed r) (fun _ => KeepsMembership cap gw t)
      (fun s => CompositeInv cap s.toState) := by
  refine linkPass_spec (Q := Reapplied (·.linkPeers = t.linkPeers) cap gw t r)
    ⟨fun _ _ h => h, fun _ _ h => h, fun _ _ h => h⟩ ⟨fun _ _ h => h, fun _ _ h => h,
      fun _ _ h => h⟩
    (fun _ _ h => h) ?_ ?_ ?_ (fun _ h => h.1) (fun _ h => h.1) fun _ h => h.1
  · -- the ConfigMap stands
    rintro s cm rc ⟨hinv, hkept⟩ - - -
    exact ⟨hinv, fun hretains => (hkept hretains).imp id fun h =>
      ⟨h.1, h.2.1, linkPeers_congr h.2.2.1, h.2.2.2⟩⟩
  · -- it is written, with the peers that were read from it
    rintro s key peers responders target ⟨hinv, hkept⟩ hpeers
    refine ⟨hinv, fun hretains => (hkept hretains).imp id fun h => ?_⟩
    obtain ⟨⟨x, rfl, hx⟩, hmembership, hcm, hmembers, hrecords⟩ := h
    refine ⟨⟨x, rfl, hx⟩, hmembership, ?_, hmembers, hrecords⟩
    exact (linkPeers_rendered hlb hx hpeers).trans (linkPeers_congr hcm)
  · rintro s ⟨hinv, hkept⟩
    refine ⟨hinv, fun hretains => (hkept hretains).imp id fun h => ?_⟩
    obtain ⟨⟨x, rfl, hx⟩, hmembership, hpeers, hmembers, hrecords⟩ := h
    refine ⟨hmembership, hpeers, ?_, hrecords⟩
    simp only [mirroredMembers, hlb, if_true, hx, hmembers]

theorem fullPass_membership (hlb : gw.loadBalanced = true)
    (hfits : gw.replicas.toInt ≤ capacity gw.effectiveWGSubnet)
    (hinv : CompositeInv (capacity gw.effectiveWGSubnet) t) {observed : CompositeStatus} :
    Spec (·.toState = t) (fullPass gw e cfg objectHash eligible valid observed)
      (fun _ => KeepsMembership (capacity gw.effectiveWGSubnet) gw t)
      (fun s => CompositeInv (capacity gw.effectiveWGSubnet) s.toState) := by
  have hbefore : ∀ s : GatewayState, s.toState = t →
      CompositeInv (capacity gw.effectiveWGSubnet) s.toState := fun s hs => hs ▸ hinv
  have hkept : ∀ s : GatewayState, SameObjects t s.toState →
      CompositeInv (capacity gw.effectiveWGSubnet) s.toState := fun s hs c hc =>
    hinv c (hs.1 ▸ hc)
  refine Spec.bind (Q := fun _ => (·.toState = t)) ?_ fun _ => ?_
  · exact Spec.mapErr (zoom_rule fun s hs t _ => ⟨fun _ _ _ => hs, fun _ _ _ => hbefore s hs⟩)
  refine (serve_frame.mapErr.orElse hbefore).bind fun _ => ?_
  refine Spec.bind (Q := fun r s => MembersResult (gw.recordGateway eligible) gw.replicas t r
    s.toState ∧ SameObjects t s.toState) ?_ fun result => ?_
  · rintro s rfl
    exact ((memberResult_fleet hlb eligible observed s).and (memberResult_frame
      (P := fun s' => SameObjects s.toState s'.toState) (fun _ _ _ _ h => h) eligible observed)
      ).weaken (fun _ h => h) (fun _ _ h => h) (fun s' h => hkept s' h.2) s ⟨rfl, rfl, rfl, rfl⟩
  · refine Spec.bind (Q := fun _ => Reapplied (·.linkConfigMap = t.linkConfigMap) _ gw t result)
      ((applyComposite_spec ?_ _ _).orElse ?_) fun _ => linkPass_membership hlb _
    · exact fun s applied hs happlied =>
        reapplied_composite hlb hfits hinv hs.2 hs.1 happlied
    · rintro s (hs | hs)
      · exact hkept s hs.2
      · exact hs.1

end

/-- Above the capacity the composite keeps its membership, and nothing else is written. -/
theorem overCapacityPass_membership (hlb : gw.loadBalanced = true) {t : State}
    (hinv : CompositeInv (capacity gw.effectiveWGSubnet) t) (valid : List ForwardBackend) :
    Spec (·.toState = t) (overCapacityPass gw e valid)
      (fun _ => KeepsMembership (capacity gw.effectiveWGSubnet) gw t)
      (fun s => CompositeInv (capacity gw.effectiveWGSubnet) s.toState) := by
  have hsame : ∀ s : GatewayState, s.toState = t →
      KeepsMembership (capacity gw.effectiveWGSubnet) gw t s := by
    rintro s rfl
    exact ⟨hinv, fun _ => .inr ⟨rfl, rfl, rfl, rfl⟩⟩
  refine overCapacityPass_spec (fun s hs _ => hsame s hs) ?_ (fun s hs => (hsame s hs).1)
    fun s hs => hs.1
  rintro s c applied rfl hc happlied
  refine ⟨fun c' hc' => ?_, fun _ => .inr ?_⟩
  · cases hc'
    have hsize : ∀ r, some (retained s.targetSize) = some r →
        ∃ t : Int32, r.targetSize = t.toInt ∧ t.toInt ≤ capacity gw.effectiveWGSubnet := by
      rintro r hr
      cases hr
      exact hinv.targetSize
    have hreplicas : some (retained s.targetSize) = none →
        gw.replicas.toInt ≤ capacity gw.effectiveWGSubnet := fun h => nomatch h
    exact applied_compositeOf hlb hreplicas hsize happlied
  · have hkept : c.SameMembership (compositeOf gw (valid.map (·.forward)) applied) :=
      sameMembership_retained hlb rfl (hinv c hc) ((hinv c hc).read hc) hc happlied
    exact ⟨hkept.state hc rfl, rfl, rfl, rfl⟩

/-- The obligations of a pass from `s₀`. -/
theorem passRule_membership (hlb : gw.loadBalanced = true) {s₀ : GatewayState}
    (hinv : CompositeInv (capacity gw.effectiveWGSubnet) s₀.toState) :
    PassRule gw e cfg objectHash (·.toState = s₀.toState)
      (fun s => CompositeInv (capacity gw.effectiveWGSubnet) s.toState)
      (fun _ => KeepsMembership (capacity gw.effectiveWGSubnet) gw s₀.toState) := by
  have hsame : ∀ s : GatewayState, s.toState = s₀.toState →
      KeepsMembership (capacity gw.effectiveWGSubnet) gw s₀.toState s := fun s hs => by
    refine ⟨hs ▸ hinv, fun _ => .inr ?_⟩
    rw [hs]
    exact ⟨rfl, rfl, rfl, rfl⟩
  exact {
    linkID := fun _ _ hs _ => hs
    finalizer := fun s hs _ => hsame _ hs
    invalid := fun s _ hs _ _ => hsame s hs
    exhausted := fun s hs _ _ => hsame s hs
    idle := fun s hs _ => hsame s hs
    overCapacity := by
      intro id valid _ _ _
      have hover := @overCapacityPass_membership _ { gw with linkID := id } e hlb s₀.toState
        hinv valid
      exact hover.pre fun s hs => hs.1
    full := by
      intro id valid eligible observed _ _ hover _
      have hfits : gw.replicas.toInt ≤ capacity gw.effectiveWGSubnet :=
        not_lt.mp fun h => hover ⟨hlb, h⟩
      have hfull := @fullPass_membership _ { gw with linkID := id } e cfg objectHash valid
        s₀.toState eligible hlb hfits hinv observed
      exact hfull.pre fun s hs => hs.1
    before := fun s hs => hs ▸ hinv
    after := fun _ s hs => hs.1 }

/-- **The step lemma.** -/
theorem membershipInv_pass (hlb : gw.loadBalanced = true) {s : GatewayState}
    (h : CompositeInv (capacity gw.effectiveWGSubnet) s.toState) :
    CompositeInv (capacity gw.effectiveWGSubnet)
      (reconcileGatewayPass gw e cfg objectHash s).2.toState :=
  ((passRule_membership hlb h).spec.post fun _ _ h => h.1).state
    (R := fun s' : GatewayState => CompositeInv (capacity gw.effectiveWGSubnet) s'.toState) rfl

theorem membershipInv_run {gw₀ : GatewayObject} (hlb : gw₀.loadBalanced = true) {records : World}
    {xs : List (GatewayStep publicKeyOf)}
    (h : Guarded (GatewayStep.next cfg objectHash) (fun _ x => x.Admissible gw₀)
      (.created records) xs) :
    CompositeInv (capacity gw₀.effectiveWGSubnet)
      (replay (GatewayStep.next cfg objectHash) (.created records) xs).toState := by
  refine run_invariant (I := fun s => CompositeInv (capacity gw₀.effectiveWGSubnet) s.toState)
    (fun _ _ _ _ _ h => h) (fun gw' e s hsame hs => ?_) h fun _ hc => nomatch hc
  rw [← hsame.capacity hlb] at hs ⊢
  exact membershipInv_pass (hsame.loadBalanced.trans hlb) hs

/-- **A pass without a snapshot keeps the membership**: after every run of a load-balanced
Gateway the target size is within the capacity of the subnet; and a pass that returns without
error and in which no call of `List` succeeded, over an existing composite or with replicas over
the capacity, leaves the roster, the target size, the link's peers, the members of the status
and the records as they were. -/
theorem membership_kept {gw₀ : GatewayObject} (hlb : gw₀.loadBalanced = true) (records : World)
    (xs : List (GatewayStep publicKeyOf))
    (hrun : Guarded (GatewayStep.next cfg objectHash) (fun _ x => x.Admissible gw₀)
      (.created records) xs) (s : GatewayState)
    (hs : replay (GatewayStep.next cfg objectHash) (.created records) xs = s) :
    (∀ c, s.composite = some c →
      ∃ n : Int, c.targetSize = some n ∧ n ≤ capacity gw₀.effectiveWGSubnet) ∧
    ∀ (gw : GatewayObject) (e : PassEnv publicKeyOf) (p : ReturnPath) (s' : GatewayState),
      SameGateway gw₀ gw → reconcileGatewayPass gw e cfg objectHash s = (.ok p, s') →
      ¬ Fetched s.toState s'.toState → (s.composite.isSome ∨ gw.OverCapacity) →
      SameMembers s.toState s'.toState := by
  have hinv := membershipInv_run hlb hrun
  rw [hs] at hinv
  refine ⟨fun c hc => ?_, fun gw e p s' hsame hpass hfetched hretains => ?_⟩
  · obtain ⟨n, hn, hle⟩ := (hinv c hc).targetSize
    exact ⟨n.toInt, hn, hle⟩
  · rw [← hsame.capacity hlb] at hinv
    have hkeeps := ((passRule_membership (hsame.loadBalanced.trans hlb) hinv).spec s rfl).1
      p s' hpass
    exact (hkeeps.2 hretains).resolve_left hfetched

end

section

/-- A fleet of two. -/
def fleetGateway : GatewayObject := { webGateway with loadBalanced := true, replicas := 2 }

/-- A pass whose call of `List` has this answer. -/
def listingEnv (instances : Except String (List ManagedInstance)) : PassEnv derive :=
  let calm := PassEnv.calm (webCluster (some "true")) { CompositeStatus.zero with migName := "mig" }
  { calm with
    members := { calm.members with
      client := .ok { managedInstances := instances
                      getInstance := fun _ _ _ => .ok (addressed 1 "203.0.113.1") } } }

/-- The finalizer is added, the composite is applied, and its member gets a
record and is rendered. -/
def fleetRun : List (GatewayStep derive) :=
  List.replicate 3 (.pass fleetGateway (listingEnv (.ok [instanceAs "a" .none (some 1)])))

def fleetState : GatewayState :=
  replay (GatewayStep.next calmConfig fun _ => "h") (.created emptyWorld) fleetRun

/-- The next pass, which cannot list the group. -/
def unlistedPass : Except String ReturnPath × GatewayState :=
  reconcileGatewayPass fleetGateway (listingEnv (.error "quota")) calmConfig (fun _ => "h")
    fleetState

/-- The member that is rendered stays so. -/
theorem membership_kept_unlisted :
    (fleetState.composite.bind (·.members)).map List.length = some 1 ∧
      SameMembers fleetState.toState unlistedPass.2.toState := by
  have hrun : Guarded (GatewayStep.next calmConfig fun _ => "h")
      (fun _ x => x.Admissible fleetGateway) (.created emptyWorld) fleetRun :=
    .cons (SameGateway.refl _) (.cons (SameGateway.refl _) (.single (SameGateway.refl _)))
  have hroster : (fleetState.composite.bind (·.members)).map List.length = some 1 := by
    decide +kernel
  have hcomposite : fleetState.composite.isSome = true := by decide +kernel
  obtain ⟨hpass, hcalls⟩ : unlistedPass.1 = .ok .full ∧
      ∀ c ∈ unlistedPass.2.listCalls.drop fleetState.listCalls.length, c.ok = false := by
    decide +kernel
  refine ⟨hroster, (membership_kept rfl emptyWorld fleetRun hrun fleetState rfl).2 fleetGateway
    (listingEnv (.error "quota")) .full unlistedPass.2 (SameGateway.refl _) (eq_mk_of_fst hpass) ?_
    (.inl hcomposite)⟩
  rintro ⟨c, hc, hok⟩
  exact Bool.false_ne_true ((hcalls c hc).symm.trans hok)

end

end WireguardGateway.Controller

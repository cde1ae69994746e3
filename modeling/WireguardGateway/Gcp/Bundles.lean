import WireguardGateway.Gcp.Single
import WireguardGateway.Gcp.Walk

/-!
# What a record keeps from its creation

A member's tunnel configuration (its key, its address, and what it is told about the link) is
written when its record is created; every later write overwrites mutable labels or deletes the
record. So a property of the configurations that every creation establishes holds of every record,
whatever the reads of the passes return and wherever they stop.

Results:
* `AllBundles.commit`: a guarded write keeps the property of all records of a Gateway;
* **`reconcile_bundles`**, **`reconcileSingle_bundles`**: a pass creates records with the
  configuration it is given, and keeps all others.
-/

namespace WireguardGateway.Gcp

open Lib Lib.Prog

/-- The tunnel configuration of a member. -/
structure MemberBundle where
  slot : Int
  privateKey : String
  tunnelAddress : String
  subnetPrefix : Int
  peerPublicKey : String
  peerAllowedIPs : String
  deriving DecidableEq, Repr

def Record.bundle (r : Record) : MemberBundle where
  slot := r.slot
  privateKey := r.privateKey
  tunnelAddress := r.tunnelAddress
  subnetPrefix := r.subnetPrefix
  peerPublicKey := r.peerPublicKey
  peerAllowedIPs := r.peerAllowedIPs

/-- Mutable labels carry nothing of the configuration. -/
theorem Record.relabel_bundle {labels : Labels} (r : Record) (h : ∀ l ∈ labels, l.1.isMutable) :
    (r.relabel labels).bundle = r.bundle ∧ (r.relabel labels).gatewayUID = r.gatewayUID := by
  induction labels generalizing r with
  | nil => exact ⟨rfl, rfl⟩
  | cons l ls ih =>
    obtain ⟨hbundle, huid⟩ := ih (r.setLabel l) fun l' hl' => h l' (List.mem_cons_of_mem _ hl')
    have hhead : (r.setLabel l).bundle = r.bundle ∧ (r.setLabel l).gatewayUID = r.gatewayUID := by
      have hl := h l List.mem_cons_self
      obtain ⟨l, v⟩ := l
      cases l <;> first | exact Bool.noConfusion hl | exact ⟨rfl, rfl⟩
    exact ⟨hbundle.trans hhead.1, huid.trans hhead.2⟩

/-- The configurations of all records of the Gateway with this uid satisfy `B`. -/
def AllBundles (uid : String) (B : MemberBundle → Prop) (s : Store) : Prop :=
  ∀ key r, s.lookup key = some r → r.gatewayUID = uid → B r.bundle

/-- Records are created with configurations that satisfy `B`, and only mutable
labels are overwritten. -/
def BundleGuard (uid : String) (B : MemberBundle → Prop) (_ : Store) : Write → Prop
  | .create _ rec => rec.gatewayUID = uid → B rec.bundle
  | .relabel _ labels => ∀ x ∈ labels, x.1.isMutable
  | .delete _ => True

section

variable {uid : String} {B : MemberBundle → Prop}

/-- **Guarded writes keep the property.** -/
theorem AllBundles.commit {s : Store} {x : Write} (h : AllBundles uid B s)
    (hx : BundleGuard uid B s x) : AllBundles uid B (s.commit x) := by
  intro key r hr huid
  by_cases hk : key = x.key
  · cases x with
    | create k rec =>
      obtain rfl : key = k := hk
      rw [Store.lookup_commit_create] at hr
      cases hr
      exact hx huid
    | relabel k labels =>
      obtain rfl : key = k := hk
      cases hfound : s.lookup key with
      | none =>
        simp only [Store.commit, hfound] at hr
        cases hr
      | some r₀ =>
        rw [Store.lookup_commit_relabel hfound] at hr
        cases hr
        obtain ⟨hbundle, huid'⟩ := r₀.relabel_bundle hx
        have hB := h key r₀ hfound (huid'.symm.trans huid)
        exact hbundle ▸ hB
    | delete k =>
      obtain rfl : key = k := hk
      rw [Store.lookup_commit_delete] at hr
      cases hr
  · rw [Store.lookup_commit_of_ne hk] at hr
    exact h key r hr huid

theorem AllBundles.appends {w w' : World} (h : AllBundles uid B w.store)
    (hw : World.Appends (BundleGuard uid B) w w') : AllBundles uid B w'.store :=
  hw.invariant (fun _ _ => AllBundles.commit) h

end

/-! ## A fleet -/

section

variable {g : Gateway} {e : Env} {B : MemberBundle → Prop}

/-- The configurations a pass of a fleet creates. -/
structure Gateway.Gives (g : Gateway) (b : MemberBundle) : Prop where
  address : slotAddress g.gatewayAddress g.eligibleAddresses b.slot = .ok b.tunnelAddress
  subnetPrefix : b.subnetPrefix = g.bundle.subnetPrefix
  peerPublicKey : b.peerPublicKey = g.bundle.peerPublicKey
  peerAllowedIPs : b.peerAllowedIPs = g.bundle.peerAllowedIPs

theorem Allocation.appends_bundles {snap : Snapshot} {occupied : List Int} {w₀ w : World}
    {done : List String} {new : List (String × Record)}
    (h : Allocation g snap occupied w₀ done new w) (hB : ∀ b, g.Gives b → B b) :
    World.Appends (BundleGuard g.uid B) w₀ w := by
  refine ⟨creations new, h.log, h.store, .of_split fun us x vs hsplit => ?_⟩
  have hx : x ∈ creations new := by rw [hsplit]; simp
  obtain ⟨p, hp, rfl⟩ := List.mem_map.mp hx
  obtain ⟨-, l, slot, address, priv, -, haddress, hrec⟩ := h.fresh p hp
  intro _
  rw [hrec]
  exact hB _ ⟨haddress, rfl, rfl, rfl⟩

theorem WalkGuard.bundleGuard {s : Store} {x : Write} (h : WalkGuard s x) :
    BundleGuard g.uid B s x := by
  cases x with
  | create => exact h.elim
  | relabel | delete => exact h

/-- **A pass over a fleet** creates records with the configuration it is given. -/
theorem reconcile_bundles (hB : ∀ b, g.Gives b → B b) {snap : Option Snapshot}
    {desiredReplicas lastAccepted : Int} :
    Keeps (fun w => AllBundles g.uid B w.store)
      (reconcile g e snap desiredReplicas lastAccepted) := by
  have hexec : ∀ w, World.Appends (BundleGuard g.uid B) w
      (reconcile g e snap desiredReplicas lastAccepted w).2 := by
    intro w
    rcases (Pass.mk e snap desiredReplicas lastAccepted).exec_cases g w with
      ⟨-, hw, -⟩ | ⟨snap', ts, -, hend⟩
    · rw [show (reconcile g e snap desiredReplicas lastAccepted w).2 = w from hw]
      exact .refl w
    · have hw : (reconcile g e snap desiredReplicas lastAccepted w).2 =
          ((Pass.mk e snap desiredReplicas lastAccepted).exec g w).2 := rfl
      rw [hw]
      generalize (Pass.mk e snap desiredReplicas lastAccepted).exec g w = out at hend
      obtain ⟨r, w'⟩ := out
      cases hend with
      | unread => exact .refl _
      | stopped _ _ hstop =>
        obtain ⟨⟨done, new, -, halloc⟩, -⟩ := hstop
        exact halloc.appends_bundles hB
      | walked _ _ halloc hwalk =>
        exact (halloc.allocation.appends_bundles hB).trans
          (hwalk.appends.mono fun _ _ => WalkGuard.bundleGuard)
  exact Spec.of_state fun w hw => hw.appends (hexec w)

/-! ## A single instance -/

theorem createRecord_bundles {rec : Record} (hrec : B rec.bundle) :
    Keeps (fun w => AllBundles g.uid B w.store) (createRecord g e rec) := by
  have hguard : ∀ s key, BundleGuard g.uid B s (.create key (g.stored rec)) := fun _ _ _ => hrec
  intro w hw
  refine ⟨fun u w' h => ?_, fun err w' h => ?_⟩
  · obtain ⟨key, -, -, rfl⟩ := createRecord_ok h
    exact hw.commit (hguard _ key)
  · cases err with
    | alreadyExists text =>
      obtain ⟨rfl, -⟩ := createRecord_alreadyExists h
      exact hw
    | other text =>
      obtain ⟨rfl, -⟩ | ⟨-, key, -, -, rfl⟩ := createRecord_other h
      · exact hw
      · exact hw.commit (hguard _ key)

/-- **A pass over a single instance** creates a record with the configuration it is given. -/
theorem reconcileSingle_bundles {instanceName tunnelAddress privateKey publicKey : String}
    (hB : B (singleRecord g instanceName tunnelAddress privateKey publicKey).bundle) :
    Keeps (fun w => AllBundles g.uid B w.store)
      (reconcileSingle g e instanceName tunnelAddress privateKey publicKey) := by
  have hresult : ∀ rec, Keeps (fun w => AllBundles g.uid B w.store) (singleResult rec) := fun rec =>
    (Spec.lift (fun _ _ _ h => h) fun _ h => h).bind fun entry => Spec.pure fun _ h => h
  unfold reconcileSingle
  split
  · exact Spec.pure fun _ h => h
  · have hread : Keeps (fun w => AllBundles g.uid B w.store)
        (mapErr (PassError.reading instanceName) (getRecord g e instanceName)) := by
      refine Spec.mapErr (Spec.of_state fun w hw => ?_)
      rwa [getRecord_world]
    refine hread.bind fun found => ?_
    cases found with
    | some rec =>
      dsimp only
      split
      · exact hresult rec
      · exact Spec.pure fun _ h => h
    | none => exact (createRecord_bundles hB).mapErr.bind fun _ => hresult _

end

end WireguardGateway.Gcp

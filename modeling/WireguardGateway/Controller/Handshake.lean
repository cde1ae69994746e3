import WireguardGateway.Controller.Runs
import WireguardGateway.Gcp.Bundles

/-!
# The members' bundles and the Gateway

A member's bundle is copied from the Gateway when its record is created: the keys from the key
Secrets, the addresses from the spec. Nothing updates it. So an edit of a single instance's tunnel
addresses, or key Secrets that were lost and generated again, leave records behind that no longer
fit, and the next pass renders them without error.

Results, over every run of a Gateway:
* `handshakeInv_pass`: passes that are `Settled` keep every bundle in
  agreement with the bundle Secret;
* **`handshake_possible`**: in a run of settled passes, after a pass that is not cut short every
  record of the roster fits the spec and the key Secrets;
* `renumbered_link_unreachable`: the link address is edited, and the record in the
  roster keeps the old one.
-/

namespace WireguardGateway.Controller

open Lib Gcp Prog

/-! ## Agreement -/

/-- The bundle has the link address, the prefix and the slot's address of the spec. -/
def TunnelAgrees (gw : GatewayObject) (b : MemberBundle) : Prop :=
  b.peerAllowedIPs = gw.effectiveWGLinkAddress ++ "/32" ∧
    b.subnetPrefix = (gw.bundleInputs "").subnetPrefix ∧
    ∃ eligible, gw.eligibleAddresses = .ok eligible ∧
      slotAddress gw.effectiveWGGatewayAddress eligible b.slot = .ok b.tunnelAddress

/-- The bundle has the keys of the bundle Secret. -/
def KeysAgree (loadBalanced : Bool) (k : KeySecrets) (b : MemberBundle) : Prop :=
  ∀ bundle priv pub, k.bundle = some bundle → gatewayKeys bundle = some (priv, pub) →
    b.peerPublicKey = pub ∧ (loadBalanced = false → b.privateKey = priv)

/-- What the VM and the link need for a handshake: the peer key is the link's, the tunnel is the
spec's, and a single instance has the private key of the bundle Secret. -/
structure Fits (publicKeyOf : String → String) (gw : GatewayObject) (k : KeySecrets)
    (b : MemberBundle) : Prop where
  peerKey : ∃ link, k.link = some link ∧ b.peerPublicKey = publicKeyOf link.privateKey
  tunnel : TunnelAgrees gw b
  privateKey : gw.loadBalanced = false →
    ∃ bundle pub, k.bundle = some bundle ∧ gatewayKeys bundle = some (b.privateKey, pub)

variable {gw : GatewayObject} {publicKeyOf : String → String}

theorem KeysAgree.fits {k : KeySecrets} {b : MemberBundle} (h : KeysAgree gw.loadBalanced k b)
    (hk : k.Matched publicKeyOf) (htunnel : TunnelAgrees gw b) : Fits publicKeyOf gw k b := by
  obtain ⟨bundle, link, hbundle, hlink, priv, pub, hkeys, -, hpub⟩ := hk
  obtain ⟨hpeer, hpriv⟩ := h bundle priv pub hbundle hkeys
  refine ⟨⟨link, hlink, hpeer.trans hpub.symm⟩, htunnel, fun hsingle => ⟨bundle, pub, hbundle, ?_⟩⟩
  rw [hpriv hsingle]
  exact hkeys

/-- An edit of a load-balanced Gateway leaves its tunnel as it is. -/
theorem SameGateway.tunnelAgrees {gw' : GatewayObject} (h : SameGateway gw gw')
    (hlb : gw.loadBalanced = true) : TunnelAgrees gw' = TunnelAgrees gw := by
  obtain ⟨hsubnet, hgateway, hlink⟩ := h.tunnel hlb
  funext b
  simp only [TunnelAgrees, GatewayObject.eligibleAddresses, GatewayObject.bundleInputs,
    GatewayObject.effectiveWGLinkAddress, GatewayObject.effectiveWGGatewayAddress,
    GatewayObject.effectiveWGSubnet, hsubnet, hgateway, hlink]

/-- The Gateway has a record. -/
def Recorded (uid : String) (s : State) : Prop :=
  ∃ key r, s.records.store.lookup key = some r ∧ r.gatewayUID = uid

instance (uid : String) (s : State) : Decidable (Recorded uid s) :=
  decidable_of_iff (∃ r ∈ s.records.store.records, r.gatewayUID = uid) <| by
    simp only [Recorded, Store.mem_records]
    exact ⟨fun ⟨r, ⟨key, hr⟩, h⟩ => ⟨key, r, hr, h⟩, fun ⟨key, r, hr, h⟩ => ⟨r, ⟨key, hr⟩, h⟩⟩

theorem allBundles_of_not_recorded {uid : String} {s : State} (h : ¬ Recorded uid s)
    (B : MemberBundle → Prop) : AllBundles uid B s.records.store :=
  fun key r hr huid => absurd ⟨key, r, hr, huid⟩ h

/-- The pass finds what its records were created from: if the Gateway has a record, both key Secrets
are there, the records of a single instance have the tunnel of the spec, and the call of
`ensureSecrets` is not torn. Nothing is asked of a pass that returns before it reads the Secrets. -/
def Settled {publicKeyOf : String → String} (gw : GatewayObject) (e : PassEnv publicKeyOf)
    (s : GatewayState) : Prop :=
  (∃ eligible, gw.eligibleAddresses = .ok eligible) → ¬ gw.OverCapacity →
    ¬ Torn s.secrets e.secrets ∧
    (Recorded gw.uid s.toState → s.secrets.bundle.isSome ∧ s.secrets.link.isSome) ∧
    (gw.loadBalanced = false → AllBundles gw.uid (TunnelAgrees gw) s.records.store)

/-! ## A pass -/

/-- The key Secrets are of one generation and the records were created from them; a fleet's records
have the tunnel of the spec. -/
def HandshakeInv (publicKeyOf : String → String) (gw : GatewayObject) (s : GatewayState) : Prop :=
  s.secrets.Unmixed publicKeyOf ∧
    AllBundles gw.uid (KeysAgree gw.loadBalanced s.secrets) s.records.store ∧
    (gw.loadBalanced = true → AllBundles gw.uid (TunnelAgrees gw) s.records.store)

/-- After the key Secrets are ensured, everything agrees. -/
def HandshakeReady (publicKeyOf : String → String) (gw : GatewayObject) (s : GatewayState) : Prop :=
  s.secrets.Matched publicKeyOf ∧
    AllBundles gw.uid (KeysAgree gw.loadBalanced s.secrets) s.records.store ∧
    AllBundles gw.uid (TunnelAgrees gw) s.records.store

theorem settled_of_unrecorded {e : PassEnv publicKeyOf} {s : GatewayState}
    (hrecorded : ¬ Recorded gw.uid s.toState) (htorn : ¬ Torn s.secrets e.secrets) :
    Settled gw e s :=
  fun _ _ => ⟨htorn, fun h => absurd h hrecorded, fun _ => allBundles_of_not_recorded hrecorded _⟩

theorem KeySecrets.Matched.unmixed {k : KeySecrets} (h : k.Matched publicKeyOf) :
    k.Unmixed publicKeyOf := by
  obtain ⟨bundle, link, hbundle, hlink, hpairs⟩ := h
  intro bundle' link' hbundle' hlink'
  cases hbundle.symm.trans hbundle'
  cases hlink.symm.trans hlink'
  exact hpairs

theorem HandshakeReady.inv {s : GatewayState} (h : HandshakeReady publicKeyOf gw s) :
    HandshakeInv publicKeyOf gw s :=
  ⟨h.1.unmixed, h.2.1, fun _ => h.2.2⟩

section

variable {publicKeyOf : String → String} {gw : GatewayObject} {e : PassEnv publicKeyOf}
  {cfg : Config} {objectHash : String → String}

/-- The key Secrets are ensured: they are left alone if there are records. -/
theorem ensureSecrets_handshake {op : String}
    (htunnel : ∃ eligible, gw.eligibleAddresses = .ok eligible) (hover : ¬ gw.OverCapacity) :
    Spec (fun s => HandshakeInv publicKeyOf gw s ∧ Settled gw e s)
      (step op (onSecrets (ensureSecrets e.secrets))) (fun _ => HandshakeReady publicKeyOf gw)
      (HandshakeInv publicKeyOf gw) := by
  refine Spec.mapErr (zoom_rule ?_)
  rintro s ⟨⟨hunmixed, hkeys, hfleet⟩, hsettled⟩ k rfl
  obtain ⟨htorn, hsecrets, hsingle⟩ := hsettled htunnel hover
  obtain ⟨hunmixed', hmatched⟩ := ensureSecrets_unmixed hunmixed htorn
  have hkeys' : AllBundles gw.uid (KeysAgree gw.loadBalanced (ensureSecrets e.secrets s.secrets).2)
      s.records.store := by
    by_cases hrecorded : Recorded gw.uid s.toState
    · obtain ⟨hbundle, hlink⟩ := hsecrets hrecorded
      rw [ensureSecrets_matched e.secrets (hunmixed.matched hbundle hlink)]
      exact hkeys
    · exact allBundles_of_not_recorded hrecorded _
  have htunnels : AllBundles gw.uid (TunnelAgrees gw) s.records.store := by
    cases hlb : gw.loadBalanced with
    | true => exact hfleet hlb
    | false => exact hsingle hlb
  refine ⟨fun u k' h => ?_, fun err k' h => ?_⟩
  · rw [h] at hmatched hkeys'
    exact ⟨hmatched rfl, hkeys', htunnels⟩
  · rw [h] at hunmixed' hkeys'
    exact ⟨hunmixed', hkeys', fun _ => htunnels⟩

theorem readGatewayKeys_spec {P : GatewayState → Prop} {key : String} {fault : Fault} :
    Spec P (readGatewayKeys key fault)
      (fun keys s => P s ∧ ∃ bundle, s.secrets.bundle = some bundle ∧
        gatewayKeys bundle = some keys)
      P := by
  refine serve_spec.bind fun found => ?_
  cases found with
  | none => exact Spec.fail fun _ h => h.1
  | some bundle =>
    dsimp only
    cases hkeys : gatewayKeys bundle with
    | none => exact Spec.fail fun _ h => h.1
    | some keys => exact Spec.pure fun s h => ⟨h.1, bundle, h.2.symm, hkeys⟩

/-- The configurations of all records agree with the Secrets `k` and with the spec. -/
def Agrees (gw : GatewayObject) (k : KeySecrets) (b : MemberBundle) : Prop :=
  KeysAgree gw.loadBalanced k b ∧ TunnelAgrees gw b

variable {k : KeySecrets} {eligible : List String}

theorem allBundles_agrees_iff {s : Store} :
    AllBundles gw.uid (Agrees gw k) s ↔ AllBundles gw.uid (KeysAgree gw.loadBalanced k) s ∧
      AllBundles gw.uid (TunnelAgrees gw) s :=
  ⟨fun h => ⟨fun key r hr hu => (h key r hr hu).1, fun key r hr hu => (h key r hr hu).2⟩,
    fun h key r hr hu => ⟨h.1 key r hr hu, h.2 key r hr hu⟩⟩

/-- What a pass over a fleet creates agrees. -/
theorem agrees_of_gives (htunnel : gw.eligibleAddresses = .ok eligible)
    (hlb : gw.loadBalanced = true) {bundle priv pub : String} (hbundle : k.bundle = some bundle)
    (hkeys : gatewayKeys bundle = some (priv, pub)) {b : MemberBundle}
    (h : (withLinkKey (gw.recordGateway eligible) pub).Gives b) :
    Agrees gw k b := by
  refine ⟨fun bundle' priv' pub' hbundle' hkeys' => ?_, h.peerAllowedIPs, h.subnetPrefix, eligible,
    htunnel, h.address⟩
  cases hbundle.symm.trans hbundle'
  cases hkeys.symm.trans hkeys'
  exact ⟨h.peerPublicKey, fun hsingle => by rw [hlb] at hsingle; cases hsingle⟩

/-- What a pass over a single instance creates agrees. -/
theorem agrees_singleRecord (htunnel : gw.eligibleAddresses = .ok eligible)
    {bundle priv pub : String} (hbundle : k.bundle = some bundle)
    (hkeys : gatewayKeys bundle = some (priv, pub)) (instanceName publicKey : String) :
    Agrees gw k (singleRecord { gw.recordGateway [] with bundle := gw.bundleInputs pub }
      instanceName gw.effectiveWGGatewayAddress priv publicKey).bundle := by
  refine ⟨fun bundle' priv' pub' hbundle' hkeys' => ?_, rfl, rfl, eligible, htunnel, rfl⟩
  cases hbundle.symm.trans hbundle'
  cases hkeys.symm.trans hkeys'
  exact ⟨rfl, fun _ => rfl⟩

theorem reconcileFleet_ready (htunnel : gw.eligibleAddresses = .ok eligible)
    (hlb : gw.loadBalanced = true) (migName : String) :
    Keeps (HandshakeReady publicKeyOf gw) (reconcileFleet gw e cfg eligible migName) := by
  intro s hs
  have hmembers : Spec (fun t => AllBundles gw.uid (Agrees gw s.secrets) t.records.store)
      (reconcileMembers cfg (gw.recordGateway eligible)
        { e.members with keys := (readGatewayKeys gw.key e.bundleRead s).1.map Prod.snd }
        gw.region gw.replicas migName)
      (fun _ t => HandshakeReady publicKeyOf gw { s with toState := t })
      fun t => HandshakeReady publicKeyOf gw { s with toState := t } := by
    refine (reconcileMembers_records (W := fun w => AllBundles gw.uid (Agrees gw s.secrets) w.store)
      gw.replicas fun linkPublicKey snap lastAccepted hkeys => ?_).weaken (fun _ h => h)
      (fun _ t ht => ⟨hs.1, allBundles_agrees_iff.mp ht⟩)
      fun t ht => ⟨hs.1, allBundles_agrees_iff.mp ht⟩
    have hread : Spec (· = s) (readGatewayKeys gw.key e.bundleRead) _ _ := readGatewayKeys_spec
    rcases hrun : readGatewayKeys gw.key e.bundleRead s with ⟨err | keys, s'⟩
    · simp only [hrun] at hkeys
      cases hkeys
    · obtain ⟨rfl, bundle, hbundle, hpair⟩ := (hread s rfl).1 keys s' hrun
      simp only [hrun] at hkeys
      cases hkeys
      exact reconcile_bundles fun b hb => agrees_of_gives htunnel hlb hbundle hpair hb
  have hzoom : Spec (· = s) (onState (reconcileMembers cfg (gw.recordGateway eligible)
        { e.members with keys := (readGatewayKeys gw.key e.bundleRead s).1.map Prod.snd }
        gw.region gw.replicas migName)) (fun _ => HandshakeReady publicKeyOf gw)
      (HandshakeReady publicKeyOf gw) := by
    refine zoom_rule ?_
    rintro _ rfl
    refine hmembers.pre ?_
    rintro t rfl
    exact allBundles_agrees_iff.mpr hs.2
  refine Spec.bind hzoom (fun r => ?_) s rfl
  exact Spec.pure fun _ h => h

theorem reconcileSingleMember_ready (htunnel : gw.eligibleAddresses = .ok eligible)
    (instanceName : String) :
    Keeps (HandshakeReady publicKeyOf gw) (reconcileSingleMember gw e instanceName) := by
  unfold reconcileSingleMember
  split
  · exact Spec.pure fun _ h => h
  · refine readGatewayKeys_spec.bind fun keys => ?_
    have hpeer : Spec (fun s => HandshakeReady publicKeyOf gw s ∧ ∃ bundle,
        s.secrets.bundle = some bundle ∧ gatewayKeys bundle = some keys)
        (readLinkPeerPublicKey gw.key e.linkSecretRead)
          (fun _ s => HandshakeReady publicKeyOf gw s ∧
          ∃ bundle, s.secrets.bundle = some bundle ∧ gatewayKeys bundle = some keys)
        (HandshakeReady publicKeyOf gw) := by
      refine (serve_frame.orElse fun _ h => h.1).bind fun link => ?_
      cases link with
      | none => exact Spec.fail fun _ h => h.1
      | some link => exact Spec.pure fun _ h => h
    refine hpeer.bind fun peerKey => zoom_rule ?_
    rintro s ⟨hs, bundle, hbundle, hpair⟩
    refine Spec.mapErr (Spec.of_state ?_)
    rintro t rfl
    have hsingle := reconcileSingle_bundles (B := Agrees gw s.secrets) (e := e.single)
      (g := { gw.recordGateway [] with bundle := gw.bundleInputs keys.2 })
      (agrees_singleRecord htunnel hbundle hpair instanceName peerKey)
    have hstore := hsingle.state (s := s.records) (allBundles_agrees_iff.mpr hs.2)
    exact ⟨hs.1, allBundles_agrees_iff.mp hstore⟩

/-- **The member pass keeps the agreement.** -/
theorem memberResult_ready (htunnel : gw.eligibleAddresses = .ok eligible)
    (observed : CompositeStatus) :
    Keeps (HandshakeReady publicKeyOf gw) (memberResult gw e cfg eligible observed) := by
  unfold memberResult
  split
  · rename_i hlb
    exact (reconcileFleet_ready htunnel hlb _).mapErr
  · exact (reconcileSingleMember_ready htunnel _).mapErr.bind fun r => Spec.pure fun _ h => h

/-- The obligations of a pass. -/
theorem passRule_handshake :
    PassRule gw e cfg objectHash (fun s => HandshakeInv publicKeyOf gw s ∧ Settled gw e s)
      (HandshakeInv publicKeyOf gw)
      (fun p s => HandshakeInv publicKeyOf gw s ∧
        (p = .full → HandshakeReady publicKeyOf gw s)) where
  linkID := fun _ _ hs _ => hs
  finalizer := fun _ hs _ => ⟨hs.1, fun h => nomatch h⟩
  invalid := fun _ _ hs _ _ => ⟨hs.1, fun h => nomatch h⟩
  exhausted := fun _ hs _ _ => ⟨hs.1, fun h => nomatch h⟩
  idle := fun _ hs _ => ⟨hs.1, fun h => nomatch h⟩
  overCapacity := by
    intro id valid _ _ _
    exact overCapacityPass_spec (fun s hs _ => ⟨hs.1.1, fun h => nomatch h⟩)
      (fun s c applied hs _ _ => ⟨hs.1.1, fun h => nomatch h⟩) (fun s hs => hs.1.1) fun s hs => hs.1
  full := by
    intro id valid eligible observed _ htunnel hover _
    have hinv : ∀ s, HandshakeReady publicKeyOf gw s → HandshakeInv publicKeyOf gw s :=
      fun s hs => hs.inv
    refine Spec.bind (Q := fun _ => HandshakeReady publicKeyOf gw) ?_ fun _ => ?_
    · exact (ensureSecrets_handshake ⟨eligible, htunnel⟩ hover).pre fun s hs => hs.1
    refine (serve_frame.mapErr.orElse hinv).bind fun _ => ?_
    have hmembers : Spec _ (memberResult { gw with linkID := id } e cfg eligible observed) _ _ :=
      memberResult_ready htunnel observed
    refine Spec.bind (Q := fun _ => HandshakeReady publicKeyOf gw) (hmembers.orElse hinv)
      fun result => ?_
    refine Spec.bind (Q := fun _ => HandshakeReady publicKeyOf gw)
      ((applyComposite_spec (fun s applied hs _ => hs) _ _).orElse
        fun s hs => hs.elim (hinv s) (hinv s)) fun _ => ?_
    exact linkPass_spec (Q := HandshakeReady publicKeyOf gw)
      ⟨fun _ _ h => h, fun _ _ h => h, fun _ _ h => h⟩ ⟨fun _ _ h => h, fun _ _ h => h,
        fun _ _ h => h⟩
      (fun _ _ h => h) (fun _ _ _ h _ _ _ => h) (fun _ _ _ _ _ h _ => h)
      (fun s hs => ⟨hs.inv, fun _ => hs⟩) hinv hinv fun _ hs => hs.1
  before := fun s hs => hs.1
  after := fun p s hs => hs.1

/-- **The step lemma.** -/
theorem handshakeInv_pass {s : GatewayState} (h : HandshakeInv publicKeyOf gw s)
    (hsettled : Settled gw e s) :
    HandshakeInv publicKeyOf gw (reconcileGatewayPass gw e cfg objectHash s).2 :=
  (passRule_handshake.spec.post fun _ _ h => h.1).state ⟨h, hsettled⟩

/-- An edit that admission lets through keeps the agreement with what the
records were created from. -/
theorem SameGateway.handshakeInv {gw₀ : GatewayObject} (h : SameGateway gw₀ gw) {s : GatewayState} :
    HandshakeInv publicKeyOf gw s ↔ HandshakeInv publicKeyOf gw₀ s := by
  unfold HandshakeInv
  rw [h.uid, h.loadBalanced]
  refine and_congr_right' (and_congr_right' (forall_congr' fun hlb => ?_))
  rw [h.tunnelAgrees hlb]

theorem KeySecrets.Unmixed.loseBundle :
    ({ k with bundle := none } : KeySecrets).Unmixed publicKeyOf :=
  fun _ _ h => nomatch h

theorem KeySecrets.Unmixed.loseLink :
    ({ k with link := none } : KeySecrets).Unmixed publicKeyOf :=
  fun _ _ _ h => nomatch h

/-- The pass is about this Gateway, and is settled. -/
def SettledStep (gw₀ : GatewayObject) (s : GatewayState) (x : GatewayStep publicKeyOf) : Prop :=
  x.Each fun gw e => SameGateway gw₀ gw ∧ Settled gw e s

theorem handshakeInv_run {gw₀ : GatewayObject} {records : World}
    (hnew : ¬ Recorded gw₀.uid (GatewayState.created records).toState)
    {xs : List (GatewayStep publicKeyOf)}
    (h : Guarded (GatewayStep.next cfg objectHash) (SettledStep gw₀) (.created records) xs) :
    HandshakeInv publicKeyOf gw₀ (replay (GatewayStep.next cfg objectHash)
      (.created records) xs) := by
  refine h.invariant (fun s x hI hx => ?_) ?_ (List.prefix_refl xs)
  · cases x with
    | pass gw e =>
      obtain ⟨hsame, hsettled⟩ := hx
      rw [← hsame.handshakeInv] at hI ⊢
      exact handshakeInv_pass hI hsettled
    | loseBundle =>
      exact ⟨KeySecrets.Unmixed.loseBundle, fun _ _ _ _ _ _ _ h => (nomatch h), hI.2.2⟩
    | loseLinkSecret => exact ⟨KeySecrets.Unmixed.loseLink, hI.2.1, hI.2.2⟩
    | markDirty | restart => exact hI
  · exact ⟨fun _ _ h => (nomatch h), allBundles_of_not_recorded hnew _,
      fun _ => allBundles_of_not_recorded hnew _⟩

/-- The records that the composite's roster names. -/
def State.rendered (s : State) : List Record :=
  ((s.composite.bind (·.members)).getD []).filterMap fun v =>
    (XGatewayMember.ofJson v).bind fun m => s.records.store.lookup m.kubernetesSecretName

theorem State.lookup_of_mem_rendered {s : State} {r : Record} (h : r ∈ s.rendered) :
    ∃ key, s.records.store.lookup key = some r := by
  obtain ⟨v, -, hv⟩ := List.mem_filterMap.mp h
  obtain ⟨m, -, hm⟩ := Option.bind_eq_some_iff.mp hv
  exact ⟨m.kubernetesSecretName, hm⟩

/-- **Rendered members can complete a handshake**: in a run of a new Gateway whose passes are all
settled, after a pass that is not cut short the bundle of every record of the roster has the public
key of the link Secret's private key, the link address, prefix and slot address of the spec, and for
a single instance the private key of the bundle Secret. -/
theorem handshake_possible {gw₀ : GatewayObject} (records : World)
    (hnew : ¬ Recorded gw₀.uid (GatewayState.created records).toState)
    (xs : List (GatewayStep publicKeyOf)) (gw : GatewayObject) (e : PassEnv publicKeyOf)
    (hrun : Guarded (GatewayStep.next cfg objectHash) (SettledStep gw₀) (.created records)
      (xs ++ [.pass gw e])) (s s' : GatewayState)
    (hs : replay (GatewayStep.next cfg objectHash) (.created records) xs = s)
    (hpass : reconcileGatewayPass gw e cfg objectHash s = (.ok .full, s')) :
    ∀ r ∈ s'.rendered, r.gatewayUID = gw.uid → Fits publicKeyOf gw s'.secrets r.bundle := by
  have hinv := handshakeInv_run hnew hrun.left
  obtain ⟨hsame, hsettled⟩ : SameGateway gw₀ gw ∧ Settled gw e _ := hrun.at
  rw [← hsame.handshakeInv] at hinv
  rw [hs] at hinv hsettled
  have hready := ((passRule_handshake.spec s ⟨hinv, hsettled⟩).1 .full s' hpass).2 rfl
  intro r hr huid
  obtain ⟨key, hkey⟩ := State.lookup_of_mem_rendered hr
  exact (hready.2.1 key r hkey huid).fits hready.1 (hready.2.2 key r hkey huid)

end

section

/-- A pass that is told the name of the instance. -/
def instanceEnv : PassEnv derive :=
  .calm (webCluster (some "true")) { CompositeStatus.zero with instanceName := "vm" }

/-- The finalizer and the composite. -/
def provisionedRun : List (GatewayStep derive) :=
  [.pass webGateway instanceEnv, .pass webGateway instanceEnv, .restart]

def provisioned : GatewayState :=
  replay (GatewayStep.next calmConfig id) (.created emptyWorld) provisionedRun

/-- The instance gets its record. -/
def recordedRun : List (GatewayStep derive) :=
  provisionedRun ++ [.pass webGateway instanceEnv, .restart]

def recorded : GatewayState :=
  replay (GatewayStep.next calmConfig id) (.created emptyWorld) recordedRun

theorem handshake_possible_single :
    ∃ r ∈ (reconcileGatewayPass webGateway instanceEnv calmConfig id provisioned).2.rendered,
      Fits derive webGateway
        (reconcileGatewayPass webGateway instanceEnv calmConfig id provisioned).2.secrets
        r.bundle := by
  have hrun : Guarded (GatewayStep.next calmConfig id) (SettledStep webGateway)
      (.created emptyWorld) (provisionedRun ++ [.pass webGateway instanceEnv]) := by
    refine .cons ⟨.refl _, ?_⟩ (.cons ⟨.refl _, ?_⟩ (.cons trivial (.single ⟨.refl _, ?_⟩)))
    all_goals exact settled_of_unrecorded (by decide +kernel) (by decide +kernel)
  have hpass : (reconcileGatewayPass webGateway instanceEnv calmConfig id provisioned).1 =
      .ok .full := by decide +kernel
  obtain ⟨r, hr, huid⟩ : ∃ r ∈ (reconcileGatewayPass webGateway instanceEnv calmConfig id
      provisioned).2.rendered, r.gatewayUID = "u1" := by decide +kernel
  exact ⟨r, hr, handshake_possible emptyWorld (by decide +kernel) provisionedRun webGateway
    instanceEnv hrun provisioned _ rfl (eq_mk_of_fst hpass) r hr huid⟩

/-- The link gets another address. -/
def renumberedGateway : GatewayObject :=
  { webGateway with wireguard := { defaultTunnel with linkAddress := "10.99.0.3" } }

/-- The pass after the edit. -/
def renumbered : Except String ReturnPath × GatewayState :=
  reconcileGatewayPass renumberedGateway instanceEnv calmConfig id recorded

/-- The pass that generates other keys. -/
def regeneratingEnv : PassEnv derive :=
  { instanceEnv with
    secrets := callWith (pairOf "g4" (by decide) (by decide))
      (pairOf "l4" (by decide) (by decide)) .ok }

/-- The pass after the link Secret was lost. -/
def regenerated : Except String ReturnPath × GatewayState :=
  reconcileGatewayPass webGateway regeneratingEnv calmConfig id
    (GatewayStep.next calmConfig id recorded (.loseLinkSecret : GatewayStep derive))

/-- **A record does not follow**: a single instance's link address is edited, and the record in the
roster allows the old one; the link Secret is lost, and the record keeps the public key of the old
private key. Either pass is not cut short and returns no error. -/
theorem renumbered_link_unreachable :
    (SameGateway webGateway renumberedGateway ∧ renumbered.1 = .ok .full ∧
      ∃ r ∈ renumbered.2.rendered, r.gatewayUID = webGateway.uid ∧
        ¬ Fits derive renumberedGateway renumbered.2.secrets r.bundle) ∧
    (regenerated.1 = .ok .full ∧
      ∃ r ∈ regenerated.2.rendered, r.gatewayUID = webGateway.uid ∧
        ¬ Fits derive webGateway regenerated.2.secrets r.bundle) := by
  refine ⟨⟨⟨rfl, rfl, rfl, rfl, rfl, rfl, fun h => nomatch h⟩, by decide +kernel, ?_⟩,
    by decide +kernel, ?_⟩
  · obtain ⟨r, hr, huid, hallowed⟩ : ∃ r ∈ renumbered.2.rendered, r.gatewayUID = webGateway.uid ∧
        r.peerAllowedIPs = "10.99.0.2/32" := by decide +kernel
    refine ⟨r, hr, huid, fun h => ?_⟩
    have hedited : r.peerAllowedIPs = "10.99.0.3/32" := h.tunnel.1
    rw [hallowed] at hedited
    exact absurd hedited (by decide)
  · obtain ⟨r, hr, huid, hpeer⟩ : ∃ r ∈ regenerated.2.rendered, r.gatewayUID = webGateway.uid ∧
        r.peerPublicKey = "pub-l3" := by decide +kernel
    refine ⟨r, hr, huid, fun h => ?_⟩
    obtain ⟨link, hlink, hkey⟩ := h.peerKey
    have hregenerated : regenerated.2.secrets.link.map (·.privateKey) = some "l4" := by
      decide +kernel
    rw [hlink] at hregenerated
    have hprivate : link.privateKey = "l4" := Option.some.inj hregenerated
    have hpublic : r.peerPublicKey = derive link.privateKey := hkey
    rw [hpeer, hprivate] at hpublic
    exact absurd hpublic (by decide)

end

end WireguardGateway.Controller

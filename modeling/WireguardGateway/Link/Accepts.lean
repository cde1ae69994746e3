import WireguardGateway.Controller.Link
import WireguardGateway.Link.Config

/-!
# The link accepts what the operator writes

`buildLinkConfigMap` and `LoadRuntimeConfig` belong to two binaries and meet in the
ConfigMap's text. Result: **`operator_config_accepted_iff`**, exactly which of the operator's
documents a replica loads.
-/

namespace WireguardGateway.Link

open Lib Controller

theorem validatePeers_iff : ∀ {peers : List LinkPeer} {seen : List Int64},
    validatePeers seen peers = .ok () ↔
      (∀ p ∈ peers, (p.publicKey ≠ "" ∧ 0 ≤ p.slot ∧ p.slot ≤ 255) ∧ p.slot ∉ seen) ∧
        (peers.map (·.slot)).Nodup
  | [], seen => by simp [validatePeers]
  | p :: peers, seen => by
    have ih : validatePeers (p.slot :: seen) peers = .ok () ↔ _ := validatePeers_iff
    rw [validatePeers]
    split_ifs with hkey hrange hseen <;> grind

theorem validateAddresses_iff {rc : RuntimeConfig} (hport : rc.responderPort ≠ 0) :
    validateAddresses rc = .ok () ↔ (rc.publicAddress = "" ∨
      ∃ ip, parseAddr rc.publicAddress.toList = some (ip, true) ∧ ip ≠ ofV4 0) := by
  rw [validateAddresses, if_neg (fun h => hport h.1), if_neg (fun h => hport h.1)]
  generalize parseAddr rc.publicAddress.toList = parsed
  by_cases ha : rc.publicAddress = ""
  · simp [ha]
  · rcases parsed with _ | ⟨ip, _ | _⟩
    · simp [ha]
    · simp [ha]
    · by_cases hip : ip = ofV4 0 <;> simp [ha, hip]

theorem validateForward_iff {isLocal : Bool} {seen : List ((Int64 × String) × String)}
    {f : LinkForward} : validateForward isLocal seen f = .ok () ↔
      validateForward isLocal [] f = .ok () ∧ seen.lookup (forwardPort f) = none := by
  simp only [validateForward, forwardPort]
  split_ifs <;> cases seen.lookup (f.publicPort, f.protocol) <;> simp

theorem validateForwards_iff {isLocal : Bool} : ∀ {fs : List LinkForward}
    {seen : List ((Int64 × String) × String)}, (∀ f ∈ fs, toLower f.protocol = f.protocol) →
      (validateForwards isLocal seen fs = .ok fs ↔
        (∀ f ∈ fs, validateForward isLocal [] f = .ok () ∧ seen.lookup (forwardPort f) = none) ∧
          (fs.map forwardPort).Nodup)
  | [], seen, _ => by simp [validateForwards]
  | f :: fs, seen, hlower => by
    obtain ⟨hf, hfs⟩ := List.forall_mem_cons.mp hlower
    have hparts : validateForwards isLocal seen (f :: fs) = .ok (f :: fs) ↔
        validateForward isLocal seen f = .ok () ∧
          validateForwards isLocal ((forwardPort f, f.name) :: seen) fs = .ok fs := by
      simp only [validateForwards, hf, forwardPort]
      cases validateForward isLocal seen f <;>
        cases validateForwards isLocal (((f.publicPort, f.protocol), f.name) :: seen) fs <;>
        simp [bind, Except.bind, pure, Except.pure]
    rw [hparts, validateForward_iff, validateForwards_iff hfs]
    simp only [List.lookup_cons]
    grind

/-- The ports of a forward are in range, and in Local mode its backend has a name. -/
def InRange (gw : GatewayObject) (f : ForwardSpec) : Prop :=
  (1 ≤ f.port.toInt64 ∧ f.port.toInt64 ≤ 65535) ∧
    if gw.isLocal then gw.effectiveForwardNamespace f ≠ "" ∧ f.service ≠ ""
    else 1 ≤ (effectiveServicePort f).toInt64 ∧ (effectiveServicePort f).toInt64 ≤ 65535

/-- What the operator renders from is in range. -/
structure Admissible (gw : GatewayObject) (address : String) (backends : List ForwardBackend)
    (peers : List LinkPeer) : Prop where
  linkID : gw.isLocal → 0 < gw.linkID
  address : address = "" ∨ ∃ ip, parseAddr address.toList = some (ip, true) ∧ ip ≠ ofV4 0
  slots : (peers.map (·.slot)).Nodup
  peers : ∀ p ∈ peers, p.publicKey ≠ "" ∧ 0 ≤ p.slot ∧ p.slot ≤ 255
  ports : (backends.map fun b =>
    (b.forward.port.toInt64, if b.forward.tcp then "tcp" else "udp")).Nodup
  forwards : ∀ b ∈ backends, InRange gw b.forward

section

variable (gw : GatewayObject) (address : String) (backends : List ForwardBackend) (key : String)
  (peers : List LinkPeer) (responders : List (String × String)) (target : String)

theorem validateHead_built :
    validateHead (buildLinkConfigMap gw address backends key peers responders target) = .ok () ↔
      (gw.isLocal → 0 < gw.linkID) := by
  have hle : gw.linkID ≤ 0 ↔ ¬ 0 < gw.linkID := Int32.not_lt.symm
  cases hp : gw.effectiveTrafficPolicy <;> by_cases hid : 0 < gw.linkID
  all_goals
    simp [validateHead, buildLinkConfigMap, hp, GatewayObject.linkIdentityOf, hle, hid,
      GatewayObject.isLocal, TrafficPolicy.text, trafficPolicyCluster, trafficPolicyLocal,
      GatewayObject.linkSelectorLabels, GatewayObject.effectiveHealthPort]

theorem responderPort_ne_zero : gw.effectiveResponderPort.toInt64 ≠ 0 := by
  rw [Ne, ← Int64.toInt_inj, Int32.toInt_toInt64]
  unfold GatewayObject.effectiveResponderPort
  split_ifs with h
  · exact fun hz => h (Int32.toInt_inj.mp hz)
  · decide

theorem forwardPort_linkForward (b : ForwardBackend) : forwardPort (linkForward gw b) =
    (b.forward.port.toInt64, if b.forward.tcp then "tcp" else "udp") := by
  unfold forwardPort linkForward
  split <;> rfl

theorem validateForward_built {b : ForwardBackend} :
    validateForward gw.isLocal [] (linkForward gw b) = .ok () ↔ InRange gw b.forward := by
  have hfqdn : gw.forwardServiceFQDN b.forward ≠ "" := by simp [GatewayObject.forwardServiceFQDN]
  cases hl : gw.isLocal <;> cases ht : b.forward.tcp <;>
    simp only [validateForward, linkForward, InRange, hl, ht] <;> grind

/-- **Which documents of the operator the link loads.** -/
theorem operator_config_accepted_iff (gw : GatewayObject) (path : String)
    (objectHash : String → String) :
    let rc := buildLinkConfigMap gw address backends key peers responders target
    loadRuntimeConfigMatching path gw.linkIdentityOf
        (.ok (LinkConfigMap.ofConfig objectHash rc).config) = .ok rc ↔
      Admissible gw address backends rc.wireguard.peers := by
  intro rc
  have hload : loadRuntimeConfigMatching path gw.linkIdentityOf
        (.ok (LinkConfigMap.ofConfig objectHash rc).config) = .ok rc ↔ validate rc = .ok rc := by
    simp only [loadRuntimeConfigMatching, loadRuntimeConfig, LinkConfigMap.ofConfig,
      Json.unmarshal_marshal, Option.bind_some, RuntimeConfig.ofJson_toJson]
    cases hv : validate rc with
    | error => simp
    | ok rc' =>
      obtain ⟨fs, -, -, -, -, rfl⟩ := validate_parts hv
      simp [isLocal, rc, buildLinkConfigMap]
  have hvalidate : validate rc = .ok rc ↔ validateHead rc = .ok () ∧ validateAddresses rc = .ok () ∧
      validatePeers [] rc.wireguard.peers = .ok () ∧
      validateForwards (isLocal rc) [] rc.forwards = .ok rc.forwards := by
    constructor
    · intro h
      obtain ⟨fs, hh, ha, hp, hf, hrc⟩ := validate_parts h
      exact ⟨hh, ha, hp, hf.trans (congrArg (Except.ok ·.forwards) hrc.symm)⟩
    · rintro ⟨hh, ha, hp, hf⟩
      simp only [validate, hh, ha, hp, hf]
      rfl
  have hlower : ∀ f ∈ rc.forwards, toLower f.protocol = f.protocol :=
    List.forall_mem_map.mpr fun b _ => by
      rw [show (linkForward gw b).protocol = if b.forward.tcp then "tcp" else "udp" from
        congrArg Prod.snd (forwardPort_linkForward gw b)]
      cases b.forward.tcp <;> decide
  have hmode : (gw.isLocal → 0 < gw.linkID) → isLocal rc = gw.isLocal := by
    simp only [isLocal, rc, buildLinkConfigMap, GatewayObject.linkIdentityOf, ← Int32.not_lt]
    cases gw.isLocal <;> simp
  have hports : rc.forwards.map forwardPort = backends.map _ :=
    List.map_map.trans (List.map_congr_left fun b _ => forwardPort_linkForward gw b)
  rw [hload, hvalidate, validateHead_built, validateAddresses_iff (responderPort_ne_zero gw),
    validatePeers_iff, validateForwards_iff hlower, hports]
  constructor
  · rintro ⟨hid, ha, ⟨hp, hs⟩, hf, hports⟩
    rw [hmode hid] at hf
    exact ⟨hid, ha, hs, fun p hm => (hp p hm).1, hports, fun b hb =>
      (validateForward_built gw).mp (hf _ (List.mem_map_of_mem hb)).1⟩
  · intro h
    rw [hmode h.linkID]
    exact ⟨h.linkID, h.address, ⟨fun p hm => ⟨h.peers p hm, List.not_mem_nil⟩, h.slots⟩,
      List.forall_mem_map.mpr fun b hb => ⟨(validateForward_built gw).mpr (h.forwards b hb), rfl⟩,
      h.ports⟩

end

end WireguardGateway.Link

import WireguardGateway.Lib.NetIP
import WireguardGateway.Link.Identity

/-!
# Loading the runtime config

`internal/link/config.go` and `loadRuntimeConfigMatching` (`reconcile.go:143-156`): the link reads
its config file, decodes it and validates it; a reload also requires the mode and the identity the
process started with. `validate` returns the config it accepted, with the forwards' protocols in
lower case.

Results:
* **`validate_peers`**, **`validate_forwards`**: its slots are distinct and in `0..255`, and its
  forwards are `tcp` or `udp` on distinct ports of `1..65535`;
* `loadRuntimeConfigMatching_ok`: a reload accepts only configs of the process's own identity.

The wording of errors the standard library makes up is left out.
-/

namespace WireguardGateway.Link

open Lib
open Controller (RuntimeConfig LinkPeer LinkForward)

def trafficPolicyCluster : String := "Cluster"

def trafficPolicyLocal : String := "Local"

/-- `rc.isLocal()`. -/
def isLocal (rc : RuntimeConfig) : Bool := rc.identity.isSome

/-- `%+v` of an identity. -/
def formatIdentity (i : Controller.GatewayIdentity) : String :=
  "\x7bID:" ++ toString i.id.toInt ++ " HealthPort:" ++ toString i.healthPort.toInt ++
    " NftTable:" ++ i.nftTable ++ "\x7d"

/-- `%+v` of a string map. -/
def formatMap (m : List (String × String)) : String :=
  "map[" ++ join " " (m.map fun (k, v) => k ++ ":" ++ v) ++ "]"

/-- The checks of `validate` that stand before its loops. -/
def validateHead (rc : RuntimeConfig) : Except String Unit :=
  if rc.wireguard.address = "" then .error "wireguard address is required"
  else if rc.trafficPolicy ≠ "" ∧ rc.trafficPolicy ≠ trafficPolicyCluster ∧
      rc.trafficPolicy ≠ trafficPolicyLocal then
    .error ("unknown traffic policy " ++ quote rc.trafficPolicy)
  else if rc.trafficPolicy = trafficPolicyLocal ∧ rc.identity = none then
    .error ("traffic policy " ++ rc.trafficPolicy ++ " carries no identity block")
  else if rc.identity ≠ none ∧ rc.trafficPolicy ≠ trafficPolicyLocal then
    .error ("identity block is Local-only, got traffic policy " ++ quote rc.trafficPolicy)
  else if rc.identity ≠ none ∧ rc.podSelector = [] then
    .error ("traffic policy " ++ rc.trafficPolicy ++ " requires a non-empty podSelector")
  else
    match rc.identity with
    | some identity =>
      if rc.healthPort ≠ identity.healthPort then
        .error ("healthPort " ++ toString rc.healthPort.toInt ++
          " must equal this gateway identity's health port " ++
          toString identity.healthPort.toInt ++ " (identity " ++ formatIdentity identity ++ ")")
      else .ok ()
    | none => .ok ()

/-- The checks of the responders and the public address. -/
def validateAddresses (rc : RuntimeConfig) : Except String Unit :=
  if rc.responderPort = 0 ∧ rc.responders ≠ [] then
    .error ("responderPort must be nonzero when responders is set (responders " ++
      formatMap rc.responders ++ ")")
  else if rc.responderPort = 0 ∧ rc.responderTarget ≠ "" then
    .error ("responderPort must be nonzero when responderTarget is set (responderTarget " ++
      quote rc.responderTarget ++ ")")
  else if rc.publicAddress = "" then .ok ()
  else
    match parseAddr rc.publicAddress.toList with
    | none => .error "publicAddress"
    | some (ip, is4) =>
      if !is4 then
        .error ("publicAddress must be an IPv4 address, got " ++ quote rc.publicAddress)
      else if ip = ofV4 0 then
        .error ("publicAddress must not be the unspecified address, got " ++
          quote rc.publicAddress)
      else .ok ()

/-- The peer loop of `validate`, after the slots `seen`. -/
def validatePeers (seen : List Int64) : List LinkPeer → Except String Unit
  | [] => .ok ()
  | p :: peers =>
    let slot := "peer slot " ++ toString p.slot.toInt ++ ": "
    if p.publicKey = "" then .error (slot ++ "publicKey is required")
    else if p.slot < 0 ∨ p.slot > 255 then .error (slot ++ "must be in 0..255")
    else if p.slot ∈ seen then .error (slot ++ "duplicate slot")
    else validatePeers (p.slot :: seen) peers

/-- One forward, with its protocol already in lower case. -/
def validateForward (isLocal : Bool) (seen : List ((Int64 × String) × String)) (f : LinkForward) :
    Except String Unit :=
  let forward := "forward " ++ quote f.name
  if f.protocol ≠ "tcp" ∧ f.protocol ≠ "udp" then
    .error (forward ++ ": protocol must be tcp or udp, got " ++ quote f.protocol)
  else if f.publicPort < 1 ∨ f.publicPort > 65535 then
    .error (forward ++ ": public port must be in 1..65535, got " ++ toString f.publicPort.toInt)
  else if !isLocal ∧ f.service = "" then .error (forward ++ ": service is required")
  else if !isLocal ∧ (f.targetPort < 1 ∨ f.targetPort > 65535) then
    .error (forward ++ ": target port must be in 1..65535, got " ++ toString f.targetPort.toInt)
  else if isLocal ∧ f.namespace_ = "" then .error (forward ++ ": namespace is required")
  else if isLocal ∧ f.serviceName = "" then .error (forward ++ ": serviceName is required")
  else
    match seen.lookup (f.publicPort, f.protocol) with
    | some previous =>
      .error (forward ++ " collides with " ++ quote previous ++ " on " ++ f.protocol ++ "/" ++
        toString f.publicPort.toInt)
    | none => .ok ()

/-- The forward loop of `validate`: the forwards with their protocols in lower case. -/
def validateForwards (isLocal : Bool) (seen : List ((Int64 × String) × String)) :
    List LinkForward → Except String (List LinkForward)
  | [] => .ok []
  | f :: fs => do
    let f' := { f with protocol := toLower f.protocol }
    validateForward isLocal seen f'
    let fs' ← validateForwards isLocal (((f'.publicPort, f'.protocol), f'.name) :: seen) fs
    pure (f' :: fs')

/-- `validate`. -/
def validate (rc : RuntimeConfig) : Except String RuntimeConfig := do
  validateHead rc
  validateAddresses rc
  validatePeers [] rc.wireguard.peers
  let forwards ← validateForwards (isLocal rc) [] rc.forwards
  pure { rc with forwards }

/-- `LoadRuntimeConfig`, given what reading the file returned. -/
def loadRuntimeConfig (path : String) (file : Except String String) :
    Except String RuntimeConfig :=
  match file with
  | .error cause => .error ("read runtime config " ++ path ++ ": " ++ cause)
  | .ok data =>
    match (Json.unmarshal data).bind RuntimeConfig.ofJson with
    | none => .error ("unmarshal runtime config " ++ path)
    | some rc =>
      match validate rc with
      | .error cause => .error ("validate runtime config " ++ path ++ ": " ++ cause)
      | .ok rc => .ok rc

/-- `%t`. -/
def formatLocal (startup : Option Controller.GatewayIdentity) : String := formatBool startup.isSome

/-- `loadRuntimeConfigMatching`. -/
def loadRuntimeConfigMatching (path : String) (startup : Option Controller.GatewayIdentity)
    (file : Except String String) : Except String RuntimeConfig :=
  match loadRuntimeConfig path file with
  | .error cause => .error cause
  | .ok rc =>
    if isLocal rc ≠ startup.isSome then
      .error ("runtime config " ++ path ++ ": traffic policy " ++ quote rc.trafficPolicy ++
        " does not match the process mode (local=" ++ formatLocal startup ++ ")")
    else if rc.identity ≠ startup then
      .error ("runtime config " ++ path ++ ": identity " ++
        (rc.identity.map formatIdentity).getD "" ++
        " differs from the identity this process started with " ++
        (startup.map formatIdentity).getD "")
    else .ok rc

/-! ## What an accepted config satisfies -/

section

variable {rc rc' : RuntimeConfig}

/-- What `validate` accepts passed each of its parts. -/
theorem validate_parts (h : validate rc = .ok rc') :
    ∃ forwards, validateHead rc = .ok () ∧ validateAddresses rc = .ok () ∧
      validatePeers [] rc.wireguard.peers = .ok () ∧
      validateForwards (isLocal rc) [] rc.forwards = .ok forwards ∧
      rc' = { rc with forwards := forwards } := by
  unfold validate at h
  cases hhead : validateHead rc with
  | error e => rw [hhead] at h; cases h
  | ok =>
    cases haddr : validateAddresses rc with
    | error e => rw [hhead, haddr] at h; cases h
    | ok =>
      cases hpeers : validatePeers [] rc.wireguard.peers with
      | error e => rw [hhead, haddr, hpeers] at h; cases h
      | ok =>
        cases hforwards : validateForwards (isLocal rc) [] rc.forwards with
        | error e => rw [hhead, haddr, hpeers, hforwards] at h; cases h
        | ok forwards =>
          rw [hhead, haddr, hpeers, hforwards] at h
          cases h
          exact ⟨forwards, rfl, rfl, rfl, rfl, rfl⟩

theorem validatePeers_ok : ∀ {peers : List LinkPeer} {seen : List Int64},
    validatePeers seen peers = .ok () →
      (∀ p ∈ peers, InByte p.slot ∧ p.slot ∉ seen) ∧ (peers.map (·.slot)).Nodup := by
  intro peers
  induction peers with
  | nil => intro seen _; exact ⟨fun p hp => absurd hp List.not_mem_nil, List.nodup_nil⟩
  | cons p peers ih =>
    intro seen h
    rw [validatePeers] at h
    split_ifs at h with hkey hrange hseen
    obtain ⟨hpeers, hnodup⟩ := ih h
    have hbyte : InByte p.slot := by
      refine ⟨Int64.not_lt.mp fun hlt => hrange (.inl hlt), ?_⟩
      have hle := Int64.le_iff_toInt_le.mp (Int64.not_lt.mp fun hgt => hrange (.inr hgt))
      rw [Int64.lt_iff_toInt_lt]
      rw [show (255 : Int64).toInt = 255 by decide] at hle
      rw [show (256 : Int64).toInt = 256 by decide]
      omega
    constructor
    · intro q hq
      rcases List.mem_cons.mp hq with rfl | hq
      · exact ⟨hbyte, hseen⟩
      · exact ⟨(hpeers q hq).1, fun hs => (hpeers q hq).2 (List.mem_cons_of_mem _ hs)⟩
    · rw [List.map_cons, List.nodup_cons]
      refine ⟨fun hmem => ?_, hnodup⟩
      obtain ⟨q, hq, hslot⟩ := List.mem_map.mp hmem
      exact (hpeers q hq).2 (hslot ▸ List.mem_cons_self)

/-- **Slots of a valid config** are distinct and in `0..255`. -/
theorem validate_peers (h : validate rc = .ok rc') :
    (∀ p ∈ rc'.wireguard.peers, InByte p.slot) ∧ (rc'.wireguard.peers.map (·.slot)).Nodup := by
  obtain ⟨forwards, -, -, hpeers, -, rfl⟩ := validate_parts h
  obtain ⟨hbyte, hnodup⟩ := validatePeers_ok hpeers
  exact ⟨fun p hp => (hbyte p hp).1, hnodup⟩

theorem validateForward_ok {isLocal : Bool} {seen : List ((Int64 × String) × String)}
    {f : LinkForward} (h : validateForward isLocal seen f = .ok ()) :
    (f.protocol = "tcp" ∨ f.protocol = "udp") ∧ 1 ≤ f.publicPort ∧ f.publicPort ≤ 65535 ∧
      seen.lookup (f.publicPort, f.protocol) = none := by
  unfold validateForward at h
  simp only at h
  split_ifs at h with hproto hport
  cases hseen : seen.lookup (f.publicPort, f.protocol) with
  | some previous => rw [hseen] at h; cases h
  | none =>
    refine ⟨?_, Int64.not_lt.mp fun hlt => hport (.inl hlt),
      Int64.not_lt.mp fun hgt => hport (.inr hgt), rfl⟩
    by_cases htcp : f.protocol = "tcp"
    · exact .inl htcp
    · exact .inr (not_not.mp fun hudp => hproto ⟨htcp, hudp⟩)

/-- The port a forward claims. -/
def forwardPort (f : LinkForward) : Int64 × String := (f.publicPort, f.protocol)

theorem validateForwards_ok {isLocal : Bool} : ∀ {fs fs' : List LinkForward}
    {seen : List ((Int64 × String) × String)}, validateForwards isLocal seen fs = .ok fs' →
      (∀ f ∈ fs', (f.protocol = "tcp" ∨ f.protocol = "udp") ∧ 1 ≤ f.publicPort ∧
        f.publicPort ≤ 65535 ∧ seen.lookup (forwardPort f) = none) ∧
      (fs'.map forwardPort).Nodup := by
  intro fs
  induction fs with
  | nil =>
    intro fs' seen h
    cases h
    exact ⟨fun f hf => absurd hf List.not_mem_nil, List.nodup_nil⟩
  | cons f fs ih =>
    intro fs' seen h
    rw [validateForwards] at h
    cases hf : validateForward isLocal seen { f with protocol := toLower f.protocol } with
    | error e => rw [hf] at h; cases h
    | ok =>
      rw [hf] at h
      cases hfs : validateForwards isLocal
          (((f.publicPort, toLower f.protocol), f.name) :: seen) fs with
      | error e =>
        simp only [hfs, bind, Except.bind] at h
        cases h
      | ok rest =>
        simp only [hfs, bind, Except.bind] at h
        cases h
        obtain ⟨hrest, hnodup⟩ := ih hfs
        constructor
        · intro g hg
          rcases List.mem_cons.mp hg with rfl | hg
          · exact validateForward_ok hf
          · obtain ⟨hproto, hlow, hhigh, hlookup⟩ := hrest g hg
            rw [List.lookup_cons] at hlookup
            split at hlookup
            · cases hlookup
            · exact ⟨hproto, hlow, hhigh, hlookup⟩
        · rw [List.map_cons, List.nodup_cons]
          refine ⟨fun hmem => ?_, hnodup⟩
          obtain ⟨g, hg, hport⟩ := List.mem_map.mp hmem
          have hlookup := (hrest g hg).2.2.2
          rw [List.lookup_cons, hport] at hlookup
          simp [forwardPort] at hlookup

/-- **Forwards of a valid config** are `tcp` or `udp`, on distinct ports of `1..65535`. -/
theorem validate_forwards (h : validate rc = .ok rc') :
    (∀ f ∈ rc'.forwards, (f.protocol = "tcp" ∨ f.protocol = "udp") ∧ 1 ≤ f.publicPort ∧
      f.publicPort ≤ 65535) ∧ (rc'.forwards.map forwardPort).Nodup := by
  obtain ⟨forwards, -, -, -, hforwards, rfl⟩ := validate_parts h
  obtain ⟨hall, hnodup⟩ := validateForwards_ok hforwards
  exact ⟨fun f hf => ⟨(hall f hf).1, (hall f hf).2.1, (hall f hf).2.2.1⟩, hnodup⟩

/-- A reload accepts only a valid config of the process's own identity. -/
theorem loadRuntimeConfigMatching_ok {path : String}
    {startup : Option Controller.GatewayIdentity} {file : Except String String}
    (h : loadRuntimeConfigMatching path startup file = .ok rc) :
    rc.identity = startup ∧ ∃ raw, validate raw = .ok rc := by
  unfold loadRuntimeConfigMatching at h
  cases hload : loadRuntimeConfig path file with
  | error e => rw [hload] at h; cases h
  | ok loaded =>
    rw [hload] at h
    simp only at h
    split_ifs at h with hmode hidentity
    cases h
    refine ⟨not_not.mp hidentity, ?_⟩
    unfold loadRuntimeConfig at hload
    split at hload
    · cases hload
    · split at hload
      · cases hload
      · split at hload
        · cases hload
        · rename_i raw _ _ _ hvalid
          cases hload
          exact ⟨raw, hvalid⟩

end

end WireguardGateway.Link

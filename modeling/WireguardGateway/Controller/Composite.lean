import WireguardGateway.Controller.Calls
import WireguardGateway.Controller.Gateway
import WireguardGateway.Gcp.Rounds

/-!
# The operator's state and the composite it applies

`State` is what a Gateway's passes read back from one another: the member records, the composite's
roster, target size and open ports, the link ConfigMap, `status.gcp.members`, and two pieces of
process memory.

The composite's roster is stored as JSON. A pass without a usable snapshot does not render it but
reads it back (`passRoster`), so it has to survive a decode and an encode.

Results:
* `XGatewayMember.ofJson_toJson`, `passRoster_spec`: a roster the operator applied is read back
  as it was rendered;
* **`ensureXGatewayGCP_spec`**: what is applied;
* **`sameMembership_retained`**: applying the result of an unusable pass leaves the membership of
  the composite as it was.
-/

namespace WireguardGateway.Controller

open Lib Gcp Prog

/-! ## State -/

/-- `xgatewayMember`, one roster entry of the composite's spec. -/
structure XGatewayMember where
  cloudSecretIamMemberName : String
  cloudSecretName : String
  cloudSecretVersionName : String
  kubernetesSecretName : String
  name : String
  slot : Int64
  tunnelAddress : String
  deriving DecidableEq, Repr

/-- One entry of `spec.allowedPorts`. -/
structure AllowedPort where
  port : Int
  protocol : String
  deriving DecidableEq, Repr

/-- `spec.members`, `spec.targetSize` and `spec.allowedPorts` of the `XGatewayGCP` object. -/
structure Composite where
  members : Option (List Json)
  targetSize : Option Int
  allowedPorts : Option (List AllowedPort)

/-- The runtime config and the hash annotation of the link ConfigMap. -/
structure LinkConfigMap where
  config : String
  hash : String
  deriving DecidableEq, Repr

/-- One call of `List`: when, for which recorded names, whether it asked for the details of all of
them, and whether it succeeded. -/
structure ListCall where
  at_ : Int
  names : List String
  refresh : Bool
  ok : Bool
  deriving DecidableEq, Repr

/-- The names whose details the call asks `List` to re-read. -/
def ListCall.refreshNames (c : ListCall) : List String := if c.refresh then c.names else []

/-- `gcpAddressRefreshed` and `linkDirty` are process memory; `listCalls` is the trace of the calls
of `List`. Times are in nanoseconds. -/
structure State where
  records : World
  composite : Option Composite
  linkConfigMap : Option LinkConfigMap
  members : List MemberStatus
  gcpAddressRefreshed : GoMap String Int
  linkDirty : Bool
  listCalls : List ListCall

/-- Run a program over the member records. -/
def onRecords {ε α : Type} (m : Prog World ε α) : Prog State ε α := fun s =>
  let (r, w) := m s.records
  (r, { s with records := w })

/-- A program over the records leaves everything else alone. -/
theorem onRecords_spec {ε α : Type} {P : State → Prop} (m : Prog World ε α)
    (hP : ∀ s w, P s → P { s with records := w }) :
    Keeps P (onRecords m) :=
  fun s hs => ⟨fun _ _ h => (Prod.mk.inj h).2 ▸ hP s _ hs,
    fun _ _ h => (Prod.mk.inj h).2 ▸ hP s _ hs⟩

/-! ## The roster -/

namespace XGatewayMember

def toJson (m : XGatewayMember) : Json :=
  .obj [("cloudSecretIamMemberName", .str m.cloudSecretIamMemberName),
    ("cloudSecretName", .str m.cloudSecretName),
    ("cloudSecretVersionName", .str m.cloudSecretVersionName),
    ("kubernetesSecretName", .str m.kubernetesSecretName),
    ("name", .str m.name),
    ("slot", .ofInt64 m.slot),
    ("tunnelAddress", .str m.tunnelAddress)]

def zero : XGatewayMember :=
  { cloudSecretIamMemberName := "", cloudSecretName := "", cloudSecretVersionName := "",
    kubernetesSecretName := "", name := "", slot := 0, tunnelAddress := "" }

def ofJson (v : Json) : Option XGatewayMember := do
  let fs ← v.asObject
  let cloudSecretIamMemberName ← Json.decode fs "cloudSecretIamMemberName" "" Json.asString
  let cloudSecretName ← Json.decode fs "cloudSecretName" "" Json.asString
  let cloudSecretVersionName ← Json.decode fs "cloudSecretVersionName" "" Json.asString
  let kubernetesSecretName ← Json.decode fs "kubernetesSecretName" "" Json.asString
  let name ← Json.decode fs "name" "" Json.asString
  let slot ← Json.decode fs "slot" 0 Json.asInt
  let tunnelAddress ← Json.decode fs "tunnelAddress" "" Json.asString
  pure { cloudSecretIamMemberName, cloudSecretName, cloudSecretVersionName, kubernetesSecretName,
         name, slot, tunnelAddress }

theorem ofJson_toJson (m : XGatewayMember) : ofJson m.toJson = some m := by
  simp [ofJson, toJson, Json.asObject, Json.decode]

end XGatewayMember

/-- `rosterMembers`. -/
def rosterMembers (roster : List RosterEntry) : List XGatewayMember :=
  roster.map fun e =>
    { cloudSecretIamMemberName := e.names.cloudSecretIAMMemberName
      cloudSecretName := e.names.cloudSecretName
      cloudSecretVersionName := e.names.cloudSecretVersionName
      kubernetesSecretName := e.names.kubernetesSecretName
      name := e.name
      slot := .ofInt e.slot
      tunnelAddress := e.tunnelAddress }

/-- The roster entry `passRoster` makes of a decoded member. -/
def XGatewayMember.rosterEntry (m : XGatewayMember) : RosterEntry where
  name := m.name
  slot := m.slot.toInt
  tunnelAddress := m.tunnelAddress
  names :=
    { kubernetesSecretName := m.kubernetesSecretName
      cloudSecretName := m.cloudSecretName
      cloudSecretVersionName := m.cloudSecretVersionName
      cloudSecretIAMMemberName := m.cloudSecretIamMemberName }

/-- `rosterOf`. -/
def rosterOf (result : Option Result) : List RosterEntry := (result.map (·.roster)).getD []

/-! ## Reading the composite -/

/-- The target size of the composite, `0` when it has none. -/
def State.targetSize (s : State) : Int :=
  match s.composite.bind (·.targetSize) with
  | none => 0
  | some v => int32 v

section

variable (key : String) (fault : Fault)

/-- `xgatewayGCPExists`. -/
def xgatewayGCPExists : Prog State String Bool :=
  serve fault "get xgatewaygcp" fun s => s.composite.isSome

/-- `readXGatewayGCPTargetSize`. -/
def readXGatewayGCPTargetSize : Prog State String Int :=
  serve fault "get xgatewaygcp for target size" State.targetSize

/-- `passRoster`: without a usable snapshot, the roster the composite carries. -/
def passRoster (result : Result) : Prog State String (List RosterEntry) :=
  if !result.unusable then pure result.roster
  else do
    match ← serve fault ("get xgatewaygcp " ++ key ++ " for applied members") (·.composite) with
    | none => pure []
    | some c =>
      match c.members with
      | none => pure []
      | some raw =>
        match (Json.unmarshal (Json.arr raw).marshal).bind
            (Json.asList XGatewayMember.zero XGatewayMember.ofJson) with
        | none => fail ("decode applied members of " ++ key)
        | some applied => pure (applied.map XGatewayMember.rosterEntry)

end

/-! ## Applying the composite -/

/-- The port a forward opens. -/
def ForwardSpec.allowedPort (f : ForwardSpec) : AllowedPort where
  port := f.port.toInt
  protocol := toLower f.protocol

/-- The ports the forwards open; an empty list is left out. -/
def allowedPortsOf (forwards : List ForwardSpec) : Option (List AllowedPort) :=
  if forwards = [] then none else some (forwards.map ForwardSpec.allowedPort)

/-- The roster as it is rendered; a single instance's is left out when it is empty. -/
def membersOf (loadBalanced : Bool) (roster : List RosterEntry) : Option (List Json) :=
  if !loadBalanced ∧ roster = [] then none
  else some ((rosterMembers roster).map XGatewayMember.toJson)

/-- What `buildXGatewayGCP` renders of the fields that `Composite` has. -/
def compositeOf (gw : GatewayObject) (forwards : List ForwardSpec) (result : Option Result) :
    Composite where
  members := membersOf gw.loadBalanced (rosterOf result)
  targetSize :=
    if gw.loadBalanced then some ((result.map (·.targetSize)).getD gw.replicas.toInt) else none
  allowedPorts := allowedPortsOf forwards

/-- `buildXGatewayGCP`: it fails when the secret id does not derive. -/
def buildXGatewayGCP (gw : GatewayObject) (forwards : List ForwardSpec) (result : Option Result) :
    Except String Composite :=
  match nameBase gw.uid gw.projectID with
  | .error cause => .error ("derive bundle secret id: " ++ cause)
  | .ok _ => .ok (compositeOf gw forwards result)

/-- The result with the roster to apply. -/
def withRoster (key : String) (fault : Fault) :
    Option Result → Prog State String (Option Result)
  | none => pure none
  | some r => do
    let roster ← passRoster key fault r
    pure (some { r with roster := roster })

/-- `ensureXGatewayGCP`. -/
def ensureXGatewayGCP (gw : GatewayObject) (rosterFault : Fault) (apply : WriteOutcome)
    (forwards : List ForwardSpec) (result : Option Result) : Prog State String Unit := do
  let result ← withRoster gw.key rosterFault result
  let desired ← lift (buildXGatewayGCP gw forwards result)
  write apply "apply xgatewaygcp" fun s => { s with composite := some desired }

/-- The result that retains what is applied. -/
def retained (targetSize : Int) : Result :=
  { members := [], targetSize, peers := [], roster := [], unusable := true }

/-- `applyOverCapacityXGatewayGCP`. -/
def applyOverCapacityXGatewayGCP (gw : GatewayObject) (existsFault sizeFault rosterFault : Fault)
    (apply : WriteOutcome) (forwards : List ForwardSpec) : Prog State String Unit := do
  if ← xgatewayGCPExists existsFault then
    let targetSize ← readXGatewayGCPTargetSize sizeFault
    ensureXGatewayGCP gw rosterFault apply forwards (some (retained targetSize))

/-! ## What applying the composite preserves -/

/-- A composite as the operator applies it: an encoded roster and a target size within the
capacity. -/
structure Composite.Applied (capacity : Nat) (c : Composite) : Prop where
  members : ∃ ms : List XGatewayMember, c.members = some (ms.map XGatewayMember.toJson)
  targetSize : ∃ t : Int32, c.targetSize = some t.toInt ∧ t.toInt ≤ capacity

theorem int32_toInt (t : Int32) : int32 t.toInt = t.toInt := Int32.toInt_bmod t

/-- Every composite of the state is one the operator applied. -/
def CompositeInv (capacity : Nat) (s : State) : Prop :=
  ∀ c, s.composite = some c → c.Applied capacity

section

variable {P : State → Prop} {capacity : Nat} {c : Composite} {s : State}

/-- An applied composite's target size is read back. -/
theorem Composite.Applied.read (h : c.Applied capacity) (hs : s.composite = some c) :
    c.targetSize = some s.targetSize := by
  obtain ⟨t, ht, -⟩ := h.targetSize
  rw [State.targetSize, hs, Option.bind_some, ht]
  exact congrArg some (int32_toInt t).symm

theorem CompositeInv.targetSize (h : CompositeInv capacity s) :
    ∃ t : Int32, s.targetSize = t.toInt ∧ t.toInt ≤ capacity := by
  cases hc : s.composite with
  | none => exact ⟨0, by rw [State.targetSize, hc]; rfl, Int.natCast_nonneg _⟩
  | some c =>
    obtain ⟨t, ht, hle⟩ := (h c hc).targetSize
    refine ⟨t, ?_, hle⟩
    exact Option.some.inj (((h c hc).read hc).symm.trans ht)

/-- The roster is the one the composite carries, if that is one the operator encoded. -/
def CarriedRoster (s : State) (roster : List RosterEntry) : Prop :=
  match s.composite.bind (·.members) with
  | none => roster = []
  | some raw => ∀ ms : List XGatewayMember, raw = ms.map XGatewayMember.toJson →
      rosterMembers roster = ms

/-- **The roster of an unusable pass is the one the composite carries.** -/
theorem passRoster_spec {r : Result} (hr : r.unusable = true) (key : String) (fault : Fault) :
    Spec P (passRoster key fault r) (fun roster s => P s ∧ CarriedRoster s roster) P := by
  unfold passRoster
  rw [hr]
  refine serve_spec.bind fun found => ?_
  cases found with
  | none => exact Spec.pure fun s h => ⟨h.1, by rw [CarriedRoster, ← h.2, Option.bind_none]⟩
  | some c' =>
    dsimp only
    cases hm : c'.members with
    | none =>
      refine Spec.pure fun s h => ⟨h.1, ?_⟩
      rw [CarriedRoster, ← h.2, Option.bind_some, hm]
    | some raw =>
      dsimp only
      rw [Json.unmarshal_marshal, Option.bind_some]
      cases happlied : Json.asList XGatewayMember.zero XGatewayMember.ofJson (.arr raw) with
      | none => exact Spec.fail fun _ h => h.1
      | some applied =>
        refine Spec.pure fun s h => ⟨h.1, ?_⟩
        rw [CarriedRoster, ← h.2, Option.bind_some, hm]
        rintro ms rfl
        have hback : Json.asList XGatewayMember.zero XGatewayMember.ofJson
            (.arr (ms.map XGatewayMember.toJson)) = some ms :=
          Json.mapM_orZero XGatewayMember.toJson (fun _ h => nomatch h)
            XGatewayMember.ofJson_toJson ms
        cases happlied.symm.trans hback
        simp [rosterMembers, XGatewayMember.rosterEntry, Function.comp_def]

/-- The roster that is applied with a result. -/
def AppliedRoster (result : Option Result) (s : State) (applied : Option Result) : Prop :=
  (result = none ∧ applied = none) ∨ ∃ r roster, result = some r ∧
    applied = some { r with roster := roster } ∧ (r.unusable = false → roster = r.roster) ∧
    (r.unusable = true → CarriedRoster s roster)

theorem withRoster_spec (key : String) (fault : Fault) (result : Option Result) :
    Spec P (withRoster key fault result) (fun applied s => P s ∧ AppliedRoster result s applied)
      P := by
  cases result with
  | none => exact Spec.pure fun _ h => ⟨h, .inl ⟨rfl, rfl⟩⟩
  | some r =>
    cases hr : r.unusable with
    | true =>
      refine (passRoster_spec hr key fault).bind fun roster => Spec.pure fun s h => ⟨h.1, .inr ?_⟩
      exact ⟨r, roster, rfl, rfl, fun h' => (by rw [hr] at h'; cases h'), fun _ => h.2⟩
    | false =>
      have hroster : passRoster key fault r = pure r.roster := by
        unfold passRoster
        rw [hr]
        rfl
      refine Spec.bind (Q := fun roster s => P s ∧ roster = r.roster) ?_ fun roster => ?_
      · rw [hroster]
        exact Spec.pure fun _ h => ⟨h, rfl⟩
      · refine Spec.pure fun s h => ⟨h.1, .inr ⟨r, roster, rfl, rfl, fun _ => h.2, fun h' => ?_⟩⟩
        rw [hr] at h'
        cases h'

variable {forwards : List ForwardSpec} {gw : GatewayObject}

/-- **What is applied**: the composite of the result, with the roster to apply. -/
theorem ensureXGatewayGCP_spec {Q : State → Prop} {result : Option Result}
    (hQ : ∀ s applied, P s → AppliedRoster result s applied →
      Q { s with composite := some (compositeOf gw forwards applied) }) (fault : Fault)
    (apply : WriteOutcome) :
    Spec P (ensureXGatewayGCP gw fault apply forwards result) (fun _ => Q)
      (fun s => P s ∨ Q s) := by
  refine ((withRoster_spec gw.key fault result).orElse fun _ h => .inl h).bind fun applied => ?_
  unfold buildXGatewayGCP
  cases nameBase gw.uid gw.projectID with
  | error cause => exact Spec.fail fun _ h => .inl h.1
  | ok base =>
    refine (write_spec (Q := Q) fun s h => hQ s applied h.1 h.2).orElse ?_
    exact fun s h => h.imp And.left id

/-- The composites carry the same roster and target size. -/
def Composite.SameMembership (c c' : Composite) : Prop :=
  c'.members = c.members ∧ c'.targetSize = c.targetSize

/-- **The composite of an unusable result has the membership of the applied one.** -/
theorem sameMembership_retained (hlb : gw.loadBalanced) {r : Result} {applied : Option Result}
    (hr : r.unusable = true) (hc : c.Applied capacity) (hsize : c.targetSize = some r.targetSize)
    (hs : s.composite = some c) (h : AppliedRoster (some r) s applied) :
    c.SameMembership (compositeOf gw forwards applied) := by
  obtain ⟨ms, hms⟩ := hc.members
  obtain ⟨hnone, -⟩ | ⟨r', roster, hsome, rfl, -, hroster⟩ := h
  · cases hnone
  · cases hsome
    have hms' : rosterMembers roster = ms := by
      have hcarried := hroster hr
      rw [CarriedRoster, hs, Option.bind_some, hms] at hcarried
      exact hcarried ms rfl
    constructor
    · rw [hms, ← hms']
      simp [compositeOf, membersOf, rosterOf, hlb]
    · rw [hsize]
      simp [compositeOf, hlb]

/-- A composite of the operator's own making. -/
theorem applied_compositeOf (hlb : gw.loadBalanced) {result : Option Result}
    {applied : Option Result} (hreplicas : result = none → gw.replicas.toInt ≤ capacity)
    (hresult : ∀ r, result = some r → ∃ t : Int32, r.targetSize = t.toInt ∧ t.toInt ≤ capacity)
    (h : AppliedRoster result s applied) : (compositeOf gw forwards applied).Applied capacity := by
  obtain ⟨rfl, rfl⟩ | ⟨r, roster, rfl, rfl, -, -⟩ := h
  · refine ⟨⟨rosterMembers [], by simp [compositeOf, membersOf, rosterOf, hlb]⟩, gw.replicas, ?_,
      hreplicas rfl⟩
    simp [compositeOf, hlb]
  · obtain ⟨t, ht, hle⟩ := hresult r rfl
    refine ⟨⟨rosterMembers roster, by simp [compositeOf, membersOf, rosterOf, hlb]⟩, t, ?_, hle⟩
    simp [compositeOf, hlb, ht]

end

end WireguardGateway.Controller

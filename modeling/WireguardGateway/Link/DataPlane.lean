import WireguardGateway.Lib.GoMap
import WireguardGateway.Link.Apply

/-!
# The replica's data plane

`internal/link/dataplane.go` and `teardown.go`: what a replica remembers of the node between passes,
and the three passes that change both. `applyPass` tears down the slots the config dropped and
applies; `standbyPass` tears every slot down once another replica holds the Lease; `stepDown`
removes the table and the slots.

A `Call` is one of the entry points under the data plane's lock, and a process is the sequence of
its calls (`Process.run`): the lock makes any interleaving of the goroutines one of these sequences.
-/

namespace WireguardGateway.Link

open Lib
open Controller (RuntimeConfig)

variable {σ : Type}

/-! ## Teardown plans -/

def deleteTableCommand (table : String) : Command :=
  { name := "nft", args := ["delete", "table", "inet", table] }

def ruleDelCommand (id : SlotIdentity) : Command :=
  ip ["rule", "del", "fwmark", id.fwmark, "lookup", id.table, "priority", rulePriority]

def flushTableCommand (id : SlotIdentity) : Command := ip ["route", "flush", "table", id.table]

def linkDelCommand (iface : String) : Command := ip ["link", "del", iface]

def slotTeardownSteps (gatewayID slot : Int64) : List Command :=
  let id := newSlotIdentity gatewayID slot
  [ruleDelCommand id, flushTableCommand id, linkDelCommand id.interface]

/-- `TeardownCommands`. -/
def teardownCommands (rc : RuntimeConfig) : List Command :=
  deleteTableCommand (nftTableName rc) ::
    match rc.identity with
    | none => [linkDelCommand clusterInterface]
    | some identity =>
      rc.wireguard.peers.flatMap fun p => slotTeardownSteps identity.id p.slot

def absentObjectMarkers : List String :=
  [absentMarker, "Cannot find device", "No such file or directory"]

/-- A tool's wording for an object that is already gone. -/
def reportsAbsent (e : String) : Bool := absentObjectMarkers.any (contains e)

/-- What `runTeardownStep` makes of a step's error. -/
def tolerateAbsent (_ : Command) : Option String → Option String
  | none => none
  | some e => if reportsAbsent e then none else some e

/-- `runTeardownStep`. -/
def runTeardownStep (run : Runner Command σ) : Runner Command σ := Plan.tolerant tolerateAbsent run

/-- `errors.Join`. -/
def joinErrors : List String → Option String
  | [] => none
  | errs => some (join "\n" errs)

/-- `teardownCluster`. -/
def teardownCluster (run : Runner Command σ) (rc : RuntimeConfig) : StateM σ (Option String) := do
  let errs ← Plan.runEach (runTeardownStep run) (teardownCommands rc)
  pure (joinErrors errs)

/-! ## The data plane -/

structure DataPlane where
  rc : RuntimeConfig
  /-- The slots this replica holds, and whether the last pass ended with the slot applied. -/
  slots : GoMap Int64 Bool
  otherHolder : Bool
  /-- The forwards of the last successful apply. -/
  forwards : List ResolvedForward
  /-- The public address of the last successful apply of this leadership cycle. -/
  publicAddress : String

def newDataPlane (rc : RuntimeConfig) : DataPlane :=
  { rc, slots := ∅, otherHolder := false, forwards := [], publicAddress := "" }

/-- `gatewayIDOf`. -/
def gatewayIDOf (rc : RuntimeConfig) : Int64 :=
  match rc.identity with
  | some identity => identity.id
  | none => 0

/-- `configuredSlots`. -/
def configuredSlots (rc : RuntimeConfig) : List Int64 := rc.wireguard.peers.map (·.slot)

namespace DataPlane

variable (d : DataPlane)

def hold (slot : Int64) : DataPlane := { d with slots := d.slots.insert slot false }

def observeOtherHolder : DataPlane := { d with otherHolder := true }

def startLeading : DataPlane := { d with otherHolder := false, publicAddress := "" }

/-- `record`. -/
def record (results : List SlotResult) : DataPlane :=
  { d with slots := results.foldl (fun slots r => slots.insert r.slot r.applied) d.slots }

/-- The forwards and the address are kept after a pass without an error. -/
def remember (current : RuntimeConfig) (out : ApplyOutcome) : DataPlane :=
  match out.err with
  | none => { d with forwards := out.applied, publicAddress := current.publicAddress }
  | some _ => d

/-- `heldSlots`. -/
def heldSlots : List Int64 := d.slots.keys.insertionSort (· ≤ ·)

end DataPlane

/-- The data plane `Run` starts with: in Local mode it holds the slots whose interface is among the
node's link names. -/
def startDataPlane (rc : RuntimeConfig) (names : List String) : DataPlane :=
  match rc.identity with
  | none => newDataPlane rc
  | some identity => (inheritedSlots names identity.id).foldl DataPlane.hold (newDataPlane rc)

/-- The loop of `teardownSlots` over the held slots. -/
def teardownLoop (run : Runner Command σ) (gatewayID : Int64) (keep : List Int64) :
    List Int64 → GoMap Int64 Bool → StateM σ (GoMap Int64 Bool × List SlotResult)
  | [], slots => pure (slots, [])
  | slot :: rest, slots =>
    if slot ∈ keep then teardownLoop run gatewayID keep rest slots
    else do
      let errs ← Plan.runEach (runTeardownStep run) (slotTeardownSteps gatewayID slot)
      match joinErrors errs with
      | some err =>
        let (slots', down) ← teardownLoop run gatewayID keep rest (slots.insert slot false)
        pure (slots', { slot, applied := false, err := some err } :: down)
      | none => teardownLoop run gatewayID keep rest (slots.erase slot)

/-- `teardownSlots`. -/
def teardownSlots (run : Runner Command σ) (d : DataPlane) (keep : List Int64) :
    StateM σ (DataPlane × List SlotResult) := do
  let (slots, down) ← teardownLoop run (gatewayIDOf d.rc) keep d.heldSlots d.slots
  pure ({ d with slots }, down)

/-- `applyPass`. -/
def applyPass (run : Runner Command σ) (d : DataPlane) (current : RuntimeConfig)
    (apply : List ResolvedForward → String → StateM σ ApplyOutcome) :
    StateM σ (DataPlane × List SlotResult × Option String) :=
  if !isLocal current then do
    let out ← apply d.forwards d.publicAddress
    pure (d.remember current out, out.results, out.err)
  else do
    let (d, departed) ← teardownSlots run { d with rc := current } (configuredSlots current)
    let out ← apply d.forwards d.publicAddress
    pure ((d.remember current out).record out.results, out.results ++ departed, out.err)

/-- `standbyPass`. -/
def standbyPass (run : Runner Command σ) (d : DataPlane) (current : RuntimeConfig)
    (leader : Bool) : StateM σ (DataPlane × Option String) :=
  if leader then pure (d, none)
  else if !d.otherHolder then pure ({ d with rc := current }, none)
  else do
    let (d, down) ← teardownSlots run { d with rc := current } []
    pure (d, joinErrors (down.filterMap (·.err)))

/-- `stepDown`. -/
def stepDown (run : Runner Command σ) (d : DataPlane) : StateM σ (DataPlane × Option String) :=
  if !isLocal d.rc then do
    let err ← teardownCluster run d.rc
    pure (d, err)
  else do
    let tableErr ← runTeardownStep run (deleteTableCommand (nftTableName d.rc))
    let (d, down) ← teardownSlots run d []
    pure (d, joinErrors (tableErr.toList ++ down.filterMap (·.err)))

/-- The closure `apply` of `Run`. -/
def linkApply (run : Runner Command σ) (d : DataPlane) (rc : RuntimeConfig) (env : ApplyEnv)
    (localForwards : List ResolvedForward) :
    StateM σ (DataPlane × List SlotResult × Option String) :=
  applyPass run d rc fun previous previousAddress =>
    applyConfig run rc env previous previousAddress localForwards

/-! ## The passes as functions of the host -/

section

variable {run : Runner Command σ} {d : DataPlane} {rc : RuntimeConfig} {host : σ}

/-- A Local `applyPass`: the teardown of the departed slots, then the apply. -/
theorem linkApply_local (h : isLocal rc) (env : ApplyEnv) (localForwards : List ResolvedForward) :
    linkApply run d rc env localForwards host =
      let t := teardownSlots run { d with rc } (configuredSlots rc) host
      let a := applyConfig run rc env t.1.1.forwards t.1.1.publicAddress localForwards t.2
      (((t.1.1.remember rc a.1).record a.1.results, a.1.results ++ t.1.2, a.1.err), a.2) := by
  unfold linkApply applyPass
  rw [if_neg (by simp [h])]
  rfl

/-- A `standbyPass` that tears down. -/
theorem standbyPass_other (hother : d.otherHolder = true) :
    standbyPass run d rc false host =
      let t := teardownSlots run { d with rc } [] host
      ((t.1.1, joinErrors (t.1.2.filterMap (·.err))), t.2) := by
  unfold standbyPass
  rw [if_neg (by simp), if_neg (by simp [hother])]
  rfl

theorem stepDown_local (h : isLocal d.rc) :
    stepDown run d host =
      let e := runTeardownStep run (deleteTableCommand (nftTableName d.rc)) host
      let t := teardownSlots run d [] e.2
      ((t.1.1, joinErrors (e.1.toList ++ t.1.2.filterMap (·.err))), t.2) := by
  unfold stepDown
  rw [if_neg (by simp [h])]
  rfl

end

/-! ## Processes -/

/-- A call under the data plane's lock. -/
inductive Call where
  | applyPass (rc : RuntimeConfig) (env : ApplyEnv) (localForwards : List ResolvedForward)
  | standbyPass (current : RuntimeConfig) (leader : Bool)
  | stepDown
  | startLeading
  | observeOtherHolder

/-- A replica's process and the node it runs on. -/
structure Process (σ : Type) where
  dp : DataPlane
  host : σ

/-- One call: the process after it, and the error it returned. -/
def Process.call (run : Runner Command σ) (p : Process σ) : Call → Process σ × Option String
  | .applyPass rc env localForwards =>
    let ((dp, _, err), host) := linkApply run p.dp rc env localForwards p.host
    ({ dp, host }, err)
  | .standbyPass current leader =>
    let ((dp, err), host) := standbyPass run p.dp current leader p.host
    ({ dp, host }, err)
  | .stepDown =>
    let ((dp, err), host) := stepDown run p.dp p.host
    ({ dp, host }, err)
  | .startLeading => ({ p with dp := p.dp.startLeading }, none)
  | .observeOtherHolder => ({ p with dp := p.dp.observeOtherHolder }, none)

/-- The process after a sequence of calls. -/
def Process.run (run : Runner Command σ) (p : Process σ) (calls : List Call) : Process σ :=
  calls.foldl (fun p c => (p.call run c).1) p

end WireguardGateway.Link

import WireguardGateway.Lib.Plan
import WireguardGateway.Link.Render

/-!
# The apply plan

`internal/link/apply.go`: the commands that program a config on the node, and the pass that runs
them. Every command goes through a `Runner`, as in the source; nothing here says what a command does
to the node.

A pass renders the documents, probes the interfaces, runs each slot's commands up to its first
failure, installs the ruleset and then deletes conntrack entries: those of the forwards the previous
pass had and this one has not (`conntrackFlushCommands`), and those that predate a new hairpin rule
(`hairpinConntrackCommands`).

Results:
* `mem_conntrackFlushCommands`, `mem_hairpinConntrackCommands`: which deletions a pass issues;
* `conntrackFlushArgs_inj`: a deletion's arguments determine the tuple.

The warning about unanswered probes and the other log lines are left out.
-/

namespace WireguardGateway.Link

open Lib
open Controller (RuntimeConfig LinkPeer)

variable {σ : Type}

/-! ## Commands -/

/-- What a step feeds its process: the text on `nft`'s standard input, or the file `wg` is given. -/
inductive Input where
  | none
  | ruleset (r : Ruleset)
  | wgConf (c : WGConf)
  deriving DecidableEq, Repr

/-- `command`. A step writes `writePath` if that is set and runs a process otherwise. -/
structure Command where
  name : String := ""
  args : List String := []
  input : Input := .none
  writePath : String := ""
  writeValue : String := ""
  tolerateExists : Bool := false
  tolerateNoFlows : Bool := false
  deriving DecidableEq, Repr

def existsMarker : String := "File exists"

def absentMarker : String := "does not exist"

def noFlowsMarker : String := "0 flow entries have been deleted"

def rulePriority : String := "10000"

/-- What `runStep` makes of a step's error. -/
def tolerateStep (c : Command) : Option String → Option String
  | none => none
  | some e =>
    if c.tolerateExists ∧ contains e existsMarker then none
    else if c.tolerateNoFlows ∧ contains e noFlowsMarker then none
    else some e

/-- `runStep`. -/
def runStep (run : Runner Command σ) : Runner Command σ := Plan.tolerant tolerateStep run

/-- `runStep` with the error wrapped by its caller. -/
def runStepFor (what : Command → String) (run : Runner Command σ) : Runner Command σ :=
  Plan.tolerant (fun c e => (tolerateStep c e).map fun e => what c ++ ": " ++ e) run

/-! ## Building the plan -/

/-- A temporary file with a WireGuard config. -/
structure WGFile where
  path : String
  conf : WGConf
  deriving DecidableEq, Repr

structure SlotPlan where
  slot : Int64
  cmds : List Command
  deriving DecidableEq, Repr

def ip (args : List String) : Command := { name := "ip", args }

def linkShowCommand (iface : String) : Command := ip ["link", "show", iface]

def linkAddCommand (iface : String) : Command := ip ["link", "add", iface, "type", "wireguard"]

def syncconfCommand (iface : String) (file : Option WGFile) : Command :=
  { name := "wg"
    args := ["syncconf", iface, (file.map (·.path)).getD ""]
    input := match file with
      | some f => .wgConf f.conf
      | none => .none }

def addrReplaceCommand (address iface : String) : Command :=
  ip ["addr", "replace", address, "dev", iface]

/-- `linkSetFor`. -/
def linkSetCommand (mtu : Int64) (iface : String) : Command :=
  ip (["link", "set", iface] ++ (if mtu > 0 then ["mtu", decimal mtu] else []) ++ ["up"])

/-- `slotSysctls`: the per-interface keys and the values a Local slot needs. -/
def slotSysctls : List (String × Int64) := [("rp_filter", 0), ("forwarding", 1)]

def hostProcSysNetPath : String := "/host/proc/sys/net"

def slotSysctlPath (iface key : String) : String :=
  hostProcSysNetPath ++ "/ipv4/conf/" ++ iface ++ "/" ++ key

def slotSysctlCommand (iface : String) (s : String × Int64) : Command :=
  { writePath := slotSysctlPath iface s.1, writeValue := decimal s.2 }

def SlotIdentity.table (id : SlotIdentity) : String := decimal id.routeTable

def SlotIdentity.fwmark (id : SlotIdentity) : String := id.mark ++ "/" ++ id.markMask

def routeDefaultCommand (id : SlotIdentity) : Command :=
  ip ["route", "replace", "default", "dev", id.interface, "table", id.table]

def flushThrowCommand (id : SlotIdentity) : Command :=
  ip ["route", "flush", "table", id.table, "type", "throw"]

def throwCommand (id : SlotIdentity) (target : String) : Command :=
  ip ["route", "replace", "throw", target ++ "/32", "table", id.table]

def ruleAddCommand (id : SlotIdentity) : Command :=
  { ip ["rule", "add", "fwmark", id.fwmark, "lookup", id.table, "priority", rulePriority] with
    tolerateExists := true }

def localRouteCommands (id : SlotIdentity) (targets : List String) : List Command :=
  [routeDefaultCommand id, flushThrowCommand id] ++ targets.map (throwCommand id) ++
    [ruleAddCommand id]

/-- `localThrowTargets`. -/
def localThrowTargets (forwards : List ResolvedForward) : List String :=
  (((forwards.map (·.target)).filter (· ≠ "")).dedup).insertionSort (· ≤ ·)

/-- The commands of one interface up to its sysctls. -/
def ifaceCommands (rc : RuntimeConfig) (iface : String) (exist : Bool) (file : Option WGFile) :
    List Command :=
  (if exist then [] else [linkAddCommand iface]) ++
    [syncconfCommand iface file, addrReplaceCommand rc.wireguard.address iface,
     linkSetCommand rc.wireguard.mtu iface]

/-- One slot of the Local plan. -/
def slotCommands (rc : RuntimeConfig) (id : SlotIdentity) (exist : Bool) (file : Option WGFile)
    (targets : List String) : List Command :=
  ifaceCommands rc id.interface exist file ++ slotSysctls.map (slotSysctlCommand id.interface) ++
    localRouteCommands id targets

def nftCommand (ruleset : Ruleset) : Command :=
  { name := "nft", args := ["-f", "-"], input := .ruleset ruleset }

/-- `buildApplyCommands`, but for its final step, which is `nftCommand`. -/
def buildApplyCommands (rc : RuntimeConfig) (files : List (Int64 × WGFile))
    (ifaceExists : List (Int64 × Bool)) (localForwards : List ResolvedForward) : List SlotPlan :=
  match rc.identity with
  | none =>
    [{ slot := 0
       cmds := ifaceCommands rc clusterInterface ((ifaceExists.lookup 0).getD false)
         (files.lookup 0) }]
  | some identity =>
    rc.wireguard.peers.map fun p =>
      { slot := p.slot
        cmds := slotCommands rc (newSlotIdentity identity.id p.slot)
          ((ifaceExists.lookup p.slot).getD false) (files.lookup p.slot)
          (localThrowTargets localForwards) }

/-! ## Conntrack deletions -/

structure ForwardTuple where
  protocol : String
  publicPort : Int64
  target : String
  targetPort : Int64
  deriving DecidableEq, Repr

def tupleOf (f : ResolvedForward) : ForwardTuple :=
  { protocol := f.protocol, publicPort := f.publicPort, target := f.target,
    targetPort := f.targetPort }

/-- `ConntrackFlushArgs`; the name of the forward plays no part. -/
def conntrackFlushArgs (t : ForwardTuple) : List String :=
  ["-D", "-p", t.protocol, "--orig-port-dst", decimal t.publicPort, "--reply-src", t.target,
    "--reply-port-src", decimal t.targetPort]

def flushCommand (t : ForwardTuple) : Command :=
  { name := "conntrack", args := conntrackFlushArgs t, tolerateNoFlows := true }

/-- The loop of `conntrackFlushCommands`, with the tuples it has `seen`. -/
def flushTuples (present seen : List ForwardTuple) : List ForwardTuple → List ForwardTuple
  | [] => []
  | t :: ts =>
    if t ∈ present ∨ t ∈ seen then flushTuples present seen ts
    else t :: flushTuples present (t :: seen) ts

def conntrackFlushCommands (previous current : List ResolvedForward) : List Command :=
  (flushTuples (current.map tupleOf) [] (previous.map tupleOf)).map flushCommand

/-- What a hairpin rule is installed for. -/
structure Hairpin where
  address : String
  protocol : String
  port : Int64
  deriving DecidableEq, Repr

def hairpinOf (address : String) (f : ResolvedForward) : Hairpin :=
  { address, protocol := f.protocol, port := f.publicPort }

def hairpinFlushCommand (h : Hairpin) : Command :=
  { name := "conntrack"
    args := ["-D", "-p", h.protocol, "--orig-dst", h.address, "--orig-port-dst", decimal h.port]
    tolerateNoFlows := true }

/-- The map `installed` of `hairpinConntrackCommands`. -/
def hairpinInstalled (address previousAddress : String) (previous : List ResolvedForward) :
    List Hairpin :=
  if address = previousAddress then previous.map (hairpinOf address) else []

def hairpinConntrackCommands (address previousAddress : String)
    (previous current : List ResolvedForward) : List Command :=
  if address = "" then []
  else
    ((current.map (hairpinOf address)).filter
      (· ∉ hairpinInstalled address previousAddress previous)).map hairpinFlushCommand

/-! ## The pass -/

structure SlotResult where
  slot : Int64
  applied : Bool
  err : Option String
  deriving DecidableEq, Repr

/-- What a pass meets outside the node: name resolution and the temporary files. -/
structure ApplyEnv where
  nodeName : String
  privKey : String
  /-- `ResolveFunc`. -/
  resolve : String → Except String String
  /-- Writing a slot's WireGuard config: the file's path. -/
  tempFile : Int64 → Except String String
  /-- Removing a file: the error, if that fails. -/
  remove : String → Option String

structure ApplyOutcome where
  results : List SlotResult
  applied : List ResolvedForward
  err : Option String
  deriving DecidableEq, Repr

/-- `resolveForwards`. -/
def resolveForwards (resolve : String → Except String String) :
    List Controller.LinkForward → Except String (List ResolvedForward)
  | [] => .ok []
  | f :: fs =>
    match resolve f.service with
    | .error e =>
      .error ("forward " ++ quote f.name ++ ": resolve " ++ f.service ++ ": " ++ e)
    | .ok target =>
      (resolveForwards resolve fs).map fun rest =>
        { name := f.name, publicPort := f.publicPort, protocol := f.protocol, target,
          targetPort := f.targetPort } :: rest

/-- `writeWGConf` for each slot. -/
def writeWGConfs (tempFile : Int64 → Except String String) :
    List (Int64 × WGConf) → Except String (List (Int64 × WGFile))
  | [] => .ok []
  | (slot, conf) :: rest =>
    match tempFile slot with
    | .error e => .error e
    | .ok path => (writeWGConfs tempFile rest).map fun files => (slot, { path, conf }) :: files

/-- The WireGuard configs of a pass: one per slot in Local mode, one for all peers in Cluster
mode. -/
def wgConfs (rc : RuntimeConfig) (privKey : String) : List (Int64 × WGConf) :=
  if isLocal rc then
    rc.wireguard.peers.map fun p =>
      (p.slot, renderWGConf { rc with wireguard := { rc.wireguard with peers := [p] } } privKey)
  else [(0, renderWGConf rc privKey)]

/-- The forward set a pass programs. -/
def resolvedForwards (rc : RuntimeConfig) (env : ApplyEnv) (localForwards : List ResolvedForward) :
    Except String (List ResolvedForward) :=
  if isLocal rc then .ok localForwards
  else
    match resolveForwards env.resolve rc.forwards with
    | .error e => .error ("resolve forwards: " ++ e)
    | .ok resolved => .ok resolved

/-- `ifaceExists`. -/
def ifaceExists (run : Runner Command σ) (iface : String) : StateM σ (Except String Bool) := do
  match ← run (linkShowCommand iface) with
  | none => pure (.ok true)
  | some e =>
    if contains e absentMarker then pure (.ok false)
    else pure (.error ("probe interface " ++ iface ++ ": " ++ e))

/-- The probes of a Local pass. -/
def probeSlots (run : Runner Command σ) (gatewayID : Int64) :
    List LinkPeer → StateM σ (Except String (List (Int64 × Bool)))
  | [] => pure (.ok [])
  | p :: peers => do
    match ← ifaceExists run (newSlotIdentity gatewayID p.slot).interface with
    | .error e => pure (.error e)
    | .ok exist =>
      match ← probeSlots run gatewayID peers with
      | .error e => pure (.error e)
      | .ok rest => pure (.ok ((p.slot, exist) :: rest))

/-- The slot loop of a Local pass. -/
def applySlots (run : Runner Command σ) : List SlotPlan → StateM σ (List SlotResult)
  | [] => pure []
  | sp :: plans => do
    let e ← Plan.runUntil (runStep run) sp.cmds
    let results ← applySlots run plans
    pure ({ slot := sp.slot, applied := e.isNone, err := e } :: results)

/-- `unapplied`. -/
def unapplied (results : List SlotResult) (err : String) : List SlotResult :=
  results.map fun r => { r with applied := false, err := some (r.err.getD err) }

/-- `flushConntrack`. -/
def flushConntrack (run : Runner Command σ) (previous applied : List ResolvedForward) :
    StateM σ (Option String) :=
  Plan.runUntil (runStepFor (fun c => "flush conntrack for forward " ++ join " " c.args) run)
    (conntrackFlushCommands previous applied)

/-- The hairpin loop of a Local pass. -/
def flushHairpins (run : Runner Command σ) (address previousAddress : String)
    (previous applied : List ResolvedForward) : StateM σ (Option String) :=
  Plan.runUntil (runStepFor (fun c => "delete conntrack for hairpin " ++ join " " c.args) run)
    (hairpinConntrackCommands address previousAddress previous applied)

/-- The shared nft step. -/
def installRuleset (run : Runner Command σ) (ruleset : Ruleset) : StateM σ (Option String) :=
  runStepFor (fun _ => "apply nftables ruleset") run (nftCommand ruleset)

/-- What a Local pass does after its slots. -/
def finishLocal (run : Runner Command σ) (rc : RuntimeConfig) (ruleset : Ruleset)
    (previous : List ResolvedForward) (previousAddress : String) (resolved : List ResolvedForward)
    (results : List SlotResult) : StateM σ ApplyOutcome := do
  match ← installRuleset run ruleset with
  | some e => pure { results := unapplied results e, applied := [], err := some e }
  | none =>
    match ← flushConntrack run previous resolved with
    | some e => pure { results, applied := [], err := some e }
    | none =>
      match ← flushHairpins run rc.publicAddress previousAddress previous resolved with
      | some e => pure { results, applied := [], err := some e }
      | none => pure { results, applied := resolved, err := none }

/-- A Local pass over rendered documents. -/
def applyLocal (run : Runner Command σ) (rc : RuntimeConfig)
    (identity : Controller.GatewayIdentity) (files : List (Int64 × WGFile)) (ruleset : Ruleset)
    (previous : List ResolvedForward) (previousAddress : String)
    (resolved : List ResolvedForward) : StateM σ ApplyOutcome := do
  match ← probeSlots run identity.id rc.wireguard.peers with
  | .error e => pure { results := [], applied := [], err := some e }
  | .ok exist =>
    let results ← applySlots run (buildApplyCommands rc files exist resolved)
    finishLocal run rc ruleset previous previousAddress resolved results

/-- A Cluster pass over rendered documents. -/
def applyCluster (run : Runner Command σ) (rc : RuntimeConfig) (files : List (Int64 × WGFile))
    (ruleset : Ruleset) (previous resolved : List ResolvedForward) : StateM σ ApplyOutcome := do
  match ← ifaceExists run clusterInterface with
  | .error e => pure { results := [], applied := [], err := some e }
  | .ok exist =>
    let plans := buildApplyCommands rc files [(0, exist)] []
    match ← Plan.runUntil (runStep run) (plans.flatMap (·.cmds)) with
    | some e => pure { results := [], applied := [], err := some e }
    | none =>
      match ← installRuleset run ruleset with
      | some e => pure { results := [], applied := [], err := some e }
      | none =>
        match ← flushConntrack run previous resolved with
        | some e => pure { results := [], applied := [], err := some e }
        | none => pure { results := [], applied := resolved, err := none }

/-- The deferred removal of the temporary files, whose failure fails a pass that had not failed. -/
def removeFiles (remove : String → Option String) (files : List (Int64 × WGFile))
    (out : ApplyOutcome) : ApplyOutcome :=
  match out.err, files.filterMap fun (_, f) =>
      (remove f.path).map fun e => "remove " ++ f.path ++ ": " ++ e with
  | none, e :: es =>
    { out with err := some ("remove wg conf temp files: " ++ join "\n" (e :: es)) }
  | _, _ => out

/-- `applyConfig`. -/
def applyConfig (run : Runner Command σ) (rc : RuntimeConfig) (env : ApplyEnv)
    (previous : List ResolvedForward) (previousAddress : String)
    (localForwards : List ResolvedForward) : StateM σ ApplyOutcome :=
  match writeWGConfs env.tempFile (wgConfs rc env.privKey),
      resolvedForwards rc env localForwards with
  | .error e, _ => pure { results := [], applied := [], err := some e }
  | .ok _, .error e => pure { results := [], applied := [], err := some e }
  | .ok files, .ok resolved => do
    let ruleset := renderNftables rc resolved env.nodeName
    let out ← match rc.identity with
      | some identity =>
        applyLocal run rc identity files ruleset previous previousAddress resolved
      | none => applyCluster run rc files ruleset previous resolved
    pure (removeFiles env.remove files out)

/-! ## Re-asserting the sysctls -/

/-- What reading an integer sysctl file gives. -/
inductive SysctlRead where
  /-- The file does not exist. -/
  | absent
  | failed
  | value (found : Int64)
  deriving DecidableEq, Repr

/-- The loop of `reassertSlotSysctls` over the keys of one interface. -/
def reassertSlot (run : Runner Command σ) (read : String → σ → SysctlRead) (iface : String) :
    List (String × Int64) → StateM σ Unit
  | [] => pure ()
  | s :: rest => do
    match read (slotSysctlPath iface s.1) (← get) with
    | .absent => pure ()
    | .failed => reassertSlot run read iface rest
    | .value found =>
      if found = s.2 then reassertSlot run read iface rest
      else do
        let _ ← run (slotSysctlCommand iface s)
        reassertSlot run read iface rest

/-- The loop of `reassertSlotSysctls` over the peers. -/
def reassertPeers (run : Runner Command σ) (read : String → σ → SysctlRead) (gatewayID : Int64) :
    List LinkPeer → StateM σ Unit
  | [] => pure ()
  | p :: peers => do
    reassertSlot run read (newSlotIdentity gatewayID p.slot).interface slotSysctls
    reassertPeers run read gatewayID peers

/-- `reassertSlotSysctls`. -/
def reassertSlotSysctls (run : Runner Command σ) (read : String → σ → SysctlRead)
    (rc : RuntimeConfig) : StateM σ Unit :=
  match rc.identity with
  | none => pure ()
  | some identity => reassertPeers run read identity.id rc.wireguard.peers

/-! ## Which deletions a pass issues -/

section

variable {t u : ForwardTuple} {previous current : List ResolvedForward}

theorem decimal_inj {m n : Int64} (h : decimal m = decimal n) : m = n :=
  Int64.toInt_inj.mp (Lib.decimal_inj h)

/-- A deletion's arguments determine the tuple. -/
theorem conntrackFlushArgs_inj (h : conntrackFlushArgs t = conntrackFlushArgs u) : t = u := by
  cases t with
  | mk protocol publicPort target targetPort =>
    cases u with
    | mk protocol' publicPort' target' targetPort' =>
      simp only [conntrackFlushArgs, List.cons.injEq, and_true, true_and] at h
      obtain ⟨rfl, hpublic, rfl, htarget⟩ := h
      rw [decimal_inj hpublic, decimal_inj htarget]

theorem mem_flushTuples {present : List ForwardTuple} : ∀ {ts seen : List ForwardTuple},
    t ∈ flushTuples present seen ts ↔ t ∈ ts ∧ t ∉ present ∧ t ∉ seen := by
  intro ts
  induction ts with
  | nil => intro seen; simp [flushTuples]
  | cons u ts ih =>
    intro seen
    rw [flushTuples]
    split_ifs with hu
    · rw [ih, List.mem_cons]
      constructor
      · rintro ⟨ht, hrest⟩
        exact ⟨.inr ht, hrest⟩
      · rintro ⟨rfl | ht, hpresent, hseen⟩
        · exact absurd hu (not_or.mpr ⟨hpresent, hseen⟩)
        · exact ⟨ht, hpresent, hseen⟩
    · rw [List.mem_cons, ih, List.mem_cons, List.mem_cons]
      push Not at hu
      constructor
      · rintro (rfl | ⟨ht, hpresent, hseen⟩)
        · exact ⟨.inl rfl, hu.1, hu.2⟩
        · exact ⟨.inr ht, hpresent, fun h => hseen (.inr h)⟩
      · rintro ⟨ht, hpresent, hseen⟩
        by_cases htu : t = u
        · exact .inl htu
        · refine .inr ⟨ht.resolve_left htu, hpresent, ?_⟩
          rintro (rfl | h)
          · exact htu rfl
          · exact hseen h

/-- **The flush** deletes the flows of the previous tuples that are not current. -/
theorem mem_conntrackFlushCommands {c : Command} :
    c ∈ conntrackFlushCommands previous current ↔
      ∃ t ∈ previous.map tupleOf, t ∉ current.map tupleOf ∧ c = flushCommand t := by
  unfold conntrackFlushCommands
  rw [List.mem_map]
  constructor
  · rintro ⟨t, ht, rfl⟩
    obtain ⟨hprevious, hcurrent, -⟩ := mem_flushTuples.mp ht
    exact ⟨t, hprevious, hcurrent, rfl⟩
  · rintro ⟨t, hprevious, hcurrent, rfl⟩
    exact ⟨t, mem_flushTuples.mpr ⟨hprevious, hcurrent, List.not_mem_nil⟩, rfl⟩

/-- **The hairpin deletions** are for the current hairpins that were not installed before. -/
theorem mem_hairpinConntrackCommands {address previousAddress : String} {c : Command} :
    c ∈ hairpinConntrackCommands address previousAddress previous current ↔
      address ≠ "" ∧ ∃ f ∈ current,
        hairpinOf address f ∉ hairpinInstalled address previousAddress previous ∧
          c = hairpinFlushCommand (hairpinOf address f) := by
  unfold hairpinConntrackCommands
  split_ifs with haddress
  · simp [haddress]
  · constructor
    · intro hc
      obtain ⟨h, hmem, rfl⟩ := List.mem_map.mp hc
      obtain ⟨hcurrent, hnew⟩ := List.mem_filter.mp hmem
      obtain ⟨f, hf, rfl⟩ := List.mem_map.mp hcurrent
      exact ⟨haddress, f, hf, by simpa using hnew, rfl⟩
    · rintro ⟨-, f, hf, hnew, rfl⟩
      refine List.mem_map_of_mem (List.mem_filter.mpr ⟨List.mem_map_of_mem hf, ?_⟩)
      simpa using hnew

end

end WireguardGateway.Link

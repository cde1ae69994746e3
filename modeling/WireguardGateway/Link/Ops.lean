import WireguardGateway.Link.PassLog

/-!
# Commands as operations on the node

What the tools make of the link's commands: `Command.op?` reads an argument list as an operation
`Op`, and `Op.resources` is what the operation names on the node, the sysctl files of an interface
that comes or goes included.

A Local replica of the Gateway `g` runs the operations in `LocalOp g A T`: it probes and applies
slots in `A`, tears down slots in `T`, loads and deletes the Gateway's own nft table, and
deletes conntrack entries.

Results:
* **`applyConfig_runs`**, `teardownSlots_runs`: an apply runs such operations on the slots of its
  config, a teardown on those the replica holds;
* **`Process.call_own`**, `reassertSlotSysctls_own`: so every command of a replica is one on slots
  in `0..255`, and the replica keeps holding such slots only.
-/

namespace WireguardGateway.Link

open Lib Lib.Plan
open Controller (RuntimeConfig LinkPeer)

/-! ## Operations -/

/-- A routing rule by fwmark. -/
structure FwRule where
  fwmark : String
  table : String
  priority : String
  deriving DecidableEq, Repr

inductive Op where
  | linkShow (iface : String)
  | linkAdd (iface : String)
  /-- `ip link set`: up, with the MTU if one is given. -/
  | linkSet (iface : String) (mtu : Option String)
  | linkDel (iface : String)
  /-- `wg syncconf`; without a config the file it is given does not exist. -/
  | syncconf (iface : String) (conf : Option WGConf)
  | addrReplace (address iface : String)
  | writeSysctl (path value : String)
  | routeDefault (iface table : String)
  | routeThrow (target table : String)
  | flushThrow (table : String)
  | flushTable (table : String)
  | ruleAdd (rule : FwRule)
  | ruleDel (rule : FwRule)
  | nftLoad (r : Ruleset)
  | nftDelete (table : String)
  | conntrack (args : List String)
  deriving DecidableEq, Repr

/-- ip(8). -/
def ipOp? : List String → Option Op
  | ["link", "show", i] => some (.linkShow i)
  | ["link", "add", i, "type", "wireguard"] => some (.linkAdd i)
  | ["link", "set", i, "up"] => some (.linkSet i none)
  | ["link", "set", i, "mtu", mtu, "up"] => some (.linkSet i (some mtu))
  | ["link", "del", i] => some (.linkDel i)
  | ["addr", "replace", address, "dev", i] => some (.addrReplace address i)
  | ["route", "replace", "default", "dev", i, "table", t] => some (.routeDefault i t)
  | ["route", "replace", "throw", target, "table", t] => some (.routeThrow target t)
  | ["route", "flush", "table", t, "type", "throw"] => some (.flushThrow t)
  | ["route", "flush", "table", t] => some (.flushTable t)
  | ["rule", "add", "fwmark", fwmark, "lookup", table, "priority", priority] =>
    some (.ruleAdd { fwmark, table, priority })
  | ["rule", "del", "fwmark", fwmark, "lookup", table, "priority", priority] =>
    some (.ruleDel { fwmark, table, priority })
  | _ => none

/-- wg(8). -/
def wgOp? (input : Input) : List String → Option Op
  | ["syncconf", i, _] =>
    match input with
    | .wgConf c => some (.syncconf i (some c))
    | _ => some (.syncconf i none)
  | _ => none

/-- nft(8). -/
def nftOp? (input : Input) : List String → Option Op
  | ["-f", "-"] =>
    match input with
    | .ruleset r => some (.nftLoad r)
    | _ => none
  | ["delete", "table", "inet", t] => some (.nftDelete t)
  | _ => none

def Command.op? (c : Command) : Option Op :=
  if c.writePath ≠ "" then some (.writeSysctl c.writePath c.writeValue)
  else if c.name = "ip" then ipOp? c.args
  else if c.name = "wg" then wgOp? c.input c.args
  else if c.name = "nft" then nftOp? c.input c.args
  else if c.name = "conntrack" then some (.conntrack c.args)
  else none

/-- The command is an operation in `P`. -/
def Runs (P : Op → Prop) (c : Command) : Prop := ∃ op, c.op? = some op ∧ P op

theorem Runs.mono {P Q : Op → Prop} (h : ∀ op, P op → Q op) {c : Command} (hc : Runs P c) :
    Runs Q c := by
  obtain ⟨op, hop, hP⟩ := hc
  exact ⟨op, hop, h op hP⟩

def slotRule (id : SlotIdentity) : FwRule :=
  { fwmark := id.fwmark, table := id.table, priority := rulePriority }

/-! ## What an operation names -/

inductive Resource where
  | interface (name : String)
  | sysctl (path : String)
  | routeTable (table : String)
  | fwmark (selector : String)
  | nftTable (name : String)
  deriving DecidableEq, Repr

/-- The sysctl files the link writes for an interface. -/
def sysctlPaths (iface : String) : List String := slotSysctls.map fun s => slotSysctlPath iface s.1

/-- An interface with its sysctl files. -/
def interfaceResources (iface : String) : List Resource :=
  .interface iface :: (sysctlPaths iface).map .sysctl

/-- The table, the interfaces and the marks a ruleset's rules name. -/
def Ruleset.resources : Ruleset → List Resource
  | .cluster d => [.nftTable d.table, .interface d.interface]
  | .local_ d => .nftTable d.table ::
      d.slots.flatMap fun s => [.interface s.interface, .fwmark (s.mark ++ "/" ++ s.markMask)]

def Op.resources : Op → List Resource
  | .linkShow i => [.interface i]
  | .linkAdd i => interfaceResources i
  | .linkSet i _ => [.interface i]
  | .linkDel i => interfaceResources i
  | .syncconf i _ => [.interface i]
  | .addrReplace _ i => [.interface i]
  | .writeSysctl path _ => [.sysctl path]
  | .routeDefault i t => [.interface i, .routeTable t]
  | .routeThrow _ t => [.routeTable t]
  | .flushThrow t => [.routeTable t]
  | .flushTable t => [.routeTable t]
  | .ruleAdd rule => [.fwmark rule.fwmark, .routeTable rule.table]
  | .ruleDel rule => [.fwmark rule.fwmark, .routeTable rule.table]
  | .nftLoad r => r.resources
  | .nftDelete t => [.nftTable t]
  | .conntrack _ => []

/-! ## The operations of a replica -/

/-- The commands of an interface up to its sysctls. -/
inductive IfaceOp (iface : String) : Op → Prop
  | linkAdd : IfaceOp iface (.linkAdd iface)
  | syncconf (conf : Option WGConf) : IfaceOp iface (.syncconf iface conf)
  | addrReplace (address : String) : IfaceOp iface (.addrReplace address iface)
  | linkSet (mtu : Option String) : IfaceOp iface (.linkSet iface mtu)

/-- The commands of a slot's apply plan. -/
inductive ApplyOp (id : SlotIdentity) : Op → Prop
  | iface {op : Op} (h : IfaceOp id.interface op) : ApplyOp id op
  | sysctl {s : String × Int64} (h : s ∈ slotSysctls) :
      ApplyOp id (.writeSysctl (slotSysctlPath id.interface s.1) (decimal s.2))
  | routeDefault : ApplyOp id (.routeDefault id.interface id.table)
  | flushThrow : ApplyOp id (.flushThrow id.table)
  | routeThrow (target : String) : ApplyOp id (.routeThrow target id.table)
  | ruleAdd : ApplyOp id (.ruleAdd (slotRule id))

/-- The commands of a slot's teardown. -/
inductive TeardownOp (id : SlotIdentity) : Op → Prop
  | ruleDel : TeardownOp id (.ruleDel (slotRule id))
  | flushTable : TeardownOp id (.flushTable id.table)
  | linkDel : TeardownOp id (.linkDel id.interface)

/-- The operations of a Local replica that applies slots in `A` and tears down slots in `T`. -/
inductive LocalOp (g : Int64) (A T : Int64 → Prop) : Op → Prop
  | probe {slot : Int64} (hslot : A slot) :
      LocalOp g A T (.linkShow (newSlotIdentity g slot).interface)
  | apply {slot : Int64} {op : Op} (hslot : A slot) (hop : ApplyOp (newSlotIdentity g slot) op) :
      LocalOp g A T op
  | teardown {slot : Int64} {op : Op} (hslot : T slot)
      (hop : TeardownOp (newSlotIdentity g slot) op) : LocalOp g A T op
  | install {rc : RuntimeConfig} {forwards : List ResolvedForward} {nodeName : String}
      (hidentity : rc.identity = some (newGatewayIdentity g))
      (hslots : ∀ slot ∈ configuredSlots rc, A slot) :
      LocalOp g A T (.nftLoad (renderNftables rc forwards nodeName))
  | deleteTable : LocalOp g A T (.nftDelete (newGatewayIdentity g).nftTable)
  | conntrack (args : List String) : LocalOp g A T (.conntrack args)

/-- The steps of the teardown of slots in `T`. -/
def TeardownOf (g : Int64) (T : Int64 → Prop) (op : Op) : Prop :=
  ∃ slot, T slot ∧ TeardownOp (newSlotIdentity g slot) op

theorem LocalOp.mono {g : Int64} {A A' T T' : Int64 → Prop} (hA : ∀ s, A s → A' s)
    (hT : ∀ s, T s → T' s) {op : Op} (h : LocalOp g A T op) : LocalOp g A' T' op := by
  cases h with
  | probe hslot => exact .probe (hA _ hslot)
  | apply hslot hop => exact .apply (hA _ hslot) hop
  | teardown hslot hop => exact .teardown (hT _ hslot) hop
  | install hidentity hslots => exact .install hidentity fun s hs => hA s (hslots s hs)
  | deleteTable => exact .deleteTable
  | conntrack args => exact .conntrack args

/-! ## Reading the plans -/

section

variable {rc : RuntimeConfig} {id : SlotIdentity}

theorem op?_ip (args : List String) : (ip args).op? = ipOp? args := rfl

theorem op?_linkSet (mtu : Int64) (iface : String) :
    (linkSetCommand mtu iface).op? =
      some (.linkSet iface (if mtu > 0 then some (decimal mtu) else none)) := by
  unfold linkSetCommand
  rw [op?_ip]
  split_ifs
  · rfl
  · rfl

theorem op?_syncconf (iface : String) (file : Option WGFile) :
    (syncconfCommand iface file).op? = some (.syncconf iface (file.map (·.conf))) := by
  cases file with
  | none | some f => rfl

theorem slotSysctlPath_ne_empty (iface key : String) : slotSysctlPath iface key ≠ "" := by
  intro h
  have hlist := congrArg String.toList h
  simp [slotSysctlPath, hostProcSysNetPath] at hlist

theorem op?_sysctl (iface : String) (s : String × Int64) :
    (slotSysctlCommand iface s).op? =
      some (.writeSysctl (slotSysctlPath iface s.1) (decimal s.2)) :=
  if_pos (slotSysctlPath_ne_empty iface s.1)

theorem ifaceCommands_ops {iface : String} {exist : Bool} {file : Option WGFile} :
    ∀ c ∈ ifaceCommands rc iface exist file, Runs (IfaceOp iface) c := by
  intro c hc
  unfold ifaceCommands at hc
  rcases List.mem_append.mp hc with hc | hc
  · split_ifs at hc
    · cases hc
    · rw [List.mem_singleton.mp hc]
      exact ⟨_, rfl, .linkAdd⟩
  · simp only [List.mem_cons, List.not_mem_nil, or_false] at hc
    rcases hc with rfl | rfl | rfl
    · exact ⟨_, op?_syncconf _ _, .syncconf _⟩
    · exact ⟨_, rfl, .addrReplace _⟩
    · exact ⟨_, op?_linkSet _ _, .linkSet _⟩

theorem localRouteCommands_ops {targets : List String} :
    ∀ c ∈ localRouteCommands id targets, Runs (ApplyOp id) c := by
  intro c hc
  simp only [localRouteCommands, List.mem_append, List.mem_cons, List.mem_map, List.not_mem_nil,
    or_false] at hc
  rcases hc with ((rfl | rfl) | ⟨target, -, rfl⟩) | rfl
  · exact ⟨_, rfl, .routeDefault⟩
  · exact ⟨_, rfl, .flushThrow⟩
  · exact ⟨_, rfl, .routeThrow _⟩
  · exact ⟨_, rfl, .ruleAdd⟩

theorem slotCommands_ops {exist : Bool} {file : Option WGFile} {targets : List String} :
    ∀ c ∈ slotCommands rc id exist file targets, Runs (ApplyOp id) c := by
  intro c hc
  simp only [slotCommands, List.mem_append, List.mem_map] at hc
  rcases hc with (hc | ⟨s, hs, rfl⟩) | hc
  · exact (ifaceCommands_ops c hc).mono fun _ => .iface
  · exact ⟨_, op?_sysctl _ _, .sysctl hs⟩
  · exact localRouteCommands_ops c hc

theorem slotTeardownSteps_ops {g slot : Int64} :
    ∀ c ∈ slotTeardownSteps g slot, Runs (TeardownOp (newSlotIdentity g slot)) c := by
  intro c hc
  simp only [slotTeardownSteps, List.mem_cons, List.not_mem_nil, or_false] at hc
  rcases hc with rfl | rfl | rfl
  · exact ⟨_, rfl, .ruleDel⟩
  · exact ⟨_, rfl, .flushTable⟩
  · exact ⟨_, rfl, .linkDel⟩

theorem conntrackFlushCommands_ops {previous current : List ResolvedForward} :
    ∀ c ∈ conntrackFlushCommands previous current, ∃ args, c.op? = some (.conntrack args) := by
  intro c hc
  obtain ⟨t, -, -, rfl⟩ := mem_conntrackFlushCommands.mp hc
  exact ⟨_, rfl⟩

theorem hairpinConntrackCommands_ops {address previousAddress : String}
    {previous current : List ResolvedForward} :
    ∀ c ∈ hairpinConntrackCommands address previousAddress previous current,
      ∃ args, c.op? = some (.conntrack args) := by
  intro c hc
  obtain ⟨-, f, -, -, rfl⟩ := mem_hairpinConntrackCommands.mp hc
  exact ⟨_, rfl⟩

end

/-! ## The configs and the slots of a Gateway -/

/-- A config the replicas of the Gateway accept. -/
structure Accepted (g : Int64) (rc : RuntimeConfig) : Prop where
  identity : rc.identity = some (newGatewayIdentity g)
  valid : ∃ raw, validate raw = .ok rc

section

variable {g : Int64} {rc : RuntimeConfig} {d : DataPlane}

theorem Accepted.inByte (h : Accepted g rc) : ∀ slot ∈ configuredSlots rc, InByte slot := by
  intro slot hslot
  obtain ⟨raw, hraw⟩ := h.valid
  obtain ⟨p, hp, rfl⟩ := List.mem_map.mp hslot
  exact (validate_peers hraw).1 p hp

theorem Accepted.nodup (h : Accepted g rc) : (configuredSlots rc).Nodup := by
  obtain ⟨raw, hraw⟩ := h.valid
  exact (validate_peers hraw).2

theorem Accepted.isLocal (h : Accepted g rc) : isLocal rc := by
  unfold Link.isLocal
  rw [h.identity]
  rfl

theorem Accepted.nftTableName (h : Accepted g rc) :
    nftTableName rc = (newGatewayIdentity g).nftTable := by
  unfold Link.nftTableName
  rw [h.identity]

/-- The data plane of a replica of the Gateway. -/
structure DataPlane.Of (g : Int64) (d : DataPlane) : Prop where
  accepted : Accepted g d.rc
  held : ∀ slot ∈ d.slots, InByte slot

theorem DataPlane.Of.gatewayID (h : d.Of g) : gatewayIDOf d.rc = g := by
  unfold gatewayIDOf
  rw [h.accepted.identity]
  rfl

variable {slot : Int64}

theorem mem_heldSlots : slot ∈ d.heldSlots ↔ slot ∈ d.slots := by
  unfold DataPlane.heldSlots
  rw [List.mem_insertionSort]
  exact AList.mem_keys.symm

theorem mem_record {results : List SlotResult} :
    slot ∈ (d.record results).slots ↔ slot ∈ d.slots ∨ slot ∈ results.map (·.slot) := by
  unfold DataPlane.record
  induction results generalizing d with
  | nil => simp
  | cons r results ih =>
    have hrest := ih (d := { d with slots := d.slots.insert r.slot r.applied })
    rw [List.foldl_cons, hrest, AList.mem_insert, List.map_cons, List.mem_cons]
    tauto

theorem mem_foldl_hold {slots : List Int64} :
    slot ∈ (slots.foldl DataPlane.hold d).slots ↔ slot ∈ d.slots ∨ slot ∈ slots := by
  induction slots generalizing d with
  | nil => simp
  | cons x slots ih =>
    rw [List.foldl_cons, ih, DataPlane.hold, AList.mem_insert, List.mem_cons]
    tauto

theorem foldl_hold_rc {slots : List Int64} : (slots.foldl DataPlane.hold d).rc = d.rc := by
  induction slots generalizing d with
  | nil => rfl
  | cons x slots ih => exact ih

theorem startDataPlane_eq (h : Accepted g rc) (names : List String) :
    startDataPlane rc names = (inheritedSlots names g).foldl DataPlane.hold (newDataPlane rc) := by
  unfold startDataPlane
  rw [h.identity]
  rfl

/-- A replica starts with the slots found on the node. -/
theorem mem_startDataPlane (h : Accepted g rc) {names : List String} :
    slot ∈ (startDataPlane rc names).slots ↔ slot ∈ inheritedSlots names g := by
  rw [startDataPlane_eq h, mem_foldl_hold]
  simp [newDataPlane]

theorem startDataPlane_of (h : Accepted g rc) (names : List String) :
    (startDataPlane rc names).Of g := by
  refine ⟨?_, fun slot hslot => ?_⟩
  · rw [startDataPlane_eq h, foldl_hold_rc]
    exact h
  · exact (mem_inheritedSlots.mp ((mem_startDataPlane h).mp hslot)).1

theorem remember_slots {out : ApplyOutcome} : (d.remember rc out).slots = d.slots := by
  unfold DataPlane.remember
  split
  · rfl
  · rfl

theorem remember_rc {rc' : RuntimeConfig} {out : ApplyOutcome} :
    (d.remember rc' out).rc = d.rc := by
  unfold DataPlane.remember
  split
  · rfl
  · rfl

end

/-! ## The commands of the passes -/

section

variable {σ : Type} {run : Runner Command σ} {g : Int64} {rc : RuntimeConfig} {d : DataPlane}
  {env : ApplyEnv} {previous localForwards resolved : List ResolvedForward}
  {previousAddress : String}

/-- The operations of an apply of `rc`. -/
abbrev AppliesOf (g : Int64) (rc : RuntimeConfig) : Op → Prop :=
  LocalOp g (· ∈ configuredSlots rc) fun _ => False

/-- The operations of a replica that applies nothing. -/
abbrev AppliesNone (g : Int64) (T : Int64 → Prop) : Op → Prop := LocalOp g (fun _ => False) T

def IsProbe (op : Op) : Prop := ∃ iface, op = .linkShow iface

theorem applySlots_runs {Q : Command → Prop} {plans : List SlotPlan}
    (h : ∀ sp ∈ plans, ∀ c ∈ sp.cmds, Q c) :
    Returns run Q (applySlots run plans) fun results =>
      results.map (·.slot) = plans.map (·.slot) := by
  induction plans with
  | nil => exact .pure rfl
  | cons sp plans ih =>
    refine (EmitsOnly.runUntil (h sp List.mem_cons_self)).returns.bind fun e _ => ?_
    refine (ih fun sp hsp => h sp (List.mem_cons_of_mem _ hsp)).bind fun results hslots => .pure ?_
    rw [List.map_cons, List.map_cons, hslots]

/-- What follows the slots of a Local pass keeps the results' slots. -/
theorem finishLocal_runs {Q : Command → Prop} {ruleset : Ruleset} {results : List SlotResult}
    {slots : List Int64} (hslots : results.map (·.slot) = slots) (hnft : Q (nftCommand ruleset))
    (hdelete : ∀ c args, c.op? = some (.conntrack args) → Q c) :
    Returns run Q (finishLocal run rc ruleset previous previousAddress resolved results)
      fun out => out.results.map (·.slot) = slots := by
  have hflush : ∀ c ∈ conntrackFlushCommands previous resolved, Q c := by
    intro c hc
    obtain ⟨args, hop⟩ := conntrackFlushCommands_ops c hc
    exact hdelete c args hop
  have hhairpin : ∀ c ∈ hairpinConntrackCommands rc.publicAddress previousAddress previous resolved,
      Q c := by
    intro c hc
    obtain ⟨args, hop⟩ := hairpinConntrackCommands_ops c hc
    exact hdelete c args hop
  have hinstall : EmitsOnly run Q (installRuleset run ruleset) := EmitsOnly.tolerant hnft
  refine hinstall.returns.bind fun e _ => ?_
  cases e with
  | some e => exact .pure (by rw [← hslots]; simp [unapplied])
  | none =>
    refine (EmitsOnly.runUntil hflush).returns.bind fun e _ => ?_
    cases e with
    | some e => exact .pure hslots
    | none =>
      refine (EmitsOnly.runUntil hhairpin).returns.bind fun e _ => ?_
      cases e with
      | some e | none => exact .pure hslots

/-- What an apply ran and which slots it reports: all of the config's, or none after probes only. -/
def AppliesAs (g : Int64) (rc : RuntimeConfig) (out : ApplyOutcome)
    (evs : List (Event Command)) : Prop :=
  (∀ ev ∈ evs, Runs (AppliesOf g rc) ev.command) ∧
    (out.results.map (·.slot) = configuredSlots rc ∨
      out.results = [] ∧ ∀ ev ∈ evs, Runs IsProbe ev.command)

variable {files : List (Int64 × WGFile)} {read : String → σ → SysctlRead}

theorem buildApplyCommands_ops (h : Accepted g rc) {exist : List (Int64 × Bool)} :
    ∀ sp ∈ buildApplyCommands rc files exist resolved, ∀ c ∈ sp.cmds,
      Runs (AppliesOf g rc) c := by
  intro sp hsp c hc
  unfold buildApplyCommands at hsp
  rw [h.identity] at hsp
  obtain ⟨p, hp, rfl⟩ := List.mem_map.mp hsp
  exact (slotCommands_ops c hc).mono fun op hop => .apply (List.mem_map_of_mem hp) hop

theorem applyLocal_runs (h : Accepted g rc) {nodeName : String} :
    Emits run (applyLocal run rc (newGatewayIdentity g) files (renderNftables rc resolved nodeName)
      previous previousAddress resolved) (AppliesAs g rc) := by
  have hprobe : ∀ p ∈ rc.wireguard.peers, Runs (fun op => AppliesOf g rc op ∧ IsProbe op)
      (linkShowCommand (newSlotIdentity (newGatewayIdentity g).id p.slot).interface) := by
    intro p hp
    exact ⟨_, rfl, .probe (List.mem_map_of_mem hp), _, rfl⟩
  refine Emits.bind (probeSlots_only hprobe) fun exist => ?_
  cases exist with
  | error e =>
    refine .pure fun xs hxs => ?_
    rw [List.append_nil]
    exact ⟨fun ev hev => (hxs ev hev).mono fun _ => And.left,
      .inr ⟨rfl, fun ev hev => (hxs ev hev).mono fun _ => And.right⟩⟩
  | ok exist =>
    have hnft : Runs (AppliesOf g rc) (nftCommand (renderNftables rc resolved nodeName)) :=
      ⟨_, rfl, .install h.identity fun _ hs => hs⟩
    refine Emits.weaken (Returns.bind (applySlots_runs (buildApplyCommands_ops h))
      fun results hslots => finishLocal_runs hslots hnft
        fun c args hop => ⟨_, hop, .conntrack args⟩) ?_
    intro out ys hys xs hxs
    have hprobes : ∀ ev ∈ xs, Runs (AppliesOf g rc) ev.command := fun ev hev =>
      (hxs ev hev).mono fun _ => And.left
    refine ⟨List.forall_mem_append.mpr ⟨hprobes, hys.1⟩, .inl ?_⟩
    rw [hys.2, buildApplyCommands, h.identity, configuredSlots]
    simp

theorem removeFiles_results {remove : String → Option String} {out : ApplyOutcome} :
    (removeFiles remove files out).results = out.results := by
  unfold removeFiles
  split
  · rfl
  · rfl

/-- **The commands of an apply** of an accepted config. -/
theorem applyConfig_runs (h : Accepted g rc) :
    Emits run (applyConfig run rc env previous previousAddress localForwards)
      (AppliesAs g rc) := by
  have hearly : ∀ err : String,
      AppliesAs g rc { results := [], applied := [], err := some err } [] := fun err =>
    ⟨fun _ hev => absurd hev List.not_mem_nil,
      .inr ⟨rfl, fun _ hev => absurd hev List.not_mem_nil⟩⟩
  unfold applyConfig
  cases writeWGConfs env.tempFile (wgConfs rc env.privKey) with
  | error e => exact .pure (hearly e)
  | ok files =>
    cases resolvedForwards rc env localForwards with
    | error e => exact .pure (hearly e)
    | ok resolved =>
      simp only [h.identity]
      refine (applyLocal_runs h).bind fun out => .pure fun xs hxs => ?_
      rw [List.append_nil]
      unfold AppliesAs
      rw [removeFiles_results]
      exact hxs

/-- **The commands of a teardown** of the held slots that are not in `keep`. -/
theorem teardownSlots_departed (hd : d.Of g) (keep : List Int64) :
    EmitsOnly run (Runs (TeardownOf g fun slot => slot ∈ d.slots ∧ slot ∉ keep))
      (teardownSlots run d keep) := by
  have hsteps : ∀ slot ∈ d.heldSlots, slot ∉ keep →
      ∀ c ∈ slotTeardownSteps (gatewayIDOf d.rc) slot,
        Runs (TeardownOf g fun slot => slot ∈ d.slots ∧ slot ∉ keep) c := by
    intro slot hslot hkeep c hc
    rw [hd.gatewayID] at hc
    exact (slotTeardownSteps_ops c hc).mono fun op hop =>
      ⟨slot, ⟨mem_heldSlots.mp hslot, hkeep⟩, hop⟩
  exact (teardownLoop_only hsteps _).bind fun _ => .pure _

theorem teardownSlots_runs (hd : d.Of g) (keep : List Int64) :
    EmitsOnly run (Runs (TeardownOf g fun slot => slot ∈ d.slots)) (teardownSlots run d keep) := by
  have hdeparted : EmitsOnly run _ (teardownSlots run d keep) := teardownSlots_departed hd keep
  refine hdeparted.weaken fun _ _ honly ev hev => (honly ev hev).mono ?_
  rintro op ⟨slot, hslot, hop⟩
  exact ⟨slot, hslot.1, hop⟩

theorem teardownLoop_mem {gatewayID : Int64} {keep : List Int64} {slot : Int64} :
    ∀ {held : List Int64} {slots : GoMap Int64 Bool} {host : σ},
      slot ∈ (teardownLoop run gatewayID keep held slots host).1.1 → slot ∈ slots ∨
        slot ∈ held := by
  intro held
  induction held with
  | nil =>
    intro slots host h
    exact .inl h
  | cons x held ih =>
    intro slots host h
    rw [teardownLoop] at h
    split_ifs at h with hkeep
    · exact (ih h).imp_right (List.mem_cons_of_mem _)
    · rw [bind_apply] at h
      cases hjoin : joinErrors
        (runEach (runTeardownStep run) (slotTeardownSteps gatewayID x) host).1 with
      | none =>
        rw [hjoin] at h
        rcases ih h with h | h
        · exact .inl (AList.mem_erase.mp h).2
        · exact .inr (List.mem_cons_of_mem _ h)
      | some err =>
        rw [hjoin] at h
        rcases ih h with h | h
        · rcases (AList.mem_insert _).mp h with rfl | h
          · exact .inr List.mem_cons_self
          · exact .inl h
        · exact .inr (List.mem_cons_of_mem _ h)

theorem teardownSlots_of (hd : d.Of g) (keep : List Int64) (host : σ) :
    (teardownSlots run d keep host).1.1.Of g := by
  refine ⟨hd.accepted, fun slot hslot => hd.held slot ?_⟩
  rcases teardownLoop_mem hslot with h | h
  · exact h
  · exact mem_heldSlots.mp h

/-- The operations of a replica of the Gateway. -/
abbrev OwnOp (g : Int64) : Op → Prop := LocalOp g InByte InByte

theorem deleteTable_runs {A T : Int64 → Prop} (hd : d.Of g) : EmitsOnly run (Runs (LocalOp g A T))
    (runTeardownStep run (deleteTableCommand (nftTableName d.rc))) := by
  rw [hd.accepted.nftTableName]
  exact EmitsOnly.tolerant ⟨_, rfl, .deleteTable⟩

theorem teardownSlots_own (hd : d.Of g) (keep : List Int64) :
    Returns run (Runs (OwnOp g)) (teardownSlots run d keep) fun out => out.1.Of g := by
  intro host
  have hruns : EmitsOnly run _ (teardownSlots run d keep) := teardownSlots_runs hd keep
  obtain ⟨evs, htrace, hevs⟩ := hruns host
  refine ⟨evs, htrace, fun ev hev => (hevs ev hev).mono ?_, teardownSlots_of hd keep host⟩
  rintro op ⟨slot, hslot, hop⟩
  exact .teardown (hd.held slot hslot) hop

theorem applyPass_of (hd : d.Of g) (h : Accepted g rc) {out : ApplyOutcome}
    {evs : List (Event Command)} (hout : AppliesAs g rc out evs) :
    ((d.remember rc out).record out.results).Of g := by
  refine ⟨?_, fun slot hslot => ?_⟩
  · show Accepted g (d.remember rc out).rc
    rw [remember_rc]
    exact hd.accepted
  · rcases mem_record.mp hslot with hslot | hslot
    · rw [remember_slots] at hslot
      exact hd.held slot hslot
    · rcases hout.2 with hresults | ⟨hresults, -⟩
      · rw [hresults] at hslot
        exact h.inByte slot hslot
      · rw [hresults] at hslot
        cases hslot

theorem linkApply_own (hd : d.Of g) (h : Accepted g rc) :
    Returns run (Runs (OwnOp g)) (linkApply run d rc env localForwards) fun out =>
      out.1.Of g := by
  have hcurrent : DataPlane.Of g { d with rc := rc } := ⟨h, hd.held⟩
  unfold linkApply applyPass
  rw [if_neg (by simp [h.isLocal])]
  refine (teardownSlots_own hcurrent _).bind fun (d', departed) hd' => ?_
  refine Emits.bind (applyConfig_runs h) fun out => .pure fun xs hxs => ?_
  rw [List.append_nil]
  refine ⟨fun ev hev => (hxs.1 ev hev).mono fun _ => ?_, applyPass_of hd' h hxs⟩
  exact LocalOp.mono h.inByte fun _ hfalse => hfalse.elim

theorem standbyPass_own (hd : d.Of g) (h : Accepted g rc) (leader : Bool) :
    Returns run (Runs (OwnOp g)) (standbyPass run d rc leader) fun out => out.1.Of g := by
  have hcurrent : DataPlane.Of g { d with rc := rc } := ⟨h, hd.held⟩
  unfold standbyPass
  split_ifs
  · exact .pure hd
  · exact .pure hcurrent
  · exact (teardownSlots_own hcurrent _).bind fun (d', down) hd' => .pure hd'

theorem stepDown_own (hd : d.Of g) :
    Returns run (Runs (OwnOp g)) (stepDown run d) fun out => out.1.Of g := by
  have htable : EmitsOnly run (Runs (OwnOp g)) _ := deleteTable_runs hd
  unfold stepDown
  rw [if_neg (by simp [hd.accepted.isLocal])]
  exact htable.returns.bind fun e _ =>
    (teardownSlots_own hd _).bind fun (d', down) hd' => .pure hd'

theorem reassertSlot_own {slot : Int64} (hslot : InByte slot) {keys : List (String × Int64)}
    (hkeys : ∀ s ∈ keys, s ∈ slotSysctls) :
    EmitsOnly run (Runs (OwnOp g))
      (reassertSlot run read (newSlotIdentity g slot).interface keys) := by
  induction keys with
  | nil => exact .pure _
  | cons s keys ih =>
    have hrest := ih fun s hs => hkeys s (List.mem_cons_of_mem _ hs)
    have hwrite : Runs (OwnOp g) (slotSysctlCommand (newSlotIdentity g slot).interface s) :=
      ⟨_, op?_sysctl _ _, .apply hslot (.sysctl (hkeys s List.mem_cons_self))⟩
    refine EmitsOnly.get.bind fun host => ?_
    cases read (slotSysctlPath (newSlotIdentity g slot).interface s.1) host with
    | absent => exact .pure _
    | failed => exact hrest
    | value found =>
      show EmitsOnly run _ (if _ then _ else _)
      split_ifs
      · exact hrest
      · exact (EmitsOnly.command hwrite).bind fun _ => hrest

theorem reassertPeers_own {peers : List LinkPeer} (h : ∀ p ∈ peers, InByte p.slot) :
    EmitsOnly run (Runs (OwnOp g)) (reassertPeers run read g peers) := by
  induction peers with
  | nil => exact .pure _
  | cons p peers ih =>
    refine (reassertSlot_own (h p List.mem_cons_self) fun _ hs => hs).bind fun _ => ?_
    exact ih fun q hq => h q (List.mem_cons_of_mem _ hq)

/-- **The commands of a sysctl re-assert.** -/
theorem reassertSlotSysctls_own (h : Accepted g rc) :
    EmitsOnly run (Runs (OwnOp g)) (reassertSlotSysctls run read rc) := by
  unfold reassertSlotSysctls
  rw [h.identity]
  exact reassertPeers_own fun p hp => h.inByte p.slot (List.mem_map_of_mem hp)

/-! ## Runs of a replica -/

/-- The configs of a call are accepted. -/
def Call.Accepted (g : Int64) : Call → Prop
  | .applyPass rc _ _ => Link.Accepted g rc
  | .standbyPass rc _ => Link.Accepted g rc
  | .stepDown => True
  | .startLeading => True
  | .observeOtherHolder => True

/-- **The commands of a call.** -/
theorem Process.call_own (run : Runner Command σ) {p : Process σ} (hd : p.dp.Of g) {c : Call}
    (hc : c.Accepted g) :
    ∃ evs, Trace run p.host evs (p.call run c).1.host ∧
      (∀ ev ∈ evs, Runs (OwnOp g) ev.command) ∧ (p.call run c).1.dp.Of g := by
  cases c with
  | applyPass rc env localForwards => exact linkApply_own hd hc p.host
  | standbyPass rc leader => exact standbyPass_own hd hc leader p.host
  | stepDown => exact stepDown_own hd p.host
  | startLeading | observeOtherHolder =>
    exact ⟨[], .nil _, fun _ hev => absurd hev List.not_mem_nil, hd.accepted, hd.held⟩

theorem Process.call_of (run : Runner Command σ) {p : Process σ} (hd : p.dp.Of g) {c : Call}
    (hc : c.Accepted g) : (p.call run c).1.dp.Of g := by
  obtain ⟨-, -, -, hof⟩ := Process.call_own run hd hc
  exact hof

end

end WireguardGateway.Link

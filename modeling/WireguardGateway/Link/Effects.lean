import WireguardGateway.Link.Undo

/-!
# What the steps of a slot leave

The steps of one slot of the apply plan of `internal/link/apply.go` as operations on the node
(`ifaceOps`, `sysctlOps`, `routeOps`), and what they leave when every one of them succeeded
(`Effects`): the slot's interface, sysctl files, rule and routes (`SlotView`).

Of the slot before, only the interface shines through (`appliedIface`): `ip addr replace` adds to
its addresses, and `ip link set` without an MTU keeps the one it has.

Results:
* **`slotOps_applied`**: the slot after its steps;
* `applyOp_slot`: the steps of a slot leave the others alone.
-/

namespace WireguardGateway.Link

open Lib Lib.Plan
open Controller (RuntimeConfig LinkPeer)

/-! ## Steps that succeeded -/

/-- What a step that succeeded did to the node: it took effect, or the rule it adds was there. -/
inductive Effect (k : Kernel) : Op → Node → Node → Prop
  | done {op : Op} {n n' : Node} (h : op.exec k n = .ok n') : Effect k op n n'
  | present {rule : FwRule} {n : Node} (h : n.rules rule = true) : Effect k (.ruleAdd rule) n n

inductive Effects (k : Kernel) : List Op → Node → Node → Prop
  | nil (n : Node) : Effects k [] n n
  | cons {op : Op} {ops : List Op} {n n' n'' : Node} (head : Effect k op n n')
      (tail : Effects k ops n' n'') : Effects k (op :: ops) n n''

/-- A step that takes no other failure for success than that of adding a rule. -/
structure Settles (c : Command) (op : Op) : Prop where
  op_eq : c.op? = some op
  flows : c.tolerateNoFlows = false
  rule : c.tolerateExists = true → ∃ rule, op = .ruleAdd rule

section

variable {k : Kernel} {op : Op} {n n' n'' : Node}

theorem Effect.exec (h : Effect k op n n') (hop : ∀ rule, op ≠ .ruleAdd rule) :
    op.exec k n = .ok n' := by
  cases h with
  | done h => exact h
  | present => exact absurd rfl (hop _)

theorem effects_append {xs ys : List Op} (h : Effects k (xs ++ ys) n n'') :
    ∃ n', Effects k xs n n' ∧ Effects k ys n' n'' := by
  induction xs generalizing n with
  | nil => exact ⟨n, .nil n, h⟩
  | cons op xs ih =>
    cases h with
    | cons head tail =>
      obtain ⟨n', hxs, hys⟩ := ih tail
      exact ⟨n', .cons head hxs, hys⟩

theorem effects_preserve {P : Node → Prop} {Q : Op → Prop} {ops : List Op}
    (h : Effects k ops n n') (hops : ∀ op ∈ ops, Q op)
    (hstep : ∀ op n n', Q op → Effect k op n n' → P n → P n') (hn : P n) : P n' := by
  induction h with
  | nil => exact hn
  | cons head _ ih =>
    exact ih (fun op hop => hops op (List.mem_cons_of_mem _ hop))
      (hstep _ _ _ (hops _ List.mem_cons_self) head hn)

theorem step_effect {c : Command} (hc : Settles c op) (s : Machine)
    (h : (runStep (nodeRun k).logged c s).1 = none) :
    Effect k op s.node (Machine.node (runStep (nodeRun k).logged c s).2) := by
  have hran := machine_spec (k := k) s hc.op_eq
  have htolerated : tolerateStep c ((nodeRun k).logged c s).1 = none := h
  show Effect k op s.node (Machine.node ((nodeRun k).logged c s).2)
  generalize Machine.node ((nodeRun k).logged c s).2 = n' at hran ⊢
  generalize ((nodeRun k).logged c s).1 = e at hran htolerated
  cases hran with
  | done hexec => exact .done hexec
  | @refused e hexec =>
    have hexists : c.tolerateExists = true := by
      by_contra hnot
      simp [tolerateStep, hc.flows, hnot] at htolerated
    obtain ⟨rule, rfl⟩ := hc.rule hexists
    rw [Op.exec] at hexec
    split_ifs at hexec with hrule
    exact .present hrule
  | failed e =>
    simp [tolerateStep, hc.flows, e.2.2] at htolerated

/-- **A plan that succeeded** ran every step. -/
theorem runUntil_effects {cs : List Command} {ops : List Op} (h : List.Forall₂ Settles cs ops) :
    ∀ s : Machine, (Plan.runUntil (runStep (nodeRun k).logged) cs s).1 = none →
      Effects k ops s.node (Machine.node (Plan.runUntil (runStep (nodeRun k).logged) cs s).2) := by
  induction h with
  | nil => exact fun s _ => .nil _
  | @cons c op cs ops hc _ ih =>
    intro s hnone
    rw [runUntil, bind_apply] at hnone ⊢
    cases he : (runStep (nodeRun k).logged c s).1 with
    | some e =>
      rw [he] at hnone
      cases hnone
    | none =>
      rw [he] at hnone
      exact .cons (step_effect hc s he) (ih _ hnone)

end

/-! ## The plans as operations -/

/-- The operations of `ifaceCommands`. -/
def ifaceOps (rc : RuntimeConfig) (iface : String) (exist : Bool) (file : Option WGFile) :
    List Op :=
  (if exist then [] else [.linkAdd iface]) ++
    [.syncconf iface (file.map (·.conf)), .addrReplace rc.wireguard.address iface,
     .linkSet iface (if rc.wireguard.mtu > 0 then some (decimal rc.wireguard.mtu) else none)]

def sysctlOps (iface : String) : List Op :=
  slotSysctls.map fun s => .writeSysctl (slotSysctlPath iface s.1) (decimal s.2)

/-- The operations of `localRouteCommands`. -/
def routeOps (id : SlotIdentity) (targets : List String) : List Op :=
  [.routeDefault id.interface id.table, .flushThrow id.table] ++
    targets.map (fun target => .routeThrow (target ++ "/32") id.table) ++ [.ruleAdd (slotRule id)]

section

variable {rc : RuntimeConfig} {id : SlotIdentity} {iface : String} {exist : Bool}
  {file : Option WGFile} {targets : List String}

/-- A command that takes no failure for success. -/
theorem settles_strict {c : Command} {op : Op} (hop : c.op? = some op)
    (hexists : c.tolerateExists = false) (hflows : c.tolerateNoFlows = false) : Settles c op :=
  ⟨hop, hflows, fun h => absurd (hexists.symm.trans h) (by simp)⟩

theorem ifaceCommands_settle :
    List.Forall₂ Settles (ifaceCommands rc iface exist file) (ifaceOps rc iface exist file) := by
  have hrest : List.Forall₂ Settles
      [syncconfCommand iface file, addrReplaceCommand rc.wireguard.address iface,
        linkSetCommand rc.wireguard.mtu iface]
      [.syncconf iface (file.map (·.conf)), .addrReplace rc.wireguard.address iface,
        .linkSet iface (if rc.wireguard.mtu > 0 then some (decimal rc.wireguard.mtu) else none)] :=
    .cons (settles_strict (op?_syncconf _ _) rfl rfl)
      (.cons (settles_strict rfl rfl rfl)
        (.cons (settles_strict (op?_linkSet _ _) rfl rfl) .nil))
  unfold ifaceCommands ifaceOps
  cases exist with
  | true => exact hrest
  | false => exact .cons (settles_strict rfl rfl rfl) hrest

theorem sysctlCommands_settle :
    List.Forall₂ Settles (slotSysctls.map (slotSysctlCommand iface)) (sysctlOps iface) := by
  unfold sysctlOps
  rw [List.forall₂_map_left_iff, List.forall₂_map_right_iff, List.forall₂_same]
  exact fun s _ => settles_strict (op?_sysctl _ _) rfl rfl

theorem localRouteCommands_settle :
    List.Forall₂ Settles (localRouteCommands id targets) (routeOps id targets) := by
  have hthrows : List.Forall₂ Settles (targets.map (throwCommand id))
      (targets.map fun target => .routeThrow (target ++ "/32") id.table) := by
    rw [List.forall₂_map_left_iff, List.forall₂_map_right_iff, List.forall₂_same]
    exact fun target _ => settles_strict rfl rfl rfl
  have hrule : Settles (ruleAddCommand id) (.ruleAdd (slotRule id)) := ⟨rfl, rfl, fun _ => ⟨_, rfl⟩⟩
  refine List.rel_append (List.rel_append ?_ hthrows) (.cons hrule .nil)
  exact .cons (settles_strict rfl rfl rfl) (.cons (settles_strict rfl rfl rfl) .nil)

theorem slotCommands_settle :
    List.Forall₂ Settles (slotCommands rc id exist file targets)
      (ifaceOps rc id.interface exist file ++ sysctlOps id.interface ++ routeOps id targets) :=
  List.rel_append (List.rel_append ifaceCommands_settle sysctlCommands_settle)
    localRouteCommands_settle

end

/-! ## One interface -/

/-- An interface after the commands of a config, from what it was before. -/
def appliedIface (k : Kernel) (rc : RuntimeConfig) (conf : Option WGConf) (before : Option Iface) :
    Iface :=
  let l := before.getD k.newIface
  { addresses := ((k.address rc.wireguard.address).elim l l.addAddress).addresses
    mtu := if rc.wireguard.mtu > 0 then decimal rc.wireguard.mtu else l.mtu
    up := true
    conf }

section

variable {k : Kernel} {rc : RuntimeConfig} {iface : String} {file : Option WGFile} {n n' : Node}

theorem effect_onLink {op : Op} {f : Iface → Iface} {l : Iface} (h : Effect k op n n')
    (hrule : ∀ rule, op ≠ .ruleAdd rule) (hop : op.exec k n = n.onLink iface f)
    (hl : n.links iface = some l) : n'.links iface = some (f l) := by
  have hexec := h.exec hrule
  rw [hop] at hexec
  obtain ⟨l', hl', rfl⟩ := onLink_eq hexec
  obtain rfl : l = l' := Option.some_inj.mp (hl.symm.trans hl')
  exact Function.update_self _ _ _

theorem ifaceOps_configures {l : Iface} (hl : n.links iface = some l)
    (h : Effects k (ifaceOps rc iface true file) n n') :
    (k.address rc.wireguard.address).isSome ∧
      n'.links iface = some (appliedIface k rc (file.map (·.conf)) (some l)) := by
  cases h with
  | @cons _ _ _ n₁ _ hsync tail =>
    cases tail with
    | @cons _ _ _ n₂ _ haddr tail =>
      cases tail with
      | cons hset tail =>
        cases tail
        have hsyncExec := hsync.exec (by simp)
        have haddrExec := haddr.exec (by simp)
        cases hconf : file.map (·.conf) with
        | none =>
          rw [hconf] at hsyncExec
          cases hsyncExec
        | some conf =>
          rw [hconf] at hsync
          cases haddress : k.address rc.wireguard.address with
          | none =>
            rw [Op.exec, haddress] at haddrExec
            cases haddrExec
          | some address =>
            have h₁ := effect_onLink hsync (by simp) rfl hl
            have h₂ := effect_onLink haddr (by simp) (by rw [Op.exec, haddress]) h₁
            have h₃ := effect_onLink hset (by simp) rfl h₂
            refine ⟨rfl, ?_⟩
            rw [h₃]
            unfold appliedIface Iface.addAddress
            rw [haddress]
            simp only [Option.getD_some, Option.elim_some]
            split_ifs <;> rfl

/-- **The commands of an interface**, which add it if it is not there. -/
theorem ifaceOps_applied (h : Effects k (ifaceOps rc iface (n.links iface).isSome file) n n') :
    (k.address rc.wireguard.address).isSome ∧
      n'.links iface = some (appliedIface k rc (file.map (·.conf)) (n.links iface)) := by
  cases hl : n.links iface with
  | some l =>
    rw [hl] at h
    exact ifaceOps_configures hl h
  | none =>
    rw [hl] at h
    cases h with
    | cons hadd tail =>
      cases exec_change (hadd.exec nofun)
      exact ifaceOps_configures (Function.update_self _ _ _) tail

end

/-! ## One slot -/

structure SlotView where
  iface : Option Iface
  sysctls : List (Option String)
  rule : Bool
  routes : Routes
  deriving DecidableEq, Repr

/-- What the node has of a slot. -/
def Node.slot (n : Node) (id : SlotIdentity) : SlotView where
  iface := n.links id.interface
  sysctls := (sysctlPaths id.interface).map n.sysctls
  rule := n.rules (slotRule id)
  routes := n.routes id.table

/-- A slot after its commands, from the interface it had before. -/
def appliedSlot (k : Kernel) (rc : RuntimeConfig) (id : SlotIdentity) (conf : Option WGConf)
    (targets : List String) (before : Option Iface) : SlotView where
  iface := some (appliedIface k rc conf before)
  sysctls := slotSysctls.map fun s => some (decimal s.2)
  rule := true
  routes := (targets.map (· ++ "/32")).foldl Routes.addThrow
    { default := some id.interface, throws := [] }

section

variable {k : Kernel} {rc : RuntimeConfig} {id : SlotIdentity} {iface : String} {n n' : Node}

theorem slotSysctlPath_key {key key' : String}
    (h : slotSysctlPath iface key = slotSysctlPath iface key') : key = key' := by
  have hlist := congrArg String.toList h
  simp only [slotSysctlPath, String.toList_append] at hlist
  exact String.toList_inj.mp (List.append_cancel_left hlist)

theorem writeSysctl_effect {path value : String} (h : Effect k (.writeSysctl path value) n n') :
    n' = { n with sysctls := Function.update n.sysctls path (some value) } := by
  cases exec_change (h.exec nofun)
  rfl

theorem sysctlOps_applied (h : Effects k (sysctlOps iface) n n') :
    n'.links = n.links ∧
      (sysctlPaths iface).map n'.sysctls = slotSysctls.map fun s => some (decimal s.2) := by
  cases h with
  | cons hfirst tail =>
    cases tail with
    | cons hsecond tail =>
      cases tail
      have hne : slotSysctlPath iface "rp_filter" ≠ slotSysctlPath iface "forwarding" :=
        fun heq => absurd (slotSysctlPath_key heq) (by decide)
      rw [writeSysctl_effect hsecond, writeSysctl_effect hfirst]
      refine ⟨rfl, ?_⟩
      simp [sysctlPaths, slotSysctls, Function.update_of_ne hne]

variable {targets : List String}

/-- The throw routes of a table, one after another. -/
theorem throws_applied {table : String}
    (h : Effects k (targets.map fun target => .routeThrow (target ++ "/32") table) n n') :
    n'.routes table = (targets.map (· ++ "/32")).foldl Routes.addThrow (n.routes table) ∧
      n'.links = n.links ∧ n'.sysctls = n.sysctls := by
  induction targets generalizing n with
  | nil =>
    cases h
    exact ⟨rfl, rfl, rfl⟩
  | cons target targets ih =>
    cases h with
    | cons head tail =>
      obtain ⟨hroutes, hlinks, hsysctls⟩ := ih tail
      cases head.exec nofun
      refine ⟨?_, hlinks, hsysctls⟩
      rw [hroutes]
      simp [Function.update_self]

theorem ruleAdd_effect {rule : FwRule} (h : Effect k (.ruleAdd rule) n n') :
    n'.rules rule = true ∧ n'.links = n.links ∧ n'.sysctls = n.sysctls ∧ n'.routes = n.routes := by
  cases h with
  | present h => exact ⟨h, rfl, rfl, rfl⟩
  | done hexec =>
    cases exec_change hexec
    exact ⟨Function.update_self _ _ _, rfl, rfl, rfl⟩

theorem routeDefault_effect {i t : String} (h : Effect k (.routeDefault i t) n n') :
    n' = { n with routes := Function.update n.routes t { n.routes t with default := some i } } := by
  cases exec_change (h.exec nofun)
  rfl

theorem flushThrow_effect {t : String} (h : Effect k (.flushThrow t) n n') :
    n' = { n with routes := Function.update n.routes t { n.routes t with throws := [] } } := by
  cases exec_change (h.exec nofun)
  rfl

theorem routeOps_applied (h : Effects k (routeOps id targets) n n') :
    n'.links = n.links ∧ n'.sysctls = n.sysctls ∧ n'.rules (slotRule id) = true ∧
      n'.routes id.table = (targets.map (· ++ "/32")).foldl Routes.addThrow
        { default := some id.interface, throws := [] } := by
  obtain ⟨n₂, hroutes, hrule⟩ := effects_append h
  obtain ⟨n₁, hfirst, hthrows⟩ := effects_append hroutes
  cases hrule with
  | cons hrule tail =>
    cases tail
    obtain ⟨hrule, hlinks₃, hsysctls₃, hroutes₃⟩ := ruleAdd_effect hrule
    obtain ⟨hroutes₂, hlinks₂, hsysctls₂⟩ := throws_applied hthrows
    cases hfirst with
    | @cons _ _ _ n₀ _ hdefault tail =>
      cases tail with
      | cons hflush tail =>
        cases tail
        rw [routeDefault_effect hdefault] at hflush
        rw [flushThrow_effect hflush] at hroutes₂ hlinks₂ hsysctls₂
        refine ⟨hlinks₃.trans hlinks₂, hsysctls₃.trans hsysctls₂, hrule, ?_⟩
        rw [hroutes₃, hroutes₂]
        simp [Function.update_self]

/-- **The commands of a slot.** -/
theorem slotOps_applied {file : Option WGFile}
    (h : Effects k (ifaceOps rc id.interface (n.links id.interface).isSome file ++
      sysctlOps id.interface ++ routeOps id targets) n n') :
    (k.address rc.wireguard.address).isSome ∧
      n'.slot id = appliedSlot k rc id (file.map (·.conf)) targets (n.links id.interface) := by
  obtain ⟨n₂, hfirst, hroutes⟩ := effects_append h
  obtain ⟨n₁, hiface, hsysctls⟩ := effects_append hfirst
  obtain ⟨haddress, hlink⟩ := ifaceOps_applied hiface
  obtain ⟨hlinks₂, hvalues⟩ := sysctlOps_applied hsysctls
  obtain ⟨hlinks₃, hsysctls₃, hrule, hroutes₃⟩ := routeOps_applied hroutes
  refine ⟨haddress, ?_⟩
  unfold Node.slot appliedSlot
  rw [hlinks₃, hlinks₂, hlink, hsysctls₃, hvalues, hrule, hroutes₃]

end

/-! ## The other slots -/

/-- The slots have no name in common. -/
structure Apart (id id' : SlotIdentity) : Prop where
  interface : id.interface ≠ id'.interface
  table : id.table ≠ id'.table
  rule : slotRule id ≠ slotRule id'
  sysctls : ∀ path ∈ sysctlPaths id.interface, path ∉ sysctlPaths id'.interface

section

variable {k : Kernel} {id id' : SlotIdentity} {n n' : Node} {g : Int64}

theorem apart_of_ne (hg : InByte g) {x y : Int64} (hx : InByte x) (hy : InByte y) (hne : x ≠ y) :
    Apart (newSlotIdentity g x) (newSlotIdentity g y) where
  interface := fun h => hne (interface_inj h).2
  table := fun h => hne (table_inj hg hg hx hy h).2
  rule := fun h => hne (fwmark_inj hg hg hx hy (congrArg FwRule.fwmark h)).2
  sysctls := by
    intro path hpath hpath'
    obtain ⟨s, -, rfl⟩ := List.mem_map.mp hpath
    obtain ⟨s', -, heq⟩ := List.mem_map.mp hpath'
    exact hne (slotSysctlPath_slot heq).symm

theorem slot_congr (hlink : n'.links id.interface = n.links id.interface)
    (hsysctls : ∀ path ∈ sysctlPaths id.interface, n'.sysctls path = n.sysctls path)
    (hrule : n'.rules (slotRule id) = n.rules (slotRule id))
    (hroutes : n'.routes id.table = n.routes id.table) : n'.slot id = n.slot id := by
  unfold Node.slot
  rw [hlink, hrule, hroutes, List.map_congr_left hsysctls]

/-- The commands of a slot leave the others alone. -/
theorem applyOp_slot (hapart : Apart id id') {op : Op} (hop : ApplyOp id' op)
    (h : Effect k op n n') : n'.slot id = n.slot id := by
  cases hop with
  | iface hop =>
    cases hop with
    | linkAdd =>
      cases exec_change (h.exec nofun)
      exact slot_congr (Function.update_of_ne hapart.interface _ _)
        (fun path hpath => if_neg (hapart.sysctls path hpath)) rfl rfl
    | syncconf | addrReplace | linkSet =>
      cases exec_change (h.exec nofun)
      exact slot_congr (Function.update_of_ne hapart.interface _ _) (fun _ _ => rfl) rfl rfl
  | @sysctl s hs =>
    rw [writeSysctl_effect h]
    refine slot_congr rfl ?_ rfl rfl
    intro path hpath
    refine Function.update_of_ne ?_ _ _
    rintro rfl
    exact hapart.sysctls _ hpath (List.mem_map_of_mem hs)
  | routeDefault | flushThrow | routeThrow =>
    cases exec_change (h.exec nofun)
    exact slot_congr rfl (fun _ _ => rfl) rfl (Function.update_of_ne hapart.table _ _)
  | ruleAdd =>
    cases h with
    | present => rfl
    | done hexec =>
      cases exec_change hexec
      exact slot_congr rfl (fun _ _ => rfl) (Function.update_of_ne hapart.rule _ _) rfl

theorem ifaceOp_no_table {iface t : String} {op : Op} (hop : IfaceOp iface op) :
    .nftTable t ∉ op.resources := by
  cases hop <;> simp [Op.resources, interfaceResources]

theorem applyOp_no_table {t : String} {op : Op} (hop : ApplyOp id op) :
    .nftTable t ∉ op.resources := by
  cases hop with
  | iface hop => exact ifaceOp_no_table hop
  | sysctl | routeDefault | flushThrow | routeThrow | ruleAdd => simp [Op.resources]

theorem effect_tables {op : Op} (hop : ∀ t, .nftTable t ∉ op.resources) (h : Effect k op n n') :
    n'.tables = n.tables := by
  cases h with
  | present => rfl
  | done hexec => exact funext fun t => (exec_frame hexec).tables t (hop t)

end

end WireguardGateway.Link

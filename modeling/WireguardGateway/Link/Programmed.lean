import WireguardGateway.Link.Effects

/-!
# What an apply leaves

The state of the node after an apply of `internal/link/apply.go` in which every step succeeded, as a
function of the config and of the node before (`Node.expected`): per slot its interface, its sysctl
files, its rule and its routes, and for the Gateway the chains of its nft table. Of the node before,
two things shine through: the interfaces of the slots (`appliedIface`), and the chains of the table,
since a flush empties them and keeps them (`loadChains`).

Result: **`applied_programmed`**, in either mode.
-/

namespace WireguardGateway.Link

open Lib Lib.Plan
open Controller (RuntimeConfig LinkPeer)

/-! ## All slots -/

theorem ifaceOps_own {rc : RuntimeConfig} {iface : String} {exist : Bool} {file : Option WGFile} :
    ∀ op ∈ ifaceOps rc iface exist file, IfaceOp iface op := by
  intro op hop
  simp only [ifaceOps, List.mem_append, List.mem_cons, List.not_mem_nil, or_false] at hop
  rcases hop with hop | rfl | rfl | rfl
  · split_ifs at hop
    · cases hop
    · rw [List.mem_singleton.mp hop]
      exact .linkAdd
  · exact .syncconf _
  · exact .addrReplace _
  · exact .linkSet _

/-- The operations of a slot's plan are its own. -/
theorem slotOps_own {rc : RuntimeConfig} {id : SlotIdentity} {exist : Bool} {file : Option WGFile}
    {targets : List String} : ∀ op ∈ ifaceOps rc id.interface exist file ++
      sysctlOps id.interface ++ routeOps id targets, ApplyOp id op := by
  intro op hop
  simp only [sysctlOps, routeOps, List.mem_append, List.mem_map, List.mem_cons, List.not_mem_nil,
    or_false] at hop
  rcases hop with (hop | ⟨s, hs, rfl⟩) | ((rfl | rfl) | ⟨target, -, rfl⟩) | rfl
  · exact .iface (ifaceOps_own op hop)
  · exact .sysctl hs
  · exact .routeDefault
  · exact .flushThrow
  · exact .routeThrow _
  · exact .ruleAdd

/-- One slot of the plan of `buildApplyCommands`. -/
def slotPlan (rc : RuntimeConfig) (g : Int64) (files : List (Int64 × WGFile))
    (exist : List (Int64 × Bool)) (targets : List String) (p : LinkPeer) : SlotPlan :=
  { slot := p.slot
    cmds := slotCommands rc (newSlotIdentity g p.slot) ((exist.lookup p.slot).getD false)
      (files.lookup p.slot) targets }

/-- What the slots of some peers look like after their plans, from the node `n` before. -/
structure SlotsApplied (k : Kernel) (rc : RuntimeConfig) (g : Int64) (files : List (Int64 × WGFile))
    (targets : List String) (ps : List LinkPeer) (n n' : Node) : Prop where
  tables : n'.tables = n.tables
  address : ∀ p ∈ ps, (k.address rc.wireguard.address).isSome
  applied : ∀ p ∈ ps, n'.slot (newSlotIdentity g p.slot) =
    appliedSlot k rc (newSlotIdentity g p.slot) ((files.lookup p.slot).map (·.conf)) targets
      (n.links (newSlotIdentity g p.slot).interface)
  others : ∀ slot, InByte slot → slot ∉ ps.map (·.slot) →
    n'.slot (newSlotIdentity g slot) = n.slot (newSlotIdentity g slot)

section

variable {k : Kernel} {rc : RuntimeConfig} {g : Int64} {files : List (Int64 × WGFile)}
  {exist : List (Int64 × Bool)} {targets : List String}

/-- **The slot loop**, when it reports every slot applied. -/
theorem applySlots_applied (hg : InByte g) : ∀ {ps : List LinkPeer},
    (∀ p ∈ ps, InByte p.slot) → (ps.map (·.slot)).Nodup → ∀ s : Machine,
      (∀ p ∈ ps, (exist.lookup p.slot).getD false =
        (s.node.links (newSlotIdentity g p.slot).interface).isSome) →
      (∀ r ∈ (applySlots (nodeRun k).logged (ps.map (slotPlan rc g files exist targets)) s).1,
        r.applied = true) →
      SlotsApplied k rc g files targets ps s.node (Machine.node
        (applySlots (nodeRun k).logged (ps.map (slotPlan rc g files exist targets)) s).2) := by
  intro ps
  induction ps with
  | nil =>
    intro _ _ s _ _
    exact ⟨rfl, fun _ hp => absurd hp List.not_mem_nil, fun _ hp => absurd hp List.not_mem_nil,
      fun _ _ _ => rfl⟩
  | cons p ps ih =>
    intro hbyte hnodup s hexist happlied
    have hp := hbyte p List.mem_cons_self
    obtain ⟨hnew, hnodup⟩ := List.nodup_cons.mp hnodup
    rw [List.map_cons, applySlots, bind_apply, bind_apply, pure_apply] at happlied ⊢
    have hhead : (Plan.runUntil (runStep (nodeRun k).logged)
        (slotPlan rc g files exist targets p).cmds s).1 = none :=
      Option.isNone_iff_eq_none.mp (happlied _ List.mem_cons_self)
    have heffects : Effects k _ s.node (Machine.node (Plan.runUntil (runStep (nodeRun k).logged)
        (slotPlan rc g files exist targets p).cmds s).2) :=
      runUntil_effects slotCommands_settle s hhead
    generalize (Plan.runUntil (runStep (nodeRun k).logged)
      (slotPlan rc g files exist targets p).cmds s).2 = s₁ at heffects happlied ⊢
    rw [hexist p List.mem_cons_self] at heffects
    obtain ⟨haddress, hslot⟩ := slotOps_applied heffects
    have hframe : ∀ slot, InByte slot → slot ≠ p.slot →
        (Machine.node s₁).slot (newSlotIdentity g slot) = s.node.slot (newSlotIdentity g slot) := by
      intro slot hslot hne
      exact effects_preserve (P := fun n => n.slot (newSlotIdentity g slot) = _) heffects
        slotOps_own (fun op n n' hop heffect hn =>
          (applyOp_slot (apart_of_ne hg hslot hp hne) hop heffect).trans hn) rfl
    have htables : (Machine.node s₁).tables = s.node.tables :=
      effects_preserve (P := fun n => n.tables = s.node.tables) heffects slotOps_own
        (fun op n n' hop heffect hn =>
          (effect_tables (fun t => applyOp_no_table hop) heffect).trans hn) rfl
    have hother : ∀ q ∈ ps, q.slot ≠ p.slot := by
      intro q hq heq
      have hmem : q.slot ∈ ps.map (·.slot) := List.mem_map_of_mem hq
      rw [heq] at hmem
      exact hnew hmem
    have hlinks : ∀ q ∈ ps, (Machine.node s₁).links (newSlotIdentity g q.slot).interface =
        s.node.links (newSlotIdentity g q.slot).interface := fun q hq =>
      congrArg SlotView.iface (hframe q.slot (hbyte q (List.mem_cons_of_mem _ hq)) (hother q hq))
    have hrest := ih (fun q hq => hbyte q (List.mem_cons_of_mem _ hq)) hnodup s₁
      (fun q hq => (hexist q (List.mem_cons_of_mem _ hq)).trans (by rw [hlinks q hq]))
      fun r hr => happlied r (List.mem_cons_of_mem _ hr)
    refine ⟨hrest.tables.trans htables, fun _ _ => haddress, ?_, ?_⟩
    · intro q hq
      rcases List.mem_cons.mp hq with rfl | hq
      · rw [hrest.others _ hp hnew]
        exact hslot
      · rw [hrest.applied q hq, hlinks q hq]
    · intro slot hslot hnot
      rw [List.map_cons, List.mem_cons, not_or] at hnot
      rw [hrest.others slot hslot hnot.2]
      exact hframe slot hslot hnot.1

/-! ## Around the slots -/

/-- A probe changes nothing and tells whether the interface is there. -/
theorem ifaceExists_spec (iface : String) (n : Node) :
    Triple (fun s : Machine => s.node = n) (ifaceExists (nodeRun k).logged iface)
      fun r s => Machine.node s = n ∧ ∀ b, r = .ok b → b = (n.links iface).isSome := by
  rintro s rfl
  have hop : (linkShowCommand iface).op? = some (.linkShow iface) := rfl
  have hran := machine_spec (k := k) s hop
  unfold ifaceExists
  rw [bind_apply]
  generalize hrun : (nodeRun k).logged (linkShowCommand iface) s = out at hran ⊢
  obtain ⟨e, s'⟩ := out
  simp only at hran ⊢
  generalize hnode : Machine.node s' = n' at hran
  cases hran with
  | done hexec =>
    rw [Op.exec] at hexec
    split_ifs at hexec with hlink
    cases hexec
    refine ⟨hnode, fun b hb => ?_⟩
    cases hb
    exact hlink.symm
  | @refused e hexec =>
    rw [Op.exec] at hexec
    split_ifs at hexec with hlink
    simp only
    split_ifs
    · refine ⟨hnode, fun b hb => ?_⟩
      cases hb
      exact (Bool.eq_false_iff.mpr hlink).symm
    · exact ⟨hnode, fun b hb => by cases hb⟩
  | failed e =>
    have hnot : contains e.1 absentMarker = false := by
      have habsent := e.2.1
      simp only [reportsAbsent, absentObjectMarkers, List.any_cons, Bool.or_eq_true, not_or,
        Bool.not_eq_true] at habsent
      exact habsent.1
    simp only [hnot]
    exact ⟨hnode, fun b hb => by cases hb⟩

theorem probeSlots_spec (n : Node) : ∀ ps : List LinkPeer,
    Triple (fun s : Machine => s.node = n) (probeSlots (nodeRun k).logged g ps)
      fun r s => Machine.node s = n ∧ ∀ found, r = .ok found → found = ps.map fun p =>
        (p.slot, (n.links (newSlotIdentity g p.slot).interface).isSome)
  | [] => .pure fun s hs => ⟨hs, fun found hfound => (Except.ok.inj hfound).symm⟩
  | p :: ps => by
    refine (ifaceExists_spec _ n).bind fun exist => ?_
    cases exist with
    | error e => exact .pure fun s hs => ⟨hs.1, fun _ hfound => nomatch hfound⟩
    | ok b =>
      refine .given (fun _ hs => hs.2 b rfl) fun hb => ?_
      subst hb
      refine .bind ((probeSlots_spec n ps).pre fun _ hs => hs.1) fun rest => ?_
      cases rest with
      | error e => exact .pure fun s hs => ⟨hs.1, fun _ hfound => nomatch hfound⟩
      | ok rest =>
        refine .pure fun s hs => ⟨hs.1, fun found hfound => ?_⟩
        rw [← Except.ok.inj hfound, hs.2 rest rfl, List.map_cons]

theorem lookup_slots {b : Int64 → Bool} {ps : List LinkPeer} {p : LinkPeer} (hp : p ∈ ps) :
    (ps.map fun p => (p.slot, b p.slot)).lookup p.slot = some (b p.slot) := by
  induction ps with
  | nil => cases hp
  | cons q ps ih =>
    rw [List.map_cons, List.lookup_cons]
    by_cases heq : p.slot = q.slot
    · rw [heq]
      simp
    · have hne : (p.slot == q.slot) = false := beq_false_of_ne heq
      rw [hne]
      refine ih ((List.mem_cons.mp hp).resolve_left ?_)
      rintro rfl
      exact heq rfl

/-- The node with the ruleset loaded. -/
def Node.load (n : Node) (r : Ruleset) : Node :=
  { n with tables := Function.update n.tables r.table (some (loadChains r (n.tables r.table))) }

theorem installRuleset_applied {r : Ruleset} (n : Node) :
    Triple (fun s : Machine => s.node = n) (installRuleset (nodeRun k).logged r)
      fun e s => e = none → Machine.node s = n.load r := by
  rintro s rfl h
  have hop : (nftCommand r).op? = some (.nftLoad r) := rfl
  have hran := machine_spec (k := k) s hop
  have htolerated : tolerateStep (nftCommand r) ((nodeRun k).logged (nftCommand r) s).1 = none :=
    Option.map_eq_none_iff.mp h
  show Machine.node ((nodeRun k).logged (nftCommand r) s).2 = s.node.load r
  rw [tolerateStep_strict rfl rfl htolerated] at hran
  generalize Machine.node ((nodeRun k).logged (nftCommand r) s).2 = n' at hran ⊢
  cases hran with
  | done hexec => exact (Except.ok.inj hexec).symm

/-- Deleting conntrack entries does not change the node. -/
theorem conntrack_node {cs : List Command} {what : Command → String}
    (hcs : ∀ c ∈ cs, ∃ args, c.op? = some (.conntrack args)) (n : Node) :
    Triple (fun s : Machine => s.node = n)
      (Plan.runUntil (runStepFor what (nodeRun k).logged) cs) fun _ s => Machine.node s = n := by
  refine (EmitsOnly.runUntil hcs).triple fun c hc => ?_
  obtain ⟨args, hop⟩ := hc
  refine command_preserves (F := (· = .conntrack args)) (P := (· = n)) ⟨_, hop, rfl⟩ ?_
  rintro _ n₁ n₂ rfl hexec hn
  exact (Except.ok.inj hexec).symm.trans hn

/-- What follows the slots, when it returns no error. -/
theorem finishLocal_applied {r : Ruleset} {previous resolved : List ResolvedForward}
    {previousAddress : String} {results : List SlotResult} (n : Node) :
    Triple (fun s : Machine => s.node = n)
      (finishLocal (nodeRun k).logged rc r previous previousAddress resolved results)
      fun out s => out.err = none → out.results = results ∧ Machine.node s = n.load r := by
  refine (installRuleset_applied n).orStop (fun _ => .pure fun _ _ h => nomatch h) ?_
  refine .orStop ((conntrack_node conntrackFlushCommands_ops (n.load r)).pre fun _ hs => hs rfl)
    (fun _ => .pure fun _ _ h => nomatch h) ?_
  refine (conntrack_node hairpinConntrackCommands_ops (n.load r)).orStop
    (fun _ => .pure fun _ _ h => nomatch h) ?_
  exact .pure fun s hs _ => ⟨rfl, hs⟩

end

/-! ## The apply as a whole -/

/-- The temporary files of a pass. -/
def wgFiles (rc : RuntimeConfig) (env : ApplyEnv) : List (Int64 × WGFile) :=
  match writeWGConfs env.tempFile (wgConfs rc env.privKey) with
  | .ok files => files
  | .error _ => []

/-- The forwards a pass programs. -/
def forwardsOf (rc : RuntimeConfig) (env : ApplyEnv) (localForwards : List ResolvedForward) :
    List ResolvedForward :=
  match resolvedForwards rc env localForwards with
  | .ok resolved => resolved
  | .error _ => []

/-- What the node has of a link: its slots, or its one interface, and its nft table. -/
structure Programmed where
  slots : List SlotView
  table : Option (String → Option Chain)

/-- The interface of a Cluster link; it has nothing else of a slot. -/
def clusterView (l : Option Iface) : SlotView :=
  { iface := l, sysctls := [], rule := false, routes := Routes.empty }

def Node.programmed (n : Node) (rc : RuntimeConfig) : Programmed where
  slots := match rc.identity with
    | some identity =>
      rc.wireguard.peers.map fun p => n.slot (newSlotIdentity identity.id p.slot)
    | none => [clusterView (n.links clusterInterface)]
  table := n.tables (nftTableName rc)

/-- What an apply leaves, from the node it met. -/
def Node.expected (k : Kernel) (rc : RuntimeConfig) (env : ApplyEnv)
    (localForwards : List ResolvedForward) (n : Node) : Programmed where
  slots := match rc.identity with
    | some identity =>
      rc.wireguard.peers.map fun p =>
        appliedSlot k rc (newSlotIdentity identity.id p.slot)
          (((wgFiles rc env).lookup p.slot).map (·.conf))
          (localThrowTargets (forwardsOf rc env localForwards))
          (n.links (newSlotIdentity identity.id p.slot).interface)
    | none =>
      [clusterView (some (appliedIface k rc (((wgFiles rc env).lookup 0).map (·.conf))
        (n.links clusterInterface)))]
  table := some (loadChains (renderNftables rc (forwardsOf rc env localForwards) env.nodeName)
    (n.tables (nftTableName rc)))

/-- `p'` is `p` after an apply that returned no error and reports every slot applied. -/
structure Applied (k : Kernel) (rc : RuntimeConfig) (env : ApplyEnv)
    (localForwards : List ResolvedForward) (p p' : Process Machine) : Prop where
  err : (linkApply (nodeRun k).logged p.dp rc env localForwards p.host).1.2.2 = none
  slots : ∀ r ∈ (linkApply (nodeRun k).logged p.dp rc env localForwards p.host).1.2.1,
    r.applied = true
  dp : p'.dp = (linkApply (nodeRun k).logged p.dp rc env localForwards p.host).1.1
  host : p'.host = (linkApply (nodeRun k).logged p.dp rc env localForwards p.host).2

section

variable {k : Kernel} {rc : RuntimeConfig} {g : Int64} {env : ApplyEnv}
  {previous localForwards : List ResolvedForward} {previousAddress : String}

theorem buildApplyCommands_local (h : Accepted g rc) (files : List (Int64 × WGFile))
    (exist : List (Int64 × Bool)) (resolved : List ResolvedForward) :
    buildApplyCommands rc files exist resolved =
      rc.wireguard.peers.map (slotPlan rc g files exist (localThrowTargets resolved)) := by
  unfold buildApplyCommands
  rw [h.identity]
  rfl

variable {files : List (Int64 × WGFile)} {p p' : Process Machine}

theorem applyLocal_applied (hg : InByte g) (h : Accepted g rc) {resolved : List ResolvedForward}
    {r : Ruleset} (n : Node) :
    Triple (fun s : Machine => s.node = n)
      (applyLocal (nodeRun k).logged rc (newGatewayIdentity g) files r previous previousAddress
        resolved)
      fun out s => out.err = none → (∀ x ∈ out.results, x.applied = true) →
        ∃ n', SlotsApplied k rc g files (localThrowTargets resolved) rc.wireguard.peers n n' ∧
          Machine.node s = n'.load r := by
  refine (probeSlots_spec n rc.wireguard.peers).bind fun exist => ?_
  cases exist with
  | error e => exact .pure fun _ _ h => nomatch h
  | ok exist =>
    rintro s ⟨rfl, hexist⟩
    simp only [bind_apply, buildApplyCommands_local h]
    intro herr hslots
    obtain ⟨hresults, hend⟩ := finishLocal_applied _ _ rfl herr
    rw [hresults] at hslots
    refine ⟨_, applySlots_applied hg (fun p hp => h.inByte p.slot (List.mem_map_of_mem hp)) h.nodup
      s ?_ hslots, hend⟩
    intro p hp
    rw [hexist exist rfl]
    have hlookup := lookup_slots (b := fun slot =>
      (s.node.links (newSlotIdentity g slot).interface).isSome) hp
    exact congrArg (Option.getD · false) hlookup

theorem removeFiles_err {remove : String → Option String} {out : ApplyOutcome}
    (h : (removeFiles remove files out).err = none) : out.err = none := by
  unfold removeFiles at h
  split at h
  · cases h
  · exact h

/-- **A Local apply** that succeeded. -/
theorem applyConfig_local (hg : InByte g) (h : Accepted g rc) (n : Node) :
    Triple (fun s : Machine => s.node = n)
      (applyConfig (nodeRun k).logged rc env previous previousAddress localForwards)
      fun out s => out.err = none → (∀ x ∈ out.results, x.applied = true) →
        ∃ n', SlotsApplied k rc g (wgFiles rc env)
            (localThrowTargets (forwardsOf rc env localForwards)) rc.wireguard.peers n n' ∧
          Machine.node s =
            n'.load (renderNftables rc (forwardsOf rc env localForwards) env.nodeName) := by
  unfold applyConfig wgFiles forwardsOf
  cases writeWGConfs env.tempFile (wgConfs rc env.privKey) with
  | error e => exact .pure fun _ _ herr => nomatch herr
  | ok files =>
    cases resolvedForwards rc env localForwards with
    | error e => exact .pure fun _ _ herr => nomatch herr
    | ok resolved =>
      simp only [h.identity]
      refine (applyLocal_applied hg h n).bind fun out => .pure fun s hs herr hslots => ?_
      rw [removeFiles_results] at hslots
      exact hs (removeFiles_err herr) hslots

/-- What a Cluster apply leaves before it loads the ruleset, from the node `n` before. -/
structure ClusterApplied (k : Kernel) (rc : RuntimeConfig) (conf : Option WGConf) (n n' : Node) :
    Prop where
  link : n'.links clusterInterface = some (appliedIface k rc conf (n.links clusterInterface))
  address : (k.address rc.wireguard.address).isSome
  tables : n'.tables = n.tables

theorem clusterInterface_applied {exist : Bool} {file : Option WGFile} (n : Node)
    (hexist : exist = (n.links clusterInterface).isSome) :
    Triple (fun s : Machine => s.node = n)
      (Plan.runUntil (runStep (nodeRun k).logged) (ifaceCommands rc clusterInterface exist file))
      fun e s => e = none → ClusterApplied k rc (file.map (·.conf)) n (Machine.node s) := by
  subst hexist
  rintro s rfl hnone
  have heffects := runUntil_effects ifaceCommands_settle s hnone
  obtain ⟨haddress, hlink⟩ := ifaceOps_applied heffects
  refine ⟨hlink, haddress, ?_⟩
  exact effects_preserve (P := fun n => n.tables = s.node.tables) (Q := IfaceOp clusterInterface)
    heffects ifaceOps_own (fun op n n' hop heffect hn =>
      (effect_tables (fun t => ifaceOp_no_table hop) heffect).trans hn) rfl

theorem applyCluster_applied (hidentity : rc.identity = none) {resolved : List ResolvedForward}
    {r : Ruleset} (n : Node) :
    Triple (fun s : Machine => s.node = n)
      (applyCluster (nodeRun k).logged rc files r previous resolved)
      fun out s => out.err = none → ∃ n', ClusterApplied k rc ((files.lookup 0).map (·.conf)) n n' ∧
        Machine.node s = n'.load r := by
  have hplan : ∀ exist, (buildApplyCommands rc files [(0, exist)] []).flatMap (·.cmds) =
      ifaceCommands rc clusterInterface exist (files.lookup 0) := by
    intro exist
    unfold buildApplyCommands
    rw [hidentity]
    simp
  unfold applyCluster
  simp only [hplan]
  refine (ifaceExists_spec clusterInterface n).bind fun exist => ?_
  cases exist with
  | error e => exact .pure fun _ _ h => nomatch h
  | ok exist =>
    refine .given (fun _ hs => hs.2 exist rfl) fun hexist => ?_
    refine .orStop ((clusterInterface_applied n hexist).pre fun _ hs => hs.1)
      (fun _ => .pure fun _ _ h => nomatch h) ?_
    refine .named Machine.node fun n₁ => .given (fun s hs => hs.2 ▸ hs.1 rfl) fun happlied => ?_
    refine .orStop ((installRuleset_applied n₁).pre fun _ hs => hs.2)
      (fun _ => .pure fun _ _ h => nomatch h) ?_
    refine .orStop ((conntrack_node conntrackFlushCommands_ops (n₁.load r)).pre fun _ hs => hs rfl)
      (fun _ => .pure fun _ _ h => nomatch h) ?_
    exact .pure fun _ hs _ => ⟨n₁, happlied, hs⟩

/-- **A Cluster apply** that succeeded. -/
theorem applyConfig_cluster (hidentity : rc.identity = none) (n : Node) :
    Triple (fun s : Machine => s.node = n)
      (applyConfig (nodeRun k).logged rc env previous previousAddress localForwards)
      fun out s => out.err = none →
        ∃ n', ClusterApplied k rc (((wgFiles rc env).lookup 0).map (·.conf)) n n' ∧
          Machine.node s =
            n'.load (renderNftables rc (forwardsOf rc env localForwards) env.nodeName) := by
  unfold applyConfig wgFiles forwardsOf
  cases writeWGConfs env.tempFile (wgConfs rc env.privKey) with
  | error e => exact .pure fun _ _ herr => nomatch herr
  | ok files =>
    cases resolvedForwards rc env localForwards with
    | error e => exact .pure fun _ _ herr => nomatch herr
    | ok resolved =>
      simp only [hidentity]
      exact (applyCluster_applied hidentity n).bind fun out => .pure fun s hs herr =>
        hs (removeFiles_err herr)

/-! ### With the departed slots -/

/-- The teardown of other slots keeps an interface. -/
theorem teardownOf_links {T : Int64 → Prop} {i : String}
    (hi : ∀ x, T x → i ≠ (newSlotIdentity g x).interface) {c : Command}
    (hc : Runs (TeardownOf g T) c) (l : Option Iface) :
    Triple (fun s : Machine => s.node.links i = l) ((nodeRun k).logged c)
      fun _ s => (Machine.node s).links i = l := by
  refine command_preserves (P := fun n => n.links i = l) hc ?_
  rintro op n n' ⟨x, hx, hop⟩ hexec hn
  refine ((exec_frame hexec).links i ?_).trans hn
  cases hop with
  | ruleDel | flushTable => simp [Op.resources]
  | linkDel => simp [Op.resources, interfaceResources, hi x hx]

theorem load_tables (n : Node) (r : Ruleset) :
    (n.load r).tables r.table = some (loadChains r (n.tables r.table)) :=
  Function.update_self _ _ _

/-- A teardown creates no interface. -/
theorem teardownOf_absent {T : Int64 → Prop} (hg : InByte g) {slot : Int64} (hslot : InByte slot)
    {c : Command} (hc : Runs (TeardownOf g T) c) :
    Triple (fun s : Machine => s.node.links (newSlotIdentity g slot).interface = none)
      ((nodeRun k).logged c)
      fun _ s => (Machine.node s).links (newSlotIdentity g slot).interface = none := by
  have hkeeps := spares_keeps (k := k) (teardownOf_spares hg hslot hc) .interface
  exact hkeeps.weaken (fun _ hs => Option.not_isSome_iff_eq_none.mpr hs)
    fun _ _ hs => Option.not_isSome_iff_eq_none.mp hs

/-- **What a Local apply leaves.** -/
theorem applied_local (hg : InByte g) (h : Accepted g rc) (hheld : ∀ slot ∈ p.dp.slots, InByte slot)
    (happlied : Applied k rc env localForwards p p') :
    ∃ n₀ n, (∀ slot ∈ configuredSlots rc, n₀.links (newSlotIdentity g slot).interface =
        (Machine.node p.host).links (newSlotIdentity g slot).interface) ∧
      (∀ slot, InByte slot → (Machine.node p.host).links (newSlotIdentity g slot).interface = none →
        n₀.links (newSlotIdentity g slot).interface = none) ∧
      n₀.tables = (Machine.node p.host).tables ∧
      SlotsApplied k rc g (wgFiles rc env) (localThrowTargets (forwardsOf rc env localForwards))
        rc.wireguard.peers n₀ n ∧
      Machine.node p'.host =
        n.load (renderNftables rc (forwardsOf rc env localForwards) env.nodeName) := by
  have hcurrent : DataPlane.Of g { p.dp with rc := rc } := ⟨h, hheld⟩
  obtain ⟨herr, hslots, -, hhost⟩ := happlied
  rw [linkApply_local h.isLocal] at herr hslots hhost
  have hdeparted : EmitsOnly (nodeRun k).logged _
      (teardownSlots (nodeRun k).logged { p.dp with rc := rc } (configuredSlots rc)) :=
    teardownSlots_departed hcurrent (configuredSlots rc)
  obtain ⟨n, hn, hnode⟩ := applyConfig_local hg h _ _ rfl herr fun x hx =>
    hslots x (List.mem_append_left _ hx)
  refine ⟨_, n, ?_, ?_, ?_, hn, ?_⟩
  · intro slot hslot
    refine hdeparted.triple (fun c hc => teardownOf_links ?_ hc _) p.host rfl
    rintro x ⟨-, hx⟩ heq
    obtain rfl := (interface_inj heq).2
    exact hx hslot
  · intro slot hslot hnone
    exact hdeparted.triple (fun c hc => teardownOf_absent hg hslot hc) p.host hnone
  · exact hdeparted.triple (fun c hc => teardownOf_tables hc _) p.host rfl
  · rw [hhost]
    exact hnode

theorem linkApply_cluster {σ : Type} {run : Runner Command σ} {d : DataPlane} {host : σ}
    (hidentity : rc.identity = none) :
    linkApply run d rc env localForwards host =
      let a := applyConfig run rc env d.forwards d.publicAddress localForwards host
      ((d.remember rc a.1, a.1.results, a.1.err), a.2) := by
  unfold linkApply applyPass
  rw [if_pos (by simp [isLocal_none hidentity])]
  rfl

/-- **What a Cluster apply leaves.** -/
theorem applied_cluster (hidentity : rc.identity = none)
    (happlied : Applied k rc env localForwards p p') :
    ∃ n, ClusterApplied k rc (((wgFiles rc env).lookup 0).map (·.conf)) (Machine.node p.host) n ∧
      Machine.node p'.host =
        n.load (renderNftables rc (forwardsOf rc env localForwards) env.nodeName) := by
  obtain ⟨herr, -, -, hhost⟩ := happlied
  rw [linkApply_cluster hidentity] at herr hhost
  rw [hhost]
  exact applyConfig_cluster hidentity _ _ rfl herr

/-- **What an apply leaves**, in either mode. -/
theorem applied_programmed {identity : Option Controller.GatewayIdentity}
    (hidentity : identity = none ∨
      ∃ g, (1 ≤ g ∧ g ≤ maxLinkID) ∧ identity = some (newGatewayIdentity g))
    (h : AcceptedAs identity rc) (hheld : ∀ slot ∈ p.dp.slots, InByte slot)
    (happlied : Applied k rc env localForwards p p') :
    (Machine.node p'.host).programmed rc =
      (Machine.node p.host).expected k rc env localForwards := by
  have htable : (renderNftables rc (forwardsOf rc env localForwards) env.nodeName).table =
      nftTableName rc := renderNftables_table
  unfold Node.programmed Node.expected
  rcases hidentity with rfl | ⟨g, hg, rfl⟩
  · obtain ⟨n, hn, hnode⟩ := applied_cluster h.identity_eq happlied
    simp only [h.identity_eq]
    rw [hnode]
    congr 1
    · show [clusterView (n.links clusterInterface)] = _
      rw [hn.link]
    · rw [← htable, load_tables, hn.tables]
  · obtain ⟨n₀, n, hlinks, -, htables, hn, hnode⟩ :=
      applied_local (inByte_of_linkID hg) ⟨h.identity_eq, h.valid⟩ hheld happlied
    simp only [h.identity_eq]
    rw [hnode]
    congr 1
    · refine List.map_congr_left fun q hq => ?_
      show n.slot (newSlotIdentity g q.slot) = _
      rw [hn.applied q hq, hlinks q.slot (List.mem_map_of_mem hq)]
      rfl
    · rw [← htable, load_tables, hn.tables, htables]

end

end WireguardGateway.Link

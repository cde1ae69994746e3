import WireguardGateway.Link.Restart

/-!
# The teardown undoes every apply

What a process of the link may have on a node is its `Estate`: the interfaces (with their sysctl
files), rules, route tables and nft table of all its slots in Local mode, one interface and one
table in Cluster mode. Every command stays within the estate (`Op.Within`), so the rest of the node
keeps what it had (`Untouched`): other Gateways' objects and the host's.

A teardown whose commands succeed or find their object absent leaves nothing of the estate
(`stepDown_bare`), whatever the calls before it left there.

Result: **`teardown_undoes`**: on a node that was free of the estate, after any calls with any
commands failing, such a teardown leaves exactly the node the process started on.
-/

namespace WireguardGateway.Link

open Lib Lib.Plan
open Controller (RuntimeConfig)

/-! ## Estates -/

structure Estate where
  interfaces : String → Prop
  rules : FwRule → Prop
  routeTables : String → Prop
  nftTables : String → Prop

def Estate.sysctls (E : Estate) (path : String) : Prop :=
  ∃ i, E.interfaces i ∧ path ∈ sysctlPaths i

/-- The operation changes objects of the estate only. -/
def Op.Within (E : Estate) : Op → Prop
  | .linkShow _ => True
  | .linkAdd i => E.interfaces i
  | .linkSet i _ => E.interfaces i
  | .linkDel i => E.interfaces i
  | .syncconf i _ => E.interfaces i
  | .addrReplace _ i => E.interfaces i
  | .writeSysctl path _ => E.sysctls path
  | .routeDefault _ t => E.routeTables t
  | .routeThrow _ t => E.routeTables t
  | .flushThrow t => E.routeTables t
  | .flushTable t => E.routeTables t
  | .ruleAdd rule => E.rules rule
  | .ruleDel rule => E.rules rule
  | .nftLoad r => E.nftTables r.table
  | .nftDelete t => E.nftTables t
  | .conntrack _ => True

/-- The node has no object of the estate; what becomes of its sysctl files is not said. -/
structure Node.Bare (E : Estate) (n : Node) : Prop where
  links : ∀ i, E.interfaces i → n.links i = none
  rules : ∀ rule, E.rules rule → n.rules rule = false
  routes : ∀ t, E.routeTables t → n.routes t = Routes.empty
  tables : ∀ t, E.nftTables t → n.tables t = none

/-- The node is free of the estate: it has no object of it, and no sysctl file or route of an
interface that is not there. -/
structure Node.Free (E : Estate) (n : Node) : Prop extends n.Bare E where
  sysctls : ∀ path, E.sysctls path → n.sysctls path = none
  devices : ∀ t i, E.interfaces i → (n.routes t).default ≠ some i

/-- `n'` is `n` but for the estate, and has the sysctl files of the estate's interfaces only with
them. -/
structure Untouched (E : Estate) (n n' : Node) : Prop where
  links : ∀ i, ¬ E.interfaces i → n'.links i = n.links i
  sysctls : ∀ path, ¬ E.sysctls path → n'.sysctls path = n.sysctls path
  rules : ∀ rule, ¬ E.rules rule → n'.rules rule = n.rules rule
  routes : ∀ t, ¬ E.routeTables t → n'.routes t = n.routes t
  tables : ∀ t, ¬ E.nftTables t → n'.tables t = n.tables t
  files : ∀ path, E.sysctls path → (n'.sysctls path).isSome →
    ∃ i, E.interfaces i ∧ path ∈ sysctlPaths i ∧ (n'.links i).isSome

section

variable {k : Kernel} {E : Estate} {n n' n'' : Node}

theorem Untouched.refl (h : n.Free E) : Untouched E n n := by
  refine ⟨fun _ _ => rfl, fun _ _ => rfl, fun _ _ => rfl, fun _ _ => rfl, fun _ _ => rfl, ?_⟩
  intro path hpath hsome
  rw [h.sysctls path hpath] at hsome
  cases hsome

/-- A node without an object of the estate is the node it was, if that was free of the estate. -/
theorem Untouched.eq (h : Untouched E n n') (hfree : n.Free E) (hbare : n'.Bare E) : n' = n := by
  have hsysctls : ∀ path, E.sysctls path → n'.sysctls path = none := by
    intro path hpath
    by_contra hne
    obtain ⟨i, hi, -, hlink⟩ := h.files path hpath (Option.isSome_iff_ne_none.mpr hne)
    rw [hbare.links i hi] at hlink
    cases hlink
  ext1
  · funext i
    by_cases hi : E.interfaces i
    · rw [hbare.links i hi, hfree.links i hi]
    · exact h.links i hi
  · funext path
    by_cases hpath : E.sysctls path
    · rw [hsysctls path hpath, hfree.sysctls path hpath]
    · exact h.sysctls path hpath
  · funext rule
    by_cases hrule : E.rules rule
    · rw [hbare.rules rule hrule, hfree.rules rule hrule]
    · exact h.rules rule hrule
  · funext t
    by_cases ht : E.routeTables t
    · rw [hbare.routes t ht, hfree.routes t ht]
    · exact h.routes t ht
  · funext t
    by_cases ht : E.nftTables t
    · rw [hbare.tables t ht, hfree.tables t ht]
    · exact h.tables t ht

theorem Untouched.setLink {i : String} {l : Iface} (h : Untouched E n n') (hi : E.interfaces i) :
    Untouched E n (n'.setLink i l) := by
  refine ⟨update_outside h.links hi, h.sysctls, h.rules, h.routes, h.tables, ?_⟩
  intro path hpath hsome
  obtain ⟨j, hj, hmem, hlink⟩ := h.files path hpath hsome
  exact ⟨j, hj, hmem, links_update hlink⟩

theorem Untouched.setRoutes {t : String} {r : Routes} (h : Untouched E n n')
    (ht : E.routeTables t) : Untouched E n (n'.setRoutes t r) :=
  ⟨h.links, h.sysctls, h.rules, update_outside h.routes ht, h.tables, h.files⟩

theorem Untouched.setRule {rule : FwRule} {b : Bool} (h : Untouched E n n')
    (hrule : E.rules rule) : Untouched E n (n'.setRule rule b) :=
  ⟨h.links, h.sysctls, update_outside h.rules hrule, h.routes, h.tables, h.files⟩

theorem Untouched.setTable {t : String} {chains : Option (String → Option Chain)}
    (h : Untouched E n n') (ht : E.nftTables t) : Untouched E n (n'.setTable t chains) :=
  ⟨h.links, h.sysctls, h.rules, h.routes, update_outside h.tables ht, h.files⟩

/-- An interface comes with its files. -/
theorem Untouched.linkAdd {i : String} (h : Untouched E n n') (hi : E.interfaces i)
    (hexec : (Op.linkAdd i).exec k n' = .ok n'') : Untouched E n n'' := by
  cases exec_change hexec
  refine ⟨update_outside h.links hi, ?_, h.rules, h.routes, h.tables, ?_⟩
  · intro path hpath
    have hnot : path ∉ sysctlPaths i := fun hmem => hpath ⟨i, hi, hmem⟩
    exact (if_neg hnot).trans (h.sysctls path hpath)
  · intro path hpath hsome
    by_cases hmem : path ∈ sysctlPaths i
    · exact ⟨i, hi, hmem, by simp⟩
    · simp only [if_neg hmem] at hsome
      obtain ⟨j, hj, hmem', hlink⟩ := h.files path hpath hsome
      exact ⟨j, hj, hmem', links_update hlink⟩

/-- An interface goes with its files and the routes through it, which no table outside the estate
has. -/
theorem Untouched.linkDel {i : String} (hfree : n.Free E) (h : Untouched E n n')
    (hi : E.interfaces i) (hexec : (Op.linkDel i).exec k n' = .ok n'') : Untouched E n n'' := by
  cases exec_change hexec
  refine ⟨update_outside h.links hi, ?_, h.rules, ?_, h.tables, ?_⟩
  · intro path hpath
    have hnot : path ∉ sysctlPaths i := fun hmem => hpath ⟨i, hi, hmem⟩
    exact (if_neg hnot).trans (h.sysctls path hpath)
  · intro t ht
    show (n'.routes t).without i = n.routes t
    rw [h.routes t ht, Routes.without, if_neg (hfree.devices t i hi)]
  · intro path hpath hsome
    by_cases hmem : path ∈ sysctlPaths i
    · simp [hmem] at hsome
    · simp only [if_neg hmem] at hsome
      obtain ⟨j, hj, hmem', hlink⟩ := h.files path hpath hsome
      have hne : j ≠ i := by
        rintro rfl
        exact hmem hmem'
      refine ⟨j, hj, hmem', ?_⟩
      show (Function.update n'.links i none j).isSome
      rw [Function.update_of_ne hne]
      exact hlink

theorem Untouched.writeSysctl {path value : String} (h : Untouched E n n') (hpath : E.sysctls path)
    (hexec : (Op.writeSysctl path value).exec k n' = .ok n'') : Untouched E n n'' := by
  cases exec_change hexec with
  | writeSysctl _ _ hexists =>
    refine ⟨h.links, update_outside h.sysctls hpath, h.rules, h.routes, h.tables, ?_⟩
    intro path' hpath' hsome
    refine h.files path' hpath' ?_
    rcases update_cases (P := fun v : Option String => v.isSome = true) hsome with hsome | ⟨rfl, -⟩
    · exact hsome
    · exact hexists

/-- **An operation within the estate** leaves the rest untouched. -/
theorem exec_untouched {op : Op} (hfree : n.Free E) (h : Untouched E n n') (hop : op.Within E)
    (hexec : op.exec k n' = .ok n'') : Untouched E n n'' := by
  cases exec_change hexec with
  | linkShow | conntrack => exact h
  | linkAdd => exact h.linkAdd hop hexec
  | linkDel => exact h.linkDel hfree hop hexec
  | linkSet | syncconf | addrReplace => exact h.setLink hop
  | writeSysctl => exact h.writeSysctl hop hexec
  | routeDefault | routeThrow | flushThrow | flushTable => exact h.setRoutes hop
  | ruleAdd | ruleDel => exact h.setRule hop
  | nftLoad | nftDelete => exact h.setTable hop

/-- What a run within the estate leaves. -/
theorem Trace.untouched (hfree : n.Free E) {s s' : Machine} {evs : List (Event Command)}
    (h : Trace (nodeRun k).logged s evs s') (hevs : ∀ ev ∈ evs, Runs (Op.Within E) ev.command)
    (hs : Untouched E n s.node) : Untouched E n s'.node :=
  h.preserves (P := fun s => Untouched E n (Machine.node s)) (fun ev hev =>
    command_preserves (hevs ev hev) fun _ _ _ hwithin hexec hn =>
      exec_untouched hfree hn hwithin hexec) hs

end

/-! ## Local mode -/

/-- What the slots of the Gateway may have on a node, and its nft table. -/
def localEstate (g : Int64) : Estate where
  interfaces := fun i => ∃ slot, InByte slot ∧ i = (newSlotIdentity g slot).interface
  rules := fun rule => ∃ slot, InByte slot ∧ rule = slotRule (newSlotIdentity g slot)
  routeTables := fun t => ∃ slot, InByte slot ∧ t = (newSlotIdentity g slot).table
  nftTables := fun t => t = (newGatewayIdentity g).nftTable

section

variable {k : Kernel} {g slot : Int64} {n : Node} {d : DataPlane}

theorem applyOp_within (hslot : InByte slot) {op : Op}
    (h : ApplyOp (newSlotIdentity g slot) op) : op.Within (localEstate g) := by
  cases h with
  | iface h => cases h <;> exact ⟨slot, hslot, rfl⟩
  | sysctl hmem => exact ⟨_, ⟨slot, hslot, rfl⟩, List.mem_map_of_mem hmem⟩
  | routeDefault | flushThrow | routeThrow | ruleAdd => exact ⟨slot, hslot, rfl⟩

theorem ownOp_within {op : Op} (h : OwnOp g op) : op.Within (localEstate g) := by
  cases h with
  | probe | conntrack => trivial
  | apply hslot hop => exact applyOp_within hslot hop
  | teardown hslot hop => cases hop <;> exact ⟨_, hslot, rfl⟩
  | install hidentity =>
    show _ = _
    rw [renderNftables_table, nftTableName, hidentity]
  | deleteTable => rfl

/-- What a process of the Gateway keeps: the rest of the node is as it was, and every slot with an
object on the node is held. -/
structure Process.Keeps (g : Int64) (n : Node) (p : Process Machine) : Prop where
  of : p.dp.Of g
  untouched : Untouched (localEstate g) n (Machine.node p.host)
  held : ∀ slot, InByte slot → Left g slot (Machine.node p.host) → slot ∈ p.dp.slots

theorem Process.Keeps.call (hg : InByte g) (hfree : n.Free (localEstate g)) {p : Process Machine}
    (h : p.Keeps g n) {c : Call} (hc : c.Accepted g) :
    (p.call (nodeRun k).logged c).1.Keeps g n := by
  obtain ⟨evs, htrace, hown, hof⟩ := Process.call_own (nodeRun k).logged h.of hc
  refine ⟨hof, Trace.untouched hfree htrace (fun ev hev => (hown ev hev).mono fun _ =>
    ownOp_within) h.untouched, fun slot hslot => ?_⟩
  obtain ⟨evs, hevs⟩ := Process.call_keepsSlot k hg hslot h.of hc
  exact hevs.keeps (h.held slot hslot)

/-- A teardown step that meets no failure takes effect or is refused. -/
theorem healthy_step {c : Command} {op : Op} {P Q : Node → Prop} (hop : c.op? = some op)
    (hdone : ∀ n n', P n → op.exec k n = .ok n' → Q n')
    (hrefused : ∀ n e, P n → op.exec k n = .error e → Q n) :
    Triple (fun s : Machine => s.Healthy ∧ P s.node) (runTeardownStep (nodeRun k).logged c)
      fun _ s => Machine.Healthy s ∧ Q (Machine.node s) := by
  rintro s ⟨hs, hP⟩
  obtain ⟨hfaults, ⟨n', hexec, -, hnode⟩ | ⟨e, hexec, -, hnode⟩⟩ := nodeRun_healthy (k := k) hs hop
  · refine ⟨hfaults, ?_⟩
    show Q (nodeRun k c s.host).2.node
    rw [hnode]
    exact hdone _ _ hP hexec
  · refine ⟨hfaults, ?_⟩
    show Q (nodeRun k c s.host).2.node
    rw [hnode]
    exact hrefused _ _ hP hexec

theorem deleteTable_clears (t : String) :
    Triple (fun s : Machine => s.Healthy ∧ True)
      (runTeardownStep (nodeRun k).logged (deleteTableCommand t))
      fun _ s => Machine.Healthy s ∧ (Machine.node s).tables t = none := by
  have hop : (deleteTableCommand t).op? = some (.nftDelete t) := rfl
  refine healthy_step (P := fun _ => True) (Q := fun n => n.tables t = none) hop ?_ ?_
  · intro n n' _ hexec
    cases exec_change hexec
    exact Function.update_self _ _ _
  · intro n e _ hexec
    rw [Op.exec] at hexec
    split_ifs at hexec with hsome
    exact Option.not_isSome_iff_eq_none.mp hsome

theorem deleteTable_keeps_clear (hg : InByte g) (hslot : InByte slot) (hd : d.Of g) :
    Triple (fun s : Machine => ¬ Left g slot s.node)
      (runTeardownStep (nodeRun k).logged (deleteTableCommand (nftTableName d.rc)))
      fun _ s => ¬ Left g slot (Machine.node s) := by
  have hemits : EmitsOnly (nodeRun k).logged (Runs (AppliesNone g fun _ => False)) _ :=
    deleteTable_runs hd
  exact hemits.triple fun c hc => spares_keeps_clear (none_spares hg hslot hc)

/-- **A Local step-down without failures** leaves nothing of the Gateway. -/
theorem stepDown_bare (hg : InByte g) (hd : d.Of g) {s : Machine} (hs : s.Healthy)
    (hheld : ∀ slot, InByte slot → Left g slot s.node → slot ∈ d.slots) :
    (Machine.node (stepDown (nodeRun k).logged d s).2).Bare (localEstate g) := by
  have hruns : EmitsOnly (nodeRun k).logged (Runs (TeardownOf g fun slot => slot ∈ d.slots))
      (teardownSlots (nodeRun k).logged d []) := teardownSlots_runs hd []
  obtain ⟨hhealthy, htable⟩ := deleteTable_clears (k := k) (nftTableName d.rc) s ⟨hs, trivial⟩
  rw [stepDown_local hd.accepted.isLocal]
  simp only
  generalize hs' : (runTeardownStep (nodeRun k).logged (deleteTableCommand (nftTableName d.rc)) s).2
    = s' at hhealthy htable
  have hclears := (teardownSlots_clears (k := k) hg hd [] s' hhealthy).2
  have htables := hruns.triple (fun c hc => teardownOf_tables hc (Machine.node s').tables) s' rfl
  have hclear : ∀ slot, InByte slot →
      ¬ Left g slot (Machine.node (teardownSlots (nodeRun k).logged d [] s').2) := by
    intro slot hslot
    by_cases hmem : slot ∈ d.slots
    · exact hclears slot hmem List.not_mem_nil
    · have hbefore : ¬ Left g slot (Machine.node s') := by
        rw [← hs']
        exact deleteTable_keeps_clear hg hslot hd s fun hleft => hmem (hheld slot hslot hleft)
      exact hruns.triple (fun c hc => spares_keeps_clear (teardownOf_spares hg hslot hc)) s' hbefore
  refine ⟨?_, ?_, ?_, ?_⟩
  · rintro i ⟨slot, hslot, rfl⟩
    exact Option.not_isSome_iff_eq_none.mp fun h => hclear slot hslot ⟨.interface, h⟩
  · rintro rule ⟨slot, hslot, rfl⟩
    exact Bool.eq_false_iff.mpr fun h => hclear slot hslot ⟨.rule, h⟩
  · rintro t ⟨slot, hslot, rfl⟩
    exact not_not.mp fun h => hclear slot hslot ⟨.routes, h⟩
  · rintro t rfl
    rw [htables, ← hd.accepted.nftTableName]
    exact htable

end

/-! ## Cluster mode -/

/-- The interface and the table of a Cluster link. -/
def clusterEstate : Estate where
  interfaces := fun i => i = clusterInterface
  rules := fun _ => False
  routeTables := fun _ => False
  nftTables := fun t => t = clusterNftTable

/-- A Cluster process: its configs have no identity, and it holds no slots. -/
structure DataPlane.OfCluster (d : DataPlane) : Prop where
  identity : d.rc.identity = none
  slots : d.slots = ∅

/-- The configs of a call have no identity. -/
def Call.InCluster : Call → Prop
  | .applyPass rc _ _ => rc.identity = none
  | .standbyPass rc _ => rc.identity = none
  | .stepDown => True
  | .startLeading => True
  | .observeOtherHolder => True

section

variable {σ : Type} {run : Runner Command σ} {rc : RuntimeConfig} {d : DataPlane}

/-- The operations of a Cluster process. -/
abbrev ClusterOp : Op → Prop := Op.Within clusterEstate

theorem applyCluster_within (hidentity : rc.identity = none) {files : List (Int64 × WGFile)}
    {previous resolved : List ResolvedForward} {nodeName : String} :
    EmitsOnly run (Runs ClusterOp)
      (applyCluster run rc files (renderNftables rc resolved nodeName) previous resolved) := by
  have hplan : ∀ exist, ∀ c ∈ (buildApplyCommands rc files [(0, exist)] []).flatMap (·.cmds),
      Runs ClusterOp c := by
    intro exist c hc
    obtain ⟨sp, hsp, hc⟩ := List.mem_flatMap.mp hc
    unfold buildApplyCommands at hsp
    rw [hidentity] at hsp
    rw [List.mem_singleton.mp hsp] at hc
    exact (ifaceCommands_ops c hc).mono fun _ h => by cases h <;> rfl
  have hnft : Runs ClusterOp (nftCommand (renderNftables rc resolved nodeName)) := by
    refine ⟨_, rfl, ?_⟩
    show _ = _
    rw [renderNftables_table, nftTableName, hidentity]
  have hflush : ∀ c ∈ conntrackFlushCommands previous resolved,
      Runs ClusterOp c := by
    intro c hc
    obtain ⟨args, hop⟩ := conntrackFlushCommands_ops c hc
    exact ⟨_, hop, trivial⟩
  have hprobe : Runs ClusterOp (linkShowCommand clusterInterface) :=
    ⟨_, rfl, trivial⟩
  refine (ifaceExists_only hprobe).bind fun exist => ?_
  cases exist with
  | error e => exact .pure _
  | ok exist =>
    refine (EmitsOnly.runUntil (hplan exist)).bind fun e => ?_
    cases e with
    | some e => exact .pure _
    | none =>
      have hinstall : EmitsOnly run (Runs ClusterOp)
          (installRuleset run (renderNftables rc resolved nodeName)) := EmitsOnly.tolerant hnft
      refine hinstall.bind fun e => ?_
      cases e with
      | some e => exact .pure _
      | none =>
        refine (EmitsOnly.runUntil hflush).bind fun e => ?_
        cases e with
        | some e | none => exact .pure _

theorem applyConfig_within (hidentity : rc.identity = none) {env : ApplyEnv}
    {previous localForwards : List ResolvedForward} {previousAddress : String} :
    EmitsOnly run (Runs ClusterOp)
      (applyConfig run rc env previous previousAddress localForwards) := by
  unfold applyConfig
  cases writeWGConfs env.tempFile (wgConfs rc env.privKey) with
  | error e => exact .pure _
  | ok files =>
    cases resolvedForwards rc env localForwards with
    | error e => exact .pure _
    | ok resolved =>
      simp only [hidentity]
      exact (applyCluster_within hidentity).bind fun out => .pure _

theorem teardownCluster_ops (hidentity : rc.identity = none) : teardownCommands rc =
    [deleteTableCommand clusterNftTable, linkDelCommand clusterInterface] := by
  unfold teardownCommands nftTableName
  rw [hidentity]

theorem teardownCluster_within (hidentity : rc.identity = none) :
    EmitsOnly run (Runs ClusterOp) (teardownCluster run rc) := by
  unfold teardownCluster
  rw [teardownCluster_ops hidentity]
  refine (EmitsOnly.runEach fun c hc => ?_).bind fun _ => .pure _
  simp only [List.mem_cons, List.not_mem_nil, or_false] at hc
  rcases hc with rfl | rfl
  · exact ⟨_, rfl, rfl⟩
  · exact ⟨_, rfl, rfl⟩

theorem isLocal_none (hidentity : rc.identity = none) : isLocal rc = false := by
  unfold isLocal
  rw [hidentity]
  rfl

theorem teardownSlots_none (hslots : d.slots = ∅) (keep : List Int64) (host : σ) :
    teardownSlots run d keep host = ((d, []), host) := by
  have hheld : d.heldSlots = [] := by
    unfold DataPlane.heldSlots
    rw [hslots]
    rfl
  unfold teardownSlots
  rw [hheld]
  rfl

theorem linkApply_within (hd : d.OfCluster) (hidentity : rc.identity = none) (env : ApplyEnv)
    (localForwards : List ResolvedForward) :
    Returns run (Runs ClusterOp) (linkApply run d rc env localForwards) fun out =>
      out.1.OfCluster := by
  have happly : EmitsOnly run (Runs ClusterOp)
      (applyConfig run rc env d.forwards d.publicAddress localForwards) :=
    applyConfig_within hidentity
  unfold linkApply applyPass
  rw [if_pos (by simp [isLocal_none hidentity])]
  refine happly.returns.bind fun out _ => .pure ⟨?_, ?_⟩
  · rw [remember_rc]
    exact hd.identity
  · rw [remember_slots]
    exact hd.slots

theorem standbyPass_within (hd : d.OfCluster) (hidentity : rc.identity = none) (leader : Bool) :
    Returns run (Runs ClusterOp) (standbyPass run d rc leader) fun out => out.1.OfCluster := by
  have hcurrent : DataPlane.OfCluster { d with rc := rc } := ⟨hidentity, hd.slots⟩
  unfold standbyPass
  split_ifs
  · exact .pure hd
  · exact .pure hcurrent
  · intro s
    rw [bind_apply, teardownSlots_none hcurrent.slots]
    exact Returns.pure hcurrent s

theorem stepDown_within (hd : d.OfCluster) :
    Returns run (Runs ClusterOp) (stepDown run d) fun out => out.1.OfCluster := by
  have hteardown : EmitsOnly run (Runs ClusterOp) (teardownCluster run d.rc) :=
    teardownCluster_within hd.identity
  unfold stepDown
  rw [if_pos (by simp [isLocal_none hd.identity])]
  exact hteardown.returns.bind fun err _ => .pure hd

/-- **The commands of a Cluster call** stay within the estate. -/
theorem Process.call_within (run : Runner Command σ) {p : Process σ} (hd : p.dp.OfCluster)
    {c : Call} (hc : c.InCluster) :
    ∃ evs, Trace run p.host evs (p.call run c).1.host ∧
      (∀ ev ∈ evs, Runs ClusterOp ev.command) ∧ (p.call run c).1.dp.OfCluster := by
  cases c with
  | applyPass rc env localForwards => exact linkApply_within hd hc env localForwards p.host
  | standbyPass rc leader => exact standbyPass_within hd hc leader p.host
  | stepDown => exact stepDown_within hd p.host
  | startLeading | observeOtherHolder =>
    exact ⟨[], .nil _, fun _ hev => absurd hev List.not_mem_nil, hd.identity, hd.slots⟩

end

section

variable {k : Kernel} {n : Node} {d : DataPlane}

theorem Process.run_untouched_cluster {calls : List Call} (hcalls : ∀ c ∈ calls, c.InCluster)
    (hfree : n.Free clusterEstate) {p : Process Machine} (hd : p.dp.OfCluster)
    (hn : Untouched clusterEstate n (Machine.node p.host)) :
    (p.run (nodeRun k).logged calls).dp.OfCluster ∧
      Untouched clusterEstate n (Machine.node (p.run (nodeRun k).logged calls).host) := by
  refine List.foldlRecOn (motive := fun p : Process Machine => p.dp.OfCluster ∧
    Untouched clusterEstate n (Machine.node p.host)) calls _ ⟨hd, hn⟩ fun p hp c hc => ?_
  obtain ⟨evs, htrace, hwithin, hd'⟩ :=
    Process.call_within (nodeRun k).logged hp.1 (hcalls c hc)
  exact ⟨hd', Trace.untouched hfree htrace hwithin hp.2⟩

theorem clusterLinkDel_clears :
    Triple (fun s : Machine => s.Healthy ∧ s.node.tables clusterNftTable = none)
      (runTeardownStep (nodeRun k).logged (linkDelCommand clusterInterface))
      fun _ s => Machine.Healthy s ∧ (Machine.node s).Bare clusterEstate := by
  have hop : (linkDelCommand clusterInterface).op? = some (.linkDel clusterInterface) := rfl
  have hbare : ∀ n : Node, n.links clusterInterface = none → n.tables clusterNftTable = none →
      n.Bare clusterEstate := by
    intro n hlink htable
    refine ⟨?_, fun _ h => h.elim, fun _ h => h.elim, ?_⟩
    · rintro i rfl
      exact hlink
    · rintro t rfl
      exact htable
  refine healthy_step (P := fun n => n.tables clusterNftTable = none)
    (Q := fun n => n.Bare clusterEstate) hop ?_ ?_
  · intro n n' htable hexec
    cases exec_change hexec
    exact hbare _ (Function.update_self clusterInterface none n.links) htable
  · intro n e htable hexec
    rw [Op.exec] at hexec
    split_ifs at hexec with hsome
    exact hbare _ (Option.not_isSome_iff_eq_none.mp hsome) htable

/-- **A Cluster step-down without failures** leaves neither the table nor the interface. -/
theorem stepDown_bare_cluster (hd : d.OfCluster) {s : Machine} (hs : s.Healthy) :
    (Machine.node (stepDown (nodeRun k).logged d s).2).Bare clusterEstate := by
  unfold stepDown
  rw [if_pos (by simp [isLocal_none hd.identity])]
  unfold teardownCluster
  rw [teardownCluster_ops hd.identity]
  exact (clusterLinkDel_clears _ (deleteTable_clears clusterNftTable s ⟨hs, trivial⟩)).2

end

/-! ## Both modes -/

/-- What a process that started with `identity` may have on a node. -/
def estateOf : Option Controller.GatewayIdentity → Estate
  | some identity => localEstate identity.id
  | none => clusterEstate

/-- A config a process that started with `identity` accepts. -/
structure AcceptedAs (identity : Option Controller.GatewayIdentity) (rc : RuntimeConfig) :
    Prop where
  identity_eq : rc.identity = identity
  valid : ∃ raw, validate raw = .ok rc

def Call.AcceptedAs (identity : Option Controller.GatewayIdentity) : Call → Prop
  | .applyPass rc _ _ => Link.AcceptedAs identity rc
  | .standbyPass rc _ => Link.AcceptedAs identity rc
  | .stepDown => True
  | .startLeading => True
  | .observeOtherHolder => True

theorem Call.AcceptedAs.accepted {g : Int64} {c : Call}
    (h : c.AcceptedAs (some (newGatewayIdentity g))) : c.Accepted g := by
  cases c with
  | applyPass | standbyPass => exact ⟨h.identity_eq, h.valid⟩
  | stepDown | startLeading | observeOtherHolder => trivial

theorem Call.AcceptedAs.inCluster {c : Call} (h : c.AcceptedAs none) : c.InCluster := by
  cases c with
  | applyPass | standbyPass => exact h.identity_eq
  | stepDown | startLeading | observeOtherHolder => trivial

/-- No command fails from here on. -/
def Machine.heal (s : Machine) : Machine := { s with host := { s.host with faults := [] } }

/-- The node after a process that started on it made its calls, with some commands failing, and then
stepped down with none failing. -/
def tornDown (k : Kernel) (rc : RuntimeConfig) (names : List String) (node : Node)
    (faults : List (Option Fault)) (calls : List Call) : Node :=
  let p := (startProcess rc names node faults).run (nodeRun k).logged calls
  Machine.node (stepDown (nodeRun k).logged p.dp (Machine.heal p.host)).2

theorem tornDown_local (k : Kernel) {g : Int64} (hg : InByte g) {rc : RuntimeConfig}
    (h : Accepted g rc) (names : List String) {node : Node} (hfree : node.Free (localEstate g))
    (faults : List (Option Fault)) {calls : List Call} (hcalls : ∀ c ∈ calls, c.Accepted g) :
    tornDown k rc names node faults calls = node := by
  have hstart : (startProcess rc names node faults).dp.Of g := startDataPlane_of h names
  have hclear : ∀ slot, InByte slot → ¬ Left g slot node := by
    rintro slot hslot ⟨o, hhas⟩
    cases o with
    | interface =>
      rw [Node.Has, hfree.links _ ⟨slot, hslot, rfl⟩] at hhas
      cases hhas
    | rule =>
      rw [Node.Has, hfree.rules _ ⟨slot, hslot, rfl⟩] at hhas
      cases hhas
    | routes => exact hhas (hfree.routes _ ⟨slot, hslot, rfl⟩)
  have hkeeps : Process.Keeps g node ((startProcess rc names node faults).run (nodeRun k).logged
      calls) := List.foldlRecOn calls _ ⟨hstart, .refl hfree, fun slot hslot hleft =>
        absurd hleft (hclear slot hslot)⟩ fun p hp c hc => hp.call hg hfree (hcalls c hc)
  unfold tornDown
  generalize (startProcess rc names node faults).run (nodeRun k).logged calls = p at hkeeps
  have hstepDown : Returns (nodeRun k).logged _ (stepDown _ p.dp) _ := stepDown_own hkeeps.of
  obtain ⟨evs, htrace, hown, -⟩ := hstepDown (Machine.heal p.host)
  have hend := Trace.untouched hfree htrace
    (fun ev hev => (hown ev hev).mono fun _ => ownOp_within) hkeeps.untouched
  exact hend.eq hfree (stepDown_bare hg hkeeps.of rfl hkeeps.held)

theorem tornDown_cluster (k : Kernel) {rc : RuntimeConfig} (h : rc.identity = none)
    (names : List String) {node : Node} (hfree : node.Free clusterEstate)
    (faults : List (Option Fault)) {calls : List Call} (hcalls : ∀ c ∈ calls, c.InCluster) :
    tornDown k rc names node faults calls = node := by
  have hplane : startDataPlane rc names = newDataPlane rc := by
    unfold startDataPlane
    rw [h]
  have hstart : (startProcess rc names node faults).dp.OfCluster := by
    unfold startProcess
    rw [hplane]
    exact ⟨h, rfl⟩
  obtain ⟨hof, huntouched⟩ := Process.run_untouched_cluster (k := k) hcalls hfree hstart
    (Untouched.refl hfree)
  unfold tornDown
  generalize (startProcess rc names node faults).run (nodeRun k).logged calls = p at hof huntouched
  have hstepDown : Returns (nodeRun k).logged _ (stepDown _ p.dp) _ := stepDown_within hof
  obtain ⟨evs, htrace, hwithin, -⟩ := hstepDown (Machine.heal p.host)
  have hend := Trace.untouched hfree htrace hwithin huntouched
  exact hend.eq hfree (stepDown_bare_cluster hof rfl)

/-- **The teardown undoes every apply.** In either mode, on a node free of what the link may have
there: after any calls, each command of which may fail, a step-down whose commands take effect or
find their object absent leaves exactly the node the process started on. -/
theorem teardown_undoes (k : Kernel) {identity : Option Controller.GatewayIdentity}
    (hidentity : identity = none ∨
      ∃ g, (1 ≤ g ∧ g ≤ maxLinkID) ∧ identity = some (newGatewayIdentity g))
    {rc : RuntimeConfig} (h : AcceptedAs identity rc) (names : List String) {node : Node}
    (hfree : node.Free (estateOf identity)) (faults : List (Option Fault)) {calls : List Call}
    (hcalls : ∀ c ∈ calls, c.AcceptedAs identity) :
    tornDown k rc names node faults calls = node := by
  rcases hidentity with rfl | ⟨g, hg, rfl⟩
  · exact tornDown_cluster k h.identity_eq names hfree faults fun c hc => (hcalls c hc).inCluster
  · exact tornDown_local k (inByte_of_linkID hg) ⟨h.identity_eq, h.valid⟩ names hfree faults
      fun c hc => (hcalls c hc).accepted

theorem bare_free (E : Estate) : Node.bare.Free E where
  links := fun _ _ => rfl
  rules := fun _ _ => rfl
  routes := fun _ _ => rfl
  tables := fun _ _ => rfl
  sysctls := fun _ _ => rfl
  devices := fun _ _ _ => nofun

/-- The slot's commands stop before the rule is added. -/
def stoppedApply : List (Option Fault) := List.replicate 10 none ++ [some notPermitted]

def appliedOnce : List Call := [.applyPass (memberConfig 7) sampleEnv [sharedForward]]

theorem teardown_undoes_stopped :
    (Machine.node ((startProcess (memberConfig 7) [] Node.bare stoppedApply).run
        (nodeRun sampleKernel).logged appliedOnce).host).Has (newSlotIdentity 7 0) .routes ∧
      tornDown sampleKernel (memberConfig 7) [] Node.bare stoppedApply appliedOnce = Node.bare := by
  have haccepted : AcceptedAs (some (newGatewayIdentity 7)) (memberConfig 7) :=
    ⟨memberConfig_accepted.identity, memberConfig_accepted.valid⟩
  refine ⟨by decide +kernel, teardown_undoes sampleKernel (.inr ⟨7, by decide, rfl⟩) haccepted []
    (bare_free _) stoppedApply ?_⟩
  intro c hc
  rw [List.mem_singleton.mp hc]
  exact haccepted

end WireguardGateway.Link

import WireguardGateway.Lib.Ledger
import WireguardGateway.Link.Leftovers

/-!
# What a restart finds

At its start a replica looks for slots an earlier process left behind, by the names of the node's
links (`InheritedSlots`, `identity.go`; `Run`, `link.go`). A slot without its interface is not
found, so what matters is that no rule and no route of a slot outlives the interface (`Anchored`).

The node after any history is the replay of the commands that ran (`nodeLedger`), and a process
killed after any command leaves the replay of those before. Two facts about a command decide
whether a slot stays anchored:
* an apply sets rules and routes up only after the interface is there (`RoutesLast`); every process
  does that (`Process.run_abides`), since a slot's plan stops at its first failure;
* a teardown deletes the interface only after the rule and the other routes are gone
  (`DeletesLast`). No process takes care of that: the teardown runs every step, whatever
  became of the one before.

Results:
* `anchored_commit`: a command that meets both keeps every slot anchored;
* **`restart_finds`**: in every history in which each interface was deleted last, after every
  command, every leftover slot is found, held and torn down. `orphanedRule_missed` is a history
  where a rule outlived its interface.
-/

namespace WireguardGateway.Link

open Lib Lib.Plan
open Controller (RuntimeConfig)

/-! ## The node as the replay of commands -/

/-- The node after a command that ended as it did. -/
def Node.commit (k : Kernel) (n : Node) (ev : Event Command) : Node :=
  match ev.error with
  | none => (n.perform k ev.command).2
  | some _ => n

section

variable {k : Kernel} {n n' : Node} {ev : Event Command} {g slot : Int64}

variable {c : Command} {op : Op} {id : SlotIdentity} {e : Option String}

theorem perform_refused {e : String} (h : (n.perform k c).1 = some e) :
    (n.perform k c).2 = n := by
  unfold Node.perform at h ⊢
  split
  · rfl
  · split
    · simp_all
    · rfl

theorem commit_perform (c : Command) :
    n.commit k ⟨c, (n.perform k c).1⟩ = (n.perform k c).2 := by
  unfold Node.commit
  cases h : (n.perform k c).1 with
  | none => rfl
  | some e => exact (perform_refused h).symm

/-- The node is a ledger of the commands run on it. -/
def nodeLedger (k : Kernel) : Ledger (nodeRun k).logged Node where
  view := Machine.node
  commit := Node.commit k
  view_run := by
    intro c s
    show (nodeRun k c s.host).2.node = Node.commit k s.host.node ⟨c, (nodeRun k c s.host).1⟩
    unfold nodeRun
    split
    · rfl
    · exact (commit_perform c).symm
    · exact (commit_perform c).symm

/-- A command changes the node by the operation it is, or not at all. -/
theorem commit_cases (n : Node) (ev : Event Command) : n.commit k ev = n ∨
    ∃ op, ev.error = none ∧ ev.command.op? = some op ∧ op.exec k n = .ok (n.commit k ev) := by
  unfold Node.commit
  cases herror : ev.error with
  | some e => exact .inl rfl
  | none =>
    unfold Node.perform
    cases hop : ev.command.op? with
    | none => exact .inl rfl
    | some op =>
      cases hexec : op.exec k n with
      | error e => exact .inl (by simp [hexec])
      | ok n' => exact .inr ⟨op, rfl, rfl, by simp [hexec]⟩

/-! ## Anchored slots -/

/-- A slot with an object on the node has its interface there. -/
def Anchored (g : Int64) (n : Node) : Prop :=
  ∀ slot, InByte slot → Left g slot n → n.Has (newSlotIdentity g slot) .interface

/-- A command that sets up a rule or a route of a slot finds the slot's interface. -/
def RoutesLast (g : Int64) (n : Node) (ev : Event Command) : Prop :=
  ev.error = none → ∀ slot, InByte slot → ∀ op, ev.command.op? = some op →
    ∀ o, o ≠ .interface → op.programs (newSlotIdentity g slot) o →
      n.Has (newSlotIdentity g slot) .interface

/-- A command that deletes a slot's interface finds neither the slot's rule nor routes that do not
go with the interface. -/
def DeletesLast (g : Int64) (n : Node) (ev : Event Command) : Prop :=
  ev.error = none → ∀ slot, InByte slot →
    ev.command.op? = some (.linkDel (newSlotIdentity g slot).interface) →
      n.rules (slotRule (newSlotIdentity g slot)) = false ∧
        (n.routes (newSlotIdentity g slot).table).without (newSlotIdentity g slot).interface =
          Routes.empty

theorem links_update {i j : String} {l : Iface} (h : (n.links j).isSome) :
    ((n.setLink i l).links j).isSome := by
  simp only [Function.update_apply]
  split_ifs
  · rfl
  · exact h

/-- Only its deletion removes an interface. -/
theorem exec_keeps_link {i : String} (h : op.exec k n = .ok n') (hi : (n.links i).isSome)
    (hop : op ≠ .linkDel i) : (n'.links i).isSome := by
  cases exec_change h with
  | linkAdd | linkSet | syncconf | addrReplace => exact links_update hi
  | linkDel j =>
    have hij : i ≠ j := fun hij => hop (hij ▸ rfl)
    show (Function.update n.links j none i).isSome
    rw [Function.update_of_ne hij]
    exact hi
  | _ => exact hi

/-- What is left of a slot when its interface goes last: nothing. -/
theorem linkDel_clears (h : (Op.linkDel id.interface).exec k n = .ok n')
    (hrule : n.rules (slotRule id) = false)
    (hroutes : (n.routes id.table).without id.interface = Routes.empty) (o : SlotObject) :
    ¬ n'.Has id o := by
  cases exec_change h
  cases o with
  | interface => simp [Node.Has]
  | rule => simp [Node.Has, hrule]
  | routes => simp [Node.Has, hroutes]

/-- **The step lemma**: a command that sets routes up last and deletes interfaces last keeps every
slot anchored. -/
theorem anchored_commit (hn : Anchored g n) (hroutes : RoutesLast g n ev)
    (hdeletes : DeletesLast g n ev) : Anchored g (n.commit k ev) := by
  rcases commit_cases (k := k) n ev with h | ⟨op, herror, hop, hexec⟩
  · rw [h]
    exact hn
  · intro slot hslot hleft
    obtain ⟨o, hhas⟩ := hleft
    by_cases hdel : op = .linkDel (newSlotIdentity g slot).interface
    · subst hdel
      obtain ⟨hrule, hempty⟩ := hdeletes herror slot hslot hop
      exact absurd hhas (linkDel_clears hexec hrule hempty o)
    · by_cases ho : o = .interface
      · subst ho
        exact hhas
      · have hbefore : n.Has (newSlotIdentity g slot) .interface := by
          rcases exec_creates hexec hhas with hhas | hp
          · exact hn slot hslot ⟨o, hhas⟩
          · exact hroutes herror slot hslot op hop o ho hp
        exact exec_keeps_link hexec hbefore hdel

/-! ## Every process sets routes up last -/

/-- An operation that sets up no object of any slot. -/
def Idle (op : Op) : Prop := ∀ id, op.Spares id

theorem idle_teardown (h : TeardownOp id op) : Idle op :=
  fun _ _ => teardownOp_programs h

theorem routesLast_of_interface (hop : c.op? = some op)
    (h : ∀ id o, o ≠ .interface → op.programs id o = false) : RoutesLast g n ⟨c, e⟩ := by
  intro _ slot _ op' hop' o ho hp
  obtain rfl : op = op' := Option.some_inj.mp (hop.symm.trans hop')
  rw [h _ o ho] at hp
  cases hp

theorem routesLast_of_idle (hc : Runs Idle c) :
    RoutesLast g n ⟨c, e⟩ := by
  obtain ⟨op, hop, hidle⟩ := hc
  exact routesLast_of_interface hop fun id o _ => hidle id o

/-- From every node, the program sets routes up last. -/
abbrev SetsLast (k : Kernel) (g : Int64) {α : Type} (m : StateM Machine α) : Prop :=
  (nodeLedger k).Abides (RoutesLast g) (fun _ => True) m fun _ _ => True

/-- A program that sets up nothing abides. -/
theorem idle_abides {α : Type} {m : StateM Machine α}
    (h : EmitsOnly (nodeRun k).logged (Runs Idle) m) : SetsLast k g m :=
  .of_only h fun _ hc _ => routesLast_of_idle hc

theorem ifaceOp_programs {iface : String} (h : IfaceOp iface op) (id : SlotIdentity)
    (o : SlotObject) (ho : o ≠ .interface) : op.programs id o = false := by
  cases o with
  | interface => exact absurd rfl ho
  | rule | routes => cases h <;> rfl

theorem ApplyOp.ne_linkDel (h : ApplyOp id op) (i : String) :
    op ≠ .linkDel i := by
  rintro rfl
  cases h with
  | iface h => cases h

/-- With the slot's interface there, its apply commands abide and keep it there. -/
theorem applyOp_abides (hg : InByte g) (hslot : InByte slot)
    (hc : Runs (ApplyOp (newSlotIdentity g slot)) c) :
    (nodeLedger k).Abides (RoutesLast g)
      (fun s : Machine => s.node.Has (newSlotIdentity g slot) .interface) ((nodeRun k).logged c)
      fun _ s => (Machine.node s).Has (newSlotIdentity g slot) .interface := by
  refine .command fun s hs => ⟨?_, ?_⟩
  · intro _ x hx op' hop' o _ hp
    obtain ⟨op, hop, happly⟩ := hc
    obtain rfl : op = op' := Option.some_inj.mp (hop.symm.trans hop')
    obtain rfl := slot_eq_of_names hg hslot hx (applyOp_programs happly hp)
    exact hs
  · exact command_preserves (P := fun n => n.Has (newSlotIdentity g slot) .interface) hc
      (fun op n n' happly hexec hn => exec_keeps_link hexec hn (happly.ne_linkDel _)) s hs

/-- The default route can only be set through an interface that is there. -/
theorem routeDefault_abides (hg : InByte g) (hslot : InByte slot) :
    (nodeLedger k).Abides (RoutesLast g) (fun _ => True)
      ((nodeRun k).logged (routeDefaultCommand (newSlotIdentity g slot)))
      fun e s => e = none → (Machine.node s).Has (newSlotIdentity g slot) .interface := by
  have hop : (routeDefaultCommand (newSlotIdentity g slot)).op? =
      some (.routeDefault (newSlotIdentity g slot).interface (newSlotIdentity g slot).table) := rfl
  have happly : ApplyOp (newSlotIdentity g slot)
      (.routeDefault (newSlotIdentity g slot).interface (newSlotIdentity g slot).table) :=
    .routeDefault
  refine .command fun s _ => ?_
  have hran := machine_spec (k := k) s hop
  show RoutesLast g (Machine.node s) _ ∧ _
  generalize Machine.node ((nodeRun k).logged _ s).2 = n' at hran ⊢
  generalize ((nodeRun k).logged _ s).1 = e at hran ⊢
  cases hran with
  | refused | failed => exact ⟨fun h => (nomatch h), fun h => (nomatch h)⟩
  | done hexec =>
    have hlink : (Machine.node s).Has (newSlotIdentity g slot) .interface := by
      cases exec_change hexec with
      | routeDefault _ _ hi => exact hi
    refine ⟨?_, fun _ => exec_keeps_link hexec hlink (happly.ne_linkDel _)⟩
    intro _ x hx op hop' o _ hp
    obtain rfl := Option.some_inj.mp (hop.symm.trans hop')
    obtain rfl := slot_eq_of_names hg hslot hx (applyOp_programs happly hp)
    exact hlink

theorem tolerateStep_strict (hexists : c.tolerateExists = false)
    (hflows : c.tolerateNoFlows = false) (h : tolerateStep c e = none) : e = none := by
  cases e with
  | none => rfl
  | some e => simp [tolerateStep, hexists, hflows] at h

/-- **The apply plan of a slot** sets routes up last: it stops if the
default route cannot be set. -/
theorem slotCommands_abides (hg : InByte g) (hslot : InByte slot) {rc : RuntimeConfig}
    {exist : Bool} {file : Option WGFile} {targets : List String} :
    SetsLast k g (Plan.runUntil (runStep (nodeRun k).logged)
      (slotCommands rc (newSlotIdentity g slot) exist file targets)) := by
  have hiface : ∀ c ∈ ifaceCommands rc (newSlotIdentity g slot).interface exist file ++
      slotSysctls.map (slotSysctlCommand (newSlotIdentity g slot).interface),
      SetsLast k g ((nodeRun k).logged c) := by
    intro c hc
    refine .command fun s _ => ⟨?_, trivial⟩
    rcases List.mem_append.mp hc with hc | hc
    · obtain ⟨op, hop, hiface⟩ := ifaceCommands_ops c hc
      exact routesLast_of_interface hop (ifaceOp_programs hiface)
    · obtain ⟨key, -, rfl⟩ := List.mem_map.mp hc
      exact routesLast_of_idle ⟨_, op?_sysctl _ _, fun _ o => by cases o <;> rfl⟩
  have hdefault : (nodeLedger k).Abides (RoutesLast g) (fun _ => True)
      (runStep (nodeRun k).logged (routeDefaultCommand (newSlotIdentity g slot)))
      fun e s => e = none → (Machine.node s).Has (newSlotIdentity g slot) .interface :=
    (routeDefault_abides hg hslot).tolerant fun e s hs hnone =>
      hs (tolerateStep_strict rfl rfl hnone)
  have hrest : ∀ c ∈ flushThrowCommand (newSlotIdentity g slot) ::
      (targets.map (throwCommand (newSlotIdentity g slot)) ++
        [ruleAddCommand (newSlotIdentity g slot)]),
      (nodeLedger k).Abides (RoutesLast g)
        (fun s : Machine => s.node.Has (newSlotIdentity g slot) .interface) ((nodeRun k).logged c)
        fun _ s => (Machine.node s).Has (newSlotIdentity g slot) .interface :=
    fun c hc => applyOp_abides hg hslot (localRouteCommands_ops c (List.mem_cons_of_mem _ hc))
  refine (Ledger.Abides.runUntil hiface).runUntil_append ?_ fun _ _ _ => trivial
  refine hdefault.runUntil_cons ?_ fun _ _ _ => trivial
  exact (Ledger.Abides.runUntil hrest).weaken (fun _ hs => hs rfl) fun _ _ _ => trivial

theorem applySlots_abides {plans : List SlotPlan}
    (h : ∀ sp ∈ plans, SetsLast k g (Plan.runUntil (runStep (nodeRun k).logged) sp.cmds)) :
    SetsLast k g (applySlots (nodeRun k).logged plans) := by
  induction plans with
  | nil => exact .pure fun _ _ => trivial
  | cons sp plans ih =>
    refine (h sp List.mem_cons_self).bind fun e => ?_
    refine (ih fun sp hsp => h sp (List.mem_cons_of_mem _ hsp)).bind fun results => ?_
    exact .pure fun _ _ => trivial

variable {rc : RuntimeConfig} {d : DataPlane} {env : ApplyEnv}
  {previous localForwards : List ResolvedForward} {previousAddress : String}

theorem applyLocal_abides (hg : InByte g) (h : Accepted g rc) {files : List (Int64 × WGFile)}
    {ruleset : Ruleset} {resolved : List ResolvedForward} :
    SetsLast k g (applyLocal (nodeRun k).logged rc (newGatewayIdentity g) files ruleset previous
      previousAddress resolved) := by
  have hprobe : SetsLast k g (probeSlots (nodeRun k).logged g rc.wireguard.peers) :=
    idle_abides (probeSlots_only fun p _ => ⟨_, rfl, fun _ => probe_spares ⟨_, rfl⟩⟩)
  refine hprobe.bind fun exist => ?_
  cases exist with
  | error e => exact .pure fun _ _ => trivial
  | ok exist =>
    refine (applySlots_abides fun sp hsp => ?_).bind fun results => ?_
    · unfold buildApplyCommands at hsp
      rw [h.identity] at hsp
      obtain ⟨p, hp, rfl⟩ := List.mem_map.mp hsp
      exact slotCommands_abides hg (h.inByte p.slot (List.mem_map_of_mem hp))
    · refine idle_abides ((finishLocal_runs rfl ⟨_, rfl, fun _ o => by cases o <;> rfl⟩ ?_).weaken
        fun _ _ hevs => hevs.1)
      exact fun c args hop => ⟨_, hop, fun _ o => by cases o <;> rfl⟩

theorem applyConfig_abides (hg : InByte g) (h : Accepted g rc) :
    SetsLast k g
      (applyConfig (nodeRun k).logged rc env previous previousAddress localForwards) := by
  unfold applyConfig
  cases writeWGConfs env.tempFile (wgConfs rc env.privKey) with
  | error e => exact .pure fun _ _ => trivial
  | ok files =>
    cases resolvedForwards rc env localForwards with
    | error e => exact .pure fun _ _ => trivial
    | ok resolved =>
      simp only [h.identity]
      exact (applyLocal_abides hg h).bind fun out => .pure fun _ _ => trivial

theorem teardownSlots_abides (hd : d.Of g) (keep : List Int64) :
    SetsLast k g (teardownSlots (nodeRun k).logged d keep) := by
  have hruns : EmitsOnly (nodeRun k).logged _ (teardownSlots _ d keep) := teardownSlots_runs hd keep
  refine idle_abides (hruns.weaken fun _ _ honly ev hev => (honly ev hev).mono ?_)
  rintro op ⟨slot, -, hop⟩
  exact idle_teardown hop

/-- **Every call** sets routes up last. -/
theorem Process.call_abides {p : Process Machine} (hg : InByte g) (hd : p.dp.Of g) {c : Call}
    (hc : c.Accepted g) :
    ∃ evs, Trace (nodeRun k).logged p.host evs (p.call (nodeRun k).logged c).1.host ∧
      Guarded (Node.commit k) (RoutesLast g) (Machine.node p.host) evs := by
  cases c with
  | applyPass rc env localForwards =>
    have hcurrent : DataPlane.Of g { p.dp with rc := rc } := ⟨hc, hd.held⟩
    have happly : SetsLast k g (linkApply (nodeRun k).logged p.dp rc env localForwards) := by
      unfold linkApply applyPass
      rw [if_neg (by simp [Accepted.isLocal hc])]
      refine (teardownSlots_abides hcurrent _).bind fun (d', departed) => ?_
      exact (applyConfig_abides hg hc).bind fun out => .pure fun _ _ => trivial
    exact (happly p.host trivial).2
  | standbyPass rc leader =>
    have hcurrent : DataPlane.Of g { p.dp with rc := rc } := ⟨hc, hd.held⟩
    have hstandby : SetsLast k g (standbyPass (nodeRun k).logged p.dp rc leader) := by
      unfold standbyPass
      split_ifs
      · exact .pure fun _ _ => trivial
      · exact .pure fun _ _ => trivial
      · exact (teardownSlots_abides hcurrent _).bind fun (d', down) => .pure fun _ _ => trivial
    exact (hstandby p.host trivial).2
  | stepDown =>
    have htable : EmitsOnly (nodeRun k).logged (Runs Idle)
        (runTeardownStep (nodeRun k).logged (deleteTableCommand (nftTableName p.dp.rc))) :=
      EmitsOnly.tolerant ⟨_, rfl, fun _ o => by cases o <;> rfl⟩
    have hstepDown : SetsLast k g (stepDown (nodeRun k).logged p.dp) := by
      unfold stepDown
      rw [if_neg (by simp [hd.accepted.isLocal])]
      refine (idle_abides htable).bind fun e => ?_
      exact (teardownSlots_abides hd _).bind fun (d', down) => .pure fun _ _ => trivial
    exact (hstepDown p.host trivial).2
  | startLeading | observeOtherHolder => exact ⟨[], .nil _, .nil _⟩

/-- **Every run** sets routes up last. -/
theorem Process.run_abides {calls : List Call} (hg : InByte g)
    (hcalls : ∀ c ∈ calls, c.Accepted g) : ∀ {p : Process Machine}, p.dp.Of g →
      ∃ evs, Trace (nodeRun k).logged p.host evs (p.run (nodeRun k).logged calls).host ∧
        Guarded (Node.commit k) (RoutesLast g) (Machine.node p.host) evs := by
  induction calls with
  | nil => exact fun _ => ⟨[], .nil _, .nil _⟩
  | cons c calls ih =>
    intro p hd
    have hc := hcalls c List.mem_cons_self
    obtain ⟨xs, hxs, hguardx⟩ := Process.call_abides (k := k) hg hd hc
    obtain ⟨ys, hys, hguardy⟩ := ih (fun c hc => hcalls c (List.mem_cons_of_mem _ hc))
      (Process.call_of (nodeRun k).logged hd hc)
    have hview : Machine.node (p.call (nodeRun k).logged c).1.host =
        replay (Node.commit k) (Machine.node p.host) xs := hxs.view (nodeLedger k)
    rw [hview] at hguardy
    exact ⟨xs ++ ys, hxs.append hys, hguardx.append hguardy⟩

end

/-! ## Histories -/

/-- One process of the Gateway on the node, from its start until it was killed. -/
structure Life (g : Int64) where
  rc : RuntimeConfig
  accepted : Accepted g rc
  /-- The link names it was given at its start. -/
  names : List String
  calls : List Call
  calls_accepted : ∀ c ∈ calls, c.Accepted g
  /-- Which of its commands fail. -/
  faults : List (Option Fault)
  /-- The number of commands after which it was killed. -/
  killedAfter : Nat

/-- The commands of a life on a node. -/
def Life.log {g : Int64} (k : Kernel) (l : Life g) (n : Node) : List (Event Command) :=
  (((startProcess l.rc l.names n l.faults).run (nodeRun k).logged l.calls).host.log).take
    l.killedAfter

/-- The commands of lives that follow one another on a node. -/
def history {g : Int64} (k : Kernel) : Node → List (Life g) → List (Event Command)
  | _, [] => []
  | n, l :: ls => l.log k n ++ history k (replay (Node.commit k) n (l.log k n)) ls

section

variable {k : Kernel} {g slot : Int64}

theorem Life.log_abides (hg : InByte g) (l : Life g) (n : Node) :
    Guarded (Node.commit k) (RoutesLast g) n (l.log k n) := by
  obtain ⟨evs, htrace, hguard⟩ := Process.run_abides (k := k) hg l.calls_accepted
    (p := startProcess l.rc l.names n l.faults) (startDataPlane_of l.accepted l.names)
  have hlog : l.log k n = evs.take l.killedAfter := by
    unfold Life.log
    rw [htrace.log]
    rfl
  rw [← List.take_append_drop l.killedAfter evs] at hguard
  rw [hlog]
  exact hguard.left

theorem history_abides (hg : InByte g) : ∀ (ls : List (Life g)) (n : Node),
    Guarded (Node.commit k) (RoutesLast g) n (history k n ls)
  | [], n => .nil n
  | l :: ls, n => (l.log_abides hg n).append (history_abides hg ls _)

/-- An apply sets up nothing of a slot its config does not list. -/
theorem applyConfig_keeps_clear (hg : InByte g) (hslot : InByte slot) {rc : RuntimeConfig}
    (h : Accepted g rc) (hdropped : slot ∉ configuredSlots rc) {env : ApplyEnv}
    {previous localForwards : List ResolvedForward} {previousAddress : String} :
    Triple (fun s : Machine => ¬ Left g slot s.node)
      (applyConfig (nodeRun k).logged rc env previous previousAddress localForwards)
      fun _ s => ¬ Left g slot (Machine.node s) := by
  intro s hs
  have hruns : Emits (nodeRun k).logged
      (applyConfig (nodeRun k).logged rc env previous previousAddress localForwards)
      (AppliesAs g rc) := applyConfig_runs h
  obtain ⟨evs, htrace, hevs, -⟩ := hruns s
  exact htrace.preserves (fun ev hev =>
    spares_keeps_clear ((hevs ev hev).mono fun _ =>
      localOp_spares hg h.inByte hslot hdropped)) hs

/-- A slot the config has dropped is gone after a first pass without failures. -/
theorem applyPass_clears (hg : InByte g) {rc : RuntimeConfig} (h : Accepted g rc)
    {p : Process Machine} (hd : p.dp.Of g) (hhealthy : Machine.Healthy p.host)
    (hheld : slot ∈ p.dp.slots) (hdropped : slot ∉ configuredSlots rc) (env : ApplyEnv)
    (localForwards : List ResolvedForward) :
    ¬ Left g slot (Machine.node
      (p.call (nodeRun k).logged (.applyPass rc env localForwards)).1.host) := by
  have hcurrent : DataPlane.Of g { p.dp with rc := rc } := ⟨h, hd.held⟩
  have hclear := (teardownSlots_clears (k := k) hg hcurrent (configuredSlots rc) p.host
    hhealthy).2 slot hheld hdropped
  show ¬ Left g slot
    (Machine.node (linkApply (nodeRun k).logged p.dp rc env localForwards p.host).2)
  rw [linkApply_local h.isLocal]
  exact applyConfig_keeps_clear hg (hd.held slot hheld) h hdropped _ hclear

end

/-- **What a restart finds.** In every history of processes of the Gateway, each killed after any of
its commands and with any commands failing, that deletes the interface of a slot only after the
slot's rule and the routes that do not go with the interface: after every command, every slot with
an object on the node is among the inherited slots of the node's link names. The next process holds
it, and its first pass without failures tears it down unless the config lists it. -/
theorem restart_finds (k : Kernel) {g : Int64} (hg : 1 ≤ g ∧ g ≤ maxLinkID) (node : Node)
    (hnode : Anchored g node) (lives : List (Life g))
    (hdeletes : Guarded (Node.commit k) (DeletesLast g) node (history k node lives))
    (done : List (Event Command)) (hdone : done <+: history k node lives) (slot : Int64)
    (hslot : InByte slot) (hleft : Left g slot (replay (Node.commit k) node done))
    (names : List String)
    (hnames : ∀ i, ((replay (Node.commit k) node done).links i).isSome → i ∈ names) :
    slot ∈ inheritedSlots names g ∧
      ∀ rc, Accepted g rc →
        slot ∈ (startDataPlane rc names).slots ∧
          (slot ∉ configuredSlots rc → ∀ env localForwards,
            ¬ Left g slot (Machine.node
              ((startProcess rc names (replay (Node.commit k) node done) []).call (nodeRun k).logged
                (.applyPass rc env localForwards)).1.host)) := by
  have hbyte := inByte_of_linkID hg
  have hguard : Guarded (Node.commit k) (fun n ev => RoutesLast g n ev ∧ DeletesLast g n ev) node
      (history k node lives) := (history_abides hbyte lives node).and hdeletes
  have hanchored : Anchored g (replay (Node.commit k) node done) :=
    hguard.invariant (fun n ev hn h => anchored_commit hn h.1 h.2) hnode hdone
  have hfound : slot ∈ inheritedSlots names g :=
    mem_inheritedSlots.mpr ⟨hslot, hnames _ (hanchored slot hslot hleft)⟩
  refine ⟨hfound, fun rc hrc => ?_⟩
  have hheld : slot ∈ (startDataPlane rc names).slots := (mem_startDataPlane hrc).mpr hfound
  refine ⟨hheld, fun hdropped env localForwards => ?_⟩
  exact applyPass_clears (p := startProcess rc names (replay (Node.commit k) node done) []) hbyte
    hrc (startDataPlane_of hrc names) rfl hheld hdropped env localForwards

/-! ## A rule that outlives its interface -/

/-- A process on a bare node that applies and steps down. -/
def sampleLife (faults : List (Option Fault)) (killedAfter : Nat) : Life 7 where
  rc := memberConfig 7
  accepted := memberConfig_accepted
  names := []
  calls := handover
  calls_accepted := handover_accepted
  faults := faults
  killedAfter := killedAfter

/-- The node after the process was killed. -/
def nodeAfter (faults : List (Option Fault)) (killedAfter : Nat) : Node :=
  replay (Node.commit sampleKernel) Node.bare
    (history sampleKernel Node.bare [sampleLife faults killedAfter])

/-- The rule could not be deleted, the routes and the interface were. No enumeration of the node's
links has the slot. -/
theorem orphanedRule_missed :
    (nodeAfter (List.replicate 13 none ++ [some notPermitted]) 16).rules
        (slotRule (newSlotIdentity 7 0)) = true ∧
      ∀ names : List String,
        (∀ i ∈ names, ((nodeAfter (List.replicate 13 none ++ [some notPermitted]) 16).links
          i).isSome) → (0 : Int64) ∉ inheritedSlots names 7 := by
  refine ⟨by decide +kernel, fun names hnames hfound => ?_⟩
  have hlink := hnames _ (mem_inheritedSlots.mp hfound).2
  have hgone : ((nodeAfter (List.replicate 13 none ++ [some notPermitted]) 16).links
      (newSlotIdentity 7 0).interface).isSome = false := by decide +kernel
  rw [hgone] at hlink
  cases hlink

theorem bare_anchored (g : Int64) : Anchored g Node.bare := by
  rintro slot - ⟨o, hhas⟩
  cases o with
  | interface => exact hhas
  | rule => simp [Node.Has, Node.bare] at hhas
  | routes => exact absurd rfl hhas

theorem replay_links {k : Kernel} {i : String} {evs : List (Event Command)}
    (h : ∀ ev ∈ evs, ∀ op, ev.command.op? = some op → .interface i ∉ op.resources) :
    ∀ n : Node, (replay (Node.commit k) n evs).links i = n.links i := by
  induction evs with
  | nil => exact fun _ => rfl
  | cons ev evs ih =>
    intro n
    rw [replay_cons, ih fun ev hev => h ev (List.mem_cons_of_mem _ hev)]
    rcases commit_cases (k := k) n ev with hsame | ⟨op, -, hop, hexec⟩
    · rw [hsame]
    · exact (exec_frame hexec).links i (h ev List.mem_cons_self op hop)

/-- The command is about no interface but `iface`, and does not delete it. -/
def spares (iface : String) (ev : Event Command) : Bool :=
  ev.command.op?.all fun op => op ≠ .linkDel iface && op.resources.all fun r =>
    match r with
    | .interface i => i = iface
    | _ => true

/-- Killed between the deletion of the rule and that of the interface. -/
def killed : List (Event Command) := history sampleKernel Node.bare [sampleLife [] 14]

theorem killed_spares : ∀ ev ∈ killed, spares "wg-gw7" ev := by decide +kernel

theorem spares_interface {iface i : String} {ev : Event Command} {op : Op} (h : spares iface ev)
    (hop : ev.command.op? = some op) (hmem : .interface i ∈ op.resources) : i = iface := by
  simp only [spares, hop, Option.all_some, Bool.and_eq_true, List.all_eq_true] at h
  exact of_decide_eq_true (h.2 _ hmem)

theorem spares_linkDel {iface i : String} {ev : Event Command} (h : spares iface ev) :
    ev.command.op? ≠ some (.linkDel i) := by
  intro hop
  obtain rfl := spares_interface h hop List.mem_cons_self
  simp [spares, hop] at h

theorem killed_links (i : String)
    (hi : ((replay (Node.commit sampleKernel) Node.bare killed).links i).isSome) :
    i ∈ ["eth0", "wg-gw7"] := by
  by_contra hother
  rw [replay_links] at hi
  · cases hi
  · intro ev hev op hop hmem
    rw [spares_interface (killed_spares ev hev) hop hmem] at hother
    exact hother (List.mem_cons_of_mem _ List.mem_cons_self)

theorem killed_deletesLast :
    Guarded (Node.commit sampleKernel) (DeletesLast 7) Node.bare killed := by
  refine Guarded.of_split fun us ev vs hsplit => ?_
  intro _ slot _ hop
  have hev : ev ∈ killed := by
    rw [hsplit]
    exact List.mem_append_right _ List.mem_cons_self
  exact absurd hop (spares_linkDel (killed_spares ev hev))

theorem killed_left : Left 7 0 (replay (Node.commit sampleKernel) Node.bare killed) :=
  ⟨.routes, by decide +kernel⟩

theorem restart_finds_killed :
    Left 7 0 (replay (Node.commit sampleKernel) Node.bare killed) ∧
      (0 : Int64) ∈ inheritedSlots ["eth0", "wg-gw7"] 7 := by
  refine ⟨killed_left, ?_⟩
  have hfinds := restart_finds sampleKernel (by decide) Node.bare (bare_anchored 7)
    [sampleLife [] 14] killed_deletesLast killed (List.prefix_refl killed) 0 (by decide) killed_left
    ["eth0", "wg-gw7"] killed_links
  exact hfinds.1

end WireguardGateway.Link

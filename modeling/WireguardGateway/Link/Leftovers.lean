import WireguardGateway.Link.Isolation
import WireguardGateway.Link.Node

/-!
# What a replica leaves on the node

The slots map of the data plane (`dataplane.go`) is there so that nothing a replica programmed is
forgotten: a slot enters it with every attempt and leaves it when a teardown has removed all three
objects of the slot, its interface, its rule and its routes (`SlotObject`). The nft table is in no
map; only `stepDown` deletes it.

Results, over every sequence of calls and every pattern of failing commands:
* `Process.call_keepsSlot`: a call keeps the slots with objects on the node in the map, and puts
  those in that it programs;
* `teardownSlots_clears`: a teardown without failures leaves no object of the slots it visits;
* **`nothing_forgotten_iff`**: every slot the process programmed and left an object of is held, and
  a standby's teardown without failures after a `stepDown` leaves nothing the process programmed iff
  the nft table it programmed was gone before. `forgottenTable_stays` is a run where it was not.
-/

namespace WireguardGateway.Link

open Lib Lib.Plan
open Controller (RuntimeConfig)

/-! ## The objects of a slot -/

inductive SlotObject where
  | interface
  | rule
  | routes
  deriving DecidableEq, Repr

/-- The node has the object of the slot. -/
def Node.Has (n : Node) (id : SlotIdentity) : SlotObject → Prop
  | .interface => (n.links id.interface).isSome
  | .rule => n.rules (slotRule id)
  | .routes => n.routes id.table ≠ Routes.empty

instance (n : Node) (id : SlotIdentity) (o : SlotObject) : Decidable (n.Has id o) :=
  match o with
  | .interface => inferInstanceAs (Decidable ((n.links id.interface).isSome = true))
  | .rule => inferInstanceAs (Decidable (n.rules (slotRule id) = true))
  | .routes => inferInstanceAs (Decidable (n.routes id.table ≠ Routes.empty))

/-- The operation creates the object of the slot, or sets it up. -/
def Op.programs (id : SlotIdentity) : Op → SlotObject → Bool
  | .linkAdd i, .interface => i = id.interface
  | .linkSet i _, .interface => i = id.interface
  | .syncconf i _, .interface => i = id.interface
  | .addrReplace _ i, .interface => i = id.interface
  | .ruleAdd rule, .rule => rule = slotRule id
  | .routeDefault _ t, .routes => t = id.table
  | .routeThrow _ t, .routes => t = id.table
  | _, _ => false

section

variable {k : Kernel} {op : Op} {n n' : Node} {id : SlotIdentity} {o : SlotObject}

theorem update_cases {α β : Type} [DecidableEq α] {f : α → β} {a x : α} {b : β} {P : β → Prop}
    (h : P (Function.update f a b x)) : P (f x) ∨ (a = x ∧ P b) := by
  rw [Function.update_apply] at h
  split_ifs at h with hx
  · exact .inr ⟨hx.symm, h⟩
  · exact .inl h

/-- **An object comes from an operation that programs it.** -/
theorem exec_creates (h : op.exec k n = .ok n') (hn' : n'.Has id o) :
    n.Has id o ∨ op.programs id o := by
  cases exec_change h with
  | linkShow | conntrack => exact .inl hn'
  | linkAdd | linkSet | syncconf | addrReplace =>
    cases o with
    | interface =>
      exact (update_cases (P := fun l : Option Iface => l.isSome = true) hn').imp_right fun h =>
        decide_eq_true h.1
    | rule | routes => exact .inl hn'
  | linkDel i =>
    refine .inl ?_
    cases o with
    | interface =>
      exact (update_cases (P := fun l : Option Iface => l.isSome = true) hn').resolve_right fun h =>
        nomatch h.2
    | rule => exact hn'
    | routes =>
      intro hempty
      apply hn'
      show (n.routes id.table).without i = _
      rw [hempty]
      rfl
  | routeDefault | routeThrow =>
    cases o with
    | interface | rule => exact .inl hn'
    | routes =>
      exact (update_cases (P := (· ≠ Routes.empty)) hn').imp_right fun h => decide_eq_true h.1
  | flushThrow t hne =>
    cases o with
    | interface | rule => exact .inl hn'
    | routes =>
      rcases update_cases (P := (· ≠ Routes.empty)) hn' with hhas | ⟨rfl, -⟩
      · exact .inl hhas
      · exact .inl hne
  | flushTable =>
    cases o with
    | interface | rule => exact .inl hn'
    | routes =>
      exact .inl ((update_cases (P := (· ≠ Routes.empty)) hn').resolve_right fun h => h.2 rfl)
  | ruleAdd =>
    cases o with
    | interface | routes => exact .inl hn'
    | rule =>
      exact (update_cases (P := (· = true)) hn').imp_right fun h => decide_eq_true h.1
  | ruleDel =>
    cases o with
    | interface | routes => exact .inl hn'
    | rule =>
      exact .inl ((update_cases (P := (· = true)) hn').resolve_right fun h => nomatch h.2)
  | writeSysctl | nftLoad | nftDelete => cases o <;> exact .inl hn'

end

/-! ## What the operations of a replica do to a slot -/

section

variable {k : Kernel} {op : Op} {n n' : Node} {g slot : Int64} {o : SlotObject}
  {A T : Int64 → Prop} {e : Option String}

variable {id : SlotIdentity}

/-- An apply plan programs the objects that carry its own names. -/
theorem applyOp_programs {id' : SlotIdentity} (h : ApplyOp id op) (hp : op.programs id' o) :
    id.interface = id'.interface ∨ id.table = id'.table ∨ slotRule id = slotRule id' := by
  cases h with
  | iface h =>
    left
    cases h with
    | linkAdd | syncconf | addrReplace | linkSet =>
      cases o with
      | interface => exact of_decide_eq_true hp
      | rule | routes => cases hp
  | sysctl | flushThrow => cases o <;> cases hp
  | routeDefault | routeThrow =>
    cases o with
    | interface | rule => cases hp
    | routes => exact .inr (.inl (of_decide_eq_true hp))
  | ruleAdd =>
    cases o with
    | interface | routes => cases hp
    | rule => exact .inr (.inr (of_decide_eq_true hp))

theorem teardownOp_programs {id' : SlotIdentity} (h : TeardownOp id op) :
    op.programs id' o = false := by
  cases h <;> cases o <;> rfl

/-- Two slots of a Gateway have no name in common. -/
theorem slot_eq_of_names (hg : InByte g) {x : Int64} (hx : InByte x) (hslot : InByte slot)
    (h : (newSlotIdentity g x).interface = (newSlotIdentity g slot).interface ∨
      (newSlotIdentity g x).table = (newSlotIdentity g slot).table ∨
      slotRule (newSlotIdentity g x) = slotRule (newSlotIdentity g slot)) : x = slot := by
  rcases h with h | h | h
  · exact (interface_inj h).2
  · exact (table_inj hg hg hx hslot h).2
  · exact (fwmark_inj hg hg hx hslot (congrArg FwRule.fwmark h)).2

/-- A replica programs the slots it applies. -/
theorem localOp_programs (hg : InByte g) (hA : ∀ x, A x → InByte x) (hslot : InByte slot)
    (h : LocalOp g A T op) (hp : op.programs (newSlotIdentity g slot) o) : A slot := by
  cases h with
  | probe | install | deleteTable | conntrack => cases o <;> cases hp
  | apply hx hop =>
    obtain rfl := slot_eq_of_names hg (hA _ hx) hslot (applyOp_programs hop hp)
    exact hx
  | teardown _ hop =>
    rw [teardownOp_programs hop] at hp
    cases hp

/-- The operation sets up no object of the slot. -/
def Op.Spares (id : SlotIdentity) (op : Op) : Prop := ∀ o, op.programs id o = false

theorem localOp_spares (hg : InByte g) (hA : ∀ x, A x → InByte x) (hslot : InByte slot)
    (hnot : ¬ A slot) (h : LocalOp g A T op) : op.Spares (newSlotIdentity g slot) := by
  intro o
  by_contra hp
  exact hnot (localOp_programs hg hA hslot h (Bool.not_eq_false _ ▸ hp))

theorem probe_spares (h : IsProbe op) : op.Spares id := by
  obtain ⟨iface, rfl⟩ := h
  intro o
  cases o <;> rfl

/-- The object a teardown step removes. -/
def Op.removes : Op → SlotObject
  | .ruleDel _ => .rule
  | .flushTable _ => .routes
  | _ => .interface

/-- A teardown step that is taken for done has removed its object, or found it absent. -/
theorem Ran.removes (c : Command) (hop : TeardownOp id op) (h : Ran k op n e n')
    (hdone : tolerateAbsent c e = none) : ¬ n'.Has id op.removes := by
  cases h with
  | done hexec =>
    cases hop with
    | ruleDel | flushTable | linkDel =>
      cases exec_change hexec
      simp [Node.Has, Op.removes]
  | refused hexec =>
    cases hop with
    | ruleDel =>
      rw [Op.exec] at hexec
      split_ifs at hexec with hrule
      exact hrule
    | flushTable =>
      rw [Op.exec] at hexec
      split_ifs at hexec with hroutes
      exact not_not.mpr hroutes
    | linkDel =>
      rw [Op.exec] at hexec
      split_ifs at hexec with hlink
      exact hlink
  | failed e =>
    -- the text of a failure is no report of absence
    simp [tolerateAbsent, e.2.1] at hdone

end

/-! ## Teardowns -/

/-- A replica's process on a node, with the log of its commands. -/
abbrev Machine : Type := Logged Command Host

def Machine.node (s : Machine) : Node := s.host.node

/-- The node has an object of the slot. -/
def Left (g slot : Int64) (n : Node) : Prop := ∃ o, n.Has (newSlotIdentity g slot) o

section

variable {k : Kernel} {g slot : Int64} {A T : Int64 → Prop}

variable {c : Command}

theorem machine_spec {op : Op} (s : Machine) (hop : c.op? = some op) :
    Ran k op s.node ((nodeRun k).logged c s).1 (Machine.node ((nodeRun k).logged c s).2) :=
  nodeRun_spec s.host hop

/-- **One command**: what its operation keeps of the node when it takes
effect, the command keeps. -/
theorem command_preserves {F : Op → Prop} {P : Node → Prop} (hc : Runs F c)
    (hexec : ∀ op n n', F op → op.exec k n = .ok n' → P n → P n') :
    Triple (fun s : Machine => P s.node) ((nodeRun k).logged c) fun _ s => P (Machine.node s) := by
  obtain ⟨op, hop, hF⟩ := hc
  intro s hs
  have hran := machine_spec (k := k) s hop
  generalize Machine.node ((nodeRun k).logged c s).2 = n' at hran ⊢
  generalize ((nodeRun k).logged c s).1 = e at hran
  cases hran with
  | done h => exact hexec op _ _ hF h hs
  | refused | failed => exact hs

/-- A command creates no object of a slot it spares. -/
theorem spares_keeps {id : SlotIdentity} (hc : Runs (Op.Spares id) c) (o : SlotObject) :
    Triple (fun s : Machine => ¬ s.node.Has id o) ((nodeRun k).logged c)
      fun _ s => ¬ (Machine.node s).Has id o := by
  refine command_preserves (P := fun n => ¬ n.Has id o) hc fun op n n' hop hexec hn hn' => ?_
  rcases exec_creates hexec hn' with hhas | hp
  · exact hn hhas
  · rw [hop o] at hp
    cases hp

theorem not_left_iff {n : Node} :
    ¬ Left g slot n ↔ ∀ o, ¬ n.Has (newSlotIdentity g slot) o := by
  unfold Left
  push Not
  exact Iff.rfl

theorem spares_keeps_clear (hc : Runs (Op.Spares (newSlotIdentity g slot)) c) :
    Triple (fun s : Machine => ¬ Left g slot s.node) ((nodeRun k).logged c)
      fun _ s => ¬ Left g slot (Machine.node s) := by
  intro s hs
  rw [not_left_iff] at hs ⊢
  exact fun o => spares_keeps hc o s (hs o)

/-- A replica that applies nothing spares every slot. -/
theorem none_spares (hg : InByte g) (hslot : InByte slot) (hc : Runs (AppliesNone g T) c) :
    Runs (Op.Spares (newSlotIdentity g slot)) c :=
  hc.mono fun _ => localOp_spares hg (fun _ h => h.elim) hslot (fun h => h)

theorem teardownOf_spares (hg : InByte g) (hslot : InByte slot) (hc : Runs (TeardownOf g T) c) :
    Runs (Op.Spares (newSlotIdentity g slot)) c := by
  refine none_spares hg hslot (hc.mono (Q := AppliesNone g T) ?_)
  rintro op ⟨x, hx, hop⟩
  exact .teardown hx hop

theorem teardownStep_spares (hg : InByte g) {x : Int64} (hslot : InByte slot)
    (hc : c ∈ slotTeardownSteps g x) : Runs (Op.Spares (newSlotIdentity g slot)) c :=
  teardownOf_spares (T := (· = x)) hg hslot
    ((slotTeardownSteps_ops c hc).mono fun _ hop => ⟨x, rfl, hop⟩)

theorem joinErrors_eq_none {errs : List String} : joinErrors errs = none ↔ errs = [] := by
  cases errs with
  | nil => exact ⟨fun _ => rfl, fun _ => rfl⟩
  | cons e errs => exact ⟨fun h => (nomatch h), fun h => (nomatch h)⟩

/-- **A slot's teardown** leaves no object of the slot if no step failed. -/
theorem slotTeardown_clears (hg : InByte g) {x : Int64} (hx : InByte x) :
    Triple (fun _ : Machine => True)
      (Plan.runEach (runTeardownStep (nodeRun k).logged) (slotTeardownSteps g x))
      fun errs s => errs = [] → ¬ Left g x s.node := by
  have hkeep : ∀ c ∈ slotTeardownSteps g x, ∀ d : Command, Triple
      (fun s : Machine => ∀ op, d.op? = some op → ¬ s.node.Has (newSlotIdentity g x) op.removes)
      (runTeardownStep (nodeRun k).logged c)
      fun _ s => ∀ op, d.op? = some op → ¬ s.node.Has (newSlotIdentity g x) op.removes := by
    intro c hc d s hs op hop
    exact spares_keeps (teardownStep_spares hg hx hc) _ s (hs op hop)
  have hstep : ∀ c ∈ slotTeardownSteps g x, Triple (fun _ : Machine => True)
      (runTeardownStep (nodeRun k).logged c) fun e s => True ∧
        (e = none → ∀ op, c.op? = some op → ¬ s.node.Has (newSlotIdentity g x) op.removes) := by
    intro c hc s _
    refine ⟨trivial, fun hdone op hop => ?_⟩
    obtain ⟨op', hop', hteardown⟩ := slotTeardownSteps_ops c hc
    obtain rfl : op' = op := Option.some_inj.mp (hop'.symm.trans hop)
    exact (machine_spec s hop).removes c hteardown hdone
  refine (Triple.runEach hstep hkeep).weaken (fun _ h => h) fun errs s h herrs => ?_
  obtain ⟨-, hachieved⟩ := h
  rw [not_left_iff]
  intro o
  cases o with
  | interface =>
    exact hachieved herrs (linkDelCommand (newSlotIdentity g x).interface)
      (by simp [slotTeardownSteps]) _ rfl
  | rule =>
    exact hachieved herrs (ruleDelCommand (newSlotIdentity g x)) (by simp [slotTeardownSteps]) _ rfl
  | routes =>
    exact hachieved herrs (flushTableCommand (newSlotIdentity g x)) (by simp [slotTeardownSteps])
      _ rfl

/-- **A teardown** forgets a slot only when no object of it is left. -/
theorem teardownLoop_keeps (hg : InByte g) (hslot : InByte slot) {keep held : List Int64}
    (hheld : ∀ x ∈ held, InByte x) : ∀ slots,
    Triple (fun s : Machine => Left g slot s.node → slot ∈ slots)
      (teardownLoop (nodeRun k).logged g keep held slots)
      fun out s => Left g slot s.node → slot ∈ out.1 := by
  induction held with
  | nil => intro slots s hs; exact hs
  | cons x held ih =>
    intro slots
    have hrest := ih fun y hy => hheld y (List.mem_cons_of_mem _ hy)
    have hx := hheld x List.mem_cons_self
    -- the steps of `x` keep what was clear, and clear `x` itself if none fails
    have hsteps : Triple (fun s : Machine => Left g slot s.node → slot ∈ slots)
        (Plan.runEach (runTeardownStep (nodeRun k).logged) (slotTeardownSteps g x))
        fun errs s => (Left g slot s.node → slot ∈ slots) ∧ (errs = [] → ¬ Left g x s.node) := by
      intro s hs
      refine ⟨fun hleft => ?_, slotTeardown_clears hg hx s trivial⟩
      by_cases hbefore : Left g slot s.node
      · exact hs hbefore
      · exact absurd hleft (Triple.runEach_keeps (fun c hc =>
          spares_keeps_clear (teardownStep_spares hg hslot hc)) s hbefore)
    rw [teardownLoop]
    split_ifs with hkeep
    · exact hrest slots
    · refine hsteps.bind fun errs => ?_
      cases hjoin : joinErrors errs with
      | none =>
        refine (hrest (slots.erase x)).pre fun s hs hleft => ?_
        refine AList.mem_erase.mpr ⟨?_, hs.1 hleft⟩
        rintro rfl
        exact hs.2 (joinErrors_eq_none.mp hjoin) hleft
      | some err =>
        refine ((hrest (slots.insert x false)).pre fun s hs hleft => ?_).bind fun out =>
          .pure fun s hs => hs
        exact (AList.mem_insert _).mpr (.inr (hs.1 hleft))

theorem teardownSlots_keeps (hg : InByte g) (hslot : InByte slot) {d : DataPlane} (hd : d.Of g)
    (keep : List Int64) :
    Triple (fun s : Machine => Left g slot s.node → slot ∈ d.slots)
      (teardownSlots (nodeRun k).logged d keep)
      fun out s => Left g slot s.node → slot ∈ out.1.slots := by
  have hheld : ∀ x ∈ d.heldSlots, InByte x := fun x hx => hd.held x (mem_heldSlots.mp hx)
  unfold teardownSlots
  rw [hd.gatewayID]
  exact (teardownLoop_keeps hg hslot hheld d.slots).bind fun out => .pure fun s hs => hs

/-! ### Teardowns without failures -/

/-- The tools' reports of a missing object are ones the link knows. -/
theorem refused_absent {id : SlotIdentity} {op : Op} {n : Node} {e : String}
    (hop : TeardownOp id op) (h : op.exec k n = .error e) : reportsAbsent e := by
  cases hop with
  | ruleDel | flushTable =>
    rw [Op.exec] at h
    split_ifs at h
    cases h
    decide
  | linkDel =>
    rw [Op.exec] at h
    split_ifs at h
    cases h
    have hcontains : contains (noDevice id.interface) "Cannot find device" := contains_append _ _
    unfold reportsAbsent absentObjectMarkers
    rw [List.any_cons, List.any_cons, hcontains]
    simp

/-- Nothing fails on the host any more. -/
def Machine.Healthy (s : Machine) : Prop := s.host.faults = []

theorem teardownStep_succeeds {x : Int64} (hc : c ∈ slotTeardownSteps g x) :
    Triple Machine.Healthy (runTeardownStep (nodeRun k).logged c)
      fun e s => s.Healthy ∧ e = none := by
  intro s hs
  obtain ⟨op, hop, hteardown⟩ := slotTeardownSteps_ops c hc
  obtain ⟨hfaults, ⟨n', -, hnone, -⟩ | ⟨e, hexec, hsome, -⟩⟩ := nodeRun_healthy (k := k) hs hop
  · refine ⟨hfaults, ?_⟩
    show tolerateAbsent c (nodeRun k c s.host).1 = none
    rw [hnone]
    rfl
  · refine ⟨hfaults, ?_⟩
    show tolerateAbsent c (nodeRun k c s.host).1 = none
    rw [hsome]
    exact if_pos (refused_absent hteardown hexec)

/-- **A teardown without failures** leaves no object of the slots it visits. -/
theorem teardownLoop_clears (hg : InByte g) {keep held : List Int64}
    (hheld : ∀ x ∈ held, InByte x) : ∀ slots,
    Triple Machine.Healthy (teardownLoop (nodeRun k).logged g keep held slots)
      fun _ s => s.Healthy ∧ ∀ x ∈ held, x ∉ keep → ¬ Left g x s.node := by
  induction held with
  | nil => intro slots s hs; exact ⟨hs, fun _ hx => absurd hx List.not_mem_nil⟩
  | cons x held ih =>
    intro slots
    have hrest := ih fun y hy => hheld y (List.mem_cons_of_mem _ hy)
    have hx := hheld x List.mem_cons_self
    rw [teardownLoop]
    split_ifs with hkeep
    · refine (hrest slots).weaken (fun _ h => h) fun _ s h => ⟨h.1, fun y hy hynot => ?_⟩
      rcases List.mem_cons.mp hy with rfl | hy
      · exact absurd hkeep hynot
      · exact h.2 y hy hynot
    · have hsteps : Triple Machine.Healthy
          (Plan.runEach (runTeardownStep (nodeRun k).logged) (slotTeardownSteps g x))
          fun errs s => (s.Healthy ∧ ¬ Left g x s.node) ∧ errs = [] := by
        intro s hs
        obtain ⟨hhealthy, hnil⟩ :=
          Triple.runEach_succeeds (fun c hc => teardownStep_succeeds hc) s hs
        exact ⟨⟨hhealthy, slotTeardown_clears hg hx s trivial hnil⟩, hnil⟩
      -- the rest of the loop creates nothing
      have hclear : ∀ slots', Triple (fun s : Machine => ¬ Left g x s.node)
          (teardownLoop (nodeRun k).logged g keep held slots') fun _ s => ¬ Left g x s.node := by
        intro slots'
        exact (teardownLoop_only (fun y _ _ c hc => teardownStep_spares hg hx hc) slots').triple
          fun c hc => spares_keeps_clear hc
      refine hsteps.bind fun errs => ?_
      cases errs with
      | cons e errs => intro s hs; exact absurd hs.2 (by simp)
      | nil =>
        intro s hs
        obtain ⟨hhealthy, hothers⟩ := hrest (slots.erase x) s hs.1.1
        refine ⟨hhealthy, fun y hy hynot => ?_⟩
        rcases List.mem_cons.mp hy with rfl | hy
        · exact hclear (slots.erase y) s hs.1.2
        · exact hothers y hy hynot

end

/-! ## Calls -/

/-- The command sets up an object of the slot. -/
def Programs (g slot : Int64) (c : Command) : Prop :=
  ∃ op o, c.op? = some op ∧ op.programs (newSlotIdentity g slot) o

/-- What a program does about a slot, from the map `slots` on `s` to the map `slots'` on `s'`. -/
structure KeepsSlot (k : Kernel) (g slot : Int64) (slots : GoMap Int64 Bool) (s : Machine)
    (slots' : GoMap Int64 Bool) (s' : Machine) (evs : List (Event Command)) : Prop where
  trace : Trace (nodeRun k).logged s evs s'
  /-- A slot with objects on the node stays in the map. -/
  keeps : (Left g slot s.node → slot ∈ slots) → Left g slot s'.node → slot ∈ slots'
  /-- A slot the program sets up is in the map. -/
  programs : ∀ ev ∈ evs, Programs g slot ev.command → slot ∈ slots'

section

variable {k : Kernel} {g slot : Int64} {rc : RuntimeConfig} {d : DataPlane} {s : Machine}
  {env : ApplyEnv} {localForwards : List ResolvedForward} {A T : Int64 → Prop}

variable {c : Command} {p : Process Machine}

theorem spares_not_programs (hc : Runs (Op.Spares (newSlotIdentity g slot)) c) :
    ¬ Programs g slot c := by
  rintro ⟨op, o, hop, hp⟩
  obtain ⟨op', hop', hspares⟩ := hc
  obtain rfl := Option.some_inj.mp (hop.symm.trans hop')
  rw [hspares o] at hp
  cases hp

/-- The apply of a pass, from the map `d` the teardown before it left. -/
theorem applyConfig_keepsSlot (hg : InByte g) (hslot : InByte slot) (h : Accepted g rc)
    (previous : List ResolvedForward) (previousAddress : String) :
    ∃ evs, KeepsSlot k g slot d.slots s
      ((d.remember rc (applyConfig (nodeRun k).logged rc env previous previousAddress localForwards
        s).1).record (applyConfig (nodeRun k).logged rc env previous previousAddress localForwards
        s).1.results).slots
      (applyConfig (nodeRun k).logged rc env previous previousAddress localForwards s).2 evs := by
  have hruns : Emits (nodeRun k).logged
      (applyConfig (nodeRun k).logged rc env previous previousAddress localForwards)
      (AppliesAs g rc) := applyConfig_runs h
  obtain ⟨evs, htrace, honly, hresults⟩ := hruns s
  generalize (applyConfig (nodeRun k).logged rc env previous previousAddress localForwards s).1 =
    out at hresults ⊢
  generalize (applyConfig (nodeRun k).logged rc env previous previousAddress localForwards s).2 = s'
    at htrace ⊢
  -- a slot the apply does not report is spared by every command
  have hspares : slot ∉ out.results.map (·.slot) →
      ∀ ev ∈ evs, Runs (Op.Spares (newSlotIdentity g slot)) ev.command := by
    intro hnot ev hev
    rcases hresults with hresults | ⟨-, hprobes⟩
    · exact (honly ev hev).mono fun _ => localOp_spares hg h.inByte hslot (hresults ▸ hnot)
    · exact (hprobes ev hev).mono fun _ => probe_spares
  refine ⟨evs, htrace, fun hkeeps hleft => ?_, fun ev hev hprograms => ?_⟩
  · rw [mem_record, remember_slots]
    by_cases hreported : slot ∈ out.results.map (·.slot)
    · exact .inr hreported
    · refine .inl (hkeeps ?_)
      by_contra hclear
      exact htrace.preserves (fun ev hev => spares_keeps_clear (hspares hreported ev hev))
        hclear hleft
  · rw [mem_record]
    by_contra hnot
    push Not at hnot
    exact spares_not_programs (hspares hnot.2 ev hev) hprograms

/-- A teardown, from the map `d`; it programs nothing. -/
theorem teardownSlots_keepsSlot (hg : InByte g) (hslot : InByte slot) (hd : d.Of g)
    (keep : List Int64) (s : Machine) :
    ∃ evs, KeepsSlot k g slot d.slots s (teardownSlots (nodeRun k).logged d keep s).1.1.slots
        (teardownSlots (nodeRun k).logged d keep s).2 evs ∧
      ∀ ev ∈ evs, ¬ Programs g slot ev.command := by
  have hruns : EmitsOnly (nodeRun k).logged (Runs (TeardownOf g fun slot => slot ∈ d.slots))
      (teardownSlots (nodeRun k).logged d keep) := teardownSlots_runs hd keep
  obtain ⟨evs, htrace, honly⟩ := hruns s
  have hnone : ∀ ev ∈ evs, ¬ Programs g slot ev.command := fun ev hev =>
    spares_not_programs (teardownOf_spares hg hslot (honly ev hev))
  exact ⟨evs, ⟨htrace, teardownSlots_keeps hg hslot hd keep s,
    fun ev hev hprograms => absurd hprograms (hnone ev hev)⟩, hnone⟩

theorem KeepsSlot.refl {slots : GoMap Int64 Bool} : KeepsSlot k g slot slots s slots s [] :=
  ⟨.nil _, fun h => h, fun _ hev => absurd hev List.not_mem_nil⟩

theorem KeepsSlot.trans {slots slots' slots'' : GoMap Int64 Bool} {s' s'' : Machine}
    {xs ys : List (Event Command)} (hx : KeepsSlot k g slot slots s slots' s' xs)
    (hnone : ∀ ev ∈ xs, ¬ Programs g slot ev.command)
    (hy : KeepsSlot k g slot slots' s' slots'' s'' ys) :
    KeepsSlot k g slot slots s slots'' s'' (xs ++ ys) := by
  refine ⟨hx.trace.append hy.trace, fun hkeeps => hy.keeps (hx.keeps hkeeps), ?_⟩
  intro ev hev hprograms
  rcases List.mem_append.mp hev with hev | hev
  · exact absurd hprograms (hnone ev hev)
  · exact hy.programs ev hev hprograms

/-- The deletion of the table. -/
theorem deleteTable_keepsSlot (hg : InByte g) (hslot : InByte slot) (hd : d.Of g) (s : Machine) :
    ∃ evs, KeepsSlot k g slot d.slots s d.slots
        (runTeardownStep (nodeRun k).logged (deleteTableCommand (nftTableName d.rc)) s).2 evs ∧
      ∀ ev ∈ evs, ¬ Programs g slot ev.command := by
  have hemits : EmitsOnly (nodeRun k).logged (Runs (AppliesNone g fun _ => False)) _ :=
    deleteTable_runs hd
  obtain ⟨evs, htrace, honly⟩ := hemits s
  have hnone : ∀ ev ∈ evs, ¬ Programs g slot ev.command := fun ev hev =>
    spares_not_programs (none_spares hg hslot (honly ev hev))
  refine ⟨evs, ⟨htrace, fun hkeeps hleft => hkeeps ?_, fun ev hev hprograms =>
    absurd hprograms (hnone ev hev)⟩, hnone⟩
  by_contra hclear
  exact htrace.preserves (fun ev hev =>
    spares_keeps_clear (none_spares hg hslot (honly ev hev))) hclear hleft

/-- **What a call does about a slot.** -/
theorem Process.call_keepsSlot (k : Kernel) (hg : InByte g) (hslot : InByte slot) (hd : p.dp.Of g)
    {c : Call} (hc : c.Accepted g) :
    ∃ evs, KeepsSlot k g slot p.dp.slots p.host (p.call (nodeRun k).logged c).1.dp.slots
      (p.call (nodeRun k).logged c).1.host evs := by
  cases c with
  | applyPass rc env localForwards =>
    have hrc : Accepted g rc := hc
    have hcurrent : DataPlane.Of g { p.dp with rc := rc } := ⟨hrc, hd.held⟩
    obtain ⟨xs, hx, hnone⟩ := teardownSlots_keepsSlot (k := k) hg hslot hcurrent
      (configuredSlots rc) p.host
    unfold Process.call
    simp only [linkApply_local hrc.isLocal]
    obtain ⟨ys, hy⟩ := applyConfig_keepsSlot hg hslot hrc _ _
    exact ⟨xs ++ ys, hx.trans hnone hy⟩
  | standbyPass rc leader =>
    have hrc : Accepted g rc := hc
    have hcurrent : DataPlane.Of g { p.dp with rc := rc } := ⟨hrc, hd.held⟩
    show ∃ evs, KeepsSlot k g slot p.dp.slots p.host
      (standbyPass (nodeRun k).logged p.dp rc leader p.host).1.1.slots
      (standbyPass (nodeRun k).logged p.dp rc leader p.host).2 evs
    unfold standbyPass
    split_ifs
    · exact ⟨[], .refl⟩
    · exact ⟨[], .refl⟩
    · obtain ⟨evs, hevs, -⟩ := teardownSlots_keepsSlot (k := k) hg hslot hcurrent [] p.host
      exact ⟨evs, hevs⟩
  | stepDown =>
    unfold Process.call
    simp only [stepDown_local hd.accepted.isLocal]
    obtain ⟨xs, hx, hnone⟩ := deleteTable_keepsSlot (k := k) hg hslot hd p.host
    obtain ⟨ys, hy, -⟩ := teardownSlots_keepsSlot (k := k) hg hslot hd [] _
    exact ⟨xs ++ ys, hx.trans hnone hy⟩
  | startLeading | observeOtherHolder => exact ⟨[], .refl⟩

/-! ## Runs -/

/-- The process set the object up. -/
def ProgrammedObject (g : Int64) (log : List (Event Command)) (slot : Int64) (o : SlotObject) :
    Prop :=
  ∃ ev ∈ log, tolerateStep ev.command ev.error = none ∧
    ev.command.op?.any fun op => op.programs (newSlotIdentity g slot) o

/-- The operation loads the Gateway's nft table. -/
def Op.loadsTable (g : Int64) : Op → Bool
  | .nftLoad r => r.table = (newGatewayIdentity g).nftTable
  | _ => false

/-- The process loaded the Gateway's nft table. -/
def ProgrammedTable (g : Int64) (log : List (Event Command)) : Prop :=
  ∃ ev ∈ log, tolerateStep ev.command ev.error = none ∧
    ev.command.op?.any fun op => op.loadsTable g

instance (g : Int64) (log : List (Event Command)) (slot : Int64) (o : SlotObject) :
    Decidable (ProgrammedObject g log slot o) :=
  inferInstanceAs (Decidable (∃ ev ∈ log, _ ∧ _))

instance (g : Int64) (log : List (Event Command)) : Decidable (ProgrammedTable g log) :=
  inferInstanceAs (Decidable (∃ ev ∈ log, _ ∧ _))

theorem ProgrammedObject.programs {log : List (Event Command)} {o : SlotObject}
    (h : ProgrammedObject g log slot o) : ∃ ev ∈ log, Programs g slot ev.command := by
  obtain ⟨ev, hev, -, hany⟩ := h
  obtain ⟨op, hop, hp⟩ := (Option.any_eq_true _ _).mp hany
  exact ⟨ev, hev, op, o, hop, hp⟩

/-- A replica at its start, on a node with some link names. -/
def startProcess (rc : RuntimeConfig) (names : List String) (node : Node)
    (faults : List (Option Fault)) : Process Machine :=
  { dp := startDataPlane rc names, host := { host := { node, faults }, log := [] } }

/-- The states of a replica of the Gateway and its node, over every start and every sequence of
calls with configs the loader accepts. -/
inductive Reached (k : Kernel) (g : Int64) : Process Machine → Prop
  | start {rc : RuntimeConfig} (h : Accepted g rc) (names : List String) (node : Node)
      (faults : List (Option Fault)) : Reached k g (startProcess rc names node faults)
  | call {p : Process Machine} (hp : Reached k g p) {c : Call} (hc : c.Accepted g) :
      Reached k g (p.call (nodeRun k).logged c).1

theorem Reached.run {calls : List Call} (hp : Reached k g p) (hcalls : ∀ c ∈ calls, c.Accepted g) :
    Reached k g (p.run (nodeRun k).logged calls) :=
  List.foldlRecOn calls _ hp fun _ hp c hc => hp.call (hcalls c hc)

theorem Reached.of (hp : Reached k g p) : p.dp.Of g := by
  induction hp with
  | start h names _ _ => exact startDataPlane_of h names
  | call _ hc ih => exact Process.call_of (nodeRun k).logged ih hc

/-- **A slot with an object the process set up is in the map**, in every state. -/
theorem Reached.held (hg : InByte g) (hslot : InByte slot) (hp : Reached k g p) :
    (∃ ev ∈ p.host.log, Programs g slot ev.command) →
      Left g slot (Machine.node p.host) → slot ∈ p.dp.slots := by
  induction hp with
  | start =>
    rintro ⟨ev, hev, -⟩
    cases hev
  | call hp hc ih =>
    obtain ⟨evs, hevs⟩ := Process.call_keepsSlot k hg hslot hp.of hc
    rintro ⟨ev, hev, hprograms⟩ hleft
    rw [hevs.trace.log] at hev
    rcases List.mem_append.mp hev with hev | hev
    · exact hevs.keeps (ih ⟨ev, hev, hprograms⟩) hleft
    · exact hevs.programs ev hev hprograms

theorem teardownSlots_clears (hg : InByte g) (hd : d.Of g) (keep : List Int64) :
    Triple Machine.Healthy (teardownSlots (nodeRun k).logged d keep)
      fun _ s => s.Healthy ∧ ∀ x ∈ d.slots, x ∉ keep → ¬ Left g x s.node := by
  have hheld : ∀ x ∈ d.heldSlots, InByte x := fun x hx => hd.held x (mem_heldSlots.mp hx)
  unfold teardownSlots
  rw [hd.gatewayID]
  refine (teardownLoop_clears hg hheld d.slots).bind fun out => .pure fun s hs => ⟨hs.1, ?_⟩
  intro x hx
  exact hs.2 x (mem_heldSlots.mpr hx)

/-- A slot's teardown does not reach the nft tables. -/
theorem teardownOf_tables (hc : Runs (TeardownOf g T) c)
    (chains : String → Option (String → Option Chain)) :
    Triple (fun s : Machine => s.node.tables = chains) ((nodeRun k).logged c)
      fun _ s => (Machine.node s).tables = chains := by
  refine command_preserves (P := fun n => n.tables = chains) hc ?_
  rintro op n n' ⟨slot, -, hop⟩ hexec hn
  cases hop with
  | ruleDel | flushTable | linkDel =>
    cases exec_change hexec
    exact hn

theorem teardownOf_loadsTable (hc : Runs (TeardownOf g T) c) :
    (c.op?.any fun op => op.loadsTable g) = false := by
  obtain ⟨op, hop, slot, -, hteardown⟩ := hc
  rw [hop]
  cases hteardown <;> rfl

end

/-- **What is forgotten.** In every state of a replica: every slot the process set an object up for
that is still on the node is held; and after a `standbyPass` that tears down without failures
nothing the process set up is left on the node iff the nft table it loaded, if any, was gone before.
That is the only object a standby depends on an earlier `stepDown` for. -/
theorem nothing_forgotten_iff {k : Kernel} {g : Int64} (hg : 1 ≤ g ∧ g ≤ maxLinkID)
    {p : Process Machine} (hp : Reached k g p) :
    (∀ slot, InByte slot → ∀ o, ProgrammedObject g p.host.log slot o →
      (Machine.node p.host).Has (newSlotIdentity g slot) o → slot ∈ p.dp.slots) ∧
    ∀ rc, Accepted g rc → p.dp.otherHolder = true → Machine.Healthy p.host →
      let q := (p.call (nodeRun k).logged (.standbyPass rc false)).1
      (((∀ slot, InByte slot → ∀ o, ProgrammedObject g q.host.log slot o →
            ¬ (Machine.node q.host).Has (newSlotIdentity g slot) o) ∧
          (ProgrammedTable g q.host.log →
            (Machine.node q.host).tables (newGatewayIdentity g).nftTable = none)) ↔
        (ProgrammedTable g p.host.log →
          (Machine.node p.host).tables (newGatewayIdentity g).nftTable = none)) := by
  have hbyte := inByte_of_linkID hg
  have hd : p.dp.Of g := hp.of
  refine ⟨fun slot hslot o hprogrammed hhas =>
    hp.held hbyte hslot hprogrammed.programs ⟨o, hhas⟩, ?_⟩
  intro rc hrc hother hhealthy q
  have hcurrent : DataPlane.Of g { p.dp with rc := rc } := ⟨hrc, hd.held⟩
  have hq : q.host = (teardownSlots (nodeRun k).logged { p.dp with rc := rc } [] p.host).2 := by
    show (standbyPass (nodeRun k).logged p.dp rc false p.host).2 = _
    rw [standbyPass_other hother]
  have hruns : EmitsOnly (nodeRun k).logged (Runs (TeardownOf g fun slot => slot ∈ p.dp.slots))
      (teardownSlots (nodeRun k).logged { p.dp with rc := rc } []) := teardownSlots_runs hcurrent []
  obtain ⟨evs, htrace, honly⟩ := hruns p.host
  rw [← hq] at htrace
  have htables : (Machine.node q.host).tables = (Machine.node p.host).tables :=
    htrace.preserves (fun ev hev => teardownOf_tables (honly ev hev) _) rfl
  -- the teardown loads no table and sets no object up
  have hloaded : ProgrammedTable g q.host.log ↔ ProgrammedTable g p.host.log := by
    unfold ProgrammedTable
    rw [htrace.log]
    constructor
    · rintro ⟨ev, hev, htol, hloads⟩
      rcases List.mem_append.mp hev with hev | hev
      · exact ⟨ev, hev, htol, hloads⟩
      · rw [teardownOf_loadsTable (honly ev hev)] at hloads
        cases hloads
    · rintro ⟨ev, hev, hrest⟩
      exact ⟨ev, List.mem_append_left _ hev, hrest⟩
  have hslots : ∀ slot, InByte slot → ∀ o, ProgrammedObject g q.host.log slot o →
      ¬ (Machine.node q.host).Has (newSlotIdentity g slot) o := by
    intro slot hslot o hprogrammed hhas
    obtain ⟨ev, hev, hprograms⟩ := hprogrammed.programs
    rw [htrace.log] at hev
    have hbefore : ev ∈ p.host.log := by
      refine (List.mem_append.mp hev).resolve_right fun hev => ?_
      exact spares_not_programs (teardownOf_spares hbyte hslot (honly ev hev)) hprograms
    by_cases hmem : slot ∈ p.dp.slots
    · have hclear := (teardownSlots_clears (k := k) hbyte hcurrent [] p.host hhealthy).2 slot hmem
        List.not_mem_nil
      rw [← hq] at hclear
      exact hclear ⟨o, hhas⟩
    · have hclear : ¬ Left g slot (Machine.node p.host) := fun hleft =>
        hmem (hp.held hbyte hslot ⟨ev, hbefore, hprograms⟩ hleft)
      exact htrace.preserves (fun ev hev =>
        spares_keeps_clear (teardownOf_spares hbyte hslot (honly ev hev))) hclear ⟨o, hhas⟩
  rw [hloaded, htables]
  constructor
  · exact fun h => h.2
  · exact fun h => ⟨hslots, h⟩

/-! ## A run that forgets the table -/

def sampleKernel : Kernel where
  address := some
  mtu := "1420"
  sysctl := fun _ => "0"

def notPermitted : Fault := ⟨"Operation not permitted", by decide +kernel⟩

theorem memberConfig_accepted : Accepted 7 (memberConfig 7) :=
  ⟨rfl, memberConfig 7, by decide +kernel⟩

/-- A replica applies, steps down and sees another holder. -/
def handover : List Call :=
  [.applyPass (memberConfig 7) sampleEnv [sharedForward], .stepDown, .observeOtherHolder]

theorem handover_accepted : ∀ c ∈ handover, c.Accepted 7 := by
  simp [handover, Call.Accepted, memberConfig_accepted]

/-- The replica on a bare node, after the commands failed as listed. -/
def handedOver (faults : List (Option Fault)) : Process Machine :=
  (startProcess (memberConfig 7) [] Node.bare faults).run (nodeRun sampleKernel).logged handover

/-- The slot's interface outlived the step-down. -/
def keptInterface : List (Option Fault) := List.replicate 15 none ++ [some notPermitted]

theorem handedOver_reached (faults : List (Option Fault)) :
    Reached sampleKernel 7 (handedOver faults) :=
  (Reached.start memberConfig_accepted [] Node.bare faults).run handover_accepted

theorem nothing_forgotten_iff_sample :
    ProgrammedObject 7 (handedOver keptInterface).host.log 0 .interface ∧
      (Machine.node (handedOver keptInterface).host).Has (newSlotIdentity 7 0) .interface ∧
      (0 : Int64) ∈ (handedOver keptInterface).dp.slots := by
  have hprogrammed : ProgrammedObject 7 (handedOver keptInterface).host.log 0 .interface := by
    decide +kernel
  have hhas : (Machine.node (handedOver keptInterface).host).Has (newSlotIdentity 7 0)
    .interface := by
    decide +kernel
  have hheld := (nothing_forgotten_iff (by decide) (handedOver_reached keptInterface)).1
  exact ⟨hprogrammed, hhas, hheld 0 (by decide) .interface hprogrammed hhas⟩

/-- `stepDown` could not delete the table. The standby that then tears down without a failure has
nothing left to tear down, and the table stays. -/
theorem forgottenTable_stays :
    let p := handedOver (List.replicate 12 none ++ [some notPermitted])
    let q := (p.call (nodeRun sampleKernel).logged (.standbyPass (memberConfig 7) false)).1
    p.dp.otherHolder = true ∧ Machine.Healthy p.host ∧
      (ProgrammedTable 7 q.host.log ∧
        ((Machine.node q.host).tables (newGatewayIdentity 7).nftTable).isSome) := by
  refine ⟨by decide +kernel, ?_, ?_⟩
  · show (_ : List (Option Fault)) = []
    decide +kernel
  · decide +kernel

end WireguardGateway.Link

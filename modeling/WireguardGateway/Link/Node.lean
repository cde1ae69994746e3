import Mathlib.Logic.Function.Basic
import WireguardGateway.Link.Ops

/-!
# The node

What the link's commands do to the node, after ip(8), wg(8) and nft(8): an operation changes a
`Node` or is refused, and a refused operation changes nothing.

* An interface comes with its sysctl files and goes with them, and with the routes through it; the
  `throw` routes of a table have no device and stay.
* `ip addr replace` adds to the addresses an interface has, `ip link set` without an MTU keeps the
  one it has, and `wg syncconf` leaves exactly the config it is given.
* Loading a ruleset empties the chains its table had and keeps them (`flush table`), and sets the
  chains the document lists.

A `Host` is a node together with the failures that are still to come, one entry per command
(`Host.faults`); a failing command changes nothing. The text of a failure does not claim that the
object is absent, or that it exists: those wordings come from the node.

`Kernel` is what else decides an effect: the address ip(8) reads from a text, and what a new
interface starts with.

Results:
* **`nodeRun_spec`**: the three ways a command ends;
* `exec_change`, `exec_frame`: what an operation changes, and what it leaves alone.
-/

namespace WireguardGateway.Link

open Lib Lib.Plan

/-! ## Nodes -/

structure Iface where
  addresses : List String
  mtu : String
  up : Bool
  conf : Option WGConf
  deriving DecidableEq, Repr

structure Routes where
  /-- The device of the default route. -/
  default : Option String
  throws : List String
  deriving DecidableEq, Repr

def Routes.empty : Routes := { default := none, throws := [] }

/-- The routes that are left when a device goes. -/
def Routes.without (r : Routes) (iface : String) : Routes :=
  if r.default = some iface then { r with default := none } else r

@[ext] structure Node where
  links : String → Option Iface
  sysctls : String → Option String
  rules : FwRule → Bool
  routes : String → Routes
  /-- The chains of an nft table by name. -/
  tables : String → Option (String → Option Chain)

/-- A node with nothing on it. -/
def Node.bare : Node where
  links := fun _ => none
  sysctls := fun _ => none
  rules := fun _ => false
  routes := fun _ => Routes.empty
  tables := fun _ => none

structure Kernel where
  /-- The address ip(8) reads from a text, in its canonical form. -/
  address : String → Option String
  /-- The MTU of a new interface. -/
  mtu : String
  /-- What the sysctl files of a new interface hold. -/
  sysctl : String → String

/-! ## Effects -/

section

variable (k : Kernel)

def Kernel.newIface : Iface := { addresses := [], mtu := k.mtu, up := false, conf := none }

def noDevice (iface : String) : String := "Cannot find device" ++ (" \"" ++ iface ++ "\"")

/-- An operation on an interface that exists. -/
def Node.onLink (n : Node) (iface : String) (f : Iface → Iface) : Except String Node :=
  match n.links iface with
  | some l => .ok { n with links := Function.update n.links iface (some (f l)) }
  | none => .error (noDevice iface)

def Iface.addAddress (l : Iface) (address : String) : Iface :=
  if address ∈ l.addresses then l else { l with addresses := l.addresses ++ [address] }

def Routes.addThrow (r : Routes) (target : String) : Routes :=
  if target ∈ r.throws then r else { r with throws := r.throws ++ [target] }

/-- The chains of a table after the document was loaded over the chains it had. -/
def loadChains (r : Ruleset) (old : Option (String → Option Chain)) (name : String) :
    Option Chain :=
  match r.chains.find? (·.name = name) with
  | some c => some c
  | none => (old.bind fun chains => chains name).map fun c => { c with rules := [] }

def Op.exec : Op → Node → Except String Node
  | .linkShow i, n =>
    if (n.links i).isSome then .ok n else .error ("Device \"" ++ i ++ "\" does not exist.")
  | .linkAdd i, n =>
    if (n.links i).isSome then .error "RTNETLINK answers: File exists"
    else
      .ok
        { n with
          links := Function.update n.links i (some k.newIface)
          sysctls := fun path =>
            if path ∈ sysctlPaths i then some (k.sysctl path) else n.sysctls path }
  | .linkSet i mtu, n => n.onLink i fun l => { l with mtu := mtu.getD l.mtu, up := true }
  | .linkDel i, n =>
    if (n.links i).isSome then
      .ok
        { n with
          links := Function.update n.links i none
          sysctls := fun path => if path ∈ sysctlPaths i then none else n.sysctls path
          routes := fun t => (n.routes t).without i }
    else .error (noDevice i)
  | .syncconf i conf, n =>
    match conf with
    | some c => n.onLink i fun l => { l with conf := some c }
    | none => .error "fopen: No such file or directory"
  | .addrReplace text i, n =>
    match k.address text with
    | some address => n.onLink i fun l => l.addAddress address
    | none => .error ("any valid prefix is expected rather than \"" ++ text ++ "\"")
  | .writeSysctl path value, n =>
    if (n.sysctls path).isSome then
      .ok { n with sysctls := Function.update n.sysctls path (some value) }
    else .error ("open " ++ path ++ ": no such file or directory")
  | .routeDefault i t, n =>
    if (n.links i).isSome then
      .ok { n with routes := Function.update n.routes t { n.routes t with default := some i } }
    else .error (noDevice i)
  | .routeThrow target t, n =>
    .ok { n with routes := Function.update n.routes t ((n.routes t).addThrow target) }
  | .flushThrow t, n =>
    if n.routes t = Routes.empty then .error "ipv4: FIB table does not exist."
    else .ok { n with routes := Function.update n.routes t { n.routes t with throws := [] } }
  | .flushTable t, n =>
    if n.routes t = Routes.empty then .error "ipv4: FIB table does not exist."
    else .ok { n with routes := Function.update n.routes t Routes.empty }
  | .ruleAdd rule, n =>
    if n.rules rule then .error "RTNETLINK answers: File exists"
    else .ok { n with rules := Function.update n.rules rule true }
  | .ruleDel rule, n =>
    if n.rules rule then .ok { n with rules := Function.update n.rules rule false }
    else .error "RTNETLINK answers: No such file or directory"
  | .nftLoad r, n =>
    .ok { n with tables := Function.update n.tables r.table
                   (some (loadChains r (n.tables r.table))) }
  | .nftDelete t, n =>
    if (n.tables t).isSome then .ok { n with tables := Function.update n.tables t none }
    else .error "No such file or directory"
  | .conntrack _, n => .ok n

end

/-! ## Hosts -/

/-- The text of a failure that has nothing to do with the object being there or not. -/
abbrev Fault : Type := { e : String // ¬ reportsAbsent e ∧ ¬ contains e existsMarker }

structure Host where
  node : Node
  /-- What becomes of the commands to come: a failure, or their effect; nothing fails after the
  last entry. -/
  faults : List (Option Fault)

/-- The command as the node takes it. -/
def Node.perform (k : Kernel) (n : Node) (c : Command) : Option String × Node :=
  match c.op? with
  | none => (some ("unknown command " ++ c.name), n)
  | some op =>
    match op.exec k n with
    | .ok n' => (none, n')
    | .error e => (some e, n)

/-- The runner of a node. -/
def nodeRun (k : Kernel) : Runner Command Host := fun c h =>
  match h.faults with
  | some e :: rest => (some e.1, { h with faults := rest })
  | none :: rest => ((h.node.perform k c).1, { node := (h.node.perform k c).2, faults := rest })
  | [] => ((h.node.perform k c).1, { h with node := (h.node.perform k c).2 })

/-- How an operation ends on a node. -/
inductive Ran (k : Kernel) (op : Op) (n : Node) : Option String → Node → Prop
  | done {n' : Node} (h : op.exec k n = .ok n') : Ran k op n none n'
  | refused {e : String} (h : op.exec k n = .error e) : Ran k op n (some e) n
  | failed (e : Fault) : Ran k op n (some e.1) n

section

variable {k : Kernel} {c : Command} {op : Op} {n : Node}

theorem perform_spec (hop : c.op? = some op) : Ran k op n (n.perform k c).1 (n.perform k c).2 := by
  unfold Node.perform
  rw [hop]
  simp only
  cases hexec : op.exec k n with
  | ok n' => exact .done hexec
  | error e => exact .refused hexec

/-- **The three ways a command ends.** -/
theorem nodeRun_spec (h : Host) (hop : c.op? = some op) :
    Ran k op h.node (nodeRun k c h).1 (nodeRun k c h).2.node := by
  unfold nodeRun
  split
  · rename_i e rest hfaults
    exact .failed e
  · exact perform_spec hop
  · exact perform_spec hop

/-- No failure comes after the last. -/
theorem nodeRun_healthy {h : Host} (hfaults : h.faults = []) (hop : c.op? = some op) :
    (nodeRun k c h).2.faults = [] ∧
      ((∃ n', op.exec k h.node = .ok n' ∧ (nodeRun k c h).1 = none ∧ (nodeRun k c h).2.node = n') ∨
        ∃ e, op.exec k h.node = .error e ∧ (nodeRun k c h).1 = some e ∧
          (nodeRun k c h).2.node = h.node) := by
  unfold nodeRun Node.perform
  rw [hfaults, hop]
  simp only
  cases op.exec k h.node with
  | ok n' => exact ⟨trivial, .inl ⟨n', rfl, rfl, rfl⟩⟩
  | error e => exact ⟨trivial, .inr ⟨e, rfl, rfl, rfl⟩⟩

end

/-! ## What an operation changes -/

section

variable (n : Node)

abbrev Node.setLink (i : String) (l : Iface) : Node :=
  { n with links := Function.update n.links i (some l) }

abbrev Node.setRoutes (t : String) (r : Routes) : Node :=
  { n with routes := Function.update n.routes t r }

abbrev Node.setRule (rule : FwRule) (b : Bool) : Node :=
  { n with rules := Function.update n.rules rule b }

abbrev Node.setTable (t : String) (chains : Option (String → Option Chain)) : Node :=
  { n with tables := Function.update n.tables t chains }

/-- The node an operation leaves when it takes effect. -/
inductive Change (k : Kernel) : Op → Node → Prop
  | linkShow (i : String) : Change k (.linkShow i) n
  | linkAdd (i : String) : Change k (.linkAdd i)
      { n.setLink i k.newIface with
        sysctls := fun path =>
          if path ∈ sysctlPaths i then some (k.sysctl path) else n.sysctls path }
  | linkSet (i : String) (mtu : Option String) (l : Iface) :
      Change k (.linkSet i mtu) (n.setLink i l)
  | linkDel (i : String) : Change k (.linkDel i)
      { n with
        links := Function.update n.links i none
        sysctls := fun path => if path ∈ sysctlPaths i then none else n.sysctls path
        routes := fun t => (n.routes t).without i }
  | syncconf (i : String) (conf : Option WGConf) (l : Iface) :
      Change k (.syncconf i conf) (n.setLink i l)
  | addrReplace (text i : String) (l : Iface) : Change k (.addrReplace text i) (n.setLink i l)
  | writeSysctl (path value : String) (h : (n.sysctls path).isSome) :
      Change k (.writeSysctl path value)
        { n with sysctls := Function.update n.sysctls path (some value) }
  | routeDefault (i t : String) (h : (n.links i).isSome) :
      Change k (.routeDefault i t) (n.setRoutes t { n.routes t with default := some i })
  | routeThrow (target t : String) :
      Change k (.routeThrow target t) (n.setRoutes t ((n.routes t).addThrow target))
  | flushThrow (t : String) (h : n.routes t ≠ Routes.empty) :
      Change k (.flushThrow t) (n.setRoutes t { n.routes t with throws := [] })
  | flushTable (t : String) : Change k (.flushTable t) (n.setRoutes t Routes.empty)
  | ruleAdd (rule : FwRule) : Change k (.ruleAdd rule) (n.setRule rule true)
  | ruleDel (rule : FwRule) : Change k (.ruleDel rule) (n.setRule rule false)
  | nftLoad (r : Ruleset) :
      Change k (.nftLoad r) (n.setTable r.table (some (loadChains r (n.tables r.table))))
  | nftDelete (t : String) : Change k (.nftDelete t) (n.setTable t none)
  | conntrack (args : List String) : Change k (.conntrack args) n

end

theorem onLink_eq {n n' : Node} {iface : String} {f : Iface → Iface}
    (h : n.onLink iface f = .ok n') :
    ∃ l, n.links iface = some l ∧ n' = n.setLink iface (f l) := by
  unfold Node.onLink at h
  split at h
  · rename_i l hl
    cases h
    exact ⟨l, hl, rfl⟩
  · cases h

/-- **The change of an operation** that takes effect. -/
theorem exec_change {k : Kernel} {op : Op} {n n' : Node} (h : op.exec k n = .ok n') :
    Change n k op n' := by
  cases op with
  | linkSet i mtu =>
    obtain ⟨l, -, rfl⟩ := onLink_eq h
    exact .linkSet i mtu _
  | syncconf i conf =>
    cases conf with
    | none => cases h
    | some c =>
      obtain ⟨l, -, rfl⟩ := onLink_eq h
      exact .syncconf i _ _
  | addrReplace text i =>
    rw [Op.exec] at h
    split at h
    · obtain ⟨l, -, rfl⟩ := onLink_eq h
      exact .addrReplace text i _
    · cases h
  | routeThrow | nftLoad | conntrack =>
    cases h
    constructor
  | linkShow | linkAdd | linkDel | flushTable | ruleAdd | ruleDel | nftDelete =>
    rw [Op.exec] at h
    split_ifs at h
    cases h
    constructor
  | writeSysctl | routeDefault | flushThrow =>
    rw [Op.exec] at h
    split_ifs at h with hc
    cases h
    constructor
    exact hc

/-! ## What an operation leaves alone -/

/-- The nodes differ in the resources only; a route elsewhere may have gone with its device. -/
structure Node.Frame (R : List Resource) (n n' : Node) : Prop where
  links : ∀ i, .interface i ∉ R → n'.links i = n.links i
  sysctls : ∀ path, .sysctl path ∉ R → n'.sysctls path = n.sysctls path
  rules : ∀ rule : FwRule, .fwmark rule.fwmark ∉ R → n'.rules rule = n.rules rule
  routes : ∀ t, .routeTable t ∉ R → n'.routes t = n.routes t ∨
    ∃ i, .interface i ∈ R ∧ n'.routes t = (n.routes t).without i
  tables : ∀ t, .nftTable t ∉ R → n'.tables t = n.tables t

section

variable {k : Kernel} {op : Op} {n n' : Node} {R : List Resource}

theorem Node.Frame.refl : n.Frame R n :=
  ⟨fun _ _ => rfl, fun _ _ => rfl, fun _ _ => rfl, fun _ _ => .inl rfl, fun _ _ => rfl⟩

theorem update_outside {α β : Type} [DecidableEq α] {P : α → Prop} {f g : α → β} {a : α} {b : β}
    (h : ∀ x, ¬ P x → f x = g x) (ha : P a) : ∀ x, ¬ P x → Function.update f a b x = g x := by
  intro x hx
  rw [Function.update_of_ne]
  · exact h x hx
  · rintro rfl
    exact hx ha

theorem sysctlPaths_other {iface : String} (h : ∀ r ∈ interfaceResources iface, r ∈ R)
    {path : String} (hpath : .sysctl path ∉ R) : path ∉ sysctlPaths iface := by
  intro hmem
  exact hpath (h _ (List.mem_cons_of_mem _ (List.mem_map_of_mem hmem)))

theorem Node.Frame.setLink {i : String} {l : Iface} (hi : .interface i ∈ R) :
    n.Frame R (n.setLink i l) :=
  ⟨update_outside (fun _ _ => rfl) hi, fun _ _ => rfl, fun _ _ => rfl, fun _ _ => .inl rfl,
    fun _ _ => rfl⟩

theorem Node.Frame.setRoutes {t : String} {r : Routes} (ht : .routeTable t ∈ R) :
    n.Frame R (n.setRoutes t r) :=
  ⟨fun _ _ => rfl, fun _ _ => rfl, fun _ _ => rfl,
    fun x hx => .inl (update_outside (P := fun t => .routeTable t ∈ R) (fun _ _ => rfl) ht x hx),
      fun _ _ => rfl⟩

theorem Node.Frame.setRule {rule : FwRule} {b : Bool} (h : .fwmark rule.fwmark ∈ R) :
    n.Frame R (n.setRule rule b) :=
  ⟨fun _ _ => rfl, fun _ _ => rfl,
    update_outside (P := fun rule : FwRule => .fwmark rule.fwmark ∈ R) (fun _ _ => rfl) h,
    fun _ _ => .inl rfl, fun _ _ => rfl⟩

theorem Node.Frame.setTable {t : String} {chains : Option (String → Option Chain)}
    (ht : .nftTable t ∈ R) : n.Frame R (n.setTable t chains) :=
  ⟨fun _ _ => rfl, fun _ _ => rfl, fun _ _ => rfl, fun _ _ => .inl rfl,
    update_outside (fun _ _ => rfl) ht⟩

theorem Ruleset.table_mem_resources (r : Ruleset) : .nftTable r.table ∈ r.resources := by
  cases r with
  | cluster d | local_ d => exact List.mem_cons_self

/-- **The frame of an operation** is what it names. -/
theorem exec_frame (h : op.exec k n = .ok n') : n.Frame op.resources n' := by
  cases exec_change h with
  | linkShow | conntrack => exact .refl
  | linkAdd =>
    exact ⟨update_outside (fun _ _ => rfl) List.mem_cons_self,
      fun path hpath => if_neg (sysctlPaths_other (fun _ hr => hr) hpath), fun _ _ => rfl,
      fun _ _ => .inl rfl, fun _ _ => rfl⟩
  | linkDel =>
    exact ⟨update_outside (fun _ _ => rfl) List.mem_cons_self,
      fun path hpath => if_neg (sysctlPaths_other (fun _ hr => hr) hpath), fun _ _ => rfl,
      fun t _ => .inr ⟨_, List.mem_cons_self, rfl⟩, fun _ _ => rfl⟩
  | linkSet | syncconf | addrReplace => exact .setLink List.mem_cons_self
  | writeSysctl =>
    exact ⟨fun _ _ => rfl, update_outside (fun _ _ => rfl) List.mem_cons_self, fun _ _ => rfl,
      fun _ _ => .inl rfl, fun _ _ => rfl⟩
  | routeDefault => exact .setRoutes (List.mem_cons_of_mem _ List.mem_cons_self)
  | routeThrow | flushThrow | flushTable => exact .setRoutes List.mem_cons_self
  | ruleAdd | ruleDel => exact .setRule List.mem_cons_self
  | nftLoad r => exact .setTable r.table_mem_resources
  | nftDelete => exact .setTable List.mem_cons_self

end

end WireguardGateway.Link

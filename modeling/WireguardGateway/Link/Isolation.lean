import WireguardGateway.Link.Conntrack
import WireguardGateway.Link.Flows
import WireguardGateway.Link.Ops

/-!
# Gateways that share a node

The replicas of the Local Gateways on a node run in one network namespace. All that keeps them apart
is that a link id determines every name a replica uses: `OwnedBy g` is the set of the names of the
Gateway `g`.

Results:
* `own_resources`: an operation of a replica of `g` names resources of `g` only;
* `ownedBy_disjoint`: two link ids have no resource in common, and `selectors_disjoint`: no mark
  satisfies a selector of both;
* **`gateways_disjoint`**: whatever two replicas of different Gateways do, no command of the one
  names anything a command of the other names.
-/

namespace WireguardGateway.Link

open Lib Lib.Plan
open Controller (RuntimeConfig)

/-! ## The names of a Gateway -/

def OwnedBy (g : Int64) : Resource → Prop
  | .interface i => ∃ slot, InByte slot ∧ i = (newSlotIdentity g slot).interface
  | .sysctl path => ∃ slot, InByte slot ∧ path ∈ sysctlPaths (newSlotIdentity g slot).interface
  | .routeTable t => ∃ slot, InByte slot ∧ t = (newSlotIdentity g slot).table
  | .fwmark selector => ∃ slot, InByte slot ∧ selector = (newSlotIdentity g slot).fwmark
  | .nftTable t => t = (newGatewayIdentity g).nftTable

section

variable {g g' : Int64}

variable {slot slot' : Int64}

theorem interfaceResources_owned (hslot : InByte slot) :
    ∀ r ∈ interfaceResources (newSlotIdentity g slot).interface, OwnedBy g r := by
  intro r hr
  rcases List.mem_cons.mp hr with rfl | hr
  · exact ⟨slot, hslot, rfl⟩
  · obtain ⟨path, hpath, rfl⟩ := List.mem_map.mp hr
    exact ⟨slot, hslot, hpath⟩

theorem ruleset_owned {rc : RuntimeConfig} {forwards : List ResolvedForward} {nodeName : String}
    (hidentity : rc.identity = some (newGatewayIdentity g))
    (hslots : ∀ slot ∈ configuredSlots rc, InByte slot) :
    ∀ r ∈ (renderNftables rc forwards nodeName).resources, OwnedBy g r := by
  intro r hr
  rw [renderNftables_local hidentity] at hr
  rcases List.mem_cons.mp hr with rfl | hr
  · exact rfl
  · obtain ⟨s, hs, hr⟩ := List.mem_flatMap.mp hr
    obtain ⟨p, hp, rfl⟩ := List.mem_map.mp hs
    have hslot : InByte p.slot := hslots p.slot (List.mem_map_of_mem hp)
    simp only [List.mem_cons, List.not_mem_nil, or_false] at hr
    rcases hr with rfl | rfl
    · exact ⟨p.slot, hslot, rfl⟩
    · exact ⟨p.slot, hslot, rfl⟩

theorem applyOp_resources (hslot : InByte slot) {op : Op} (h : ApplyOp (newSlotIdentity g slot) op)
    : ∀ r ∈ op.resources, OwnedBy g r := by
  intro r hr
  cases h with
  | iface h =>
    cases h with
    | linkAdd => exact interfaceResources_owned hslot r hr
    | syncconf | addrReplace | linkSet => rw [List.mem_singleton.mp hr]; exact ⟨slot, hslot, rfl⟩
  | sysctl h => rw [List.mem_singleton.mp hr]; exact ⟨slot, hslot, List.mem_map_of_mem h⟩
  | routeDefault | ruleAdd =>
    rcases List.mem_pair.mp hr with rfl | rfl
    · exact ⟨slot, hslot, rfl⟩
    · exact ⟨slot, hslot, rfl⟩
  | flushThrow | routeThrow => rw [List.mem_singleton.mp hr]; exact ⟨slot, hslot, rfl⟩

theorem teardownOp_resources (hslot : InByte slot) {op : Op}
    (h : TeardownOp (newSlotIdentity g slot) op) : ∀ r ∈ op.resources, OwnedBy g r := by
  intro r hr
  cases h with
  | ruleDel =>
    rcases List.mem_pair.mp hr with rfl | rfl
    · exact ⟨slot, hslot, rfl⟩
    · exact ⟨slot, hslot, rfl⟩
  | flushTable => rw [List.mem_singleton.mp hr]; exact ⟨slot, hslot, rfl⟩
  | linkDel => exact interfaceResources_owned hslot r hr

/-- **A replica names its own Gateway's resources only.** -/
theorem own_resources {op : Op} (h : OwnOp g op) : ∀ r ∈ op.resources, OwnedBy g r := by
  intro r hr
  cases h with
  | probe hslot => rw [List.mem_singleton.mp hr]; exact ⟨_, hslot, rfl⟩
  | apply hslot hop => exact applyOp_resources hslot hop r hr
  | teardown hslot hop => exact teardownOp_resources hslot hop r hr
  | install hidentity hslots => exact ruleset_owned hidentity hslots r hr
  | deleteTable => rw [List.mem_singleton.mp hr]; exact rfl
  | conntrack => cases hr

/-! ## Different names -/

theorem nftTable_inj (h : (newGatewayIdentity g).nftTable = (newGatewayIdentity g').nftTable) :
    g = g' := by
  have hlist := congrArg String.toList h
  simp only [newGatewayIdentity, String.toList_append] at hlist
  have htext := String.toList_inj.mp (List.append_cancel_left hlist)
  exact Int64.toInt_inj.mp (Lib.decimal_inj htext)

theorem noDigit_pathSuffix (slot : Int64) (key : String) :
    NoDigit (slotSuffix slot ++ ('/' :: key.toList)) := by
  unfold slotSuffix
  split_ifs
  · exact noDigit_cons (by decide)
  · exact noDigit_cons (by decide)

theorem slotSysctlPath_toList (a slot : Int64) (key : String) :
    (slotSysctlPath (newSlotIdentity a slot).interface key).toList =
      (hostProcSysNetPath ++ "/ipv4/conf/").toList ++ ("wg-gw".toList ++
        ((toString a.toInt).toList ++ (slotSuffix slot ++ ('/' :: key.toList)))) := by
  show (hostProcSysNetPath ++ "/ipv4/conf/" ++ interfaceName a slot ++ "/" ++ key).toList = _
  rw [String.toList_append, String.toList_append, String.toList_append, interfaceName_toList]
  simp

/-- A sysctl path determines the link id: what follows it does not start with a digit. -/
theorem slotSysctlPath_inj {key key' : String}
    (h : slotSysctlPath (newSlotIdentity g slot).interface key =
      slotSysctlPath (newSlotIdentity g' slot').interface key') : g = g' := by
  have hlist := congrArg String.toList h
  rw [slotSysctlPath_toList, slotSysctlPath_toList] at hlist
  have hrest := List.append_cancel_left (List.append_cancel_left hlist)
  exact Int64.toInt_inj.mp
    (decimal_append_inj (noDigit_pathSuffix slot key) (noDigit_pathSuffix slot' key') hrest).1

/-- And it determines the slot: the slot's number ends at the slash before the key. -/
theorem slotSysctlPath_slot {key key' : String}
    (h : slotSysctlPath (newSlotIdentity g slot).interface key =
      slotSysctlPath (newSlotIdentity g slot').interface key') : slot = slot' := by
  have hlist := congrArg String.toList h
  rw [slotSysctlPath_toList, slotSysctlPath_toList] at hlist
  have hrest := List.append_cancel_left (List.append_cancel_left (List.append_cancel_left hlist))
  unfold slotSuffix at hrest
  split_ifs at hrest with h₁ h₂ h₂
  · exact Int64.toInt_inj.mp (decimal_append_inj (noDigit_cons (by decide))
      (noDigit_cons (by decide)) (List.cons.inj hrest).2).1
  · cases hrest
  · cases hrest
  · rw [not_not.mp h₁, not_not.mp h₂]

theorem table_inj (hg : InByte g) (hg' : InByte g') (hslot : InByte slot) (hslot' : InByte slot')
    (h : (newSlotIdentity g slot).table = (newSlotIdentity g' slot').table) :
    g = g' ∧ slot = slot' :=
  routingKey_inj hg hg' hslot hslot' (routeTable_inj (decimal_inj h))

/-! ### Selectors -/

/-- The number a selector compares a mark with, and the mask it compares under. -/
def selectorParts (selector : String) : Option (Nat × Nat) := do
  let value ← parseHex (String.ofList (selector.toList.takeWhile (· ≠ '/')))
  let mask ← parseHex (String.ofList (selector.toList.dropWhile (· ≠ '/')).tail)
  pure (value, mask)

/-- The mark satisfies the selector. -/
def Selects (selector : String) (mark : BitVec 32) : Prop :=
  ∃ value mask, selectorParts selector = some (value, mask) ∧
    mark &&& BitVec.ofNat 32 mask = BitVec.ofNat 32 value &&& BitVec.ofNat 32 mask

/-- Hexadecimal digits have no slash among them. -/
theorem hexDigits?_no_slash {cs : List Char} : ∀ {acc n : Nat}, hexDigits? acc cs = some n →
    ∀ c ∈ cs, c ≠ '/' := by
  induction cs with
  | nil => intro acc n _ c hc; cases hc
  | cons d cs ih =>
    intro acc n h c hc
    rw [hexDigits?] at h
    obtain ⟨v, hv, hrest⟩ := Option.bind_eq_some_iff.mp h
    rcases List.mem_cons.mp hc with rfl | hc
    · rintro rfl
      have hslash : hexValue? '/' = none := by decide
      rw [hslash] at hv
      cases hv
    · exact ih hrest c hc

theorem parseHex_no_slash {s : String} {n : Nat} (h : parseHex s = some n) :
    ∀ c ∈ s.toList, c ≠ '/' := by
  unfold parseHex at h
  split at h
  · rename_i c cs hs
    rw [hs]
    intro x hx
    simp only [List.mem_cons] at hx
    rcases hx with rfl | rfl | hx
    · decide
    · decide
    · exact hexDigits?_no_slash h x (List.mem_cons.mpr hx)
  · cases h

theorem takeWhile_append_slash {cs : List Char} (h : ∀ c ∈ cs, c ≠ '/') (ds : List Char) :
    (cs ++ '/' :: ds).takeWhile (· ≠ '/') = cs ∧
      (cs ++ '/' :: ds).dropWhile (· ≠ '/') = '/' :: ds := by
  have hcs : ∀ c ∈ cs, decide (c ≠ '/') = true := fun c hc => decide_eq_true (h c hc)
  constructor
  · rw [List.takeWhile_append_of_pos hcs]
    simp
  · rw [List.dropWhile_append_of_pos hcs]
    simp

/-- A slot's selector reads as its routing key in the high half, under the high half's mask. -/
theorem selectorParts_fwmark {a b : Nat} (ha : a < 256) (hb : b < 256) :
    selectorParts (newSlotIdentity (Int64.ofNat a) (Int64.ofNat b)).fwmark =
      some ((b * 2 ^ 8 + a) * 2 ^ 16, 0xffff0000) := by
  have hmark := parseHex_mark ha hb
  obtain ⟨htake, hdrop⟩ := takeWhile_append_slash (parseHex_no_slash hmark) markMask.toList
  have htext : (newSlotIdentity (Int64.ofNat a) (Int64.ofNat b)).fwmark.toList =
      (newSlotIdentity (Int64.ofNat a) (Int64.ofNat b)).mark.toList ++
        '/' :: markMask.toList := by
    simp [SlotIdentity.fwmark, newSlotIdentity]
  have hmask : parseHex markMask = some 0xffff0000 := by decide +kernel
  unfold selectorParts
  rw [htext, htake, hdrop, List.tail_cons, String.ofList_toList, String.ofList_toList, hmark, hmask]
  rfl

theorem fwmark_inj (hg : InByte g) (hg' : InByte g') (hslot : InByte slot) (hslot' : InByte slot')
    (h : (newSlotIdentity g slot).fwmark = (newSlotIdentity g' slot').fwmark) :
    g = g' ∧ slot = slot' := by
  obtain ⟨a, ha, rfl⟩ := hg.exists_ofNat
  obtain ⟨a', ha', rfl⟩ := hg'.exists_ofNat
  obtain ⟨b, hb, rfl⟩ := hslot.exists_ofNat
  obtain ⟨b', hb', rfl⟩ := hslot'.exists_ofNat
  have hparts := congrArg selectorParts h
  rw [selectorParts_fwmark ha hb, selectorParts_fwmark ha' hb', Option.some_inj,
    Prod.mk.injEq] at hparts
  obtain rfl : a = a' := by omega
  obtain rfl : b = b' := by omega
  exact ⟨rfl, rfl⟩

/-- A number in the high half is not changed by the mask. -/
theorem ofNat_and_markMask {k : Nat} (h : k < 2 ^ 16) :
    BitVec.ofNat 32 (k * 2 ^ 16) &&& BitVec.ofNat 32 0xffff0000 = BitVec.ofNat 32 (k * 2 ^ 16) := by
  have hmask : 0xffff0000 = (2 ^ 16 - 1) <<< 16 := by decide
  have hand : (k * 2 ^ 16) &&& 0xffff0000 = k * 2 ^ 16 := by
    calc (k * 2 ^ 16) &&& 0xffff0000
        = (k <<< 16) &&& ((2 ^ 16 - 1) <<< 16) := by rw [hmask, Nat.shiftLeft_eq k]
      _ = (k &&& (2 ^ 16 - 1)) <<< 16 := Nat.shiftLeft_and_distrib.symm
      _ = k * 2 ^ 16 := by
        rw [Nat.and_two_pow_sub_one_eq_mod, Nat.mod_eq_of_lt h, Nat.shiftLeft_eq]
  rw [← BitVec.ofNat_and, hand]

/-- **No mark satisfies selectors of two link ids.** -/
theorem selectors_disjoint (hg : InByte g) (hg' : InByte g') (hne : g ≠ g') (hslot : InByte slot)
    (hslot' : InByte slot') {mark : BitVec 32} (h : Selects (newSlotIdentity g slot).fwmark mark) :
    ¬ Selects (newSlotIdentity g' slot').fwmark mark := by
  rintro ⟨value', mask', hparts', hmark'⟩
  obtain ⟨value, mask, hparts, hmark⟩ := h
  obtain ⟨a, ha, rfl⟩ := hg.exists_ofNat
  obtain ⟨a', ha', rfl⟩ := hg'.exists_ofNat
  obtain ⟨b, hb, rfl⟩ := hslot.exists_ofNat
  obtain ⟨b', hb', rfl⟩ := hslot'.exists_ofNat
  rw [selectorParts_fwmark ha hb, Option.some_inj, Prod.mk.injEq] at hparts
  rw [selectorParts_fwmark ha' hb', Option.some_inj, Prod.mk.injEq] at hparts'
  obtain ⟨rfl, rfl⟩ := hparts
  obtain ⟨rfl, rfl⟩ := hparts'
  rw [hmark, ofNat_and_markMask (by omega), ofNat_and_markMask (by omega)] at hmark'
  have hkeys := congrArg BitVec.toNat hmark'
  rw [BitVec.toNat_ofNat, BitVec.toNat_ofNat, Nat.mod_eq_of_lt (by omega),
    Nat.mod_eq_of_lt (by omega)] at hkeys
  exact hne (congrArg Int64.ofNat (by omega))

/-- **Two link ids have no resource in common.** -/
theorem ownedBy_disjoint (hg : InByte g) (hg' : InByte g') (hne : g ≠ g') {r : Resource}
    (h : OwnedBy g r) : ¬ OwnedBy g' r := by
  intro h'
  cases r with
  | interface i =>
    obtain ⟨slot, -, rfl⟩ := h
    obtain ⟨slot', -, heq⟩ := h'
    exact hne (interface_inj heq).1
  | sysctl path =>
    obtain ⟨slot, -, hpath⟩ := h
    obtain ⟨slot', -, hpath'⟩ := h'
    obtain ⟨s, -, rfl⟩ := List.mem_map.mp hpath
    obtain ⟨s', -, heq⟩ := List.mem_map.mp hpath'
    exact hne (slotSysctlPath_inj heq).symm
  | routeTable t =>
    obtain ⟨slot, hslot, rfl⟩ := h
    obtain ⟨slot', hslot', heq⟩ := h'
    exact hne (table_inj hg hg' hslot hslot' heq).1
  | fwmark selector =>
    obtain ⟨slot, hslot, rfl⟩ := h
    obtain ⟨slot', hslot', heq⟩ := h'
    exact hne (fwmark_inj hg hg' hslot hslot' heq).1
  | nftTable t => exact hne (nftTable_inj (h.symm.trans h'))

theorem inByte_of_linkID (h : 1 ≤ g ∧ g ≤ maxLinkID) : InByte g := by
  have hlow := Int64.le_iff_toInt_le.mp h.1
  have hhigh := Int64.le_iff_toInt_le.mp h.2
  have hone : (1 : Int64).toInt = 1 := by decide
  have hmax : maxLinkID.toInt = 250 := by decide
  rw [hone] at hlow
  rw [hmax] at hhigh
  constructor
  · rw [Int64.le_iff_toInt_le, show (0 : Int64).toInt = 0 by decide]
    omega
  · rw [Int64.lt_iff_toInt_lt, show (256 : Int64).toInt = 256 by decide]
    omega

end

/-! ## Replicas -/

/-- What a replica does to the node: a pass, or a re-assert of the sysctls. -/
inductive ReplicaCall where
  | call (c : Call)
  | reassert (rc : RuntimeConfig)

def ReplicaCall.Accepted (g : Int64) : ReplicaCall → Prop
  | .call c => c.Accepted g
  | .reassert rc => Link.Accepted g rc

section

variable {σ : Type}

def Process.act (run : Runner Command σ) (read : String → σ → SysctlRead) (p : Process σ) :
    ReplicaCall → Process σ
  | .call c => (p.call run c).1
  | .reassert rc => { p with host := (reassertSlotSysctls run read rc p.host).2 }

theorem Process.act_own {run : Runner Command σ} {read : String → σ → SysctlRead} {g : Int64}
    {p : Process σ} (hd : p.dp.Of g) {a : ReplicaCall} (ha : a.Accepted g) :
    ∃ evs, Trace run p.host evs (p.act run read a).host ∧
      (∀ ev ∈ evs, Runs (OwnOp g) ev.command) ∧ (p.act run read a).dp.Of g := by
  cases a with
  | call c => exact Process.call_own run hd ha
  | reassert rc =>
    obtain ⟨evs, htrace, hevs⟩ := reassertSlotSysctls_own ha p.host
    exact ⟨evs, htrace, hevs, hd⟩

theorem Process.acts_own (run : Runner Command σ) (read : String → σ → SysctlRead) {g : Int64}
    {acts : List ReplicaCall} (hacts : ∀ a ∈ acts, a.Accepted g) :
    ∀ {p : Process σ}, p.dp.Of g →
      ∃ evs, Trace run p.host evs (acts.foldl (Process.act run read) p).host ∧
        ∀ ev ∈ evs, Runs (OwnOp g) ev.command := by
  induction acts with
  | nil => intro p _; exact ⟨[], .nil _, fun _ hev => absurd hev List.not_mem_nil⟩
  | cons a acts ih =>
    intro p hd
    obtain ⟨xs, hxs, hown, hd'⟩ := Process.act_own hd (hacts a List.mem_cons_self)
    obtain ⟨ys, hys, hown'⟩ := ih (fun a ha => hacts a (List.mem_cons_of_mem _ ha)) hd'
    exact ⟨xs ++ ys, hxs.append hys, List.forall_mem_append.mpr ⟨hown, hown'⟩⟩

/-- A run of a replica of the Gateway: the node it runs on, the link names it found at start, and
what it does, with accepted configs. -/
structure Replica (g : Int64) (σ : Type) where
  run : Runner Command σ
  read : String → σ → SysctlRead
  host : σ
  names : List String
  rc : RuntimeConfig
  accepted : Accepted g rc
  acts : List ReplicaCall
  acts_accepted : ∀ a ∈ acts, a.Accepted g

namespace Replica

variable {g : Int64} (r : Replica g σ)

/-- The process at its start. -/
def start : Process (Logged Command σ) :=
  { dp := startDataPlane r.rc r.names, host := { host := r.host, log := [] } }

/-- The commands of the run. -/
def commands : List Command :=
  (r.acts.foldl (Process.act r.run.logged fun path s => r.read path s.host)
    r.start).host.log.map (·.command)

theorem commands_own : ∀ c ∈ r.commands, Runs (OwnOp g) c := by
  intro c hc
  obtain ⟨ev, hev, rfl⟩ := List.mem_map.mp hc
  have hstart : r.start.dp.Of g := startDataPlane_of r.accepted r.names
  obtain ⟨evs, htrace, hown⟩ := Process.acts_own r.run.logged (fun path s => r.read path s.host)
    r.acts_accepted hstart
  rw [htrace.log] at hev
  exact hown ev hev

end Replica

end

/-- What a command names. -/
def Command.resources (c : Command) : List Resource := (c.op?.map Op.resources).getD []

theorem owned_of_runs {g : Int64} {c : Command} (h : Runs (OwnOp g) c) :
    ∀ r ∈ c.resources, OwnedBy g r := by
  obtain ⟨op, hop, hown⟩ := h
  unfold Command.resources
  rw [hop]
  exact own_resources hown

/-- **Gateways do not touch each other.** For two link ids and any run of a replica of each: every
command is an operation of the model, no two commands of the two runs name a common interface,
sysctl path, route table, selector or nft table, no mark satisfies a selector of each, every
interface name fits the kernel's limit, and whatever links the node has, discovery for the one id
finds the slots of its own interfaces, and none where all are the other's. -/
theorem gateways_disjoint {σ σ' : Type} {g g' : Int64} (hg : 1 ≤ g ∧ g ≤ maxLinkID)
    (hg' : 1 ≤ g' ∧ g' ≤ maxLinkID) (hne : g ≠ g') (r : Replica g σ) (r' : Replica g' σ')
    (nodeNames : List String) :
    (∀ c ∈ r.commands, c.op?.isSome ∧
      (∀ i, .interface i ∈ c.resources → i.length ≤ 15) ∧
      ∀ c' ∈ r'.commands, (∀ x ∈ c.resources, x ∉ c'.resources) ∧
        ∀ selector selector', .fwmark selector ∈ c.resources → .fwmark selector' ∈ c'.resources →
          ∀ mark, ¬ (Selects selector mark ∧ Selects selector' mark)) ∧
    (∀ slot ∈ inheritedSlots nodeNames g, (newSlotIdentity g slot).interface ∈ nodeNames ∧
      ∀ slot', (newSlotIdentity g slot).interface ≠ (newSlotIdentity g' slot').interface) ∧
    ((∀ name ∈ nodeNames, ∃ slot', name = (newSlotIdentity g' slot').interface) →
      inheritedSlots nodeNames g = []) := by
  have hbyte := inByte_of_linkID hg
  have hbyte' := inByte_of_linkID hg'
  have hforeign : ∀ slot slot', (newSlotIdentity g slot).interface ≠
    (newSlotIdentity g' slot').interface :=
    fun slot slot' heq => hne (interface_inj heq).1
  refine ⟨?_, fun slot hslot => ⟨(mem_inheritedSlots.mp hslot).2, hforeign slot⟩, fun hall => ?_⟩
  · intro c hc
    have hown := r.commands_own c hc
    refine ⟨?_, ?_, fun c' hc' => ⟨?_, ?_⟩⟩
    · obtain ⟨op, hop, -⟩ := hown
      rw [hop]
      rfl
    · intro i hi
      obtain ⟨slot, hslot, rfl⟩ := owned_of_runs hown _ hi
      exact (interface_length hbyte hslot).trans (by decide)
    · intro x hx hx'
      exact ownedBy_disjoint hbyte hbyte' hne (owned_of_runs hown x hx)
        (owned_of_runs (r'.commands_own c' hc') x hx')
    · intro selector selector' hs hs' mark hmark
      obtain ⟨slot, hslot, rfl⟩ := owned_of_runs hown _ hs
      obtain ⟨slot', hslot', rfl⟩ := owned_of_runs (r'.commands_own c' hc') _ hs'
      exact selectors_disjoint hbyte hbyte' hne hslot hslot' hmark.1 hmark.2
  · refine List.eq_nil_iff_forall_not_mem.mpr fun slot hslot => ?_
    obtain ⟨slot', hslot'⟩ := hall _ (mem_inheritedSlots.mp hslot).2
    exact hforeign slot slot' hslot'

/-- A replica that finds a slot of an earlier process, applies, re-asserts and steps down. -/
def sampleReplica (id : Int64) (h : validate (memberConfig id) = .ok (memberConfig id)) :
    Replica id (List (Option String)) where
  run := scripted
  read := fun _ _ => .value 2
  host := []
  names := [(newSlotIdentity id 3).interface]
  rc := memberConfig id
  accepted := ⟨rfl, _, h⟩
  acts := [.call (.applyPass (memberConfig id) sampleEnv [sharedForward]),
    .reassert (memberConfig id), .call .stepDown]
  acts_accepted := by
    have haccepted : Accepted id (memberConfig id) := ⟨rfl, _, h⟩
    simp [ReplicaCall.Accepted, Call.Accepted, haccepted]

theorem gateways_disjoint_sample :
    let r := sampleReplica 7 (by decide +kernel)
    let r' := sampleReplica 8 (by decide +kernel)
    r.commands.length = 20 ∧
    (∀ c ∈ r.commands, ∀ c' ∈ r'.commands, ∀ x ∈ c.resources, x ∉ c'.resources) ∧
    inheritedSlots ["wg-gw8", "wg-gw8-3"] 7 = [] := by
  have hall := gateways_disjoint (by decide) (by decide) (by decide)
    (sampleReplica 7 (by decide +kernel)) (sampleReplica 8 (by decide +kernel))
      ["wg-gw8", "wg-gw8-3"]
  refine ⟨by decide +kernel, fun c hc c' hc' => ((hall.1 c hc).2.2 c' hc').1,
    hall.2.2 fun name hname => ?_⟩
  rcases List.mem_pair.mp hname with rfl | rfl
  · exact ⟨0, by decide +kernel⟩
  · exact ⟨3, by decide +kernel⟩

end WireguardGateway.Link

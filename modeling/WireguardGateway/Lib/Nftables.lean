import Mathlib.Data.BitVec
import WireguardGateway.Lib.Numeral

/-!
# nftables

The part of the nftables language (nft(8)) with which a router marks, translates and filters, as a
syntax with its text and its meaning on packets.

A rule is read from left to right: a match that fails ends it, a statement acts on the packet or on
its connection, and a verdict ends the chain. A chain in which no rule gave a verdict applies its
policy. The base chains of a hook run one after another, in the order of their priorities; one that
drops the packet ends the hook, one that accepts it hands it to the next.

In a table of the family `inet`, matches on an IPv4 address fail for other packets, and `dnat ip`
does nothing to them. A chain of type `nat` is asked for the first packet of a connection. Constants
of marks are read from their text, as `nft` reads them; `and` binds tighter than `or`.

Results:
* `RuleSpec.filter`: the specification of a rule that ends in a verdict;
* **`runRules_spec`**: a specification of every rule is one of the chain,
  whatever the order of the rules;
* `NftChain.run_spec`, `NftChain.run_verdict`: a verdict of the chain is one of its rules, unless it
  is the policy, to which the chain does not come if one rule always gives a verdict;
* `setBits_masked`: writing the bits under a mask writes these and keeps the others.
-/

namespace WireguardGateway.Lib

/-! ## Packets -/

/-- What the rules read and write of a packet. -/
structure NetPacket where
  iif : Option String
  oif : Option String := none
  ipv4 : Bool
  source : String
  destination : String
  protocol : String
  sport : Int
  dport : Int
  syn : Bool
  mark : BitVec 32
  deriving DecidableEq, Repr

/-- The states of `ct state`. -/
inductive CtState
  | new
  | established
  | related
  | invalid
  | untracked
  deriving DecidableEq, Repr

/-- The connection of a packet: its state, whether the packet goes in its
reply direction, its mark. -/
structure NetConn where
  state : CtState
  reply : Bool
  mark : BitVec 32
  deriving DecidableEq, Repr

/-- A packet at a hook. -/
structure NetState where
  packet : NetPacket
  conn : NetConn
  deriving DecidableEq, Repr

/-- The verdicts that end a chain. -/
inductive NftVerdict
  | accept
  | drop
  deriving DecidableEq, Repr

/-- A constant of a mark. -/
def markConstant (text : String) : BitVec 32 := BitVec.ofNat 32 ((parseHex text).getD 0)

/-- The bits of `value`, and outside of them what `keep` keeps of `x`. -/
def setBits (keep value x : BitVec 32) : BitVec 32 := x &&& keep ||| value

/-! ## Rules -/

/-- The matches. -/
inductive NftMatch
  | iifname (name : String)
  | iif (name : String)
  | oifname (name : String)
  | notOifname (name : String)
  | saddr (address : String)
  | daddr (address : String)
  | dport (protocol : String) (port : Int)
  | syn
  | ctState (states : List CtState)
  | ctReply
  | ctMark (mask value : String)
  deriving DecidableEq, Repr

/-- The statements. -/
inductive NftStatement
  | counter
  | clampMSS
  | setCtMark (keep value : String)
  | setMark (keep value : String)
  | dnat (address : String) (port : Int)
  | masquerade
  | verdict (v : NftVerdict)
  deriving DecidableEq, Repr

/-- An item of a rule. -/
inductive NftItem
  | on (m : NftMatch)
  | run (st : NftStatement)
  deriving DecidableEq, Repr

/-- Matches and statements, from left to right. -/
abbrev NftRule : Type := List NftItem

def CtState.text : CtState → String
  | .new => "new"
  | .established => "established"
  | .related => "related"
  | .invalid => "invalid"
  | .untracked => "untracked"

def NftVerdict.text : NftVerdict → String
  | .accept => "accept"
  | .drop => "drop"

/-- A match as `nft` reads it. -/
def NftMatch.text : NftMatch → String
  | .iifname name => "iifname \"" ++ name ++ "\""
  | .iif name => "iif \"" ++ name ++ "\""
  | .oifname name => "oifname \"" ++ name ++ "\""
  | .notOifname name => "oifname != \"" ++ name ++ "\""
  | .saddr address => "ip saddr " ++ address
  | .daddr address => "ip daddr " ++ address
  | .dport protocol port => protocol ++ " dport " ++ toString port
  | .syn => "tcp flags syn"
  | .ctState states => "ct state " ++ join "," (states.map CtState.text)
  | .ctReply => "ct direction reply"
  | .ctMark mask value => "ct mark and " ++ mask ++ " == " ++ value

/-- A statement as `nft` reads it. -/
def NftStatement.text : NftStatement → String
  | .counter => "counter"
  | .clampMSS => "tcp option maxseg size set rt mtu"
  | .setCtMark keep value => "ct mark set ct mark and " ++ keep ++ " or " ++ value
  | .setMark keep value => "meta mark set meta mark and " ++ keep ++ " or " ++ value
  | .dnat address port => "dnat ip to " ++ address ++ " : " ++ toString port
  | .masquerade => "masquerade"
  | .verdict v => v.text

def NftItem.text : NftItem → String
  | .on m => m.text
  | .run st => st.text

/-- The line of a rule. -/
def NftRule.text (r : NftRule) : String := join " " (r.map NftItem.text)

/-- Whether the packet matches. -/
def NftMatch.holds (s : NetState) : NftMatch → Bool
  | .iifname name | .iif name => s.packet.iif == some name
  | .oifname name => s.packet.oif == some name
  | .notOifname name => s.packet.oif != some name
  | .saddr address => s.packet.ipv4 && s.packet.source == address
  | .daddr address => s.packet.ipv4 && s.packet.destination == address
  | .dport protocol port => s.packet.protocol == protocol && s.packet.dport == port
  | .syn => s.packet.protocol == "tcp" && s.packet.syn
  | .ctState states => states.contains s.conn.state
  | .ctReply => s.conn.reply
  | .ctMark mask value => s.conn.mark &&& markConstant mask == markConstant value

namespace NetState

/-- `meta mark set`. -/
def setMark (s : NetState) (mark : BitVec 32) : NetState :=
  { s with packet := { s.packet with mark := mark } }

/-- `ct mark set`. -/
def setCtMark (s : NetState) (mark : BitVec 32) : NetState :=
  { s with conn := { s.conn with mark := mark } }

/-- The packet was routed to leave through the interface. -/
def routed (s : NetState) (oif : String) : NetState :=
  { s with packet := { s.packet with oif := some oif } }

/-- `dnat`. -/
def redirect (s : NetState) (address : String) (port : Int) : NetState :=
  { s with packet := { s.packet with destination := address, dport := port } }

end NetState

/-- What a statement does. `masquerade` rewrites the source, and `clampMSS` an option of the header,
which no later match of these rules reads. -/
def NftStatement.exec (s : NetState) : NftStatement → NetState × Option NftVerdict
  | .counter | .clampMSS => (s, none)
  | .setCtMark keep value =>
    (s.setCtMark (setBits (markConstant keep) (markConstant value) s.conn.mark), none)
  | .setMark keep value =>
    (s.setMark (setBits (markConstant keep) (markConstant value) s.packet.mark), none)
  | .dnat address port =>
    if s.packet.ipv4 then (s.redirect address port, some .accept) else (s, none)
  | .masquerade => (s, some .accept)
  | .verdict v => (s, some v)

/-- A rule: a match that fails ends it, and so does a verdict. -/
def runRule : NftRule → NetState → NetState × Option NftVerdict
  | [], s => (s, none)
  | .on m :: rest, s => if m.holds s then runRule rest s else (s, none)
  | .run st :: rest, s =>
    match st.exec s with
    | (s', some v) => (s', some v)
    | (s', none) => runRule rest s'

/-- The rules of a chain, up to the first verdict. -/
def runRules : List NftRule → NetState → NetState × Option NftVerdict
  | [], s => (s, none)
  | r :: rs, s =>
    match runRule r s with
    | (s', some v) => (s', some v)
    | (s', none) => runRules rs s'

/-! ## Chains -/

/-- The type of a base chain. -/
inductive NftKind
  | filter
  | nat
  deriving DecidableEq, Repr

/-- The hooks of `inet`. -/
inductive NftHook
  | prerouting
  | input
  | forward
  | output
  | postrouting
  deriving DecidableEq, Repr

/-- A base chain. -/
structure NftChain where
  name : String
  kind : NftKind
  hook : NftHook
  priority : String
  policy : NftVerdict
  rules : List NftRule
  deriving DecidableEq, Repr

def NftKind.text : NftKind → String
  | .filter => "filter"
  | .nat => "nat"

def NftHook.text : NftHook → String
  | .prerouting => "prerouting"
  | .input => "input"
  | .forward => "forward"
  | .output => "output"
  | .postrouting => "postrouting"

/-- The line that hooks the chain. -/
def NftChain.head (c : NftChain) : String :=
  "type " ++ c.kind.text ++ " hook " ++ c.hook.text ++ " priority " ++ c.priority ++ "; policy " ++
    c.policy.text ++ ";"

/-- The block of a chain. -/
def NftChain.text (c : NftChain) : String :=
  "\tchain " ++ c.name ++ " \x7b\n\t\t" ++ c.head ++
    String.join (c.rules.map fun r => "\n\t\t" ++ r.text) ++ "\n\t\x7d"

/-- A chain: the verdict of its rules, or its policy. -/
def NftChain.run (c : NftChain) (s : NetState) : NetState × NftVerdict :=
  ((runRules c.rules s).1, (runRules c.rules s).2.getD c.policy)

/-- Base chains, one after another. -/
def runChains : List NftChain → NetState → NetState × NftVerdict
  | [], s => (s, .accept)
  | c :: cs, s => if (c.run s).2 = .drop then c.run s else runChains cs (c.run s).1

/-- A hook; the chains stand in the order of their priorities. -/
def runHook (hook : NftHook) (chains : List NftChain) (s : NetState) : NetState × NftVerdict :=
  runChains (chains.filter fun c => c.hook = hook) s

theorem runRules_append {rs : List NftRule} {s s' : NetState} (h : runRules rs s = (s', none))
    (rs' : List NftRule) : runRules (rs ++ rs') s = runRules rs' s' := by
  induction rs generalizing s with
  | nil =>
    cases h
    rfl
  | cons r rs ih =>
    rw [runRules] at h
    rw [List.cons_append, runRules]
    rcases hrun : runRule r s with ⟨s₁, _ | v⟩
    · rw [hrun] at h
      exact ih h
    · rw [hrun] at h
      cases h

/-! ## Specifications of rules -/

/-- Matches first: all of them hold, or the rule does nothing. -/
theorem runRule_guard (ms : List NftMatch) (rest : NftRule) (s : NetState) :
    runRule (ms.map .on ++ rest) s = if ms.all (·.holds s) then runRule rest s else (s, none) := by
  induction ms with
  | nil => simp
  | cons m ms ih =>
    rw [List.map_cons, List.cons_append, runRule, ih]
    by_cases hm : m.holds s = true <;> simp [hm]

section

variable {P : NetState → Prop} {Q : NetState → NftVerdict → Prop} {r : NftRule} {rs : List NftRule}
  {s : NetState}

/-- The rule leaves a state with `P` in one with `P`, or gives a verdict with `Q`. -/
def RuleSpec (P : NetState → Prop) (Q : NetState → NftVerdict → Prop) (r : NftRule) : Prop :=
  ∀ s, P s → (∀ s', runRule r s = (s', none) → P s') ∧ ∀ s' v, runRule r s = (s', some v) → Q s' v

/-- A rule whose statements keep the state, and have the verdict if there is one. -/
theorem RuleSpec.guarded (ms : List NftMatch) {rest : NftRule} {o : Option NftVerdict}
    (hrest : ∀ s, runRule rest s = (s, o))
    (h : ∀ s, P s → (∀ m ∈ ms, m.holds s = true) → ∀ v, o = some v → Q s v) :
    RuleSpec P Q (ms.map .on ++ rest) := by
  intro s hs
  rw [runRule_guard, hrest]
  split_ifs with hall
  · refine ⟨fun s' h' => (Prod.mk.inj h').1 ▸ hs, fun s' v h' => ?_⟩
    obtain ⟨rfl, hv⟩ := Prod.mk.inj h'
    exact h s hs (List.all_eq_true.mp hall) v hv
  · exact ⟨fun s' h' => (Prod.mk.inj h').1 ▸ hs, fun s' v h' => (nomatch (Prod.mk.inj h').2)⟩

/-- A rule that ends in a verdict, counted or not. -/
theorem RuleSpec.filter (ms : List NftMatch) {v : NftVerdict}
    (h : ∀ s, P s → (∀ m ∈ ms, m.holds s = true) → Q s v) :
    RuleSpec P Q (ms.map .on ++ [.run .counter, .run (.verdict v)]) ∧
      RuleSpec P Q (ms.map .on ++ [.run (.verdict v)]) := by
  constructor <;>
    exact .guarded ms (fun _ => rfl) fun s hs hall _ hv => Option.some_inj.mp hv ▸ h s hs hall

/-- A rule that only clamps, counted or not. -/
theorem RuleSpec.clamp (ms : List NftMatch) :
    RuleSpec P Q (ms.map .on ++ [.run .counter, .run .clampMSS]) ∧
      RuleSpec P Q (ms.map .on ++ [.run .clampMSS]) := by
  constructor <;> exact .guarded ms (fun _ => rfl) fun _ _ _ _ hv => (nomatch hv)

/-- A counted rule that acts without a verdict. -/
theorem runRule_effect (ms : List NftMatch) {st : NftStatement} {act : NetState → NetState}
    (hact : ∀ s, st.exec s = (act s, none)) (s : NetState) :
    runRule (ms.map .on ++ [.run .counter, .run st]) s =
      (if ms.all (·.holds s) then act s else s, none) := by
  have htail : runRule [.run .counter, .run st] s = (act s, none) := by
    show runRule [.run st] s = _
    rw [runRule, hact]
    rfl
  rw [runRule_guard, htail]
  split_ifs <;> rfl

theorem RuleSpec.effect (ms : List NftMatch) {st : NftStatement} {act : NetState → NetState}
    (hact : ∀ s, st.exec s = (act s, none))
    (h : ∀ s, P s → (∀ m ∈ ms, m.holds s = true) → P (act s)) :
    RuleSpec P Q (ms.map .on ++ [.run .counter, .run st]) := by
  intro s hs
  rw [runRule_effect ms hact]
  refine ⟨fun s' h' => ?_, fun s' v' h' => (nomatch h')⟩
  cases h'
  by_cases hall : ms.all (·.holds s) = true
  · rw [if_pos hall]
    exact h s hs (List.all_eq_true.mp hall)
  · rw [if_neg hall]
    exact hs

/-- **The rules of a chain**, in any order. -/
theorem runRules_spec (hspec : ∀ r ∈ rs, RuleSpec P Q r) (hs : P s) :
    (∀ s', runRules rs s = (s', none) → P s') ∧
      ∀ s' v, runRules rs s = (s', some v) → Q s' v := by
  induction rs generalizing s with
  | nil =>
    refine ⟨fun s' h => ?_, fun s' v h => ?_⟩
    · cases h
      exact hs
    · cases h
  | cons r rs ih =>
    obtain ⟨hnone, hsome⟩ := hspec r List.mem_cons_self s hs
    unfold runRules
    rcases hrun : runRule r s with ⟨s₁, _ | v₁⟩
    · exact ih (fun r' hr' => hspec r' (List.mem_cons_of_mem r hr')) (hnone s₁ hrun)
    · refine ⟨fun s' h => ?_, fun s' v h => ?_⟩
      · cases h
      · cases h
        exact hsome s₁ v₁ hrun

/-- If the chain gives no verdict, then neither does any of its rules, somewhere in `P`. -/
theorem runRules_none (hspec : ∀ r ∈ rs, RuleSpec P Q r) (hs : P s)
    (hnone : (runRules rs s).2 = none) : ∀ r ∈ rs, ∃ s', P s' ∧ (runRule r s').2 = none := by
  induction rs generalizing s with
  | nil => exact fun r hr => absurd hr List.not_mem_nil
  | cons r rs ih =>
    intro r' hr'
    have hkeep := (hspec r List.mem_cons_self s hs).1
    unfold runRules at hnone
    rcases hrun : runRule r s with ⟨s₁, _ | v₁⟩
    · rw [hrun] at hnone
      rcases List.mem_cons.mp hr' with rfl | htail
      · exact ⟨s, hs, by rw [hrun]⟩
      · exact ih (fun r'' hr'' => hspec r'' (List.mem_cons_of_mem r hr''))
          (hkeep s₁ hrun) hnone r' htail
    · rw [hrun] at hnone
      cases hnone

/-- A verdict of the chain other than its policy is one of its rules. -/
theorem NftChain.run_spec {c : NftChain} (hspec : ∀ r ∈ c.rules, RuleSpec P Q r) (hs : P s)
    (hne : (c.run s).2 ≠ c.policy) : Q (c.run s).1 (c.run s).2 := by
  unfold NftChain.run at hne ⊢
  rcases hrun : runRules c.rules s with ⟨s', _ | v⟩
  · rw [hrun] at hne
    exact absurd rfl hne
  · exact (runRules_spec hspec hs).2 s' v hrun

/-- With one rule that always gives a verdict, the chain never comes to its policy. -/
theorem NftChain.run_verdict {c : NftChain} (hspec : ∀ r ∈ c.rules, RuleSpec P Q r) (hs : P s)
    (hr : r ∈ c.rules) (hstop : ∀ s', P s' → (runRule r s').2 ≠ none) :
    Q (c.run s).1 (c.run s).2 := by
  unfold NftChain.run
  rcases hrun : runRules c.rules s with ⟨s', _ | v⟩
  · obtain ⟨s₁, hs₁, hnone⟩ := runRules_none hspec hs (by rw [hrun]) r hr
    exact absurd hnone (hstop s₁ hs₁)
  · exact (runRules_spec hspec hs).2 s' v hrun

end

/-! ## Hooks with one chain -/

theorem runChains_single (c : NftChain) (s : NetState) : runChains [c] s = c.run s := by
  unfold runChains
  split_ifs with hdrop
  · rfl
  · refine Prod.ext rfl ?_
    show NftVerdict.accept = (c.run s).2
    cases hv : (c.run s).2
    · rfl
    · exact absurd hv hdrop

/-! ## Bits of marks -/

section

variable {mask value x : BitVec 32}

theorem getLsbD_within (hvalue : value &&& mask = value) {i : Nat} (hi : value.getLsbD i = true) :
    mask.getLsbD i = true := by
  rw [← hvalue, BitVec.getLsbD_and, Bool.and_eq_true] at hi
  exact hi.2

/-- Under the mask, the bits are those written; outside of it, they are as they were. -/
theorem setBits_masked (hvalue : value &&& mask = value) (x : BitVec 32) :
    setBits (~~~mask) value x &&& mask = value ∧
      setBits (~~~mask) value x &&& ~~~mask = x &&& ~~~mask := by
  constructor <;>
  · apply BitVec.eq_of_getLsbD_eq
    intro i hi
    have hwithin := getLsbD_within hvalue (i := i)
    simp only [setBits, BitVec.getLsbD_and, BitVec.getLsbD_or, BitVec.getLsbD_not, hi, decide_true,
      Bool.true_and]
    revert hwithin
    cases value.getLsbD i <;> cases mask.getLsbD i <;> cases x.getLsbD i <;> simp

end

end WireguardGateway.Lib

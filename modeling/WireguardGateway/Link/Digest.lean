import WireguardGateway.Lib.Framing
import WireguardGateway.Link.Apply
import WireguardGateway.Link.Endpoints

/-!
# The digests of the reload loop

`configDigest` and `rulesetDigest` (`internal/link/reconcile.go:211-231`): the sha256 of the
config's JSON, and of the ruleset's text followed by the names and reasons of the
unsatisfied forwards. With sha256 free of collisions, equal digests mean equal configs and,
for one config, equal rulesets.

The second needs an argument. The digest hashes a plain concatenation, and nothing keeps a NUL out
of a name or of a responder's address. But the ruleset's own text shows where the forwards' rules
end, so two rulesets of one config that agree up to what is appended to them have the same rules.

Results:
* `configDigest_inj`;
* `dnatLines_framed`: a forward's rule can be read off the front of a text;
* **`rulesetDigest_inj`**.
-/

namespace WireguardGateway.Link

open Lib
open Controller (RuntimeConfig LinkForward)

/-- sha256, written in hexadecimal, taken to be free of collisions. -/
structure Sha256 where
  hex : String → String
  injective : Function.Injective hex
  ne_empty : ∀ data, hex data ≠ ""

/-- `configDigest`. -/
def configDigest (sha : Sha256) (rc : RuntimeConfig) : String := sha.hex rc.toJson.marshal

/-- What `rulesetDigest` appends to the ruleset. -/
def unsatisfiedText (unsatisfied : List UnsatisfiedForward) : String :=
  String.join (unsatisfied.map fun u => "\x00" ++ u.name ++ "\x00" ++ u.reason)

/-- `rulesetDigest`. -/
def rulesetDigest (sha : Sha256) (ruleset : String) (unsatisfied : List UnsatisfiedForward) :
    String :=
  sha.hex (ruleset ++ unsatisfiedText unsatisfied)

theorem configDigest_inj {sha : Sha256} {rc rc' : RuntimeConfig}
    (h : configDigest sha rc = configDigest sha rc') : rc = rc' := by
  have hjson : (Json.unmarshal rc.toJson.marshal).bind RuntimeConfig.ofJson =
      (Json.unmarshal rc'.toJson.marshal).bind RuntimeConfig.ofJson := by
    rw [sha.injective h]
  rw [Json.unmarshal_marshal, Json.unmarshal_marshal, Option.bind_some, Option.bind_some,
    RuntimeConfig.ofJson_toJson, RuntimeConfig.ofJson_toJson] at hjson
  exact Option.some.inj hjson

theorem unsatisfiedText_eq_empty {unsatisfied : List UnsatisfiedForward} :
    unsatisfiedText unsatisfied = "" ↔ unsatisfied = [] := by
  cases unsatisfied with
  | nil => simp [unsatisfiedText]
  | cons u us =>
    refine ⟨fun h => ?_, fun h => nomatch h⟩
    have hlist := congrArg String.toList h
    simp [unsatisfiedText, String.join_cons] at hlist

/-! ## Rules -/

/-- A forward of a snapshot: its protocol was validated, and its target is an address. -/
structure Plain (f : ResolvedForward) : Prop where
  protocol : f.protocol = "tcp" ∨ f.protocol = "udp"
  target : ' ' ∉ f.target.toList

/-- A DNAT rule as it stands in its chain. -/
def dnatLine (d : Dnat) : List Char := '\n' :: '\t' :: '\t' :: d.text.toList

/-- What a forward's rule starts with, for a given match. -/
def dnatOpening (on : Match) : List Char := '\n' :: '\t' :: '\t' :: (on.text.toList ++ [' '])

theorem dnatLine_forward (on : Match) (f : ResolvedForward) :
    dnatLine (f.dnat on true) = dnatOpening on ++ (f.protocol.toList ++ (" dport ".toList ++
      ((decimal f.publicPort).toList ++ ' ' :: ("counter dnat ip to ".toList ++
        (f.target.toList ++ ' ' :: (": ".toList ++ (decimal f.targetPort).toList)))))) := by
  simp [dnatLine, dnatOpening, Dnat.text, ResolvedForward.dnat]

/-- **A forward's rule** can be read off the front of a text that does not go on with a digit. -/
theorem dnatLines_framed (on : Match) :
    Framed (fun f => dnatLine (f.dnat on true)) tupleOf Plain NoDigit := by
  intro f g xs ys hf hg hxs hys h
  simp only [dnatLine_forward, List.append_assoc, List.cons_append] at h
  replace h := List.append_cancel_left h
  have hprotocol : f.protocol = g.protocol := by
    rcases hf.protocol with hp | hp <;> rcases hg.protocol with hq | hq <;> rw [hp, hq] at h ⊢ <;>
      simp at h
  rw [hprotocol] at h
  replace h := List.append_cancel_left (List.append_cancel_left h)
  obtain ⟨hport, h⟩ := decimal_append_inj (noDigit_cons (by decide)) (noDigit_cons (by decide)) h
  replace h := List.append_cancel_left (List.cons.inj h).2
  obtain ⟨htarget, h⟩ := append_sep_inj hf.target hg.target h
  replace h := List.append_cancel_left h
  obtain ⟨htargetPort, h⟩ := decimal_append_inj hxs hys h
  refine ⟨?_, h⟩
  unfold tupleOf
  rw [hprotocol, Int64.toInt_inj.mp hport, String.toList_inj.mp htarget,
    Int64.toInt_inj.mp htargetPort]

/-! ## Local rulesets -/

theorem join_cons {sep s : String} {l : List String} (h : l ≠ []) :
    join sep (s :: l) = s ++ sep ++ join sep l := by
  cases l with
  | nil => exact absurd rfl h
  | cons t l => rfl

/-- The rules of the prerouting chain. -/
def NftablesLocalData.dnats (d : NftablesLocalData) : List Dnat :=
  d.slots.flatMap d.slotDnats ++ d.hairpinDnats

/-- What stands before the rules of the prerouting chain. -/
def NftablesLocalData.head (d : NftablesLocalData) : String :=
  "add table inet " ++ d.table ++ "\nflush table inet " ++ d.table ++ "\ntable inet " ++ d.table ++
    " \x7b\n" ++ (d.chains.head (List.cons_ne_nil _ _)).text ++
    "\n\n\tchain prerouting \x7b\n\t\ttype nat hook prerouting priority dstnat; policy accept;"

/-- The chains after the prerouting chain. -/
def NftablesLocalData.rest (d : NftablesLocalData) : String :=
  "\n\n" ++ join "\n\n" ((d.chains.drop 2).map Chain.text) ++ "\n\x7d\n"

/-- **The text of a Local ruleset** around the rules of the prerouting chain. -/
theorem local_text (d : NftablesLocalData) :
    (Ruleset.local_ d).text.toList =
      d.head.toList ++ (d.dnats.flatMap dnatLine ++ '\n' :: '\t' :: '\x7d' :: d.rest.toList) := by
  obtain ⟨premark, rest, hchains, hrest⟩ : ∃ premark rest,
      d.chains = premark :: { name := "prerouting"
                              hook := "type nat hook prerouting priority dstnat; policy accept;"
                              rules := d.dnats.map .dnat } :: rest ∧ rest ≠ [] :=
    ⟨_, _, rfl, by simp⟩
  have hlines : (String.join ((d.dnats.map Rule.dnat).map fun r => "\n\t\t" ++ r.text)).toList =
      d.dnats.flatMap dnatLine := by
    rw [String.toList_join, List.flatMap_map, List.flatMap_map]
    exact List.flatMap_congr fun d _ => by simp [dnatLine, Rule.text]
  have hjoin : join "\n\n" (d.chains.map Chain.text) = premark.text ++ "\n\n" ++
      (Chain.text { name := "prerouting"
                    hook := "type nat hook prerouting priority dstnat; policy accept;"
                    rules := d.dnats.map .dnat } ++ "\n\n" ++
                      join "\n\n" (rest.map Chain.text)) := by
    rw [hchains, List.map_cons, List.map_cons, join_cons (List.cons_ne_nil _ _),
      join_cons (by simpa using hrest)]
  unfold Ruleset.text NftablesLocalData.head NftablesLocalData.rest
  rw [show (Ruleset.local_ d).chains = d.chains from rfl, hjoin]
  simp only [hchains, List.head_cons, List.drop_succ_cons, List.drop_zero, Chain.text,
    String.toList_append, hlines, List.append_assoc]
  simp [Ruleset.table]

/-! ## Reading the forwards back -/

/-- The forward without its name, which no rule shows. -/
def ResolvedForward.unnamed (f : ResolvedForward) : ResolvedForward := { f with name := "" }

variable {fs gs : List ResolvedForward} {d : NftablesLocalData}

theorem unnamed_of_tupleOf (h : fs.map tupleOf = gs.map tupleOf) :
    fs.map ResolvedForward.unnamed = gs.map ResolvedForward.unnamed := by
  have hunnamed : ResolvedForward.unnamed = (fun t : ForwardTuple =>
      { name := "", publicPort := t.publicPort, protocol := t.protocol, target := t.target,
        targetPort := t.targetPort : ResolvedForward }) ∘ tupleOf := rfl
  rw [hunnamed, ← List.map_map, ← List.map_map, h]

theorem local_text_unnamed (d : NftablesLocalData) :
    (Ruleset.local_ { d with forwards := d.forwards.map ResolvedForward.unnamed }).text =
      (Ruleset.local_ d).text := by
  generalize hunnamed : { d with forwards := d.forwards.map ResolvedForward.unnamed } = d'
  have hslotDnats : d'.slotDnats = d.slotDnats := by
    funext slot
    rw [← hunnamed]
    simp only [NftablesLocalData.slotDnats, List.map_map]
    rfl
  have hslotForward : d'.slotForward = d.slotForward := by
    funext slot
    rw [← hunnamed]
    simp only [NftablesLocalData.slotForward, List.map_map]
    rfl
  have hhairpin : d'.hairpinDnats = d.hairpinDnats := by
    rw [← hunnamed]
    simp only [NftablesLocalData.hairpinDnats, List.map_map]
    rfl
  have hhairpinChains : d'.hairpinChains = d.hairpinChains := by
    unfold NftablesLocalData.hairpinChains
    rw [hhairpin, ← hunnamed]
    simp only [List.map_map]
    rfl
  have hslots : d'.slots = d.slots := by rw [← hunnamed]
  have htable : d'.table = d.table := by rw [← hunnamed]
  have hchains : d'.chains = d.chains := by
    unfold NftablesLocalData.chains
    rw [hslotDnats, hslotForward, hhairpin, hhairpinChains, hslots]
  unfold Ruleset.text
  simp only [Ruleset.chains, Ruleset.table, hchains, htable]

/-- The tuples of the forwards determine the text. -/
theorem local_text_congr (h : fs.map tupleOf = gs.map tupleOf) :
    (Ruleset.local_ { d with forwards := fs }).text =
      (Ruleset.local_ { d with forwards := gs }).text := by
  rw [← local_text_unnamed { d with forwards := fs },
    ← local_text_unnamed { d with forwards := gs }]
  simp only [unnamed_of_tupleOf h]

theorem no_quote_decimal (n : Int) : '"' ∉ (toString n).toList := by
  cases n with
  | ofNat n =>
    rw [toList_toString_ofNat]
    exact not_mem_toDigits (by decide) n
  | negSucc n =>
    rw [toList_toString_negSucc, List.mem_cons, not_or]
    exact ⟨by decide, not_mem_toDigits (by decide) (n + 1)⟩

/-- A slot's interface has no quote in its name. -/
theorem no_quote_interface (g s : Int64) : '"' ∉ (newSlotIdentity g s).interface.toList := by
  have hsuffix : '"' ∉ slotSuffix s := by
    unfold slotSuffix
    split_ifs
    · rw [List.mem_cons, not_or]
      exact ⟨by decide, no_quote_decimal s.toInt⟩
    · exact List.not_mem_nil
  show '"' ∉ (interfaceName g s).toList
  rw [interfaceName_toList, List.mem_append, List.mem_append, not_or, not_or]
  exact ⟨by decide, no_quote_decimal g.toInt, hsuffix⟩

/-- No text starts both as a forward's rule for `on` and as the rule `d`. -/
def ApartFrom (on : Match) (d : Dnat) : Prop := ∀ xs, ¬ dnatOpening on <+: dnatLine d ++ xs

theorem dnatLine_starts (d : Dnat) : ∃ xs, dnatLine d = dnatOpening d.on ++ xs :=
  ⟨_, by simp [dnatLine, dnatOpening, Dnat.text]; rfl⟩

theorem apart_iifname {i j : String} (hi : '"' ∉ i.toList) (hj : '"' ∉ j.toList) (hne : i ≠ j)
    {d : Dnat} (hd : d.on = .iifname j) : ApartFrom (.iifname i) d := by
  rintro xs ⟨ys, h⟩
  obtain ⟨rest, hline⟩ := dnatLine_starts d
  rw [hline, hd] at h
  have hopening : ∀ k : String, dnatOpening (.iifname k) =
      "\n\t\tiifname \"".toList ++ (k.toList ++ '"' :: [' ']) := by
    intro k
    simp [dnatOpening, Match.text]
  rw [hopening, hopening] at h
  simp only [List.append_assoc, List.cons_append] at h
  exact hne (String.toList_inj.mp (append_sep_inj hi hj (List.append_cancel_left h)).1)

theorem apart_daddr {i address : String} {d : Dnat} (hd : d.on = .daddr address) :
    ApartFrom (.iifname i) d := by
  rintro xs ⟨ys, h⟩
  obtain ⟨rest, hline⟩ := dnatLine_starts d
  rw [hline, hd] at h
  simp [dnatOpening, Match.text] at h

/-- The end of the chain is no forward's rule, and neither are rules of other matches. -/
theorem not_opening {on : Match} {later : List Dnat} (h : ∀ d ∈ later, ApartFrom on d)
    (rest : List Char) :
    ¬ dnatOpening on <+: later.flatMap dnatLine ++ '\n' :: '\t' :: '\x7d' :: rest := by
  cases later with
  | nil =>
    rintro ⟨ys, h⟩
    simp [dnatOpening] at h
  | cons d later =>
    rw [List.flatMap_cons, List.append_assoc]
    exact h d List.mem_cons_self _

theorem noDigit_opening {on : Match} {xs : List Char} (h : dnatOpening on <+: xs) : NoDigit xs := by
  obtain ⟨ys, rfl⟩ := h
  exact noDigit_cons (by decide)

theorem noDigit_lines (ds : List Dnat) (rest : List Char) :
    NoDigit (ds.flatMap dnatLine ++ '\n' :: rest) := by
  cases ds with
  | nil | cons d ds => exact noDigit_cons (by decide)

theorem slotDnats_on {s : LocalSlotData} {x : Dnat} (hx : x ∈ d.slotDnats s) :
    x.on = .iifname s.interface := by
  unfold NftablesLocalData.slotDnats at hx
  rcases List.mem_append.mp hx with hx | hx
  · split_ifs at hx
    · rw [List.mem_singleton.mp hx]
    · cases hx
  · obtain ⟨f, -, rfl⟩ := List.mem_map.mp hx
    rfl

theorem hairpinDnats_on {x : Dnat} (hx : x ∈ d.hairpinDnats) :
    x.on = .daddr d.publicAddress := by
  unfold NftablesLocalData.hairpinDnats at hx
  split_ifs at hx
  · obtain ⟨f, -, rfl⟩ := List.mem_map.mp hx
    rfl
  · cases hx

/-- Where the forwards first stand in the prerouting chain, if anywhere. -/
theorem dnats_split (hslots : (d.slots.map (·.interface)).Nodup)
    (hquote : ∀ s ∈ d.slots, '"' ∉ s.interface.toList) :
    (d.slots = [] ∧ d.publicAddress = "") ∨
      ∃ before on, ∀ fs, ∃ later, NftablesLocalData.dnats { d with forwards := fs } =
        before ++ (fs.map fun f => f.dnat on true) ++ later ∧ ∀ x ∈ later, ApartFrom on x := by
  cases hd : d.slots with
  | nil =>
    by_cases haddress : d.publicAddress = ""
    · exact .inl ⟨rfl, haddress⟩
    · refine .inr ⟨[], .daddr d.publicAddress,
        fun fs => ⟨[], ?_, fun _ hx => absurd hx List.not_mem_nil⟩⟩
      simp [NftablesLocalData.dnats, NftablesLocalData.hairpinDnats, haddress]
  | cons s slots =>
    rw [hd] at hslots hquote
    rw [List.map_cons, List.nodup_cons] at hslots
    refine .inr ⟨NftablesLocalData.slotDnats { d with forwards := [] } s, .iifname s.interface,
      fun fs => ⟨slots.flatMap (NftablesLocalData.slotDnats { d with forwards := fs }) ++
        NftablesLocalData.hairpinDnats { d with forwards := fs }, ?_, ?_⟩⟩
    · simp [NftablesLocalData.dnats, NftablesLocalData.slotDnats, hd]
    · intro x hx
      rcases List.mem_append.mp hx with hx | hx
      · obtain ⟨t, ht, hx⟩ := List.mem_flatMap.mp hx
        refine apart_iifname (hquote s List.mem_cons_self) (hquote t (List.mem_cons_of_mem _ ht)) ?_
          (slotDnats_on hx)
        intro heq
        exact hslots.1 (heq ▸ List.mem_map_of_mem ht)
      · exact apart_daddr (hairpinDnats_on hx)

/-- The text does not show the forwards if there is no slot and no public address. -/
theorem local_text_of_unused (hslots : d.slots = []) (haddress : d.publicAddress = "")
    (fs gs : List ResolvedForward) :
    (Ruleset.local_ { d with forwards := fs }).text =
      (Ruleset.local_ { d with forwards := gs }).text := by
  unfold Ruleset.text
  simp [Ruleset.chains, Ruleset.table, NftablesLocalData.chains, NftablesLocalData.hairpinChains,
    NftablesLocalData.hairpinDnats, hslots, haddress]

/-- **Two rulesets that differ in their forwards only**, and agree up to what is appended to them,
are the same document. -/
theorem local_text_inj (hslots : (d.slots.map (·.interface)).Nodup)
    (hquote : ∀ s ∈ d.slots, '"' ∉ s.interface.toList) (hfs : ∀ f ∈ fs, Plain f)
    (hgs : ∀ g ∈ gs, Plain g) {x y : List Char}
    (h : (Ruleset.local_ { d with forwards := fs }).text.toList ++ x =
      (Ruleset.local_ { d with forwards := gs }).text.toList ++ y) :
    (Ruleset.local_ { d with forwards := fs }).text =
      (Ruleset.local_ { d with forwards := gs }).text := by
  rcases dnats_split hslots hquote with ⟨hnil, haddress⟩ | ⟨before, on, hsplit⟩
  · exact local_text_of_unused hnil haddress fs gs
  · obtain ⟨later, hdnats, hlater⟩ := hsplit fs
    obtain ⟨later', hdnats', hlater'⟩ := hsplit gs
    have hhead : NftablesLocalData.head { d with forwards := fs } =
        NftablesLocalData.head { d with forwards := gs } := rfl
    rw [local_text, local_text, hhead, hdnats, hdnats'] at h
    simp only [List.append_assoc, List.flatMap_append, List.flatMap_map, List.cons_append] at h
    replace h := List.append_cancel_left (List.append_cancel_left h)
    have hopening : ∀ f : ResolvedForward, dnatOpening on <+: dnatLine (f.dnat on true) := by
      intro f
      rw [dnatLine_forward]
      exact List.prefix_append _ _
    exact local_text_congr ((dnatLines_framed on).flatMap hopening
      (fun xs hxs => noDigit_opening hxs) hfs hgs (noDigit_lines later _) (noDigit_lines later' _)
      (not_opening hlater _) (not_opening hlater' _) h).1

/-! ## The digest of a ruleset -/

section

variable {rc : RuntimeConfig} {fs gs : List ResolvedForward} {nodeName : String}

/-- The same for the rulesets of a valid Local config. -/
theorem renderNftables_text_inj {raw : RuntimeConfig} (hvalid : validate raw = .ok rc)
    (hlocal : isLocal rc) (hfs : ∀ f ∈ fs, Plain f) (hgs : ∀ g ∈ gs, Plain g) {x y : String}
    (h : (renderNftables rc fs nodeName).text ++ x = (renderNftables rc gs nodeName).text ++ y) :
    (renderNftables rc fs nodeName).text = (renderNftables rc gs nodeName).text ∧ x = y := by
  have hchars := congrArg String.toList h
  rw [String.toList_append, String.toList_append] at hchars
  obtain ⟨identity, hidentity⟩ := Option.isSome_iff_exists.mp hlocal
  have htext : (renderNftables rc fs nodeName).text = (renderNftables rc gs nodeName).text := by
    rw [renderNftables_local hidentity, renderNftables_local hidentity] at hchars ⊢
    refine local_text_inj (d := localData rc identity [] nodeName) ?_ ?_ ?_ ?_ hchars
    · simp only [localData, List.map_map]
      refine List.Nodup.map_on ?_ (validate_peers hvalid).2.of_map
      intro p hp q hq heq
      exact List.inj_on_of_nodup_map (validate_peers hvalid).2 hp hq (interface_inj heq).2
    · intro slot hslot
      obtain ⟨p, -, rfl⟩ := List.mem_map.mp hslot
      exact no_quote_interface identity.id p.slot
    · exact fun f hf => hfs f (mem_sortForwards.mp hf)
    · exact fun g hg => hgs g (mem_sortForwards.mp hg)
  rw [htext] at hchars
  exact ⟨htext, String.toList_inj.mp (List.append_cancel_left hchars)⟩

/-- **Equal digests**, for one config, mean equal rulesets and equal unsatisfied forwards. -/
theorem rulesetDigest_inj {sha : Sha256} {raw : RuntimeConfig} (hvalid : validate raw = .ok rc)
    (hlocal : isLocal rc) (hfs : ∀ f ∈ fs, Plain f) (hgs : ∀ g ∈ gs, Plain g)
    {us vs : List UnsatisfiedForward}
    (h : rulesetDigest sha (renderNftables rc fs nodeName).text us =
      rulesetDigest sha (renderNftables rc gs nodeName).text vs) :
    (renderNftables rc fs nodeName).text = (renderNftables rc gs nodeName).text ∧
      (us = [] ↔ vs = []) := by
  obtain ⟨htext, hunsatisfied⟩ := renderNftables_text_inj hvalid hlocal hfs hgs (sha.injective h)
  refine ⟨htext, ?_⟩
  rw [← unsatisfiedText_eq_empty, ← unsatisfiedText_eq_empty, hunsatisfied]

end

end WireguardGateway.Link

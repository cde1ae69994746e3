import WireguardGateway.Lib.Nftables
import WireguardGateway.Link.Render

/-!
# A rendered ruleset as rules

The chains of a rendered ruleset in the language of `Lib/Nftables.lean` (`Ruleset.program`), rule by
rule as `nftables_cluster.tmpl` and `nftables_local.tmpl` have them.

Result: **`Ruleset.program_text`**, the document the templates write is the text of the program.
What is proved of the program is so proved of the document `nft` loads.
-/

namespace WireguardGateway.Link

open Lib
open Controller (RuntimeConfig)

/-! ## The rules -/

/-- The match of a DNAT rule. -/
def Match.nft : Match → NftMatch
  | .iifname i => .iifname i
  | .iif i => .iif i
  | .daddr a => .daddr a

/-- `dnat ip to` for the packets on a port. -/
def Dnat.rule (d : Dnat) : NftRule :=
  [.on d.on.nft, .on (.dport d.protocol d.dport.toInt)] ++
    (if d.counter then [.run .counter] else []) ++ [.run (.dnat d.target d.targetPort.toInt)]

/-- The rule that lets new packets from an interface through to an address and port. -/
def admitRule (interface target protocol : String) (port : Int64) : NftRule :=
  [.on (.iifname interface), .on (.daddr target), .on (.dport protocol port.toInt),
    .on (.ctState [.new]), .run .counter, .run (.verdict .accept)]

/-- The same in Cluster mode, where established flows were accepted before. -/
def clusterAdmitRule (interface target protocol : String) (port : Int64) : NftRule :=
  [.on (.iif interface), .on (.daddr target), .on (.dport protocol port.toInt),
    .run (.verdict .accept)]

namespace NftablesData

variable (d : NftablesData)

/-- Forwards first, then the probes. -/
def natChain : NftChain :=
  { name := "prerouting", kind := .nat, hook := .prerouting, priority := "dstnat", policy := .accept
    rules :=
      (d.forwards.map (fun f => f.dnat (.iif d.interface) false) ++ d.responder).map Dnat.rule }

/-- New packets pass to a target or to the responder. -/
def forwardChain : NftChain :=
  { name := "forward", kind := .filter, hook := .forward, priority := "filter", policy := .drop
    rules :=
      [[.on (.oifname d.interface), .on .syn, .run .clampMSS],
       [.on (.ctState [.established, .related]), .run (.verdict .accept)]] ++
      (d.forwards.map fun f => clusterAdmitRule d.interface f.target f.protocol f.targetPort) ++
      (if d.responderTarget ≠ "" then
         [clusterAdmitRule d.interface d.responderTarget "tcp" d.responderPort] else []) }

/-- Nothing out of the tunnel reaches the link itself. -/
def inputChain : NftChain :=
  { name := "input", kind := .filter, hook := .input, priority := "filter", policy := .accept
    rules := [[.on (.iif d.interface), .run (.verdict .drop)]] }

/-- `nftables_cluster.tmpl`. -/
def program : List NftChain :=
  [d.natChain,
   { name := "postrouting", kind := .nat, hook := .postrouting, priority := "srcnat",
     policy := .accept
     rules := [[.on (.notOifname d.interface), .run .masquerade]] },
   d.forwardChain, d.inputChain]

end NftablesData

/-- The marks of a slot: its new flows are marked, their replies carry the mark on. -/
def LocalSlotData.premarkRules (s : LocalSlotData) : List NftRule :=
  [[.on (.iifname s.interface), .on (.ctState [.new]), .run .counter,
    .run (.setCtMark s.keepMask s.mark)],
   [.on .ctReply, .on (.ctMark s.markMask s.mark), .run .counter,
     .run (.setMark s.keepMask s.mark)]]

namespace NftablesLocalData

variable (d : NftablesLocalData)

/-- What passes between a tunnel and its targets; the rest is dropped. -/
def slotForwardRules (s : LocalSlotData) : List NftRule :=
  [[.on (.oifname s.interface), .on .syn, .run .counter, .run .clampMSS],
   [.on (.iifname s.interface), .on (.ctState [.established, .related]), .run .counter,
     .run (.verdict .accept)]] ++
  (if d.responderIP ≠ "" then
    [admitRule s.interface d.responderIP "tcp" d.responderPort] else []) ++
  (d.forwards.map fun f => admitRule s.interface f.target f.protocol f.targetPort) ++
  [[.on (.iifname s.interface), .run .counter, .run (.verdict .drop)],
   [.on (.oifname s.interface), .on (.ctState [.established, .related]), .run .counter,
     .run (.verdict .accept)],
   [.on (.oifname s.interface), .run .counter, .run (.verdict .drop)]]

/-- Clients on the node that call the public address. -/
def hairpinProgram : List NftChain :=
  if d.publicAddress ≠ "" then
    [{ name := "output", kind := .nat, hook := .output, priority := "-100", policy := .accept
       rules := d.hairpinDnats.map Dnat.rule },
     { name := "postrouting", kind := .nat, hook := .postrouting, priority := "srcnat",
       policy := .accept
       rules := d.forwards.map fun f =>
         [.on (.saddr f.target), .on (.daddr f.target), .on (.dport f.protocol f.targetPort.toInt),
           .run .counter, .run .masquerade] }]
  else []

/-- The marks, before the routing decision. -/
def premarkChain : NftChain :=
  { name := "premark", kind := .filter, hook := .prerouting, priority := "mangle", policy := .accept
    rules := d.slots.flatMap LocalSlotData.premarkRules }

/-- The ports of every slot, then those of the hairpin. -/
def natChain : NftChain :=
  { name := "prerouting", kind := .nat, hook := .prerouting, priority := "dstnat", policy := .accept
    rules := (d.slots.flatMap d.slotDnats ++ d.hairpinDnats).map Dnat.rule }

/-- The rules of each slot; what none of them is for passes. -/
def forwardChain : NftChain :=
  { name := "forward", kind := .filter, hook := .forward, priority := "filter", policy := .accept
    rules := d.slots.flatMap d.slotForwardRules }

/-- Nor out of the tunnel of a slot. -/
def inputChain : NftChain :=
  { name := "input", kind := .filter, hook := .input, priority := "filter", policy := .accept
    rules := d.slots.map fun s =>
      [.on (.iifname s.interface), .run .counter, .run (.verdict .drop)] }

/-- `nftables_local.tmpl`. -/
def program : List NftChain :=
  [d.premarkChain, d.natChain] ++ d.hairpinProgram ++ [d.forwardChain, d.inputChain]

end NftablesLocalData

/-- The rules of the document. -/
def Ruleset.program : Ruleset → List NftChain
  | .cluster d => d.program
  | .local_ d => d.program

/-! ## Their text -/

section

variable (interface target protocol : String) (port : Int64)

@[simp] theorem join_cons_cons (sep x y : String) (xs : List String) :
    join sep (x :: y :: xs) = x ++ sep ++ join sep (y :: xs) := rfl

@[simp] theorem join_single (sep x : String) : join sep [x] = x := rfl

theorem pair_eq {a b a' b' : String} (ha : a = a') (hb : b = b') : [a, b] = [a', b'] := by
  rw [ha, hb]

/-- A rule by its words; the template joins some of them in one literal, so they are compared as
characters. -/
theorem text_of_words {r : NftRule} {text : String} (words : List String)
    (hwords : r.map NftItem.text = words) (htext : (join " " words).toList = text.toList) :
    r.text = text := by
  rw [NftRule.text, hwords]
  exact String.toList_inj.mp htext

theorem Dnat.rule_text (d : Dnat) : d.rule.text = d.text := by
  have hon : d.on.nft.text = d.on.text := by cases d.on <;> rfl
  have hwords : d.rule.map NftItem.text = d.on.nft.text :: (d.protocol ++ " dport " ++
      decimal d.dport) :: (if d.counter then ["counter"] else []) ++
        ["dnat ip to " ++ d.target ++ " : " ++ decimal d.targetPort] := by
    unfold Dnat.rule
    cases d.counter <;> rfl
  refine text_of_words _ hwords ?_
  rw [hon, Dnat.text]
  cases d.counter <;> simp

theorem admitRule_text :
    (admitRule interface target protocol port).text =
      "iifname \"" ++ interface ++ "\" " ++ "ip daddr " ++ target ++ " " ++ protocol ++ " dport " ++
        decimal port ++ " ct state new counter accept" :=
  text_of_words
    ["iifname \"" ++ interface ++ "\"", "ip daddr " ++ target, protocol ++ " dport " ++
      decimal port, "ct state " ++ "new", "counter", "accept"]
    rfl (by simp)

theorem clusterAdmitRule_text :
    (clusterAdmitRule interface target protocol port).text =
      "iif \"" ++ interface ++ "\" ip daddr " ++ target ++ " " ++ protocol ++ " dport " ++
        decimal port ++ " accept" :=
  text_of_words
    ["iif \"" ++ interface ++ "\"", "ip daddr " ++ target, protocol ++ " dport " ++
      decimal port, "accept"]
    rfl (by simp)

theorem premarkRules_text (s : LocalSlotData) :
    s.premarkRules.map NftRule.text = s.premark.map Rule.text := by
  refine pair_eq ?_ ?_
  · exact text_of_words
      ["iifname \"" ++ s.interface ++ "\"", "ct state " ++ "new", "counter",
        "ct mark set ct mark and " ++ s.keepMask ++ " or " ++ s.mark]
      rfl (by simp [Rule.text])
  · exact text_of_words
      ["ct direction reply", "ct mark and " ++ s.markMask ++ " == " ++ s.mark, "counter",
        "meta mark set meta mark and " ++ s.keepMask ++ " or " ++ s.mark]
      rfl (by simp [Rule.text])

theorem dropRule_text :
    NftRule.text [.on (.iifname interface), .run .counter, .run (.verdict .drop)] =
      "iifname \"" ++ interface ++ "\" " ++ "counter drop" :=
  text_of_words ["iifname \"" ++ interface ++ "\"", "counter", "drop"] rfl
    (by simp)

theorem clampRules_text :
    [NftRule.text [.on (.oifname interface), .on .syn, .run .counter, .run .clampMSS],
      NftRule.text [.on (.iifname interface), .on (.ctState [.established, .related]),
        .run .counter, .run (.verdict .accept)]] =
    ["oifname \"" ++ interface ++ "\" " ++
      "tcp flags syn counter tcp option maxseg size set rt mtu",
      "iifname \"" ++ interface ++ "\" " ++ "ct state established,related counter accept"] := by
  refine pair_eq ?_ ?_
  · exact text_of_words
      ["oifname \"" ++ interface ++ "\"", "tcp flags syn", "counter",
        "tcp option maxseg size set rt mtu"]
      rfl (by simp)
  · exact text_of_words
      ["iifname \"" ++ interface ++ "\"", "ct state " ++ ("established" ++ "," ++ "related"),
        "counter", "accept"]
      rfl (by simp)

theorem sealRules_text :
    [NftRule.text [.on (.oifname interface), .on (.ctState [.established, .related]), .run .counter,
        .run (.verdict .accept)],
      NftRule.text [.on (.oifname interface), .run .counter, .run (.verdict .drop)]] =
    ["oifname \"" ++ interface ++ "\" " ++ "ct state established,related counter accept",
      "oifname \"" ++ interface ++ "\" " ++ "counter drop"] := by
  refine pair_eq ?_ ?_
  · exact text_of_words
      ["oifname \"" ++ interface ++ "\"", "ct state " ++ ("established" ++ "," ++ "related"),
        "counter", "accept"]
      rfl (by simp)
  · exact text_of_words ["oifname \"" ++ interface ++ "\"", "counter", "drop"] rfl
      (by simp)

theorem hairpinRule_text :
    NftRule.text [.on (.saddr target), .on (.daddr target), .on (.dport protocol port.toInt),
        .run .counter, .run .masquerade] =
      "ip saddr " ++ target ++ " ip daddr " ++ target ++ " " ++ protocol ++ " dport " ++
        decimal port ++ " counter masquerade" :=
  text_of_words
    ["ip saddr " ++ target, "ip daddr " ++ target, protocol ++ " dport " ++ decimal port, "counter",
      "masquerade"]
    rfl (by simp)

theorem slotForwardRules_text (d : NftablesLocalData) (s : LocalSlotData) :
    (d.slotForwardRules s).map NftRule.text = (d.slotForward s).map Rule.text := by
  have hresponder : "iifname \"" ++ s.interface ++ "\" " ++ "ip daddr " ++ d.responderIP ++ " " ++
      "tcp" ++ " dport " ++ decimal d.responderPort ++ " ct state new counter accept" =
      "iifname \"" ++ s.interface ++ "\" " ++ "ip daddr " ++ d.responderIP ++ " tcp dport " ++
        decimal d.responderPort ++ " ct state new counter accept" :=
    String.toList_inj.mp (by simp)
  have hforwards :
      (d.forwards.map fun f => admitRule s.interface f.target f.protocol f.targetPort).map
      NftRule.text = (d.forwards.map fun f => Rule.line ("iifname \"" ++ s.interface ++ "\" " ++
        "ip daddr " ++ f.target ++ " " ++ f.protocol ++ " dport " ++ decimal f.targetPort ++
        " ct state new counter accept")).map Rule.text := by
    rw [List.map_map, List.map_map]
    exact List.map_congr_left fun f _ => admitRule_text _ _ _ _
  unfold NftablesLocalData.slotForwardRules NftablesLocalData.slotForward
  simp only [List.map_append, hforwards]
  congr 1
  · congr 1
    congr 1
    · exact clampRules_text s.interface
    · split_ifs
      · exact congrArg (fun t => [t]) ((admitRule_text _ _ _ _).trans hresponder)
      · rfl
  · exact congrArg₂ List.cons (dropRule_text s.interface) (sealRules_text s.interface)

/-- A chain by its name, its hook and its rules. -/
theorem chain_text {c : NftChain} {c' : Chain} (hname : c.name = c'.name) (hhead : c.head = c'.hook)
    (hrules : c.rules.map NftRule.text = c'.rules.map Rule.text) : c.text = c'.text := by
  have hlines : (c.rules.map fun r => "\n\t\t" ++ r.text) = c'.rules.map fun r =>
    "\n\t\t" ++ r.text := by
    have := congrArg (List.map ("\n\t\t" ++ ·)) hrules
    simpa [Function.comp_def] using this
  unfold NftChain.text Chain.text
  rw [hname, hhead, hlines]

theorem dnats_text (ds : List Dnat) :
    (ds.map Dnat.rule).map NftRule.text = (ds.map Rule.dnat).map Rule.text := by
  rw [List.map_map, List.map_map]
  exact List.map_congr_left fun d _ => d.rule_text

theorem NftablesData.chains_text (d : NftablesData) :
    d.program.map NftChain.text = d.chains.map Chain.text := by
  have hforward : ([[.on (.oifname d.interface), .on .syn, .run .clampMSS],
      [.on (.ctState [.established, .related]), .run (.verdict .accept)]] : List NftRule).map
        NftRule.text =
      ["oifname \"" ++ d.interface ++ "\" tcp flags syn tcp option maxseg size set rt mtu",
        "ct state established,related accept"] := by
    refine pair_eq ?_ ?_
    · exact text_of_words
        ["oifname \"" ++ d.interface ++ "\"", "tcp flags syn", "tcp option maxseg size set rt mtu"]
        rfl (by simp)
    · exact text_of_words ["ct state " ++ ("established" ++ "," ++ "related"), "accept"] rfl
        (by simp)
  have hresponder : (clusterAdmitRule d.interface d.responderTarget "tcp" d.responderPort).text =
      "iif \"" ++ d.interface ++ "\" ip daddr " ++ d.responderTarget ++ " tcp dport " ++
        decimal d.responderPort ++ " accept" :=
    (clusterAdmitRule_text _ _ _ _).trans (String.toList_inj.mp (by simp))
  refine congrArg₂ List.cons (chain_text rfl rfl (dnats_text _)) ?_
  refine congrArg₂ List.cons (chain_text rfl rfl ?_) ?_
  · exact congrArg (fun t => [t]) (text_of_words ["oifname != \"" ++ d.interface ++ "\"",
      "masquerade"] rfl (by simp [Rule.text]))
  refine congrArg₂ List.cons (chain_text rfl rfl ?_) ?_
  · simp only [NftablesData.forwardChain, List.map_append, hforward]
    congr 1
    · congr 1
      rw [List.map_map, List.map_map]
      exact List.map_congr_left fun f _ => clusterAdmitRule_text _ _ _ _
    · split_ifs
      · exact congrArg (fun t => [t]) hresponder
      · rfl
  · refine congrArg (fun t => [t]) (chain_text rfl rfl ?_)
    exact congrArg (fun t => [t]) (text_of_words ["iif \"" ++ d.interface ++ "\"", "drop"] rfl
      (by simp [Rule.text]))

theorem NftablesLocalData.hairpinProgram_text (d : NftablesLocalData) :
    d.hairpinProgram.map NftChain.text = d.hairpinChains.map Chain.text := by
  unfold hairpinProgram hairpinChains
  split_ifs
  · refine congrArg₂ List.cons (chain_text rfl rfl (dnats_text _)) (congrArg (fun t => [t]) ?_)
    refine chain_text rfl rfl ?_
    rw [List.map_map, List.map_map]
    exact List.map_congr_left fun f _ => hairpinRule_text _ _ _
  · rfl

/-- Two chains, some more, and two chains. -/
theorem map_between {α β γ : Type} {f : α → γ} {g : β → γ} {a b c e : α} {a' b' c' e' : β}
    {xs : List α}
    {ys : List β} (ha : f a = g a') (hb : f b = g b') (hxs : xs.map f = ys.map g) (hc : f c = g c')
    (he : f e = g e') : ([a, b] ++ xs ++ [c, e]).map f = ([a', b'] ++ ys ++ [c', e']).map g := by
  simp [ha, hb, hxs, hc, he]

theorem NftablesLocalData.chains_text (d : NftablesLocalData) :
    d.program.map NftChain.text = d.chains.map Chain.text := by
  refine map_between (chain_text rfl rfl ?_) (chain_text rfl rfl (dnats_text _))
    d.hairpinProgram_text (chain_text rfl rfl ?_) (chain_text rfl rfl ?_)
  · show (d.slots.flatMap LocalSlotData.premarkRules).map NftRule.text = _
    rw [List.map_flatMap, List.map_flatMap]
    exact List.flatMap_congr fun s _ => premarkRules_text s
  · show (d.slots.flatMap d.slotForwardRules).map NftRule.text = _
    rw [List.map_flatMap, List.map_flatMap]
    exact List.flatMap_congr fun s _ => slotForwardRules_text d s
  · rw [List.map_map]
    refine (List.map_map ..).trans (List.map_congr_left fun (s : LocalSlotData) _ => ?_)
    exact (dropRule_text s.interface).trans (String.toList_inj.mp (by simp [Rule.text]))

/-- **The document is the text of the program.** -/
theorem Ruleset.program_text (r : Ruleset) :
    r.text = "add table inet " ++ r.table ++ "\nflush table inet " ++ r.table ++ "\ntable inet " ++
      r.table ++ " \x7b\n" ++ join "\n\n" (r.program.map NftChain.text) ++ "\n\x7d\n" := by
  have hchains : r.program.map NftChain.text = r.chains.map Chain.text := by
    cases r with
    | cluster d | local_ d => exact d.chains_text
  rw [hchains]
  rfl

end

end WireguardGateway.Link

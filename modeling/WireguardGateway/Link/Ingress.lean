import WireguardGateway.Link.Firewall
import WireguardGateway.Link.Flows

/-!
# What comes out of a tunnel

What the rendered ruleset does to a packet that begins a flow out of a tunnel, in either mode. The
rules stand in nested loops over slots and forwards, and in another order in each of the two
templates. The proofs do not follow that order: every DNAT rule that catches the packet sends it to
the one place its protocol and port stand for, every rule that accepts it does so for a permitted
destination, and among the rules of a chain there is one that ends it.

Results:
* `Translates.destination`: DNAT rules that are sound and complete for a packet
  send it where it belongs;
* `forward_local`, `forward_cluster`: what the rules of the forward chains accept;
* **`ingress_contained`**: a new packet from a tunnel has its destination rewritten to the target of
  the forward for its protocol and port, or to the health responder, and otherwise keeps it; it
  passes the forward chain only with a target of some forward or with the responder's port as its
  destination; and it is dropped if it is addressed to the node.

A packet is routed after the hook `prerouting`, to the node or on through some interface. Chains of
type `nat` see it as the first packet of its flow.
-/

namespace WireguardGateway.Link

open Lib
open Controller (RuntimeConfig)

/-- The interfaces of the Gateway's tunnels. -/
def tunnelInterfaces (rc : RuntimeConfig) : List String :=
  match rc.identity with
  | some identity => rc.wireguard.peers.map fun p => (newSlotIdentity identity.id p.slot).interface
  | none => [clusterInterface]

/-- The address of the health responder, empty if there is none for the node. -/
def responderOf (rc : RuntimeConfig) (nodeName : String) : String :=
  match rc.identity with
  | some _ => (rc.responders.lookup nodeName).getD ""
  | none => if rc.healthPort > 0 then rc.responderTarget else ""

/-- The forward is for the packet's protocol and destination port. -/
def ResolvedForward.Serves (f : ResolvedForward) (p : NetPacket) : Prop :=
  f.protocol = p.protocol ∧ f.publicPort.toInt = p.dport

/-- The packet is for the health responder. -/
def Probes (rc : RuntimeConfig) (nodeName : String) (p : NetPacket) : Prop :=
  responderOf rc nodeName ≠ "" ∧ p.protocol = "tcp" ∧ p.dport = rc.healthPort.toInt

instance (f : ResolvedForward) (p : NetPacket) : Decidable (f.Serves p) :=
  inferInstanceAs (Decidable (_ ∧ _))

instance (rc : RuntimeConfig) (nodeName : String) (p : NetPacket) :
    Decidable (Probes rc nodeName p) :=
  inferInstanceAs (Decidable (_ ∧ _ ∧ _))

def Dnat.catches (d : Dnat) (s : NetState) : Bool :=
  d.on.nft.holds s && (NftMatch.dport d.protocol d.dport.toInt).holds s

theorem Dnat.runRule_rule (d : Dnat) (s : NetState) :
    runRule d.rule s =
      if d.catches s then (NftStatement.dnat d.target d.targetPort.toInt).exec s
        else (s, none) := by
  have hdnat : runRule [.run (.dnat d.target d.targetPort.toInt)] s =
      (NftStatement.dnat d.target d.targetPort.toInt).exec s := by
    unfold runRule
    split
    · rename_i h
      rw [h]
    · rename_i h
      rw [h]
      rfl
  have hcounter : runRule ((if d.counter then [.run .counter] else []) ++
      [.run (.dnat d.target d.targetPort.toInt)]) s =
      (NftStatement.dnat d.target d.targetPort.toInt).exec s := by
    cases d.counter
    · exact hdnat
    · exact hdnat
  unfold Dnat.rule Dnat.catches
  rw [List.append_assoc, List.cons_append, runRule, List.cons_append, runRule,
    List.nil_append, hcounter]
  by_cases hon : d.on.nft.holds s = true <;>
    by_cases hport : (NftMatch.dport d.protocol d.dport.toInt).holds s = true <;> simp [hon, hport]

/-- The first rule that catches an IPv4 packet translates it. -/
theorem runRules_dnats (ds : List Dnat) (s : NetState) :
    runRules (ds.map Dnat.rule) s =
      match (if s.packet.ipv4 then ds.find? (·.catches s) else none) with
      | some d => (s.redirect d.target d.targetPort.toInt, some .accept)
      | none => (s, none) := by
  induction ds with
  | nil => simp [runRules]
  | cons d ds ih =>
    rw [List.map_cons, runRules, d.runRule_rule]
    cases hcatch : d.catches s <;> cases hip : s.packet.ipv4 <;>
      simp_all [NftStatement.exec]

/-! ## Translation -/

/-- Where a packet from a tunnel is sent. -/
def ingressDestination (rc : RuntimeConfig) (forwards : List ResolvedForward) (nodeName : String)
    (p : NetPacket) : String × Int :=
  if p.ipv4 then
    match forwards.find? (fun f => f.Serves p) with
    | some f => (f.target, f.targetPort.toInt)
    | none =>
      if Probes rc nodeName p then (responderOf rc nodeName, rc.responderPort.toInt)
      else (p.destination, p.dport)
  else (p.destination, p.dport)

/-- What the DNAT rules of a ruleset have to be for that. -/
structure Translates (rc : RuntimeConfig) (forwards : List ResolvedForward) (nodeName : String)
    (s : NetState) (ds : List Dnat) : Prop where
  sound : ∀ d ∈ ds, d.catches s = true →
    (∃ f ∈ forwards, f.Serves s.packet ∧ d.target = f.target ∧ d.targetPort = f.targetPort) ∨
      (Probes rc nodeName s.packet ∧ d.target = responderOf rc nodeName ∧
        d.targetPort = rc.responderPort)
  served : ∀ f ∈ forwards, f.Serves s.packet → ∃ d ∈ ds, d.catches s = true
  probed : Probes rc nodeName s.packet → ∃ d ∈ ds, d.catches s = true

/-- The port and the protocol of a forward, which are distinct in a config. -/
def ResolvedForward.port (f : ResolvedForward) : Int64 × String := (f.publicPort, f.protocol)

variable {rc : RuntimeConfig} {forwards : List ResolvedForward} {nodeName : String} {s : NetState}
  {identity : Controller.GatewayIdentity} {ds : List Dnat}

theorem find?_serves (hports : (forwards.map ResolvedForward.port).Nodup) {f : ResolvedForward}
    (hf : f ∈ forwards) {p : NetPacket} (hserves : f.Serves p) :
    forwards.find? (fun f => f.Serves p) = some f := by
  cases hfind : forwards.find? (fun f => f.Serves p) with
  | none => exact absurd hserves (by simpa using List.find?_eq_none.mp hfind f hf)
  | some g =>
    have hg : g.Serves p := by simpa using List.find?_some hfind
    have hport : g.port = f.port :=
      Prod.ext (Int64.toInt_inj.mp (hg.2.trans hserves.2.symm)) (hg.1.trans hserves.1.symm)
    rw [List.inj_on_of_nodup_map hports (List.mem_of_find?_eq_some hfind) hf hport]

theorem Translates.destination (h : Translates rc forwards nodeName s ds)
    (hports : (forwards.map ResolvedForward.port).Nodup)
    (hhealth : ∀ f ∈ forwards, f.protocol = "tcp" → f.publicPort ≠ rc.healthPort) :
    ((runRules (ds.map Dnat.rule) s).1.packet.destination,
      (runRules (ds.map Dnat.rule) s).1.packet.dport) =
        ingressDestination rc forwards nodeName s.packet := by
  have hnone : Probes rc nodeName s.packet →
      forwards.find? (fun f => f.Serves s.packet) = none := by
    rintro ⟨-, htcp, hport⟩
    refine List.find?_eq_none.mpr fun f hf => ?_
    simp only [decide_eq_true_eq]
    rintro ⟨hprotocol, hdport⟩
    exact hhealth f hf (hprotocol.trans htcp) (Int64.toInt_inj.mp (hdport.trans hport))
  rw [runRules_dnats]
  unfold ingressDestination
  cases hip : s.packet.ipv4 with
  | false => rfl
  | true =>
    simp only [if_true]
    cases hfind : ds.find? (·.catches s) with
    | some d =>
      have hd := List.mem_of_find?_eq_some hfind
      rcases h.sound d hd (by simpa using List.find?_some hfind) with
        ⟨f, hf, hserves, htarget, hport⟩ | ⟨hprobes, htarget, hport⟩
      · rw [find?_serves hports hf hserves]
        simp [NetState.redirect, htarget, hport]
      · rw [hnone hprobes]
        simp [NetState.redirect, htarget, hport, hprobes]
    | none =>
      have hmiss : ∀ d ∈ ds, ¬ d.catches s = true := fun d hd => by
        simpa using List.find?_eq_none.mp hfind d hd
      have hserves : forwards.find? (fun f => f.Serves s.packet) = none := by
        refine List.find?_eq_none.mpr fun f hf hserves => ?_
        obtain ⟨d, hd, hcatch⟩ := h.served f hf (by simpa using hserves)
        exact hmiss d hd hcatch
      have hprobes : ¬ Probes rc nodeName s.packet := fun hprobes => by
        obtain ⟨d, hd, hcatch⟩ := h.probed hprobes
        exact hmiss d hd hcatch
      rw [hserves]
      simp [hprobes]

theorem dnat_catches {f : ResolvedForward} {on : Match} {counter : Bool} :
    (f.dnat on counter).catches s = true ↔ on.nft.holds s = true ∧ f.Serves s.packet := by
  simp only [Dnat.catches, ResolvedForward.dnat, Bool.and_eq_true, NftMatch.holds, beq_iff_eq]
  exact and_congr Iff.rfl ⟨fun h => ⟨h.1.symm, h.2.symm⟩, fun h => ⟨h.1.symm, h.2.symm⟩⟩

/-- The rules for the probes. -/
theorem responder_catches {on : Match} {counter : Bool} {target : String} {dport port : Int64} :
    Dnat.catches ⟨on, "tcp", dport, counter, target, port⟩ s = true ↔
      on.nft.holds s = true ∧ s.packet.protocol = "tcp" ∧ s.packet.dport = dport.toInt := by
  simp [Dnat.catches, NftMatch.holds]

/-! ## The two documents -/

/-- The values of a template are those of the config. -/
structure DataOf (rc : RuntimeConfig) (forwards : List ResolvedForward)
    (nodeName responder : String) (healthPort responderPort : Int64) (fs : List ResolvedForward) :
    Prop where
  responder : responderOf rc nodeName = responder
  healthPort : rc.healthPort = healthPort
  responderPort : rc.responderPort = responderPort
  forwards : ∀ f, f ∈ fs ↔ f ∈ forwards

abbrev NftablesData.Of (d : NftablesData) (rc : RuntimeConfig) (forwards : List ResolvedForward)
    (nodeName : String) : Prop :=
  DataOf rc forwards nodeName d.responderTarget d.healthPort d.responderPort d.forwards

abbrev NftablesLocalData.Of (d : NftablesLocalData) (rc : RuntimeConfig)
    (forwards : List ResolvedForward) (nodeName : String) : Prop :=
  DataOf rc forwards nodeName d.responderIP d.healthPort d.responderPort d.forwards

theorem clusterData_of (h : rc.identity = none) :
    (clusterData rc forwards).Of rc forwards nodeName :=
  ⟨by unfold responderOf; rw [h]; rfl, rfl, rfl, fun _ => mem_sortForwards⟩

theorem localData_of (h : rc.identity = some identity) :
    (localData rc identity forwards nodeName).Of rc forwards nodeName :=
  ⟨by unfold responderOf; rw [h]; rfl, rfl, rfl, fun _ => mem_sortForwards⟩

/-- Rules for the forwards and the responder, among them those for what the packet comes in by. -/
theorem DataOf.translates {responder : String} {healthPort responderPort : Int64}
    {fs : List ResolvedForward}
    (h : DataOf rc forwards nodeName responder healthPort responderPort fs) (on : Match) (c : Bool)
    {ds : List Dnat} (hon : on.nft.holds s = true)
    (hds : ∀ d ∈ ds, (∃ f ∈ fs, ∃ on c, d = f.dnat on c) ∨
      (responder ≠ "" ∧ ∃ on c, d = ⟨on, "tcp", healthPort, c, responder, responderPort⟩))
    (hforward : ∀ f ∈ fs, f.dnat on c ∈ ds)
    (hprobe : responder ≠ "" → ⟨on, "tcp", healthPort, c, responder, responderPort⟩ ∈ ds) :
    Translates rc forwards nodeName s ds := by
  obtain ⟨rfl, rfl, rfl, hforwards⟩ := h
  constructor
  · intro d hd hcatch
    rcases hds d hd with ⟨f, hf, on, c, rfl⟩ | ⟨hne, on, c, rfl⟩
    · exact .inl ⟨f, (hforwards f).mp hf, (dnat_catches.mp hcatch).2, rfl, rfl⟩
    · exact .inr ⟨⟨hne, (responder_catches.mp hcatch).2⟩, rfl, rfl⟩
  · exact fun f hf hserves =>
      ⟨_, hforward f ((hforwards f).mpr hf), dnat_catches.mpr ⟨hon, hserves⟩⟩
  · exact fun ⟨hne, hprobes⟩ => ⟨_, hprobe hne, responder_catches.mpr ⟨hon, hprobes⟩⟩

theorem translates_cluster {d : NftablesData} (h : d.Of rc forwards nodeName)
    (hiif : s.packet.iif = some d.interface) :
    Translates rc forwards nodeName s
      (d.forwards.map (fun f => f.dnat (.iif d.interface) false) ++ d.responder) := by
  unfold NftablesData.responder
  refine h.translates (.iif d.interface) false (by simp [Match.nft, NftMatch.holds, hiif]) ?_ ?_ ?_
  · intro r hr
    rcases List.mem_append.mp hr with hforward | hprobe
    · obtain ⟨f, hf, rfl⟩ := List.mem_map.mp hforward
      exact .inl ⟨f, hf, _, _, rfl⟩
    · split_ifs at hprobe with hne
      · exact .inr ⟨hne, _, _, List.mem_singleton.mp hprobe⟩
      · cases hprobe
  · exact fun f hf => List.mem_append_left _ (List.mem_map.mpr ⟨f, hf, rfl⟩)
  · intro hne
    rw [if_pos hne]
    exact List.mem_append_right _ List.mem_cons_self

theorem translates_local {d : NftablesLocalData} (h : d.Of rc forwards nodeName)
    {slot : LocalSlotData} (hslot : slot ∈ d.slots) (hiif : s.packet.iif = some slot.interface) :
    Translates rc forwards nodeName s (d.slots.flatMap d.slotDnats ++ d.hairpinDnats) := by
  have hmem : ∀ r ∈ d.slotDnats slot, r ∈ d.slots.flatMap d.slotDnats ++ d.hairpinDnats :=
    fun r hr =>
    List.mem_append_left _ (List.mem_flatMap.mpr ⟨slot, hslot, hr⟩)
  refine h.translates (.iifname slot.interface) true (by simp [Match.nft, NftMatch.holds, hiif])
    ?_ ?_ ?_
  · intro r hr
    rcases List.mem_append.mp hr with hslots | hhairpin
    · obtain ⟨slot', -, hr'⟩ := List.mem_flatMap.mp hslots
      rcases List.mem_append.mp hr' with hprobe | hforward
      · split_ifs at hprobe with hne
        · exact .inr ⟨hne, _, _, List.mem_singleton.mp hprobe⟩
        · cases hprobe
      · obtain ⟨f, hf, rfl⟩ := List.mem_map.mp hforward
        exact .inl ⟨f, hf, _, _, rfl⟩
    · unfold NftablesLocalData.hairpinDnats at hhairpin
      split_ifs at hhairpin
      · obtain ⟨f, hf, rfl⟩ := List.mem_map.mp hhairpin
        exact .inl ⟨f, hf, _, _, rfl⟩
      · cases hhairpin
  · exact fun f hf => hmem _ (List.mem_append_right _ (List.mem_map.mpr ⟨f, hf, rfl⟩))
  · refine fun hne => hmem _ (List.mem_append_left _ ?_)
    rw [if_pos hne]
    exact List.mem_cons_self

/-! ## Filters -/

/-- The packet's destination is the target of a forward for its protocol, or
the responder's port. -/
def Permitted (rc : RuntimeConfig) (forwards : List ResolvedForward) (nodeName : String)
    (p : NetPacket) : Prop :=
  (∃ f ∈ forwards, p.protocol = f.protocol ∧ p.destination = f.target ∧
    p.dport = f.targetPort.toInt) ∨
    (responderOf rc nodeName ≠ "" ∧ p.protocol = "tcp" ∧ p.destination = responderOf rc nodeName ∧
      p.dport = rc.responderPort.toInt)

/-- What the verdicts of the forward chain have to satisfy. -/
abbrev Contained (rc : RuntimeConfig) (forwards : List ResolvedForward) (nodeName : String)
    (s : NetState) (_ : NetState) (v : NftVerdict) : Prop :=
  v = .accept → Permitted rc forwards nodeName s.packet

variable {ms : List NftMatch}

/-- A rule for flows under way does not accept a new packet. -/
theorem not_established (hnew : s.conn.state = .new) (hmem : .ctState [.established, .related] ∈ ms)
    (hall : ∀ m ∈ ms, m.holds s = true) : False := by
  have hstate := hall _ hmem
  simp [NftMatch.holds, hnew] at hstate

/-- What a rule of a forward lets through. -/
theorem permitted_forward {f : ResolvedForward} (hf : f ∈ forwards) (hdaddr : .daddr f.target ∈ ms)
    (hdport : .dport f.protocol f.targetPort.toInt ∈ ms) (hall : ∀ m ∈ ms, m.holds s = true) :
    Permitted rc forwards nodeName s.packet := by
  have haddress := hall _ hdaddr
  have hport := hall _ hdport
  simp only [NftMatch.holds, Bool.and_eq_true, beq_iff_eq] at haddress hport
  exact .inl ⟨f, hf, hport.1, haddress.2, hport.2⟩

/-- What the rule of the responder lets through. -/
theorem permitted_responder {responder : String} {healthPort responderPort : Int64}
    {fs : List ResolvedForward}
    (h : DataOf rc forwards nodeName responder healthPort responderPort fs) (hne : responder ≠ "")
    (hdaddr : .daddr responder ∈ ms) (hdport : .dport "tcp" responderPort.toInt ∈ ms)
    (hall : ∀ m ∈ ms, m.holds s = true) : Permitted rc forwards nodeName s.packet := by
  have haddress := hall _ hdaddr
  have hport := hall _ hdport
  simp only [NftMatch.holds, Bool.and_eq_true, beq_iff_eq] at haddress hport
  refine .inr ⟨h.responder ▸ hne, hport.1, haddress.2.trans h.responder.symm, ?_⟩
  rw [h.responderPort]
  exact hport.2

theorem forward_local {d : NftablesLocalData} (h : d.Of rc forwards nodeName)
    (hnew : s.conn.state = .new) :
    ∀ r ∈ d.forwardChain.rules, RuleSpec (· = s) (Contained rc forwards nodeName s) r := by
  intro r hr
  obtain ⟨slot, -, hr⟩ := List.mem_flatMap.mp hr
  simp only [NftablesLocalData.slotForwardRules, List.mem_append, List.mem_cons, List.not_mem_nil,
    or_false, List.mem_map] at hr
  rcases hr with (((rfl | rfl) | hprobe) | ⟨f, hf, rfl⟩) | rfl | rfl | rfl
  · exact (RuleSpec.clamp [.oifname slot.interface, .syn]).1
  · refine (RuleSpec.filter [.iifname slot.interface, .ctState [.established, .related]] ?_).1
    rintro _ rfl hall
    exact (not_established hnew (by simp) hall).elim
  · split_ifs at hprobe with hne
    · cases List.mem_singleton.mp hprobe
      refine (RuleSpec.filter [.iifname slot.interface, .daddr d.responderIP,
        .dport "tcp" d.responderPort.toInt, .ctState [.new]] ?_).1
      rintro _ rfl hall -
      exact permitted_responder h hne (by simp) (by simp) hall
    · cases hprobe
  · refine (RuleSpec.filter [.iifname slot.interface, .daddr f.target,
      .dport f.protocol f.targetPort.toInt, .ctState [.new]] ?_).1
    rintro _ rfl hall -
    exact permitted_forward ((h.forwards f).mp hf) (by simp) (by simp) hall
  · exact (RuleSpec.filter [.iifname slot.interface] fun _ _ _ hdrop => (nomatch hdrop)).1
  · refine (RuleSpec.filter [.oifname slot.interface, .ctState [.established, .related]] ?_).1
    rintro _ rfl hall
    exact (not_established hnew (by simp) hall).elim
  · exact (RuleSpec.filter [.oifname slot.interface] fun _ _ _ hdrop => (nomatch hdrop)).1

theorem forward_cluster {d : NftablesData} (h : d.Of rc forwards nodeName)
    (hnew : s.conn.state = .new) :
    ∀ r ∈ d.forwardChain.rules, RuleSpec (· = s) (Contained rc forwards nodeName s) r := by
  intro r hr
  simp only [NftablesData.forwardChain, List.mem_append, List.mem_cons, List.not_mem_nil, or_false,
    List.mem_map] at hr
  rcases hr with ((rfl | rfl) | ⟨f, hf, rfl⟩) | hprobe
  · exact (RuleSpec.clamp [.oifname d.interface, .syn]).2
  · refine (RuleSpec.filter [.ctState [.established, .related]] ?_).2
    rintro _ rfl hall
    exact (not_established hnew (by simp) hall).elim
  · refine (RuleSpec.filter [.iif d.interface, .daddr f.target,
      .dport f.protocol f.targetPort.toInt] ?_).2
    rintro _ rfl hall -
    exact permitted_forward ((h.forwards f).mp hf) (by simp) (by simp) hall
  · split_ifs at hprobe with hne
    · cases List.mem_singleton.mp hprobe
      refine (RuleSpec.filter [.iif d.interface, .daddr d.responderTarget,
        .dport "tcp" d.responderPort.toInt] ?_).2
      rintro _ rfl hall -
      exact permitted_responder h hne (by simp) (by simp) hall
    · cases hprobe

/-! ## The path of a packet -/

/-- The packet and its connection, but for their marks. -/
def Unmarked (s s' : NetState) : Prop :=
  ∃ mark ctMark, s' = (s.setMark mark).setCtMark ctMark

theorem Unmarked.refl (s : NetState) : Unmarked s s := ⟨s.packet.mark, s.conn.mark, rfl⟩

/-- The premark chain writes marks, and lets every packet through. -/
theorem premark_unmarked (d : NftablesLocalData) (s : NetState) :
    Unmarked s (d.premarkChain.run s).1 ∧ (d.premarkChain.run s).2 = .accept := by
  have hspec : ∀ r ∈ d.premarkChain.rules, RuleSpec (Unmarked s) (fun _ _ => False) r := by
    intro r hr
    obtain ⟨slot, -, hr⟩ := List.mem_flatMap.mp hr
    simp only [LocalSlotData.premarkRules, List.mem_cons, List.not_mem_nil, or_false] at hr
    rcases hr with rfl | rfl
    · refine RuleSpec.effect [.iifname slot.interface, .ctState [.new]] (fun _ => rfl) ?_
      rintro _ ⟨mark, ctMark, rfl⟩ -
      exact ⟨mark, _, rfl⟩
    · refine RuleSpec.effect [.ctReply, .ctMark slot.markMask slot.mark] (fun _ => rfl) ?_
      rintro _ ⟨mark, ctMark, rfl⟩ -
      exact ⟨_, ctMark, rfl⟩
  obtain ⟨hnone, hsome⟩ := runRules_spec hspec (Unmarked.refl s)
  unfold NftChain.run
  rcases hrun : runRules d.premarkChain.rules s with ⟨s', _ | v⟩
  · exact ⟨hnone s' hrun, rfl⟩
  · exact (hsome s' v hrun).elim

theorem ingressDestination_unmarked {s' : NetState} (h : Unmarked s s') :
    ingressDestination rc forwards nodeName s'.packet =
      ingressDestination rc forwards nodeName s.packet := by
  obtain ⟨mark, ctMark, rfl⟩ := h
  rfl

/-- What translation leaves alone. -/
theorem natChain_frame (ds : List Dnat) (s : NetState) :
    (runRules (ds.map Dnat.rule) s).1.packet.iif = s.packet.iif ∧
      (runRules (ds.map Dnat.rule) s).1.conn.state = s.conn.state := by
  rw [runRules_dnats]
  split <;> exact ⟨rfl, rfl⟩

theorem NftablesData.runHook_program (d : NftablesData) (s : NetState) :
    runHook .prerouting d.program s = d.natChain.run s ∧
      runHook .forward d.program s = d.forwardChain.run s ∧
      runHook .input d.program s = d.inputChain.run s :=
  ⟨runChains_single d.natChain s, runChains_single d.forwardChain s,
    runChains_single d.inputChain s⟩

/-- The chains of the hairpin are on the other hooks. -/
theorem NftablesLocalData.filter_program (d : NftablesLocalData) {hook : NftHook}
    (hout : hook ≠ .output) (hpost : hook ≠ .postrouting) :
    (d.program.filter fun c => c.hook = hook) =
      ([d.premarkChain, d.natChain, d.forwardChain, d.inputChain].filter
        fun c => c.hook = hook) := by
  have hhairpin : (d.hairpinProgram.filter fun c => c.hook = hook) = [] := by
    unfold hairpinProgram
    split_ifs
    · simp [hout.symm, hpost.symm]
    · rfl
  unfold program
  rw [List.filter_append, List.filter_append, hhairpin, List.append_nil, ← List.filter_append]
  rfl

theorem NftablesLocalData.runHook_program (d : NftablesLocalData) (s : NetState) :
    runHook .prerouting d.program s = d.natChain.run (d.premarkChain.run s).1 ∧
      runHook .forward d.program s = d.forwardChain.run s ∧
      runHook .input d.program s = d.inputChain.run s := by
  unfold runHook
  rw [d.filter_program (by decide) (by decide), d.filter_program (by decide) (by decide),
    d.filter_program (by decide) (by decide)]
  refine ⟨?_, runChains_single d.forwardChain s, runChains_single d.inputChain s⟩
  show runChains [d.premarkChain, d.natChain] s = _
  rw [runChains, if_neg (by rw [(premark_unmarked d s).2]; decide), runChains_single]

/-- What rules do to a packet `s` from a tunnel. -/
structure Containment (rc : RuntimeConfig) (forwards : List ResolvedForward) (nodeName : String)
    (program : List NftChain) (s : NetState) : Prop where
  /-- It leaves the hook `prerouting` with the destination that its protocol and port stand for. -/
  translated : ((runHook .prerouting program s).1.packet.destination,
    (runHook .prerouting program s).1.packet.dport) =
      ingressDestination rc forwards nodeName s.packet
  /-- Through whatever interface it is routed, it passes only to a target or to the responder. -/
  forwarded : ∀ oif,
    (runHook .forward program ((runHook .prerouting program s).1.routed oif)).2 = .accept →
      Permitted rc forwards nodeName (runHook .prerouting program s).1.packet
  /-- Addressed to the node, it is dropped. -/
  delivered : (runHook .input program (runHook .prerouting program s).1).2 = .drop

/-- A rule on the packet's interface gives its verdict. -/
theorem stops_of_iif {m : NftMatch} {i : String} (hm : m = .iifname i ∨ m = .iif i)
    (hiif : s.packet.iif = some i) {rest : NftRule} {v : NftVerdict}
    (hrest : (runRule rest s).2 = some v) : (runRule (.on m :: rest) s).2 ≠ none := by
  have hholds : m.holds s = true := by
    rcases hm with rfl | rfl <;> simp [NftMatch.holds, hiif]
  rw [runRule, if_pos hholds, hrest]
  exact Option.some_ne_none v

section

variable (hports : (forwards.map ResolvedForward.port).Nodup)
  (hhealth : ∀ f ∈ forwards, f.protocol = "tcp" → f.publicPort ≠ rc.healthPort)
  (hnew : s.conn.state = .new)

include hports hhealth hnew

theorem contained_cluster {d : NftablesData} (h : d.Of rc forwards nodeName)
    (hiif : s.packet.iif = some d.interface) : Containment rc forwards nodeName d.program s := by
  have hpre := (d.runHook_program s).1
  obtain ⟨hiif', hnew'⟩ := natChain_frame (d.forwards.map (fun f =>
    f.dnat (.iif d.interface) false) ++ d.responder) s
  constructor
  · rw [hpre]
    exact (translates_cluster h hiif).destination hports hhealth
  · intro oif haccept
    rw [(d.runHook_program _).2.1, hpre] at haccept
    rw [hpre]
    -- the policy is to drop, so some rule accepted
    exact NftChain.run_spec (forward_cluster h (s := ((d.natChain.run s).1.routed oif))
      (hnew'.trans hnew)) rfl (haccept ▸ (by decide : NftVerdict.accept ≠ .drop)) haccept
  · rw [hpre, (d.runHook_program _).2.2]
    refine NftChain.run_verdict (P := (· = (d.natChain.run s).1)) (Q := fun _ v => v = .drop) ?_ rfl
      List.mem_cons_self ?_
    · intro r hr
      cases List.mem_singleton.mp hr
      exact (RuleSpec.filter (Q := fun _ v => v = .drop) [.iif d.interface] fun _ _ _ => rfl).2
    · rintro _ rfl
      exact stops_of_iif (.inr rfl) (hiif'.trans hiif) rfl

theorem contained_local {d : NftablesLocalData} (h : d.Of rc forwards nodeName)
    {slot : LocalSlotData} (hslot : slot ∈ d.slots) (hiif : s.packet.iif = some slot.interface) :
    Containment rc forwards nodeName d.program s := by
  have hpre := (d.runHook_program s).1
  have hunmarked := (premark_unmarked d s).1
  have hmarked : (d.premarkChain.run s).1.packet.iif = some slot.interface ∧
      (d.premarkChain.run s).1.conn.state = .new := by
    obtain ⟨mark, ctMark, heq⟩ := hunmarked
    rw [heq]
    exact ⟨hiif, hnew⟩
  obtain ⟨hiif', hnew'⟩ := natChain_frame (d.slots.flatMap d.slotDnats ++ d.hairpinDnats)
    (d.premarkChain.run s).1
  constructor
  · rw [hpre, ← ingressDestination_unmarked hunmarked]
    exact (translates_local h hslot hmarked.1).destination hports hhealth
  · intro oif
    rw [(d.runHook_program _).2.1, hpre]
    -- the policy is to accept, but the packet comes to the rule that drops what its slot left
    refine NftChain.run_verdict (forward_local h
      (s := ((d.natChain.run (d.premarkChain.run s).1).1.routed oif)) (hnew'.trans hmarked.2)) rfl
      (r := [.on (.iifname slot.interface), .run .counter, .run (.verdict .drop)]) ?_ ?_
    · exact List.mem_flatMap.mpr ⟨slot, hslot, List.mem_append_right _ List.mem_cons_self⟩
    · rintro _ rfl
      refine stops_of_iif (v := .drop) (.inl rfl) ?_ rfl
      exact hiif'.trans hmarked.1
  · rw [hpre, (d.runHook_program _).2.2]
    refine NftChain.run_verdict (P := (· = (d.natChain.run (d.premarkChain.run s).1).1))
      (Q := fun _ v => v = .drop) ?_ rfl
      (r := [.on (.iifname slot.interface), .run .counter, .run (.verdict .drop)]) ?_ ?_
    · intro r hr
      obtain ⟨slot', -, rfl⟩ := List.mem_map.mp hr
      exact (RuleSpec.filter (Q := fun _ v => v = .drop) [.iifname slot'.interface]
        fun _ _ _ => rfl).1
    · exact List.mem_map.mpr ⟨slot, hslot, rfl⟩
    · rintro _ rfl
      refine stops_of_iif (v := .drop) (.inl rfl) ?_ rfl
      exact hiif'.trans hmarked.1

end

/-- **Ingress is contained**, in either mode, for every packet that begins a
flow out of a tunnel. -/
theorem ingress_contained (rc : RuntimeConfig) (forwards : List ResolvedForward) (nodeName : String)
    (hports : (forwards.map ResolvedForward.port).Nodup)
    (hhealth : ∀ f ∈ forwards, f.protocol = "tcp" → f.publicPort ≠ rc.healthPort) (s : NetState)
    (hnew : s.conn.state = .new) (htunnel : ∃ i ∈ tunnelInterfaces rc, s.packet.iif = some i) :
    Containment rc forwards nodeName (renderNftables rc forwards nodeName).program s := by
  obtain ⟨i, hi, hiif⟩ := htunnel
  unfold tunnelInterfaces at hi
  cases hid : rc.identity with
  | none =>
    rw [hid] at hi
    cases List.mem_singleton.mp hi
    rw [renderNftables_cluster hid]
    exact contained_cluster hports hhealth hnew (clusterData_of hid) hiif
  | some identity =>
    rw [hid] at hi
    obtain ⟨p, hp, rfl⟩ := List.mem_map.mp hi
    rw [renderNftables_local hid]
    exact contained_local hports hhealth hnew (localData_of hid)
      (List.mem_map.mpr ⟨p, hp, rfl⟩) hiif

/-- A client's first packet, out of the tunnel of `memberConfig 7`. -/
def clientPacket : NetState :=
  { packet :=
      { iif := some "wg-gw7", ipv4 := true, source := "198.51.100.4", destination := "10.99.0.2"
        protocol := "tcp", sport := 50000, dport := 443, syn := true, mark := 0 }
    conn := { state := .new, reply := false, mark := 0 } }

theorem ingress_contained_client :
    validate (memberConfig 7) = .ok (memberConfig 7) ∧
      ingressDestination (memberConfig 7) [sharedForward] "node-a" clientPacket.packet =
        ("10.1.2.3", 8443) ∧
      Containment (memberConfig 7) [sharedForward] "node-a"
        (renderNftables (memberConfig 7) [sharedForward] "node-a").program clientPacket :=
  ⟨by decide +kernel, by decide +kernel,
    ingress_contained (memberConfig 7) [sharedForward] "node-a" (by decide)
      (by decide +kernel) clientPacket
      rfl ⟨"wg-gw7", by decide +kernel, rfl⟩⟩

end WireguardGateway.Link

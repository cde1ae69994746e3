import WireguardGateway.Link.Programmed

/-!
# Applying over an earlier config

A successful apply of a new config on a node where an old one of the same Gateway was applied, and
on a node without any: do they leave the same? What shines through is the interface of a slot both
configs have, and the chains of the nft table (`Programmed.lean`). So they do exactly when no
address, MTU or chain of the old config stays (`Converging`).

Results:
* `appliedIface_eq_iff`, `loadChains_eq_iff`: what stays of an interface and of a table;
* **`converges_iff`**, and `changedAddress_stays`, a config whose address changed.
-/

namespace WireguardGateway.Link

open Lib Lib.Plan
open Controller (RuntimeConfig LinkPeer)

/-- Nothing of the interface of `old` stays: the address is the same, and the MTU is set anew or is
that of a new interface. -/
def InterfaceConverges (k : Kernel) (old new : RuntimeConfig) : Prop :=
  k.address old.wireguard.address = k.address new.wireguard.address ∧
    (new.wireguard.mtu > 0 ∨ ¬ old.wireguard.mtu > 0 ∨ decimal old.wireguard.mtu = k.mtu)

/-- Nothing of `old` stays under `new`: not of an interface they have in common, and not the chains
of a public address. -/
def Converging (k : Kernel) (identity : Option Controller.GatewayIdentity)
    (old new : RuntimeConfig) :
    Prop :=
  ((identity = none ∨ ∃ slot ∈ configuredSlots new, slot ∈ configuredSlots old) →
    InterfaceConverges k old new) ∧
  (identity ≠ none → old.publicAddress ≠ "" → new.publicAddress ≠ "")

section

variable {k : Kernel} {old new : RuntimeConfig}

/-! ## Interfaces -/

theorem addAddress_eq_iff {l : Iface} {a b : String} (hl : l.addresses = [a]) :
    (l.addAddress b).addresses = [b] ↔ a = b := by
  unfold Iface.addAddress
  rw [hl]
  split_ifs with hmem
  · rw [hl]
    simp
  · have hne : b ≠ a := fun h => hmem (List.mem_singleton.mpr h)
    simp [hne.symm]

/-- **What stays of an interface.** -/
theorem appliedIface_eq_iff {conf conf₀ : Option WGConf}
    (hold : (k.address old.wireguard.address).isSome)
    (hnew : (k.address new.wireguard.address).isSome) :
    appliedIface k new conf (some (appliedIface k old conf₀ none)) = appliedIface k new conf none ↔
      InterfaceConverges k old new := by
  unfold InterfaceConverges
  obtain ⟨a, ha⟩ := Option.isSome_iff_exists.mp hold
  obtain ⟨b, hb⟩ := Option.isSome_iff_exists.mp hnew
  have hclean : (Iface.addAddress k.newIface b).addresses = [b] := by
    simp [Iface.addAddress, Kernel.newIface]
  have hbefore : (appliedIface k old conf₀ none).addresses = [a] := by
    simp [appliedIface, ha, Iface.addAddress, Kernel.newIface]
  have haddresses := addAddress_eq_iff (b := b) hbefore
  have hmtu : ((if new.wireguard.mtu > 0 then decimal new.wireguard.mtu
        else (appliedIface k old conf₀ none).mtu) =
      if new.wireguard.mtu > 0 then decimal new.wireguard.mtu else k.newIface.mtu) ↔
        (new.wireguard.mtu > 0 ∨ ¬ old.wireguard.mtu > 0 ∨
          decimal old.wireguard.mtu = k.mtu) := by
    by_cases hnew : new.wireguard.mtu > 0
    · simp [hnew]
    · by_cases hold : old.wireguard.mtu > 0
      · simp [hnew, hold, appliedIface, Kernel.newIface]
      · simp [hnew, hold, appliedIface, Kernel.newIface]
  rw [ha, hb, Option.some_inj, ← haddresses, ← hmtu, ← hclean]
  constructor
  · intro h
    have hfields := Iface.mk.inj h
    simp only [hb, Option.getD_some, Option.getD_none, Option.elim_some] at hfields
    exact ⟨hfields.1, hfields.2.1⟩
  · rintro ⟨haddr, hmtu⟩
    unfold appliedIface at haddr hmtu ⊢
    simp only [hb, Option.getD_some, Option.getD_none, Option.elim_some] at haddr hmtu ⊢
    rw [haddr, hmtu]

/-! ## Chains -/

theorem find_chain_isSome {chains : List Chain} {name : String} :
    (chains.find? (·.name = name)).isSome ↔ name ∈ chains.map (·.name) := by
  rw [List.find?_isSome, List.mem_map]
  simp

/-- **What stays of a table**: the chains the new document does not list. -/
theorem loadChains_eq_iff {r₀ r : Ruleset} :
    loadChains r (some (loadChains r₀ none)) = loadChains r none ↔
      ∀ name ∈ r₀.chains.map (·.name), name ∈ r.chains.map (·.name) := by
  constructor
  · intro h name hname
    rw [← find_chain_isSome] at hname ⊢
    by_contra hnot
    obtain ⟨c, hc⟩ := Option.isSome_iff_exists.mp hname
    have hat := congrFun h name
    simp [loadChains, Option.not_isSome_iff_eq_none.mp hnot, hc] at hat
  · intro h
    funext name
    unfold loadChains
    cases hfind : r.chains.find? (·.name = name) with
    | some c => rfl
    | none =>
      have hnot : name ∉ r₀.chains.map (·.name) := by
        intro hname
        have hsome := find_chain_isSome.mpr (h name hname)
        rw [hfind] at hsome
        cases hsome
      have hfind₀ : r₀.chains.find? (·.name = name) = none :=
        Option.not_isSome_iff_eq_none.mp fun hsome => hnot (find_chain_isSome.mp hsome)
      simp [hfind₀]

variable {forwards : List ResolvedForward} {nodeName : String}
  {identity : Option Controller.GatewayIdentity}

theorem chains_cluster {rc : RuntimeConfig} (h : rc.identity = none) :
    (renderNftables rc forwards nodeName).chains.map (·.name) =
      ["prerouting", "postrouting", "forward", "input"] := by
  rw [renderNftables_cluster h]
  rfl

theorem chains_local {rc : RuntimeConfig} {identity : Controller.GatewayIdentity}
    (h : rc.identity = some identity) :
    (renderNftables rc forwards nodeName).chains.map (·.name) =
      ["premark", "prerouting"] ++
        (if rc.publicAddress ≠ "" then ["output", "postrouting"] else []) ++
        ["forward", "input"] := by
  rw [renderNftables_local h]
  by_cases hpublic : rc.publicAddress = "" <;>
    simp [Ruleset.chains, NftablesLocalData.chains, NftablesLocalData.hairpinChains, localData,
      hpublic]

theorem chains_subset_iff (hold : old.identity = identity) (hnew : new.identity = identity)
    {f₀ f : List ResolvedForward} {n₀ n : String} :
    (∀ name ∈ (renderNftables old f₀ n₀).chains.map (·.name),
      name ∈ (renderNftables new f n).chains.map (·.name)) ↔
      (identity ≠ none → old.publicAddress ≠ "" → new.publicAddress ≠ "") := by
  cases identity with
  | none =>
    rw [chains_cluster hold, chains_cluster hnew]
    simp
  | some identity =>
    rw [chains_local hold, chains_local hnew]
    by_cases h₀ : old.publicAddress = ""
    · by_cases h : new.publicAddress = "" <;> simp [h₀, h]
    · by_cases h : new.publicAddress = "" <;> simp [h₀, h]

/-! ## The node under the new config -/

/-- **What a first apply leaves of an interface**: its own for a slot it has, none for another. -/
theorem links_applied_local {g : Int64} (hg : InByte g) (h : Accepted g old) {env : ApplyEnv}
    {localForwards : List ResolvedForward} {p p' : Process Machine}
    (hheld : ∀ slot ∈ p.dp.slots, InByte slot) (happlied : Applied k old env localForwards p p')
    {slot : Int64} (hslot : InByte slot)
    (hclean : (Machine.node p.host).links (newSlotIdentity g slot).interface = none) :
    (slot ∈ configuredSlots old ∧ (k.address old.wireguard.address).isSome ∧
      ∃ conf, (Machine.node p'.host).links (newSlotIdentity g slot).interface =
        some (appliedIface k old conf none)) ∨
    (slot ∉ configuredSlots old ∧
      (Machine.node p'.host).links (newSlotIdentity g slot).interface = none) := by
  obtain ⟨n₀, n, hlinks, habsent, -, hn, hnode⟩ := applied_local hg h hheld happlied
  rw [hnode]
  by_cases hmem : slot ∈ configuredSlots old
  · obtain ⟨q, hq, rfl⟩ := List.mem_map.mp hmem
    have hiface := congrArg SlotView.iface (hn.applied q hq)
    rw [hlinks q.slot hmem, hclean] at hiface
    exact .inl ⟨hmem, hn.address q hq, _, hiface⟩
  · have hiface := congrArg SlotView.iface (hn.others slot hslot hmem)
    exact .inr ⟨hmem, hiface.trans (habsent slot hslot hclean)⟩

/-- The chains stay exactly when they are in both documents. -/
theorem table_eq_iff (hold : old.identity = identity) (hnew : new.identity = identity)
    {f₀ f : List ResolvedForward} {n₀ n : String} :
    some (loadChains (renderNftables new f n) (some (loadChains (renderNftables old f₀ n₀) none))) =
        some (loadChains (renderNftables new f n) none) ↔
      (identity ≠ none → old.publicAddress ≠ "" → new.publicAddress ≠ "") := by
  rw [Option.some_inj, loadChains_eq_iff, chains_subset_iff hold hnew]

/-- Configs of one identity have one table. -/
theorem nftTableName_congr (hold : old.identity = identity) (hnew : new.identity = identity) :
    nftTableName old = nftTableName new := by
  unfold nftTableName
  rw [hold, hnew]

/-- The table after a first apply. -/
theorem table_after {n₀ n n' : Node} (hname : nftTableName old = nftTableName new)
    (hempty : n₀.tables (nftTableName new) = none) (htables : n.tables = n₀.tables)
    (hnode : n' = n.load (renderNftables old forwards nodeName)) :
    n'.tables (nftTableName new) =
      some (loadChains (renderNftables old forwards nodeName) none) := by
  have htable : (renderNftables old forwards nodeName).table = nftTableName new :=
    renderNftables_table.trans hname
  rw [hnode, ← htable, load_tables, htables, htable, hempty]

end

section

variable {k : Kernel} {old new : RuntimeConfig} {env₀ env : ApplyEnv}
  {forwards₀ forwards : List ResolvedForward} {p p₁ r r₁ : Process Machine}

/-- What stays of a slot of `new`. -/
theorem appliedSlot_eq_iff {g : Int64} (hg : InByte g) (hold : Accepted g old)
    (hheld : ∀ slot ∈ p.dp.slots, InByte slot) (happlied : Applied k old env₀ forwards₀ p p₁)
    (hnew : (k.address new.wireguard.address).isSome) {slot : Int64} (hslot : InByte slot)
    (hclean : (Machine.node p.host).links (newSlotIdentity g slot).interface = none)
    {conf : Option WGConf} {targets : List String} :
    appliedSlot k new (newSlotIdentity g slot) conf targets
        ((Machine.node p₁.host).links (newSlotIdentity g slot).interface) =
      appliedSlot k new (newSlotIdentity g slot) conf targets none ↔
      (slot ∈ configuredSlots old → InterfaceConverges k old new) := by
  have hiface : ∀ before, appliedSlot k new (newSlotIdentity g slot) conf targets before =
      appliedSlot k new (newSlotIdentity g slot) conf targets none ↔
        appliedIface k new conf before = appliedIface k new conf none := by
    intro before
    simp [appliedSlot]
  rw [hiface]
  rcases links_applied_local hg hold hheld happlied hslot hclean with
    ⟨hmem, haddress, conf₀, hlink⟩ | ⟨hnot, hlink⟩
  · rw [hlink, appliedIface_eq_iff haddress hnew]
    exact ⟨fun h _ => h, fun h => h hmem⟩
  · rw [hlink]
    exact ⟨fun _ hmem => absurd hmem hnot, fun _ => rfl⟩

/-- The expected states agree exactly for a converging pair, in Local mode. -/
theorem expected_local_iff {g : Int64} (hg : 1 ≤ g ∧ g ≤ maxLinkID)
    (hold : AcceptedAs (some (newGatewayIdentity g)) old)
    (hnew : AcceptedAs (some (newGatewayIdentity g)) new)
    (hclean : (Machine.node p.host).Free (estateOf (some (newGatewayIdentity g))))
    (hheldp : ∀ slot ∈ p.dp.slots, InByte slot) (h₁ : Applied k old env₀ forwards₀ p p₁)
    (hheldr : ∀ slot ∈ r.dp.slots, InByte slot) (h₂ : Applied k new env forwards r r₁)
    {clean : Node} (hfree : clean.Free (estateOf (some (newGatewayIdentity g)))) :
    (Machine.node p₁.host).expected k new env forwards = clean.expected k new env forwards ↔
      Converging k (some (newGatewayIdentity g)) old new := by
  have hbyte := inByte_of_linkID hg
  have haccepted : Accepted g new := ⟨hnew.identity_eq, hnew.valid⟩
  have hacceptedOld : Accepted g old := ⟨hold.identity_eq, hold.valid⟩
  obtain ⟨n₀, n, -, -, htables, hn, hnode⟩ := applied_local hbyte hacceptedOld hheldp h₁
  obtain ⟨_, _, -, -, -, hn', -⟩ := applied_local hbyte haccepted hheldr h₂
  have hempty : clean.tables (nftTableName new) = none := hfree.tables _ haccepted.nftTableName
  have hloaded := table_after (nftTableName_congr hold.identity_eq hnew.identity_eq)
    (hclean.tables _ haccepted.nftTableName) (hn.tables.trans htables) hnode
  have hslots : ∀ q ∈ new.wireguard.peers, ∀ conf targets,
      appliedSlot k new (newSlotIdentity g q.slot) conf targets
          ((Machine.node p₁.host).links (newSlotIdentity g q.slot).interface) =
        appliedSlot k new (newSlotIdentity g q.slot) conf targets
          (clean.links (newSlotIdentity g q.slot).interface) ↔
        (q.slot ∈ configuredSlots old → InterfaceConverges k old new) := by
    intro q hq conf targets
    have hslot := haccepted.inByte q.slot (List.mem_map_of_mem hq)
    have hnone : clean.links (newSlotIdentity g q.slot).interface = none :=
      hfree.links _ ⟨q.slot, hslot, rfl⟩
    rw [hnone]
    exact appliedSlot_eq_iff hbyte hacceptedOld hheldp h₁ (hn'.address q hq) hslot
      (hclean.links _ ⟨q.slot, hslot, rfl⟩)
  unfold Node.expected Converging
  rw [Programmed.mk.injEq, hloaded, hempty, table_eq_iff hold.identity_eq hnew.identity_eq]
  simp only [hnew.identity_eq]
  refine and_congr ?_ Iff.rfl
  rw [List.map_inj_left]
  constructor
  · rintro hall (hnone | ⟨slot, hmem, hmemOld⟩)
    · cases hnone
    · obtain ⟨q, hq, rfl⟩ := List.mem_map.mp hmem
      exact (hslots q hq _ _).mp (hall q hq) hmemOld
  · intro hconverging q hq
    exact (hslots q hq _ _).mpr fun hmemOld =>
      hconverging (.inr ⟨q.slot, List.mem_map_of_mem hq, hmemOld⟩)

/-- The same in Cluster mode, where there is one interface. -/
theorem expected_cluster_iff (hold : AcceptedAs none old) (hnew : AcceptedAs none new)
    (hclean : (Machine.node p.host).Free (estateOf none))
    (h₁ : Applied k old env₀ forwards₀ p p₁) (h₂ : Applied k new env forwards r r₁)
    {clean : Node} (hfree : clean.Free (estateOf none)) :
    (Machine.node p₁.host).expected k new env forwards = clean.expected k new env forwards ↔
      Converging k none old new := by
  obtain ⟨n, hn, hnode⟩ := applied_cluster hold.identity_eq h₁
  obtain ⟨_, hn', -⟩ := applied_cluster hnew.identity_eq h₂
  have hname : nftTableName new = clusterNftTable := by
    unfold nftTableName
    rw [hnew.identity_eq]
  have hempty : clean.tables (nftTableName new) = none := hfree.tables _ hname
  have hloaded := table_after (nftTableName_congr hold.identity_eq hnew.identity_eq)
    (hclean.tables _ hname) hn.tables hnode
  have hbefore : (Machine.node p.host).links clusterInterface = none := hclean.links _ rfl
  have hnone : clean.links clusterInterface = none := hfree.links _ rfl
  have hlinks : (Machine.node p₁.host).links clusterInterface = n.links clusterInterface := by
    rw [hnode]
    rfl
  unfold Node.expected Converging
  rw [Programmed.mk.injEq, hloaded, hempty, table_eq_iff hold.identity_eq hnew.identity_eq]
  simp only [hnew.identity_eq]
  refine and_congr ?_ Iff.rfl
  rw [hlinks, hn.link, hbefore, hnone]
  simp only [clusterView, List.cons.injEq, and_true, SlotView.mk.injEq, Option.some_inj]
  rw [appliedIface_eq_iff hn.address hn'.address]
  simp

end

/-- **Applying over an earlier config.** Where `old` was applied to a node without the Gateway and
`new` after it, by this process or another, all steps and slots succeeding, the node has for `new`
what applying `new` alone would have left exactly when the two converge. -/
theorem converges_iff (k : Kernel) {identity : Option Controller.GatewayIdentity}
    (hidentity : identity = none ∨
      ∃ g, (1 ≤ g ∧ g ≤ maxLinkID) ∧ identity = some (newGatewayIdentity g))
    {old new : RuntimeConfig} (hold : AcceptedAs identity old) (hnew : AcceptedAs identity new)
    {env₀ env : ApplyEnv} {forwards₀ forwards : List ResolvedForward}
    {p p₁ r r₁ q q₁ : Process Machine}
    (hheldp : ∀ slot ∈ p.dp.slots, InByte slot) (hheldr : ∀ slot ∈ r.dp.slots, InByte slot)
    (hheldq : ∀ slot ∈ q.dp.slots, InByte slot)
    (hp : (Machine.node p.host).Free (estateOf identity))
    (hq : (Machine.node q.host).Free (estateOf identity))
    (h₁ : Applied k old env₀ forwards₀ p p₁) (hr : Machine.node r.host = Machine.node p₁.host)
    (h₂ : Applied k new env forwards r r₁) (h₃ : Applied k new env forwards q q₁) :
    (Machine.node r₁.host).programmed new = (Machine.node q₁.host).programmed new ↔
      Converging k identity old new := by
  rw [applied_programmed hidentity hnew hheldr h₂, applied_programmed hidentity hnew hheldq h₃, hr]
  rcases hidentity with rfl | ⟨g, hg, rfl⟩
  · exact expected_cluster_iff hold hnew hp h₁ h₂ hq
  · exact expected_local_iff hg hold hnew hp hheldp h₁ hheldr h₂ hq

/-! ### A changed address -/

/-- The process after an apply. -/
def Process.afterApply (k : Kernel) (rc : RuntimeConfig) (p : Process Machine) :
    Process Machine where
  dp := (linkApply (nodeRun k).logged p.dp rc sampleEnv [sharedForward] p.host).1.1
  host := (linkApply (nodeRun k).logged p.dp rc sampleEnv [sharedForward] p.host).2

def fresh : Process Machine := startProcess (memberConfig 7) [] Node.bare []

def readdressed : RuntimeConfig :=
  { memberConfig 7 with wireguard := { (memberConfig 7).wireguard with address := "10.99.0.3/32" } }

/-- An apply that reports nothing wrong. -/
def Succeeds (rc : RuntimeConfig) (p : Process Machine) : Bool :=
  let out := (linkApply (nodeRun sampleKernel).logged p.dp rc sampleEnv [sharedForward] p.host).1
  out.2.2.isNone && out.2.1.all (·.applied)

theorem Succeeds.applied {rc : RuntimeConfig} {p : Process Machine} (h : Succeeds rc p = true) :
    Applied sampleKernel rc sampleEnv [sharedForward] p (p.afterApply sampleKernel rc) := by
  unfold Succeeds at h
  rw [Bool.and_eq_true, Option.isNone_iff_eq_none, List.all_eq_true] at h
  exact ⟨h.1, h.2, rfl, rfl⟩

/-- The address of the config before stays on the interface. -/
theorem changedAddress_stays :
    AcceptedAs (some (newGatewayIdentity 7)) (memberConfig 7) ∧
      AcceptedAs (some (newGatewayIdentity 7)) readdressed ∧
      Applied sampleKernel (memberConfig 7) sampleEnv [sharedForward] fresh
        (fresh.afterApply sampleKernel (memberConfig 7)) ∧
      Applied sampleKernel readdressed sampleEnv [sharedForward]
        (fresh.afterApply sampleKernel (memberConfig 7))
        ((fresh.afterApply sampleKernel (memberConfig 7)).afterApply sampleKernel readdressed) ∧
      Applied sampleKernel readdressed sampleEnv [sharedForward] fresh
        (fresh.afterApply sampleKernel readdressed) ∧
      (Machine.node ((fresh.afterApply sampleKernel (memberConfig 7)).afterApply sampleKernel
          readdressed).host).programmed readdressed ≠
        (Machine.node (fresh.afterApply sampleKernel readdressed).host).programmed readdressed := by
  refine ⟨⟨rfl, memberConfig 7, by decide +kernel⟩, ⟨rfl, readdressed, by decide +kernel⟩,
    Succeeds.applied (by decide +kernel), Succeeds.applied (by decide +kernel),
    Succeeds.applied (by decide +kernel), fun h => ?_⟩
  have hslots := congrArg Programmed.slots h
  revert hslots
  decide +kernel

theorem afterApply_of {k : Kernel} {g : Int64} {rc : RuntimeConfig} {p : Process Machine}
    (hd : p.dp.Of g) (h : Accepted g rc) : (p.afterApply k rc).dp.Of g := by
  have hown : Returns (nodeRun k).logged _ (linkApply _ p.dp rc sampleEnv [sharedForward]) _ :=
    linkApply_own hd h
  obtain ⟨-, -, -, hof⟩ := hown p.host
  exact hof

/-- Another MTU over the same address. -/
def resized : RuntimeConfig :=
  { memberConfig 7 with wireguard := { (memberConfig 7).wireguard with mtu := 1420 } }

theorem converges_iff_resized :
    (Machine.node ((fresh.afterApply sampleKernel (memberConfig 7)).afterApply sampleKernel
          resized).host).programmed resized =
      (Machine.node (fresh.afterApply sampleKernel resized).host).programmed resized := by
  have haccepted : AcceptedAs (some (newGatewayIdentity 7)) (memberConfig 7) :=
    ⟨memberConfig_accepted.identity, memberConfig_accepted.valid⟩
  have hresized : AcceptedAs (some (newGatewayIdentity 7)) resized :=
    ⟨rfl, resized, by decide +kernel⟩
  have hfresh : fresh.dp.Of 7 := startDataPlane_of memberConfig_accepted []
  have hfirst : Applied sampleKernel (memberConfig 7) sampleEnv [sharedForward] fresh
      (fresh.afterApply sampleKernel (memberConfig 7)) := Succeeds.applied (by decide +kernel)
  have hsecond : Applied sampleKernel resized sampleEnv [sharedForward]
      (fresh.afterApply sampleKernel (memberConfig 7))
      ((fresh.afterApply sampleKernel (memberConfig 7)).afterApply sampleKernel resized) :=
    Succeeds.applied (by decide +kernel)
  have halone : Applied sampleKernel resized sampleEnv [sharedForward] fresh
      (fresh.afterApply sampleKernel resized) := Succeeds.applied (by decide +kernel)
  refine (converges_iff sampleKernel (.inr ⟨7, by decide, rfl⟩) haccepted hresized hfresh.held
    (afterApply_of hfresh memberConfig_accepted).held hfresh.held (bare_free _) (bare_free _) hfirst
    rfl hsecond halone).mpr ?_
  exact ⟨fun _ => ⟨rfl, .inl (by decide)⟩, fun _ h => h⟩

end WireguardGateway.Link

import WireguardGateway.Lib.Tracking
import WireguardGateway.Link.Ingress
import WireguardGateway.Link.Isolation

/-!
# Replies return through the slot they came from

The premark chain of a Local ruleset (`nftables_local.tmpl:4-10`) writes a slot's mark into the high
half of the connection's mark when a flow begins out of the slot's tunnel, and copies it to the mark
of every reply, by which the routing rule of the slot (`localRouteCommands`,
`internal/link/apply.go:153-170`) selects the slot's table. The marks and masks are texts in the
rules (`keepMask`, `internal/link/render.go:78-86`; `NewSlotIdentity`,
`internal/link/identity.go:59-74`).

The chains of all Gateways on the node run on every packet, one after another, in any order. What
they do is `LocalSlotData.effect` of their slots, one after another (`runChains_premark`).

Results:
* `foldl_stamped`, `foldl_restored`, `foldl_untouched`: what all slots do to a new packet, to a
  reply, and to a reply of a flow without a mark of theirs;
* **`replies_return`**: for every sequence of packets.

Tables do not change during the sequence. A link id is one the operator allocates, 1 to 250.
-/

namespace WireguardGateway.Link

open Lib
open Controller (RuntimeConfig)

/-! ## What the premark chains do -/

/-- The mark of a slot, as a number. -/
def LocalSlotData.bits (slot : LocalSlotData) : BitVec 32 := markConstant slot.mark

/-- The rule for new packets. -/
def LocalSlotData.stamp (slot : LocalSlotData) (s : NetState) : NetState :=
  if s.packet.iif = some slot.interface ∧ s.conn.state = .new then
    s.setCtMark (setBits (markConstant slot.keepMask) slot.bits s.conn.mark)
  else s

/-- The rule for replies. -/
def LocalSlotData.restore (slot : LocalSlotData) (s : NetState) : NetState :=
  if s.conn.reply = true ∧ s.conn.mark &&& markConstant slot.markMask = slot.bits then
    s.setMark (setBits (markConstant slot.keepMask) slot.bits s.packet.mark)
  else s

def LocalSlotData.effect (s : NetState) (slot : LocalSlotData) : NetState :=
  slot.restore (slot.stamp s)

theorem runRules_premarkRules (slot : LocalSlotData) (s : NetState) :
    runRules slot.premarkRules s = (slot.effect s, none) := by
  have hstamp : ∀ s : NetState, runRule [.on (.iifname slot.interface), .on (.ctState [.new]),
      .run .counter, .run (.setCtMark slot.keepMask slot.mark)] s = (slot.stamp s, none) := by
    intro s
    refine (runRule_effect [.iifname slot.interface, .ctState [.new]] (fun _ => rfl) s).trans ?_
    unfold LocalSlotData.stamp
    congr 1
    exact if_congr (by simp [NftMatch.holds]) rfl rfl
  have hrestore : ∀ s : NetState, runRule [.on .ctReply, .on (.ctMark slot.markMask slot.mark),
      .run .counter, .run (.setMark slot.keepMask slot.mark)] s = (slot.restore s, none) := by
    intro s
    refine (runRule_effect [.ctReply, .ctMark slot.markMask slot.mark] (fun _ => rfl) s).trans ?_
    unfold LocalSlotData.restore LocalSlotData.bits
    congr 1
    exact if_congr (by simp [NftMatch.holds]) rfl rfl
  rw [LocalSlotData.premarkRules, runRules, hstamp]
  simp only
  rw [runRules, hrestore]
  rfl

/-- The chains of all slots are their effects, one after another. -/
theorem runRules_premark (slots : List LocalSlotData) (s : NetState) :
    runRules (slots.flatMap LocalSlotData.premarkRules) s =
      (slots.foldl LocalSlotData.effect s, none) := by
  induction slots generalizing s with
  | nil => rfl
  | cons slot slots ih =>
    rw [List.flatMap_cons, runRules_append (runRules_premarkRules slot s), ih]
    rfl

/-! ## Marks -/

/-- The constants of the slot fit together. -/
structure LocalSlotData.WellMarked (slot : LocalSlotData) : Prop where
  mask : markConstant slot.markMask = markMaskBits
  keep : markConstant slot.keepMask = ~~~markMaskBits
  within : slot.bits &&& markMaskBits = slot.bits

section

variable {slot : LocalSlotData} {slots : List LocalSlotData} {s : NetState}

/-- What a slot leaves alone: everything but the marks, and of those the low halves. -/
structure LowKept (s s' : NetState) : Prop where
  packet : s'.packet.mark &&& ~~~markMaskBits = s.packet.mark &&& ~~~markMaskBits
  conn : s'.conn.mark &&& ~~~markMaskBits = s.conn.mark &&& ~~~markMaskBits
  iif : s'.packet.iif = s.packet.iif
  state : s'.conn.state = s.conn.state
  reply : s'.conn.reply = s.conn.reply

theorem LowKept.refl (s : NetState) : LowKept s s := ⟨rfl, rfl, rfl, rfl, rfl⟩

theorem LowKept.trans {s' s'' : NetState} (h : LowKept s s') (h' : LowKept s' s'') :
    LowKept s s'' :=
  ⟨h'.packet.trans h.packet, h'.conn.trans h.conn, h'.iif.trans h.iif, h'.state.trans h.state,
    h'.reply.trans h.reply⟩

theorem effect_lowKept (h : slot.WellMarked) (s : NetState) : LowKept s (slot.effect s) := by
  have hkeep : ∀ x, setBits (markConstant slot.keepMask) slot.bits x &&& ~~~markMaskBits =
      x &&& ~~~markMaskBits := fun x => by rw [h.keep, (setBits_masked h.within x).2]
  have hstamp : ∀ s, LowKept s (slot.stamp s) := by
    intro s
    unfold LocalSlotData.stamp
    split_ifs
    · exact ⟨rfl, hkeep _, rfl, rfl, rfl⟩
    · exact LowKept.refl s
  have hrestore : ∀ s, LowKept s (slot.restore s) := by
    intro s
    unfold LocalSlotData.restore
    split_ifs
    · exact ⟨hkeep _, rfl, rfl, rfl, rfl⟩
    · exact LowKept.refl s
  exact (hstamp s).trans (hrestore _)

theorem foldl_lowKept (h : ∀ slot ∈ slots, slot.WellMarked) (s : NetState) :
    LowKept s (slots.foldl LocalSlotData.effect s) := by
  induction slots generalizing s with
  | nil => exact LowKept.refl s
  | cons slot slots ih =>
    exact (effect_lowKept (h slot List.mem_cons_self) s).trans
      (ih (fun slot' hslot' => h slot' (List.mem_cons_of_mem slot hslot')) _)

theorem stamp_of_not (h : ¬ (s.packet.iif = some slot.interface ∧ s.conn.state = .new)) :
    slot.stamp s = s := if_neg h

/-- The rule for replies leaves the connection. -/
@[simp] theorem restore_conn (slot : LocalSlotData) (s : NetState) :
    (slot.restore s).conn = s.conn := by
  unfold LocalSlotData.restore
  split_ifs <;> rfl

@[simp] theorem restore_iif (slot : LocalSlotData) (s : NetState) :
    (slot.restore s).packet.iif = s.packet.iif := by
  unfold LocalSlotData.restore
  split_ifs <;> rfl

/-- A packet that no slot stamps leaves its connection as it was. -/
theorem foldl_conn (h : s.conn.state ≠ .new ∨ ∀ slot ∈ slots, s.packet.iif ≠ some slot.interface) :
    (slots.foldl LocalSlotData.effect s).conn = s.conn := by
  induction slots generalizing s with
  | nil => rfl
  | cons slot slots ih =>
    have hstamp : slot.stamp s = s := stamp_of_not fun hcatch =>
      h.elim (fun hstate => hstate hcatch.2) fun hiif => hiif slot List.mem_cons_self hcatch.1
    rw [List.foldl_cons, LocalSlotData.effect, hstamp, ih, restore_conn]
    rw [restore_conn, restore_iif]
    exact h.imp_right fun hiif slot' hslot' => hiif slot' (List.mem_cons_of_mem slot hslot')

variable {a : LocalSlotData}

/-- A new packet from the interface of the slot `a` stamps its connection. -/
theorem foldl_stamped (hmarked : a.WellMarked)
    (hinterface : ∀ slot ∈ slots, slot.interface = a.interface → slot = a)
    (hiif : s.packet.iif = some a.interface) (hnew : s.conn.state = .new)
    (ha : a ∈ slots ∨ s.conn.mark &&& markMaskBits = a.bits) :
    (slots.foldl LocalSlotData.effect s).conn.mark &&& markMaskBits = a.bits := by
  induction slots generalizing s with
  | nil => exact ha.resolve_left List.not_mem_nil
  | cons slot slots ih =>
    rw [List.foldl_cons]
    refine ih (fun slot' hslot' => hinterface slot' (List.mem_cons_of_mem slot hslot')) ?_ ?_ ?_
    · rw [LocalSlotData.effect, restore_iif, LocalSlotData.stamp]
      split_ifs <;> exact hiif
    · rw [LocalSlotData.effect, restore_conn, LocalSlotData.stamp]
      split_ifs <;> exact hnew
    · rw [LocalSlotData.effect, restore_conn]
      by_cases hsame : slot = a
      · subst hsame
        rw [LocalSlotData.stamp, if_pos ⟨hiif, hnew⟩]
        refine .inr ?_
        show setBits (markConstant slot.keepMask) slot.bits s.conn.mark &&& markMaskBits = slot.bits
        rw [hmarked.keep, (setBits_masked hmarked.within _).1]
      · have hother : slot.stamp s = s := stamp_of_not fun hcatch =>
          hsame (hinterface slot List.mem_cons_self
            (Option.some.inj (hcatch.1.symm.trans hiif)))
        rw [hother]
        exact ha.imp_left fun hmem => (List.mem_cons.mp hmem).resolve_left (Ne.symm hsame)

/-- A reply of a connection stamped by `a` gets the mark of `a`. -/
theorem foldl_restored (hmarked : ∀ slot ∈ slots, slot.WellMarked) (hbits : ∀ slot ∈ slots,
    slot.bits = a.bits → slot = a) (hstate : s.conn.state ≠ .new) (hreply : s.conn.reply = true)
    (hconn : s.conn.mark &&& markMaskBits = a.bits)
    (ha : a ∈ slots ∨ s.packet.mark &&& markMaskBits = a.bits) :
    (slots.foldl LocalSlotData.effect s).packet.mark &&& markMaskBits = a.bits := by
  induction slots generalizing s with
  | nil => exact ha.resolve_left List.not_mem_nil
  | cons slot slots ih =>
    have hslot := hmarked slot List.mem_cons_self
    have hstamp : slot.stamp s = s := stamp_of_not fun hcatch => hstate hcatch.2
    rw [List.foldl_cons, LocalSlotData.effect, hstamp]
    refine ih (fun slot' hslot' => hmarked slot' (List.mem_cons_of_mem slot hslot'))
      (fun slot' hslot' => hbits slot' (List.mem_cons_of_mem slot hslot'))
      (by rwa [restore_conn]) (by rwa [restore_conn]) (by rwa [restore_conn]) ?_
    by_cases hsame : slot = a
    · subst hsame
      refine .inr ?_
      rw [LocalSlotData.restore, if_pos ⟨hreply, by rw [hslot.mask, hconn]⟩]
      show setBits (markConstant slot.keepMask) slot.bits s.packet.mark &&& markMaskBits = slot.bits
      rw [hslot.keep, (setBits_masked hslot.within _).1]
    · have hother : slot.restore s = s := if_neg fun hcatch => hsame (hbits slot List.mem_cons_self
        (by rw [← hconn, ← hcatch.2, hslot.mask]))
      rw [hother]
      exact ha.imp_left fun hmem => (List.mem_cons.mp hmem).resolve_left (Ne.symm hsame)

/-- A packet of a connection that no slot stamped keeps its mark. -/
theorem foldl_untouched (hmarked : ∀ slot ∈ slots, slot.WellMarked ∧ slot.bits ≠ 0)
    (hstate : s.conn.state ≠ .new) (hconn : s.conn.mark &&& markMaskBits = 0) :
    slots.foldl LocalSlotData.effect s = s := by
  induction slots with
  | nil => rfl
  | cons slot slots ih =>
    obtain ⟨hslot, hne⟩ := hmarked slot List.mem_cons_self
    have hstamp : slot.stamp s = s := stamp_of_not fun hcatch => hstate hcatch.2
    have hrestore : slot.restore s = s := if_neg fun hcatch => hne
      (by rw [← hcatch.2, hslot.mask, hconn])
    rw [List.foldl_cons, LocalSlotData.effect, hstamp, hrestore]
    exact ih fun slot' hslot' => hmarked slot' (List.mem_cons_of_mem slot hslot')

end

/-! ## The marks of slots -/

section

variable {g g' slot slot' : Int64}

theorem bits_slot {a b : Nat} (ha : a < 256) (hb : b < 256) :
    (localSlotData (newSlotIdentity (Int64.ofNat a) (Int64.ofNat b))).bits =
      BitVec.ofNat 32 ((b * 2 ^ 8 + a) * 2 ^ 16) := by
  unfold LocalSlotData.bits markConstant
  rw [show (localSlotData (newSlotIdentity (Int64.ofNat a) (Int64.ofNat b))).mark =
    (newSlotIdentity (Int64.ofNat a) (Int64.ofNat b)).mark from rfl, parseHex_mark ha hb]
  rfl

theorem wellMarked_slot (hg : InByte g) (hslot : InByte slot) :
    (localSlotData (newSlotIdentity g slot)).WellMarked := by
  obtain ⟨a, ha, rfl⟩ := hg.exists_ofNat
  obtain ⟨b, hb, rfl⟩ := hslot.exists_ofNat
  constructor
  · show markConstant markMask = markMaskBits
    decide +kernel
  · have hkeep : (localSlotData (newSlotIdentity (Int64.ofNat a) (Int64.ofNat b))).keepMask =
        "0x0000ffff" := by
      simp only [localSlotData, newSlotIdentity, keepMask_markMask, Option.getD_some]
    rw [hkeep]
    decide +kernel
  · rw [bits_slot ha hb]
    exact ofNat_and_markMask (by omega)

theorem bits_inj (hg : InByte g) (hg' : InByte g') (hslot : InByte slot) (hslot' : InByte slot')
    (h : (localSlotData (newSlotIdentity g slot)).bits =
      (localSlotData (newSlotIdentity g' slot')).bits) :
    g = g' ∧ slot = slot' := by
  obtain ⟨a, ha, rfl⟩ := hg.exists_ofNat
  obtain ⟨a', ha', rfl⟩ := hg'.exists_ofNat
  obtain ⟨b, hb, rfl⟩ := hslot.exists_ofNat
  obtain ⟨b', hb', rfl⟩ := hslot'.exists_ofNat
  rw [bits_slot ha hb, bits_slot ha' hb'] at h
  have hnat := congrArg BitVec.toNat h
  rw [BitVec.toNat_ofNat, BitVec.toNat_ofNat, Nat.mod_eq_of_lt (by omega),
    Nat.mod_eq_of_lt (by omega)] at hnat
  obtain rfl : a = a' := by omega
  obtain rfl : b = b' := by omega
  exact ⟨rfl, rfl⟩

theorem bits_ne_zero (hg : InByte g) (hpos : g ≠ 0) (hslot : InByte slot) :
    (localSlotData (newSlotIdentity g slot)).bits ≠ 0 := by
  obtain ⟨a, ha, rfl⟩ := hg.exists_ofNat
  obtain ⟨b, hb, rfl⟩ := hslot.exists_ofNat
  intro hzero
  rw [bits_slot ha hb] at hzero
  have hnat := congrArg BitVec.toNat hzero
  rw [BitVec.toNat_ofNat, Nat.mod_eq_of_lt (by omega)] at hnat
  have ha0 : a = 0 := by
    simp at hnat
    omega
  exact hpos (by rw [ha0]; rfl)

/-- A mark satisfies a slot's selector iff its high half is the slot's. -/
theorem selects_iff (hg : InByte g) (hslot : InByte slot) {mark : BitVec 32} :
    Selects (newSlotIdentity g slot).fwmark mark ↔
      mark &&& markMaskBits = (localSlotData (newSlotIdentity g slot)).bits := by
  have hwithin := (wellMarked_slot hg hslot).within
  obtain ⟨a, ha, rfl⟩ := hg.exists_ofNat
  obtain ⟨b, hb, rfl⟩ := hslot.exists_ofNat
  rw [bits_slot ha hb] at hwithin ⊢
  constructor
  · rintro ⟨value, mask, hparts, hmark⟩
    rw [selectorParts_fwmark ha hb, Option.some_inj, Prod.mk.injEq] at hparts
    obtain ⟨rfl, rfl⟩ := hparts
    exact hmark.trans hwithin
  · intro hmark
    exact ⟨_, _, selectorParts_fwmark ha hb, hmark.trans hwithin.symm⟩

end

/-! ## Gateways on a node -/

/-- A Local Gateway whose table is installed on the node: a config the link accepted, with the
identity of a link id the operator allocates. -/
structure InstalledGateway where
  rc : RuntimeConfig
  id : Int64
  forwards : List ResolvedForward
  nodeName : String
  valid : ∃ raw, validate raw = .ok rc
  identified : rc.identity = some (newGatewayIdentity id)
  allocated : 1 ≤ id ∧ id ≤ maxLinkID

namespace InstalledGateway

variable (g : InstalledGateway)

theorem inByte : InByte g.id := by
  obtain ⟨hlow, hhigh⟩ := g.allocated
  refine ⟨Int64.le_trans (by decide) hlow, Int64.lt_of_le_of_lt hhigh (by decide)⟩

theorem id_ne_zero : g.id ≠ 0 := by
  intro hzero
  have hlow := g.allocated.1
  rw [hzero] at hlow
  exact absurd hlow (by decide)

theorem slot_inByte {p : Controller.LinkPeer} (hp : p ∈ g.rc.wireguard.peers) : InByte p.slot := by
  obtain ⟨raw, hraw⟩ := g.valid
  exact (validate_peers hraw).1 p hp

/-- The slots that its ruleset has rules for. -/
def slots : List LocalSlotData :=
  g.rc.wireguard.peers.map fun p => localSlotData (newSlotIdentity g.id p.slot)

/-- Its chain at the hook `prerouting` that is not for translation. -/
def premark : List NftChain :=
  (renderNftables g.rc g.forwards g.nodeName).program.filter fun c =>
    c.hook = .prerouting ∧ c.kind = .filter

theorem premark_eq :
    g.premark = [(localData g.rc (newGatewayIdentity g.id) g.forwards
      g.nodeName).premarkChain] := by
  have hhairpin : ∀ d : NftablesLocalData,
      (d.hairpinProgram.filter fun c => c.hook = .prerouting ∧ c.kind = .filter) = [] := by
    intro d
    unfold NftablesLocalData.hairpinProgram
    split_ifs <;> rfl
  unfold premark
  rw [renderNftables_local g.identified]
  show List.filter _ (NftablesLocalData.program _) = _
  rw [NftablesLocalData.program, List.filter_append, List.filter_append, hhairpin]
  rfl

end InstalledGateway

/-- The premark chains of the Gateways on the node. -/
def premarkChains (gws : List InstalledGateway) : List NftChain :=
  gws.flatMap InstalledGateway.premark

theorem runChains_premark (gws : List InstalledGateway) (s : NetState) :
    runChains (premarkChains gws) s =
      ((gws.flatMap InstalledGateway.slots).foldl LocalSlotData.effect s, .accept) := by
  induction gws generalizing s with
  | nil => rfl
  | cons g gws ih =>
    have hrun : (localData g.rc (newGatewayIdentity g.id) g.forwards g.nodeName).premarkChain.run
        s = (g.slots.foldl LocalSlotData.effect s, .accept) := by
      have hrules := runRules_premark g.slots s
      unfold NftChain.run
      rw [show (localData g.rc (newGatewayIdentity g.id) g.forwards g.nodeName).premarkChain.rules =
        g.slots.flatMap LocalSlotData.premarkRules from rfl, hrules]
      rfl
    rw [premarkChains, List.flatMap_cons, g.premark_eq, List.singleton_append, runChains, hrun,
      if_neg (fun hdrop => by cases hdrop), List.flatMap_cons, List.foldl_append]
    exact ih _

section

variable {gws : List InstalledGateway}

/-- Every slot of the node belongs to one Gateway. -/
theorem mem_slots {x : LocalSlotData} (hx : x ∈ gws.flatMap InstalledGateway.slots) :
    ∃ g ∈ gws, ∃ p ∈ g.rc.wireguard.peers, x = localSlotData (newSlotIdentity g.id p.slot) := by
  obtain ⟨g, hg, hx⟩ := List.mem_flatMap.mp hx
  obtain ⟨p, hp, rfl⟩ := List.mem_map.mp hx
  exact ⟨g, hg, p, hp, rfl⟩

theorem slots_wellMarked :
    ∀ x ∈ gws.flatMap InstalledGateway.slots, x.WellMarked ∧ x.bits ≠ 0 := by
  intro x hx
  obtain ⟨g, -, p, hp, rfl⟩ := mem_slots hx
  exact ⟨wellMarked_slot g.inByte (g.slot_inByte hp),
    bits_ne_zero g.inByte g.id_ne_zero (g.slot_inByte hp)⟩

/-- Two slots with one interface, or one mark, are the same. -/
theorem slots_distinct {x y : LocalSlotData} (hx : x ∈ gws.flatMap InstalledGateway.slots)
    (hy : y ∈ gws.flatMap InstalledGateway.slots) (h : x.interface = y.interface ∨
      x.bits = y.bits) :
    x = y := by
  obtain ⟨g, -, p, hp, rfl⟩ := mem_slots hx
  obtain ⟨g', -, p', hp', rfl⟩ := mem_slots hy
  have hsame : g.id = g'.id ∧ p.slot = p'.slot :=
    h.elim interface_inj (bits_inj g.inByte g'.inByte (g.slot_inByte hp) (g'.slot_inByte hp'))
  rw [hsame.1, hsame.2]

end

/-! ## Whole runs -/

section

variable {φ : Type} {gws : List InstalledGateway} {t : Tracker φ} {x : Passage φ}

theorem emerges_premark :
    x.emerges t (premarkChains gws) =
      (gws.flatMap InstalledGateway.slots).foldl LocalSlotData.effect (x.view t) := by
  rw [Passage.emerges, runChains_premark]

/-- Replies are never in state `new`. -/
theorem reply_state (hreply : x.reply = true) : x.state t ≠ .new := by
  simp only [Passage.state, hreply, if_true]
  split_ifs <;> decide

variable [DecidableEq φ] {xs : List (Traffic φ)}

/-- A packet that is not the first of its flow finds an entry. -/
theorem entry_of_reply {mask : BitVec 32} {us vs : List (Traffic φ)}
    (h : TracksIn (premarkChains gws) mask (us ++ .packet x :: vs)) (hreply : x.reply = true) :
    ∃ e, Tracker.run (premarkChains gws) us x.flow = some e := by
  cases hentry : Tracker.run (premarkChains gws) us x.flow with
  | some e => exact ⟨e, rfl⟩
  | none =>
    have henabled : Tracker.Enabled mask (Tracker.run (premarkChains gws) us) (.packet x) := h.at
    exact absurd ((henabled hentry).1.symm.trans hreply) Bool.false_ne_true

/-- The connection of a flow whose new packets came through the slot `a` carries its mark. -/
theorem flow_stamped {a : LocalSlotData} (ha : a ∈ gws.flatMap InstalledGateway.slots) {flow : φ}
    (h : TracksIn (premarkChains gws) markMaskBits xs)
    (hnew : NewPackets (premarkChains gws) xs flow fun x => x.packet.iif = some a.interface) :
    ∀ e, Tracker.run (premarkChains gws) xs flow = some e → e.mark &&& markMaskBits = a.bits := by
  refine h.mark_invariant hnew (P := fun mark => mark &&& markMaskBits = a.bits) ?_ ?_ ?_
  · intro t x _ hiif hstate _ _
    rw [emerges_premark]
    exact foldl_stamped (slots_wellMarked a ha).1 (fun slot hslot hi => slots_distinct hslot ha
      (.inl hi)) hiif hstate (.inl ha)
  · intro t x e he hstate hmark
    rw [emerges_premark, foldl_conn (.inl hstate)]
    show x.ctMark t &&& markMaskBits = a.bits
    rw [Passage.ctMark, he]
    exact hmark
  · intro m m' hsame hm'
    exact hsame.trans hm'

/-- The connection of a flow that entered through no Gateway carries no mark of theirs. -/
theorem flow_unstamped (flow : φ) (h : TracksIn (premarkChains gws) markMaskBits xs)
    (hnew : NewPackets (premarkChains gws) xs flow fun x =>
      ∀ slot ∈ gws.flatMap InstalledGateway.slots, x.packet.iif ≠ some slot.interface) :
    ∀ e, Tracker.run (premarkChains gws) xs flow = some e → e.mark &&& markMaskBits = 0 := by
  refine h.mark_invariant hnew (P := fun mark => mark &&& markMaskBits = 0) ?_ ?_ ?_
  · intro t x _ hiif _ hfresh hold
    rw [emerges_premark, foldl_conn (.inr hiif)]
    show x.ctMark t &&& markMaskBits = 0
    rw [Passage.ctMark]
    cases he : t x.flow with
    | none => exact hfresh he
    | some e => exact hold e he
  · intro t x e he hstate hmark
    rw [emerges_premark, foldl_conn (.inl hstate)]
    show x.ctMark t &&& markMaskBits = 0
    rw [Passage.ctMark, he]
    exact hmark
  · intro m m' hsame hm'
    exact hsame.trans hm'

end

/-- **Replies return.** With the tables of any Gateways with distinct link ids on the node, for
every sequence of packets:
* a reply of a flow whose new packets all came through one slot leaves the premark chains
  with that slot's mark in its high half, and satisfies the selector of that slot's
  routing rule and of no other's;
* a reply of a flow that entered through no Gateway interface keeps its mark;
* no packet's and no connection's mark is changed in its low half. -/
theorem replies_return {φ : Type} [DecidableEq φ] (gws : List InstalledGateway)
    (hids : (gws.map InstalledGateway.id).Nodup) {xs : List (Traffic φ)}
    (h : TracksIn (premarkChains gws) markMaskBits xs) :
    (∀ g ∈ gws, ∀ p ∈ g.rc.wireguard.peers, ∀ us x vs, xs = us ++ .packet x :: vs → x.reply = true →
      NewPackets (premarkChains gws) us x.flow
        (fun y => y.packet.iif = some (newSlotIdentity g.id p.slot).interface) →
      let mark := (x.emerges (Tracker.run (premarkChains gws) us) (premarkChains gws)).packet.mark
      mark &&& markMaskBits = markConstant (newSlotIdentity g.id p.slot).mark ∧
        ∀ g' ∈ gws, ∀ p' ∈ g'.rc.wireguard.peers,
          (Selects (newSlotIdentity g'.id p'.slot).fwmark mark ↔ g' = g ∧ p'.slot = p.slot)) ∧
    (∀ us x vs, xs = us ++ .packet x :: vs → x.reply = true →
      NewPackets (premarkChains gws) us x.flow
        (fun y => ∀ g ∈ gws, ∀ p ∈ g.rc.wireguard.peers,
          y.packet.iif ≠ some (newSlotIdentity g.id p.slot).interface) →
      (x.emerges (Tracker.run (premarkChains gws) us) (premarkChains gws)).packet.mark =
        x.packet.mark) ∧
    ∀ s, (runChains (premarkChains gws) s).1.packet.mark &&& 0x0000ffff =
      s.packet.mark &&& 0x0000ffff ∧
      (runChains (premarkChains gws) s).1.conn.mark &&& 0x0000ffff =
        s.conn.mark &&& 0x0000ffff := by
  refine ⟨?_, ?_, ?_⟩
  · rintro g hg p hp us x vs rfl hreply hnew
    have hslot : localSlotData (newSlotIdentity g.id p.slot) ∈ gws.flatMap InstalledGateway.slots :=
      List.mem_flatMap.mpr ⟨g, hg, List.mem_map.mpr ⟨p, hp, rfl⟩⟩
    obtain ⟨e, he⟩ := entry_of_reply h hreply
    have hconn := flow_stamped hslot h.left hnew e he
    have hmark : (x.emerges (Tracker.run (premarkChains gws) us) (premarkChains gws)).packet.mark
        &&& markMaskBits = (localSlotData (newSlotIdentity g.id p.slot)).bits := by
      rw [emerges_premark]
      refine foldl_restored (fun slot hs => (slots_wellMarked slot hs).1)
        (fun slot hs hb => slots_distinct hs hslot (.inr hb)) (reply_state hreply) hreply ?_
          (.inl hslot)
      show x.ctMark _ &&& markMaskBits = _
      rw [Passage.ctMark, he]
      exact hconn
    refine ⟨hmark, fun g' hg' p' hp' => ?_⟩
    rw [selects_iff g'.inByte (g'.slot_inByte hp'), hmark]
    constructor
    · intro hbits
      obtain ⟨hid, hs⟩ := bits_inj g.inByte g'.inByte (g.slot_inByte hp) (g'.slot_inByte hp') hbits
      exact ⟨List.inj_on_of_nodup_map hids hg' hg hid.symm, hs.symm⟩
    · rintro ⟨rfl, hs⟩
      rw [hs]
  · rintro us x vs rfl hreply hnew
    obtain ⟨e, he⟩ := entry_of_reply h hreply
    have hconn := flow_unstamped x.flow h.left (fun us' y vs' hsplit hflow hstate slot hs => by
      obtain ⟨g, hg, p, hp, rfl⟩ := mem_slots hs
      exact hnew us' y vs' hsplit hflow hstate g hg p hp) e he
    rw [emerges_premark, foldl_untouched slots_wellMarked (reply_state hreply)]
    · rfl
    · show x.ctMark _ &&& markMaskBits = 0
      rw [Passage.ctMark, he]
      exact hconn
  · intro s
    have hmarked : ∀ slot ∈ gws.flatMap InstalledGateway.slots, slot.WellMarked := fun slot hs =>
      (slots_wellMarked slot hs).1
    have hlow := foldl_lowKept hmarked s
    have hmask : ~~~markMaskBits = 0x0000ffff := by decide
    rw [runChains_premark, ← hmask]
    exact ⟨hlow.packet, hlow.conn⟩

/-- The Gateway of `memberConfig`. -/
def memberGateway (id : Int64) (h : validate (memberConfig id) = .ok (memberConfig id) ∧
    1 ≤ id ∧ id ≤ maxLinkID) : InstalledGateway where
  rc := memberConfig id
  id := id
  forwards := [sharedForward]
  nodeName := "node-a"
  valid := ⟨_, h.1⟩
  identified := rfl
  allocated := h.2

def sampleGateways : List InstalledGateway :=
  [memberGateway 7 (by decide +kernel), memberGateway 8 (by decide +kernel)]

/-- The backend's answer to `clientPacket`, which arrives with a mark of its own. -/
def backendPacket : NetPacket :=
  { iif := some "cali0", ipv4 := true, source := "10.1.2.3", destination := "198.51.100.4"
    protocol := "tcp", sport := 8443, dport := 50000, syn := true, mark := 0x00004000 }

/-- A flow through Gateway 7, and its answer. -/
def clientPassage : Passage Unit :=
  { flow := (), reply := false, related := false, packet := clientPacket.packet, fresh := 0 }

def backendPassage : Passage Unit :=
  { flow := (), reply := true, related := false, packet := backendPacket, fresh := 0 }

theorem replies_return_answered :
    TracksIn (premarkChains sampleGateways) markMaskBits [.packet clientPassage,
      .packet backendPassage] ∧
      (backendPassage.emerges (Tracker.run (premarkChains sampleGateways) [.packet clientPassage])
        (premarkChains sampleGateways)).packet.mark &&& markMaskBits =
          markConstant "0x00070000" := by
  have htracks : TracksIn (premarkChains sampleGateways) markMaskBits
      [.packet clientPassage, .packet backendPassage] := by decide +kernel
  have hnew : NewPackets (premarkChains sampleGateways) [.packet clientPassage] backendPassage.flow
      fun y => y.packet.iif = some (newSlotIdentity 7 0).interface := by
    rintro us x vs hsplit - -
    cases us with
    | nil =>
      cases hsplit
      decide +kernel
    | cons a us =>
      have hempty := (List.cons.inj hsplit).2
      exact absurd hempty (by simp)
  have hmark := ((replies_return sampleGateways (by decide) htracks).1 _ List.mem_cons_self _
    List.mem_cons_self [.packet clientPassage] backendPassage [] rfl rfl hnew).1
  have hconstant : (newSlotIdentity 7 0).mark = "0x00070000" := by decide +kernel
  exact ⟨htracks, hconstant ▸ hmark⟩

end WireguardGateway.Link

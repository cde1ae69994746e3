import WireguardGateway.Controller.Zones
import WireguardGateway.Gcp.Walk

/-!
# Slots and tunnel addresses over whole runs

Which member holds which slot is decided by the records alone: a pass takes the slots it reads as
free. `offeredSlots` are the slots a pass may hand out, from what its reads return and how many new
members there are; a pass whose offered slots are held by no record of the Gateway
(`Pass.offersFree`) keeps the slots distinct.
-/

namespace WireguardGateway.Gcp

open Lib Controller

/-! ## The invariant -/

/-- `key` holds a record of the Gateway. -/
def Gateway.Holds (g : Gateway) (s : Store) (key : String) (r : Record) : Prop :=
  s.lookup key = some r ∧ r.gatewayUID = g.uid

/-- The Gateway's records sit under their own object names and have distinct slots below capacity,
each with the address of its slot. -/
structure MemberInv (g : Gateway) (s : Store) : Prop where
  kept : ∀ {key r}, g.Holds s key r → r.project = g.project ∧ g.secretName r.name = .ok key
  bounded : ∀ {key r}, g.Holds s key r → ∃ i : Nat, r.slot = i ∧ i < g.capacity
  address : ∀ {key r}, g.Holds s key r →
    slotAddress g.gatewayAddress g.eligibleAddresses r.slot = .ok r.tunnelAddress
  distinct : ∀ {key key' r r'}, g.Holds s key r → g.Holds s key' r' → r.slot = r'.slot →
    key = key'

/-- The Gateway's records are of its project and sit under their own object names. -/
def RecordsKept (g : Gateway) (s : Store) : Prop :=
  ∀ key r, g.Holds s key r → r.project = g.project ∧ g.secretName r.name = .ok key

variable {s : Store} {key link subnet : String} {r : Record} {p : Pass} {a₀ : Adoption}
  {done tracked : List String} {new : List (String × Record)} {w₀ : World}

theorem MemberInv.recordsKept {g : Gateway} (h : MemberInv g s) : RecordsKept g s :=
  fun _ _ => h.kept

/-- A creation under a free object name that takes a slot no record of the Gateway holds. -/
structure CreateGuard (g : Gateway) (s : Store) (key : String) (rec : Record) : Prop where
  absent : s.lookup key = none
  keyed : g.secretName rec.name = .ok key
  uid : rec.gatewayUID = g.uid
  project : rec.project = g.project
  bounded : ∃ i : Nat, rec.slot = i ∧ i < g.capacity
  address : slotAddress g.gatewayAddress g.eligibleAddresses rec.slot = .ok rec.tunnelAddress
  unheld : ∀ {k r}, g.Holds s k r → r.slot ≠ rec.slot

/-- The writes under which `MemberInv` is kept. -/
def SlotGuard (g : Gateway) (s : Store) : Write → Prop
  | .create key rec => CreateGuard g s key rec
  | .relabel _ labels => ∀ x ∈ labels, x.1.isMutable
  | .delete _ => True

variable {g : Gateway}

/-- A record found after a guarded write was created by it, or was there with the same identity. -/
theorem lookup_commit {x : Write} (hx : SlotGuard g s x) (h : (s.commit x).lookup key = some r) :
    (∃ rec c, x = .create key rec ∧ r = rec.assign c) ∨
      ∃ r₀, s.lookup key = some r₀ ∧ r₀.SameIdentity r := by
  by_cases hk : key = x.key
  · cases x with
    | create k rec =>
      obtain rfl : key = k := hk
      rw [Store.lookup_commit_create] at h
      cases h
      exact .inl ⟨rec, s.clock, rfl, rfl⟩
    | relabel k ls =>
      obtain rfl : key = k := hk
      cases hr : s.lookup key with
      | none =>
        simp only [Store.commit, hr] at h
        cases h
      | some r₀ =>
        rw [Store.lookup_commit_relabel hr] at h
        cases h
        exact .inr ⟨r₀, rfl, r₀.stamp_relabel_sameIdentity hx s.clock⟩
    | delete k =>
      obtain rfl : key = k := hk
      rw [Store.lookup_commit_delete] at h
      cases h
  · rw [Store.lookup_commit_of_ne hk] at h
    exact .inr ⟨r, h, .refl r⟩

theorem holds_commit {x : Write} (hx : SlotGuard g s x) (h : g.Holds (s.commit x) key r) :
    (∃ rec c, x = .create key rec ∧ r = rec.assign c) ∨
      ∃ r₀, g.Holds s key r₀ ∧ r₀.SameIdentity r := by
  obtain ⟨hl, hu⟩ := h
  rcases lookup_commit hx hl with hnew | ⟨r₀, hr₀, hid⟩
  · exact .inl hnew
  · exact .inr ⟨r₀, ⟨hr₀, hid.gatewayUID ▸ hu⟩, hid⟩

/-- **Guarded writes keep the invariant.** -/
theorem MemberInv.commit {x : Write} (h : MemberInv g s) (hx : SlotGuard g s x) :
    MemberInv g (s.commit x) := by
  refine ⟨fun hh => ?_, fun hh => ?_, fun hh => ?_, fun {key key' r r'} hh hh' hslot => ?_⟩
  · rcases holds_commit hx hh with ⟨rec, c, rfl, rfl⟩ | ⟨r₀, h₀, hid⟩
    · exact ⟨hx.project, hx.keyed⟩
    · rw [hid.project, hid.name]
      exact h.kept h₀
  · rcases holds_commit hx hh with ⟨rec, c, rfl, rfl⟩ | ⟨r₀, h₀, hid⟩
    · exact hx.bounded
    · rw [hid.slot]
      exact h.bounded h₀
  · rcases holds_commit hx hh with ⟨rec, c, rfl, rfl⟩ | ⟨r₀, h₀, hid⟩
    · exact hx.address
    · rw [hid.slot, hid.tunnelAddress]
      exact h.address h₀
  · rcases holds_commit hx hh with ⟨rec, c, rfl, rfl⟩ | ⟨r₀, h₀, hid⟩
    · rcases holds_commit hx hh' with ⟨rec', c', hc, rfl⟩ | ⟨r₀', h₀', hid'⟩
      · cases hc; rfl
      · exact absurd (hid'.slot.symm.trans hslot.symm) (hx.unheld h₀')
    · rcases holds_commit hx hh' with ⟨rec', c', rfl, rfl⟩ | ⟨r₀', h₀', hid'⟩
      · exact absurd (hid.slot.symm.trans hslot) (hx.unheld h₀)
      · exact h.distinct h₀ h₀' (hid.slot.symm.trans (hslot.trans hid'.slot))

/-! ## The slots a pass may hand out -/

/-- The slots of the records a pass reads as its own. -/
def readSlots (g : Gateway) (e : Env) (s : Store) (names : List String) : List Int :=
  (names.filterMap (g.seen e s)).map (·.slot)

/-- The object name a record of `n` would take, if it is free. -/
def Gateway.freeKey (g : Gateway) (s : Store) (n : String) : Option String :=
  (g.secretName n).toOption.filter fun key => (s.lookup key).isNone

/-- A member the pass wants to create a record for, and whose object name is free. -/
def isNewcomer (g : Gateway) (e : Env) (snap : Snapshot) (s : Store) (n : String) : Bool :=
  (snap.listedByName.lookup n).any (·.verdict = .present) && (g.seen e s n).isNone &&
    (g.freeKey s n).isSome

def newcomers (g : Gateway) (e : Env) (snap : Snapshot) (s : Store) : List String :=
  snap.listedByName.keys.filter (isNewcomer g e snap s)

/-- The lowest slots read as free, one for each newcomer. -/
def offeredSlots (g : Gateway) (e : Env) (snap : Snapshot) (s : Store) (tracked : List String) :
    List Nat :=
  (freeSlots (readSlots g e s (allNames snap tracked)) g.capacity).take
    (newcomers g e snap s).length

/-- No slot the pass offers is held by a record of the Gateway. A pass with a failing read stops
before it offers any. -/
def Pass.offersFree (p : Pass) (g : Gateway) (s : Store) : Bool :=
  match p.snap, p.env.listRead.serve s with
  | some snap, .ok v =>
    let tracked := g.recordNames v
    !(allNames snap tracked).all (fun n => ((p.env.getRead n).serve s).toBool) ||
      s.records.all fun r => r.gatewayUID ≠ g.uid ∨
        ∀ i ∈ offeredSlots g p.env snap s tracked, r.slot ≠ (i : Int)
  | _, _ => true

variable {e : Env} {snap : Snapshot} {w w' : World}

theorem Pass.offersFree_iff :
    p.offersFree g s ↔ ∀ snap v, p.snap = some snap → p.env.listRead.serve s = .ok v →
      (∀ n ∈ allNames snap (g.recordNames v), ∃ v', (p.env.getRead n).serve s = .ok v') →
      ∀ key r, g.Holds s key r →
        ∀ i ∈ offeredSlots g p.env snap s (g.recordNames v), r.slot ≠ (i : Int) := by
  have hok : ∀ {x : Except String Store}, x.toBool = true ↔ ∃ v, x = .ok v := fun {x} => by
    cases x <;> simp [Except.toBool]
  unfold Pass.offersFree
  split
  · rename_i snap v hsnap hv
    simp only [hsnap, hv, Bool.or_eq_true, Bool.not_eq_true', ← Bool.not_eq_true,
      List.all_eq_true, hok, decide_eq_true_eq, Store.mem_records, Gateway.Holds]
    constructor
    · rintro h snap v ⟨⟩ ⟨⟩ hreads key r ⟨hr, hu⟩
      rcases h with h | h
      · exact absurd hreads h
      · rcases h r ⟨key, hr⟩ with h | h
        · exact absurd hu h
        · exact h
    · intro h
      by_cases hreads : ∀ n ∈ allNames snap (g.recordNames v),
          ∃ v', (p.env.getRead n).serve s = .ok v'
      · refine .inr fun r ⟨key, hr⟩ => ?_
        by_cases hu : r.gatewayUID = g.uid
        · exact .inr (h snap v rfl rfl hreads key r ⟨hr, hu⟩)
        · exact .inl hu
      · exact .inl hreads
  · rename_i hnone
    simp only [true_iff]
    exact fun snap v hsnap hv => absurd hv (hnone snap v hsnap)

theorem freeSlots_congr {occ occ' : List Int} (h : ∀ i, i ∈ occ ↔ i ∈ occ') (capacity : Nat) :
    freeSlots occ capacity = freeSlots occ' capacity := by
  unfold freeSlots
  exact List.filter_congr fun i _ => by simp only [h]

theorem Adopted.freeSlots_eq {names : List String} {a : Adoption} (h : Adopted g e s names a) :
    freeSlots a.occupied g.capacity = freeSlots (readSlots g e s names) g.capacity := by
  refine freeSlots_congr (fun i => ?_) _
  rw [h.occupied, readSlots, List.mem_map]
  simp only [List.mem_filterMap]
  constructor
  · rintro ⟨n, hn, r, hr, rfl⟩
    exact ⟨r, ⟨n, hn, hr⟩, rfl⟩
  · rintro ⟨r, ⟨n, hn, hr⟩, rfl⟩
    exact ⟨n, hn, r, hr, rfl⟩

/-- There are at least as many newcomers as records created. -/
theorem Allocation.length_le (ha : Adopted g e w₀.store (allNames snap tracked) a₀)
    (hdone : done <+: candidates snap a₀.adopted)
    (h : Allocation g snap a₀.occupied w₀ done new w) :
    new.length ≤ (newcomers g e snap w₀.store).length := by
  have hnd : (new.map (·.2.name)).Nodup :=
    (h.names.trans hdone.sublist).nodup (nodup_candidates a₀.adopted)
  have hsub : ∀ n ∈ new.map (·.2.name), n ∈ newcomers g e snap w₀.store := by
    intro n hn
    have hcand : n ∈ candidates snap a₀.adopted := hdone.subset (h.names.subset hn)
    obtain ⟨⟨l, hl, hv⟩, hnone⟩ := mem_candidates.mp hcand
    obtain ⟨p, hp, rfl⟩ := List.mem_map.mp hn
    have hmem : p.2.name ∈ allNames snap tracked := mem_allNames.mpr (.inl (by rw [hl]; rfl))
    rw [ha.lookup, if_pos hmem] at hnone
    refine List.mem_filter.mpr ⟨AList.mem_keys.mpr (AList.lookup_isSome.mp (by rw [hl]; rfl)), ?_⟩
    simp [isNewcomer, hl, hv, hnone, Gateway.freeKey, (h.fresh p hp).1, h.absent p hp,
      Except.toOption, Option.filter_some]
  simpa using (List.subperm_of_subset hnd hsub).length_le

/-- The created records take offered slots. -/
theorem Allocation.slot_mem_offered (ha : Adopted g e w₀.store (allNames snap tracked) a₀)
    (hdone : done <+: candidates snap a₀.adopted) (h : Allocation g snap a₀.occupied w₀ done new w)
    {p : String × Record} (hp : p ∈ new) :
    ∃ i ∈ offeredSlots g e snap w₀.store tracked, p.2.slot = (i : Nat) ∧ i < g.capacity := by
  have hs : p.2.slot ∈ new.map (·.2.slot) := List.mem_map_of_mem hp
  rw [h.slots, ha.freeSlots_eq] at hs
  obtain ⟨i, hi, hslot⟩ := List.mem_map.mp hs
  refine ⟨i, (List.take_prefix_take_left (h.length_le ha hdone)).subset hi, hslot.symm, ?_⟩
  exact (mem_freeSlots.mp (List.mem_of_mem_take hi)).1

theorem Allocation.nodup_slots {occ : List Int} (h : Allocation g snap occ w₀ done new w) :
    (new.map (·.2.slot)).Nodup := by
  rw [h.slots]
  exact ((nodup_freeSlots occ g.capacity).sublist (List.take_sublist _ _)).map
    fun _ _ h => Int.natCast_inj.mp h

/-- The creations of a pass are guarded when no offered slot is held. -/
theorem Allocation.appends (ha : Adopted g e w₀.store (allNames snap tracked) a₀)
    (hdone : done <+: candidates snap a₀.adopted) (h : Allocation g snap a₀.occupied w₀ done new w)
    (hfree : ∀ key r, g.Holds w₀.store key r →
      ∀ i ∈ offeredSlots g e snap w₀.store tracked, r.slot ≠ (i : Int)) :
    World.Appends (SlotGuard g) w₀ w := by
  refine ⟨creations new, h.log, h.store, .of_split fun us x vs hsplit => ?_⟩
  -- cut `new` where its creations are cut
  obtain ⟨pre, post, hnew, rfl, hpost⟩ := List.map_eq_append_iff.mp hsplit
  obtain ⟨p, post, rfl, rfl, rfl⟩ := List.map_eq_cons_iff.mp hpost
  have hp : p ∈ new := by rw [hnew]; simp
  obtain ⟨hkey, l, slot, address, priv, -, haddr, hrec⟩ := h.fresh p hp
  obtain ⟨i, hi, hslot, hlt⟩ := h.slot_mem_offered ha hdone hp
  have hkeys := h.keys
  have hslots := h.nodup_slots
  rw [hnew, List.map_append, List.map_cons] at hkeys hslots
  have hnot : p.1 ∉ pre.map Prod.fst := fun hm =>
    (List.nodup_append.mp hkeys).2.2 _ hm _ List.mem_cons_self rfl
  refine ⟨?_, hkey, by rw [hrec]; rfl, by rw [hrec]; rfl, ⟨i, hslot, hlt⟩, ?_, ?_⟩
  · exact (lookup_replay_creations_of_notMem hnot).trans (h.absent p hp)
  · rw [hrec]
    exact haddr
  · intro k r hr
    by_cases hk : k ∈ pre.map Prod.fst
    · -- created earlier in this pass: its slot is another one
      obtain ⟨q, hq, rfl⟩ := List.mem_map.mp hk
      obtain ⟨c, hc⟩ := lookup_replay_creations_of_mem (s := w₀.store)
        (List.nodup_append.mp hkeys).1 hq
      have hr' : r = q.2.assign c := Option.some.inj (hr.1.symm.trans hc)
      rw [hr']
      exact (List.nodup_append.mp hslots).2.2 _ (List.mem_map_of_mem hq) _ List.mem_cons_self
    · rw [hslot]
      exact hfree k r ⟨(lookup_replay_creations_of_notMem hk).symm.trans hr.1, hr.2⟩ i hi

theorem WalkGuard.slotGuard {x : Write} (h : WalkGuard s x) : SlotGuard g s x := by
  cases x with
  | create => exact h.elim
  | relabel | delete => exact h

/-- **A pass whose offered slots are free writes under the guard.** -/
theorem Pass.appends (hfree : p.offersFree g w.store) :
    World.Appends (SlotGuard g) w (p.exec g w).2 := by
  rw [Pass.offersFree_iff] at hfree
  rcases p.exec_cases g w with ⟨-, hw, -⟩ | ⟨snap, ts, hsnap, hend⟩
  · rw [hw]
    exact .refl w
  generalize p.exec g w = out at hend
  obtain ⟨r, w'⟩ := out
  cases hend with
  | unread => exact .refl _
  | stopped htracked hadopted hstop =>
    obtain ⟨v, hv, rfl⟩ := listRecordNames_ok htracked
    obtain ⟨⟨done, new, hdone, halloc⟩, -⟩ := hstop
    exact halloc.appends hadopted hdone (hfree snap v hsnap hv hadopted.reads)
  | walked htracked hadopted halloc hwalk =>
    obtain ⟨v, hv, rfl⟩ := listRecordNames_ok htracked
    exact (halloc.allocation.appends hadopted (List.prefix_refl _)
      (hfree snap v hsnap hv hadopted.reads)).trans (hwalk.appends.mono fun _ _ =>
        WalkGuard.slotGuard)

/-! ## Runs -/

/-- Every pass of the run offers free slots only, in the store it starts from. -/
abbrev RunOffersFree (g : Gateway) : World → List Pass → Prop :=
  Guarded (Pass.step g) fun w p => p.offersFree g w.store

theorem runPasses_appends {ps : List Pass} (h : RunOffersFree g w ps) :
    World.Appends (SlotGuard g) w (runPasses g w ps) := by
  induction h with
  | nil w => exact .refl w
  | cons head _ ih => exact (Pass.appends head).trans ih

/-- A pass whose reads reflect the store sees every record of the Gateway. -/
theorem EnvOf.Live.seen (he : e.Live) (hkept : RecordsKept g s) (hr : g.Holds s key r) {v : Store}
    (hv : (e.getRead r.name).serve s = .ok v) :
    g.seen e s r.name = some r := by
  obtain ⟨hproject, hkey⟩ := hkept key r hr
  rw [(he.get r.name).serve hv] at hv
  simp only [Gateway.seen, hkey, hv, hr.1, Option.filter_some, Gateway.owns, hr.2, hproject,
    and_self, decide_true, if_true]

/-- A record of the Gateway is tracked by a live pass. -/
theorem RecordsKept.mem_recordNames (h : RecordsKept g s) (hr : g.Holds s key r) :
    r.name ∈ g.recordNames s := by
  obtain ⟨ns, hns, -⟩ := secretName_ok (h key r hr).2
  exact Gateway.mem_recordNames.mpr
    ⟨nameResourceNames_ne_empty hns, r, Store.mem_records.mpr ⟨key, hr.1⟩, hr.2, rfl⟩

/-- Live reads find every held slot, so what they leave free is free. -/
theorem Pass.offersFree_of_live (he : p.env.Live) (hinv : MemberInv g s) :
    p.offersFree g s := by
  rw [Pass.offersFree_iff]
  intro snap v hsnap hv hreads key r hr i hi hslot
  obtain rfl := he.list.serve hv
  have hmem : r.name ∈ allNames snap (g.recordNames v) :=
    mem_allNames.mpr (.inr (hinv.recordsKept.mem_recordNames hr))
  obtain ⟨v', hv'⟩ := hreads r.name hmem
  have hseen := he.seen hinv.recordsKept hr hv'
  refine (mem_freeSlots.mp (List.mem_of_mem_take hi)).2 ?_
  rw [← hslot]
  exact List.mem_map.mpr ⟨r, List.mem_filterMap.mpr ⟨r.name, hmem, hseen⟩, rfl⟩

/-- A live pass keeps the invariant. -/
theorem MemberInv.exec (he : p.env.Live) (hinv : MemberInv g w.store) :
    MemberInv g (p.exec g w).2.store :=
  (Pass.appends (Pass.offersFree_of_live he hinv)).invariant (fun _ _ => MemberInv.commit) hinv

theorem runOffersFree_of_live : ∀ {ps : List Pass} {w : World}, MemberInv g w.store →
    (∀ p ∈ ps, p.env.Live) → RunOffersFree g w ps
  | [], w, _, _ => .nil w
  | p :: ps, w, hinv, hlive => by
    have he := hlive p List.mem_cons_self
    exact .cons (Pass.offersFree_of_live he hinv)
      (runOffersFree_of_live (hinv.exec he) fun q hq => hlive q (List.mem_cons_of_mem _ hq))

/-! ## What the slots mean -/

/-- No record of the Gateway yet. -/
def Gateway.Unrecorded (g : Gateway) (s : Store) : Prop := ∀ key r, ¬ g.Holds s key r

theorem MemberInv.of_unrecorded (h : g.Unrecorded s) : MemberInv g s :=
  ⟨fun hr => (h _ _ hr).elim, fun hr => (h _ _ hr).elim, fun hr => (h _ _ hr).elim,
    fun hr => (h _ _ hr).elim⟩

/-- `slotAddress` indexes the Gateway's own address followed by the eligible ones. -/
theorem slotAddress_natCast (gw : String) (eligible : List String) (i : Nat) :
    slotAddress gw eligible i =
      ((gw :: eligible)[i]?).elim (.error (.noEligibleAddress i eligible.length)) .ok := by
  cases i with
  | zero => rfl
  | succ i =>
    have h1 : ¬ ((i + 1 : Nat) : Int) = 0 := by omega
    have h2 : ¬ ((i + 1 : Nat) : Int) - 1 < 0 := by omega
    have h3 : (((i + 1 : Nat) : Int) - 1).toNat = i := by omega
    rw [List.getElem?_cons_succ]
    cases ha : eligible[i]? with
    | none => simp only [slotAddress, h1, h2, h3, if_false, ha, Option.elim_none]
    | some a => simp only [slotAddress, h1, h2, h3, if_false, ha, Option.elim_some]

/-- The plan of the Gateway's tunnel: capacity and eligible addresses as computed from the subnet
and the two tunnel ends. -/
structure Gateway.Planned (g : Gateway) (subnet link : String) : Prop where
  accepted : tunnelAddresses subnet g.gatewayAddress link = .ok g.eligibleAddresses
  capacity : g.capacity = Controller.capacity subnet

theorem Gateway.Planned.plan (h : g.Planned subnet link) :
    TunnelPlan subnet g.gatewayAddress link g.eligibleAddresses :=
  .of_tunnelAddresses h.accepted

/-- Every slot below capacity has an address. -/
theorem Gateway.Planned.slotAddress_ok (h : g.Planned subnet link) {i : Nat} (hi : i < g.capacity)
    (err : PassError) :
    slotAddress g.gatewayAddress g.eligibleAddresses i ≠ .error err := by
  rw [h.capacity, ← h.plan.length] at hi
  rw [slotAddress_natCast, List.getElem?_eq_getElem hi]
  exact fun h => nomatch h

/-- The records of the Gateway hold distinct slots below capacity, and so distinct usable tunnel
addresses other than the link's. -/
structure SlotsOk (g : Gateway) (subnet link : String) (s : Store) : Prop where
  slot_lt : ∀ {key r}, g.Holds s key r → 0 ≤ r.slot ∧ r.slot < g.capacity
  capacity_le : g.capacity ≤ 256
  slots_distinct : ∀ {key key' r r'}, g.Holds s key r → g.Holds s key' r' → key ≠ key' →
    r.slot ≠ r'.slot
  address : ∀ {key r}, g.Holds s key r →
    slotAddress g.gatewayAddress g.eligibleAddresses r.slot = .ok r.tunnelAddress
  addresses_distinct : ∀ {key key' r r'}, g.Holds s key r → g.Holds s key' r' → key ≠ key' →
    parseIP r.tunnelAddress ≠ parseIP r'.tunnelAddress
  usable : ∀ {key r}, g.Holds s key r → UsableAddress subnet r.tunnelAddress
  ne_link : ∀ {key r}, g.Holds s key r → parseIP r.tunnelAddress ≠ parseIP link

theorem MemberInv.slotsOk (hp : g.Planned subnet link) (h : MemberInv g s) :
    SlotsOk g subnet link s := by
  have hplan := hp.plan
  -- a record's address is the one at its slot in the plan
  have hget : ∀ {key r}, g.Holds s key r → ∃ i : Nat, r.slot = i ∧ i < g.capacity ∧
      (g.gatewayAddress :: g.eligibleAddresses)[i]? = some r.tunnelAddress := fun hr => by
    obtain ⟨i, hi, hlt⟩ := h.bounded hr
    have haddr := h.address hr
    rw [hi, slotAddress_natCast] at haddr
    refine ⟨i, hi, hlt, ?_⟩
    cases ha : (g.gatewayAddress :: g.eligibleAddresses)[i]? with
    | none => rw [ha] at haddr; cases haddr
    | some a => rw [ha] at haddr; cases haddr; rfl
  have hmem : ∀ {key r}, g.Holds s key r →
      r.tunnelAddress ∈ g.gatewayAddress :: g.eligibleAddresses := fun hr => by
    obtain ⟨i, -, -, hi⟩ := hget hr
    exact List.mem_of_getElem? hi
  refine ⟨fun hr => ?_, hp.capacity ▸ hplan.capacity_le,
    fun hr hr' hk hs => hk (h.distinct hr hr' hs),
    h.address, fun {key key' r r'} hr hr' hk heq => hk (h.distinct hr hr' ?_),
    fun hr => hplan.usable _ (hmem hr), fun hr => hplan.ne_link _ (hmem hr)⟩
  · obtain ⟨i, hi, hlt, -⟩ := hget hr
    omega
  · obtain ⟨i, hi, -, ha⟩ := hget hr
    obtain ⟨j, hj, -, hb⟩ := hget hr'
    rw [hi, hj]
    congr 1
    have hlt : i < ((g.gatewayAddress :: g.eligibleAddresses).map parseIP).length := by
      rw [List.length_map]
      exact (List.getElem?_eq_some_iff.mp ha).1
    rw [← List.getElem?_inj hlt hplan.distinct, List.getElem?_map, List.getElem?_map, ha, hb,
      Option.map_some, Option.map_some, heq]

/-! ## From creation to deletion -/

/-- Until its deletion a record keeps its identity. -/
theorem holds_until {ws : List Write} (hg : Guarded Store.commit (SlotGuard g) s ws)
    (hr : g.Holds s key r) (hopen : Write.delete key ∉ ws) :
    ∃ r', g.Holds (replay Store.commit s ws) key r' ∧ r.SameIdentity r' := by
  refine hg.until (I := fun s => ∃ r', g.Holds s key r' ∧ r.SameIdentity r')
    (C := fun x => x = .delete key) ?_ ⟨r, hr, .refl r⟩ fun x hx hc => hopen (hc ▸ hx)
  rintro s x ⟨r₁, ⟨hl, hu⟩, hid⟩ hx hne
  by_cases hk : key = x.key
  · cases x with
    | create k rec =>
      obtain rfl : key = k := hk
      exact absurd (hx.absent.symm.trans hl) (by simp)
    | relabel k ls =>
      obtain rfl : key = k := hk
      have hid' := r₁.stamp_relabel_sameIdentity hx s.clock
      exact ⟨_, ⟨Store.lookup_commit_relabel hl ls, hid'.gatewayUID.trans hu⟩, hid.trans hid'⟩
    | delete k => exact absurd (by rw [hk]; rfl) hne
  · exact ⟨r₁, ⟨(Store.lookup_commit_of_ne hk).trans hl, hu⟩, hid⟩

/-- A free slot always has an address. -/
theorem Pass.exec_ne_noEligibleAddress (hp : g.Planned subnet link) (p : Pass) (w : World)
    (slot : Int) (n : Nat) :
    (p.exec g w).1 ≠ .error (.noEligibleAddress slot n) := by
  intro heq
  rcases p.exec_cases g w with ⟨-, -, r, hr⟩ | ⟨snap, ts, -, hend⟩
  · rw [hr] at heq
    cases heq
  generalize p.exec g w = out at hend heq
  obtain ⟨r, w'⟩ := out
  obtain rfl : r = _ := heq
  generalize herr : Except.error (PassError.noEligibleAddress slot n) = r at hend
  cases hend with
  | unread h =>
    cases herr
    cases h
  | stopped _ _ hstop =>
    cases herr
    rcases hstop.2 with ⟨h, -⟩ | ⟨i, hi, hi'⟩
    · cases h
    · exact hp.slotAddress_ok (mem_freeSlots.mp hi).1 _ hi'
  | @walked _ _ _ _ _ _ _ u _ _ _ hwalk =>
    cases u with
    | ok => cases herr
    | error err =>
      cases herr
      exact absurd (hwalk.error _ rfl) (by simp [PassError.isNoEligibleAddress])

/-! ## The allocation invariant -/

/-- The stores a run goes through are the replays of the prefixes of its log. -/
theorem runPasses_guarded {s₀ : Store} {ps : List Pass} (hfree : RunOffersFree g ⟨s₀, []⟩ ps) :
    (runPasses g ⟨s₀, []⟩ ps).store = replay Store.commit s₀ (runPasses g ⟨s₀, []⟩ ps).log ∧
      Guarded Store.commit (SlotGuard g) s₀ (runPasses g ⟨s₀, []⟩ ps).log := by
  obtain ⟨ws, hl, hs, hg⟩ := runPasses_appends hfree
  rw [List.nil_append] at hl
  rw [hl]
  exact ⟨hs, hg⟩

/-- **Allocation over whole runs**, for reads that reflect the store and arbitrary failures. In
every store the run goes through the Gateway's records hold distinct slots and usable addresses;
between its creation and its deletion a record keeps its slot, key and address; a slot is given out
again only after the deletion of the record that held it; and no pass finds a free slot without an
address. -/
theorem allocation_invariant {subnet link : String} (hp : g.Planned subnet link) {s₀ : Store}
    (h₀ : g.Unrecorded s₀) {ps : List Pass} (hlive : ∀ p ∈ ps, p.env.Live) :
    (runPasses g ⟨s₀, []⟩ ps).store = replay Store.commit s₀ (runPasses g ⟨s₀, []⟩ ps).log ∧
    (∀ ws, ws <+: (runPasses g ⟨s₀, []⟩ ps).log →
      SlotsOk g subnet link (replay Store.commit s₀ ws)) ∧
    (∀ l₁ l₂, l₁ ++ l₂ <+: (runPasses g ⟨s₀, []⟩ ps).log → ∀ key r,
      g.Holds (replay Store.commit s₀ l₁) key r → Write.delete key ∉ l₂ →
        ∃ r', g.Holds (replay Store.commit s₀ (l₁ ++ l₂)) key r' ∧ r'.slot = r.slot ∧
          r'.privateKey = r.privateKey ∧ r'.tunnelAddress = r.tunnelAddress) ∧
    (∀ l₁ l₂ key r key' rec,
      l₁ ++ l₂ ++ [Write.create key' rec] <+: (runPasses g ⟨s₀, []⟩ ps).log →
        g.Holds (replay Store.commit s₀ l₁) key r → rec.slot = r.slot → Write.delete key ∈ l₂) ∧
    (∀ ps₁ p ps₂, ps = ps₁ ++ p :: ps₂ → ∀ slot n,
      (p.exec g (runPasses g ⟨s₀, []⟩ ps₁)).1 ≠ .error (.noEligibleAddress slot n)) := by
  have hinv := MemberInv.of_unrecorded h₀
  obtain ⟨hstore, hg⟩ := runPasses_guarded (runOffersFree_of_live hinv hlive)
  -- every cut of the log is guarded on both sides
  have hcut : ∀ {l₁ l₂}, l₁ ++ l₂ <+: (runPasses g ⟨s₀, []⟩ ps).log →
      Guarded Store.commit (SlotGuard g) (replay Store.commit s₀ l₁) l₂ := fun {l₁ l₂} hpre => by
    obtain ⟨l₃, hl⟩ := hpre
    rw [← hl, List.append_assoc] at hg
    exact hg.suffix.left
  refine ⟨hstore, fun ws hws => ?_, fun l₁ l₂ hpre key r hr hopen => ?_,
    fun l₁ l₂ key r key' rec hpre hr hslot => ?_, fun ps₁ p ps₂ _ slot n => ?_⟩
  · exact (hg.invariant (fun _ _ => MemberInv.commit) hinv hws).slotsOk hp
  · obtain ⟨r', hr', hid⟩ := holds_until (hcut hpre) hr hopen
    rw [replay_append]
    exact ⟨r', hr', hid.slot, hid.privateKey, hid.tunnelAddress⟩
  · by_contra hopen
    rw [List.append_assoc] at hpre
    have hboth := hcut hpre
    obtain ⟨r', hr', hid⟩ := holds_until hboth.left hr hopen
    exact hboth.at.unheld hr' (hid.slot.trans hslot.symm)
  · exact p.exec_ne_noEligibleAddress hp _ slot n

theorem fleet_planned : fleet.Planned "10.99.0.0/29" "10.99.0.2" :=
  ⟨by decide +kernel, by decide +kernel⟩

theorem emptyWorld_unrecorded (g : Gateway) : g.Unrecorded emptyWorld.store :=
  fun _ _ h => nomatch h.1

theorem EnvOf.calm_live {σ : Type} : (EnvOf.calm (.live : ReadOf σ)).Live :=
  ⟨trivial, fun _ => trivial, fun _ => trivial⟩

/-- A creation that fails although it took effect, and then a pass that finds its record. -/
def retriedRun : List Pass :=
  [.over { EnvOf.calm .live with create := fun _ => .failed true "timeout" } [running "a"] [],
    .over (.calm .live) [running "a", running "b"] []]

/-- After the retried creation the two members hold slots `0` and `1`. -/
theorem allocation_invariant_retriedRun :
    (runPasses fleet emptyWorld retriedRun).store.records.map (fun r => (r.name, r.slot)) =
        [("b", 1), ("a", 0)] ∧
      SlotsOk fleet "10.99.0.0/29" "10.99.0.2" (runPasses fleet emptyWorld retriedRun).store := by
  have hlive : ∀ p ∈ retriedRun, p.env.Live := by
    intro p hp
    simp only [retriedRun, List.mem_cons, List.not_mem_nil, or_false] at hp
    rcases hp with rfl | rfl
    · exact ⟨trivial, fun _ => trivial, fun _ => trivial⟩
    · exact EnvOf.calm_live
  have h := allocation_invariant fleet_planned (emptyWorld_unrecorded fleet) hlive
  exact ⟨by decide +kernel, h.1 ▸ h.2.1 _ (List.prefix_refl _)⟩

/-! ## Slots under cached reads -/

/-- A cached read returns an earlier version of the store. -/
def Read.Lags (s₀ : Store) (log : List Write) : Read → Prop
  | .cached s => ∃ ws, ws <+: log ∧ s = replay Store.commit s₀ ws
  | .live | .fails _ => True

/-- **Slots under cached reads.** In a run every pass of which offers free slots only, however
stale its reads, no two records of the Gateway ever hold the same slot or the same address. -/
theorem slots_distinct_of_offersFree {subnet link : String} (hp : g.Planned subnet link)
    {s₀ : Store} (h₀ : g.Unrecorded s₀) {ps : List Pass} (hfree : RunOffersFree g ⟨s₀, []⟩ ps) :
    (runPasses g ⟨s₀, []⟩ ps).store = replay Store.commit s₀ (runPasses g ⟨s₀, []⟩ ps).log ∧
    ∀ ws, ws <+: (runPasses g ⟨s₀, []⟩ ps).log → ∀ key key' r r',
      g.Holds (replay Store.commit s₀ ws) key r → g.Holds (replay Store.commit s₀ ws) key' r' →
        key ≠ key' → r.slot ≠ r'.slot ∧ parseIP r.tunnelAddress ≠ parseIP r'.tunnelAddress := by
  obtain ⟨hstore, hg⟩ := runPasses_guarded hfree
  refine ⟨hstore, fun ws hws key key' r r' hr hr' hne => ?_⟩
  have hok := (hg.invariant (fun _ _ => MemberInv.commit) (MemberInv.of_unrecorded h₀)
    hws).slotsOk hp
  exact ⟨hok.slots_distinct hr hr' hne, hok.addresses_distinct hr hr' hne⟩

/-- The members of `recorded` are created, and the next pass, over `members`, reads the records from
a cache that has not seen them. -/
def staleRun (recorded members : List ListedMember) : List Pass :=
  [.over (.calm .live) recorded [],
    .over { EnvOf.calm .live with
      listRead := .cached emptyWorld.store
      getRead := fun _ => .cached emptyWorld.store } members []]

/-- Two members. -/
def pair : List ListedMember := [running "a", running "b"]

/-- Both have a record, and a stale pass without a newcomer offers no slot. -/
theorem slots_distinct_of_offersFree_staleRun :
    let w := runPasses fleet emptyWorld (staleRun pair pair)
    w.store.records.map (fun r => (r.name, r.slot)) = [("b", 1), ("a", 0)] ∧
      ∀ key key' r r', fleet.Holds w.store key r → fleet.Holds w.store key' r' → key ≠ key' →
        r.slot ≠ r'.slot ∧ parseIP r.tunnelAddress ≠ parseIP r'.tunnelAddress := by
  have hfree : RunOffersFree fleet emptyWorld (staleRun pair pair) := by decide +kernel
  have h := slots_distinct_of_offersFree fleet_planned (emptyWorld_unrecorded fleet) hfree
  exact ⟨by decide +kernel, h.1 ▸ h.2 _ (List.prefix_refl _)⟩

/-- **Two members share a slot.** The stale pass lists `a` and `b`: the creation of `a` finds its
Secret in place, so the pass leaves slot `0` free in its books and gives it to `b`. -/
theorem staleRun_shares_slot :
    Read.Lags emptyWorld.store
        (runPasses fleet emptyWorld [.over (.calm .live) [running "a"] []]).log
        (.cached emptyWorld.store) ∧
      (runPasses fleet emptyWorld (staleRun [running "a"] pair)).store.records.map
          (fun r => (r.name, r.gatewayUID, r.slot, r.tunnelAddress)) =
        [("b", "u1", 0, "10.99.0.1"), ("a", "u1", 0, "10.99.0.1")] :=
  ⟨⟨[], List.nil_prefix, rfl⟩, by decide +kernel⟩

end WireguardGateway.Gcp

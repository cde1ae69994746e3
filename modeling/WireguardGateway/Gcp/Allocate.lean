import WireguardGateway.Gcp.Reconcile

/-!
# Adoption and allocation

The first two loops of a pass, each with a relation that says once what it can do under an
arbitrary environment. Adoption writes nothing and yields exactly the owned records its reads return
(`Adopted`, `adoption_cases`). Allocation creates records under free object names, at successive
free slots (`Allocation`), and either stops at a candidate (`AllocStop`) or has gone through all of
them (`AllocState`): **`allocation_cases`**.
-/

namespace WireguardGateway.Gcp

open Lib Lib.Prog

/-- The error that says a free slot has no address left. -/
def PassError.isNoEligibleAddress : PassError → Bool
  | .noEligibleAddress .. => true
  | _ => false

section

variable {g : Gateway} {e : Env} {snap : Snapshot} {w w' : World}

/-! ## Adoption -/

/-- The record a pass reads under `name`, if it is this Gateway's. -/
def Gateway.seen (g : Gateway) (e : Env) (s : Store) (name : String) : Option Record :=
  match g.secretName name, (e.getRead name).serve s with
  | .ok key, .ok v => (v.lookup key).filter (g.owns name)
  | _, _ => none

/-- The state of the adoption loop after `names`, over the store `s`. -/
structure Adopted (g : Gateway) (e : Env) (s : Store) (names : List String) (a : Adoption) :
    Prop where
  lookup : ∀ n, a.adopted.lookup n = if n ∈ names then g.seen e s n else none
  occupied : ∀ i, i ∈ a.occupied ↔ ∃ n ∈ names, ∃ r, g.seen e s n = some r ∧ r.slot = i
  derives : ∀ n ∈ names, ∃ ns, g.resolveNames n = .ok ns
  reads : ∀ n ∈ names, ∃ v, (e.getRead n).serve s = .ok v

theorem secretName_ok {name key : String} (h : g.secretName name = .ok key) :
    ∃ ns, g.resolveNames name = .ok ns ∧ ns.kubernetesSecretName = key := by
  unfold Gateway.secretName at h
  cases hn : g.resolveNames name with
  | error t => rw [hn] at h; cases h
  | ok ns => rw [hn] at h; cases h; exact ⟨ns, rfl, rfl⟩

theorem secretName_of_resolveNames {name : String} {ns : ManagedResourceNames}
    (h : g.resolveNames name = .ok ns) : g.secretName name = .ok ns.kubernetesSecretName := by
  rw [Gateway.secretName, h]
  rfl

/-- The read of `name`'s record fails, or has no object name to go by. -/
def Unreadable (g : Gateway) (e : Env) (s : Store) (name : String) : Prop :=
  (∃ t, g.secretName name = .error t) ∨ ∃ cause, (e.getRead name).serve s = .error cause

variable {a : Adoption} {n : String} {r : Except PassError Adoption}

/-- One read of the adoption loop: an error, or the record it sees. -/
theorem adopt_cases (h : adopt g e a n w = (r, w')) :
    w' = w ∧ ((∃ err, r = .error err ∧ err.isNoEligibleAddress = false ∧ Unreadable g e w.store n) ∨
      (r = .ok ((g.seen e w.store n).elim a (a.take n)) ∧
        (∃ ns, g.resolveNames n = .ok ns) ∧ ∃ v, (e.getRead n).serve w.store = .ok v)) := by
  unfold adopt at h
  rw [bind_apply] at h
  rcases hg : getRecord g e n w with ⟨cause | o, w₁⟩
  · have hw : w₁ = w := (congrArg Prod.snd hg).symm.trans (getRecord_world n w)
    rw [mapErr, hg] at h
    cases h
    exact ⟨hw, .inl ⟨_, rfl, rfl, getRecord_error hg⟩⟩
  · obtain ⟨rfl, key, s, hk, hs, rfl⟩ := getRecord_ok hg
    rw [mapErr, hg] at h
    obtain ⟨ns, hns, -⟩ := secretName_ok hk
    have hok : (Except.ok ((g.seen e w₁.store n).elim a (a.take n)), w₁) = (r, w') := by
      rw [← h]
      simp only [Gateway.seen, hk, hs]
      cases s.lookup key with
      | none => rfl
      | some rec => by_cases ho : g.owns n rec <;> simp [ho, Option.filter_some]
    cases hok
    exact ⟨rfl, .inr ⟨rfl, ⟨ns, hns⟩, s, hs⟩⟩

theorem Adopted.nil (s : Store) : Adopted g e s [] { adopted := ∅, occupied := [] } :=
  ⟨fun n => by simp, fun i => by simp, fun n h => absurd h List.not_mem_nil,
    fun n h => absurd h List.not_mem_nil⟩

theorem Adopted.snoc {s : Store} {done : List String} (h : Adopted g e s done a)
    (hd : ∃ ns, g.resolveNames n = .ok ns) (hr : ∃ v, (e.getRead n).serve s = .ok v) :
    Adopted g e s (done ++ [n]) ((g.seen e s n).elim a (a.take n)) := by
  have hmem : ∀ m, m ∈ done ++ [n] ↔ m ∈ done ∨ m = n := fun m => by simp
  refine ⟨fun m => ?_, fun i => ?_, fun m hm => ?_, fun m hm => ?_⟩
  · by_cases hmn : m = n
    · subst hmn
      cases hs : g.seen e s m <;> simp [Adoption.take, h.lookup, hs]
    · cases g.seen e s n <;> simp [Adoption.take, AList.lookup_insert_ne hmn, h.lookup, hmem, hmn]
  · have hsplit : (∃ m ∈ done ++ [n], ∃ r, g.seen e s m = some r ∧ r.slot = i) ↔
        i ∈ a.occupied ∨ ∃ r, g.seen e s n = some r ∧ r.slot = i := by
      simp only [h.occupied, hmem, or_and_right, exists_or, exists_eq_left]
    rw [hsplit]
    cases g.seen e s n <;> simp [Adoption.take, or_comm, eq_comm]
  · rcases (hmem m).mp hm with hm | rfl
    · exact h.derives m hm
    · exact hd
  · rcases (hmem m).mp hm with hm | rfl
    · exact h.reads m hm
    · exact hr

/-- The visiting order of the loop does not matter. -/
theorem Adopted.perm {s : Store} {names names' : List String} (h : Adopted g e s names a)
    (hp : names.Perm names') : Adopted g e s names' a := by
  refine ⟨fun n => ?_, fun i => ?_, fun n hn => h.derives n (hp.mem_iff.mpr hn),
    fun n hn => h.reads n (hp.mem_iff.mpr hn)⟩
  · rw [h.lookup n]; simp only [hp.mem_iff]
  · rw [h.occupied i]; simp only [hp.mem_iff]

/-- **The adoption loop** writes nothing; it ends with the owned records its reads returned. -/
theorem adoption_cases {names : List String}
    (h : (e.visit names).foldlM (adopt g e) { adopted := ∅, occupied := [] } w = (r, w')) :
    w' = w ∧ ((∃ err, r = .error err ∧ err.isNoEligibleAddress = false ∧
        ∃ n ∈ names, Unreadable g e w.store n) ∨
      ∃ a, r = .ok a ∧ Adopted g e w.store names a) := by
  have hinv := foldlM_inv (f := adopt g e) (l := e.visit names) (s := w)
    (b := { adopted := ∅, occupied := [] })
    (I := fun done a w₁ => w₁ = w ∧ Adopted g e w.store done a)
    (E := fun err w₁ => w₁ = w ∧ err.isNoEligibleAddress = false ∧
      ∃ n ∈ names, Unreadable g e w.store n)
    (by
      rintro done n rest a w₁ hsplit ⟨rfl, ha⟩
      rcases hstep : adopt g e a n w₁ with ⟨r, w₂⟩
      obtain ⟨rfl, ⟨err, rfl, hne, hu⟩ | ⟨rfl, hd, hr⟩⟩ := adopt_cases hstep
      · exact ⟨rfl, hne, n, (e.visit_perm names).mem_iff.mp (hsplit ▸ by simp), hu⟩
      · exact ⟨rfl, ha.snoc hd hr⟩)
    ⟨rfl, Adopted.nil w.store⟩
  rw [h] at hinv
  cases r with
  | error err => exact ⟨hinv.1, .inl ⟨err, rfl, hinv.2⟩⟩
  | ok a => exact ⟨hinv.1, .inr ⟨a, rfl, hinv.2.perm (e.visit_perm names)⟩⟩

/-! ## Allocation -/

/-- The slots below capacity that are not occupied, in ascending order. -/
def freeSlots (occupied : List Int) (capacity : Nat) : List Nat :=
  (List.range capacity).filter fun s => (s : Int) ∉ occupied

theorem lowestFreeSlot_eq (occupied : List Int) (capacity : Nat) :
    lowestFreeSlot occupied capacity = (freeSlots occupied capacity).head? := by
  rw [lowestFreeSlot, freeSlots, List.head?_filter]

theorem mem_freeSlots {occupied : List Int} {capacity s : Nat} :
    s ∈ freeSlots occupied capacity ↔ s < capacity ∧ (s : Int) ∉ occupied := by
  simp [freeSlots]

theorem nodup_freeSlots (occupied : List Int) (capacity : Nat) :
    (freeSlots occupied capacity).Nodup :=
  List.nodup_range.filter _

/-- Occupying the lowest free slot leaves the others. -/
theorem freeSlots_cons {occupied : List Int} {capacity s : Nat} {rest : List Nat}
    (h : freeSlots occupied capacity = s :: rest) :
    freeSlots ((s : Int) :: occupied) capacity = rest := by
  have hnd : (s :: rest).Nodup := h ▸ nodup_freeSlots occupied capacity
  have hfilter : freeSlots ((s : Int) :: occupied) capacity =
      (freeSlots occupied capacity).filter (· ≠ s) := by
    rw [freeSlots, freeSlots, List.filter_filter]
    refine List.filter_congr fun i _ => ?_
    simp only [List.mem_cons, Int.natCast_inj, not_or, Bool.decide_and, decide_not]
  rw [hfilter, h, List.filter_cons_of_neg (by simp), List.filter_eq_self]
  intro i hi
  simp only [ne_eq, decide_eq_true_eq]
  rintro rfl
  exact (List.nodup_cons.mp hnd).1 hi

/-- The creation of `name`'s record fails: no key, no object name, or the API's answer. -/
def Uncreatable (g : Gateway) (e : Env) (name : String) : Prop :=
  (∃ cause, e.keypair name = .error cause) ∨ (∃ t, g.secretName name = .error t) ∨
    e.create name ≠ .ok

/-- The ends of `tryAllocate` when `free` are the free slots. -/
inductive AllocEnd (g : Gateway) (e : Env) (snap : Snapshot) (n : String) (l : ListedMember)
    (free : List Nat) (w : World) : Except PassError (Option Record) → World → Prop
  | exhausted (hfree : free = []) : AllocEnd g e snap n l free w (.ok none) w
  | noAddress {slot : Nat} {err : PassError} (hslot : slot ∈ free)
      (herr : slotAddress g.gatewayAddress g.eligibleAddresses slot = .error err) :
      AllocEnd g e snap n l free w (.error err) w
  | failed {err : PassError} (hfree : free ≠ []) (herr : err.isNoEligibleAddress = false)
      (hcause : Uncreatable g e n) : AllocEnd g e snap n l free w (.error err) w
  | taken {key : String} (hkey : g.secretName n = .ok key)
      (hsome : (w.store.lookup key).isSome) : AllocEnd g e snap n l free w (.ok none) w
  | created {slot : Nat} {rest : List Nat} {key address priv : String} (hfree : free = slot :: rest)
      (haddr : slotAddress g.gatewayAddress g.eligibleAddresses slot = .ok address)
      (hkey : g.secretName n = .ok key) (hnone : w.store.lookup key = none) :
      AllocEnd g e snap n l free w (.ok (some (freshRecord g n l snap slot address priv)))
        (w.commit (.create key (freshRecord g n l snap slot address priv)))
  | orphaned {slot : Nat} {rest : List Nat} {key address priv : String} {err : PassError}
      (hfree : free = slot :: rest)
      (haddr : slotAddress g.gatewayAddress g.eligibleAddresses slot = .ok address)
      (hkey : g.secretName n = .ok key) (hnone : w.store.lookup key = none)
      (herr : err.isNoEligibleAddress = false) (hcause : Uncreatable g e n) :
      AllocEnd g e snap n l free w (.error err)
        (w.commit (.create key (freshRecord g n l snap slot address priv)))

theorem tryAllocate_end (n : String) (l : ListedMember) (occupied : List Int) (w : World) :
    AllocEnd g e snap n l (freeSlots occupied g.capacity) w
      (tryAllocate g e n l snap occupied w).1 (tryAllocate g e n l snap occupied w).2 := by
  unfold tryAllocate
  rw [lowestFreeSlot_eq]
  rcases hfree : freeSlots occupied g.capacity with _ | ⟨slot, rest⟩
  · exact .exhausted rfl
  rw [List.head?_cons]
  dsimp only
  cases haddr : slotAddress g.gatewayAddress g.eligibleAddresses slot with
  | error err =>
    rw [bind_error (lift_error err w)]
    exact .noAddress List.mem_cons_self haddr
  | ok address =>
  rw [bind_ok (lift_ok address w)]
  cases hkp : e.keypair n with
  | error cause =>
    rw [show Except.mapError (PassError.keypair n) (.error cause : Except String String) =
      .error (.keypair n cause) from rfl, bind_error (lift_error _ w)]
    exact .failed (List.cons_ne_nil _ _) rfl (.inl ⟨cause, hkp⟩)
  | ok priv =>
  rw [show Except.mapError (PassError.keypair n) (.ok priv : Except String String) = .ok priv
    from rfl, bind_ok (lift_ok priv w), bind_apply, attempt]
  -- the fresh record is stored as built: its public key is already the derived one
  rcases hc : createRecord g e (freshRecord g n l snap slot address priv) w with ⟨err | ⟨⟩, w'⟩
  · cases err with
    | alreadyExists text =>
      obtain ⟨rfl, key, hkey, hsome⟩ := createRecord_alreadyExists hc
      exact .taken hkey hsome
    | other text =>
      rcases createRecord_other hc with ⟨rfl, hcause⟩ | ⟨hcause, key, hkey, hnone, rfl⟩
      · exact .failed (List.cons_ne_nil _ _) rfl (.inr hcause)
      · exact .orphaned rfl haddr hkey hnone rfl (.inr (.inr hcause))
  · obtain ⟨key, hkey, hnone, rfl⟩ := createRecord_ok hc
    exact .created rfl haddr hkey hnone

/-- A record as `tryAllocate` builds it for a listed member, under its object name. -/
def IsFresh (g : Gateway) (snap : Snapshot) (key : String) (rec : Record) : Prop :=
  g.secretName rec.name = .ok key ∧ ∃ l slot address priv,
    snap.listedByName.lookup rec.name = some l ∧
    slotAddress g.gatewayAddress g.eligibleAddresses (slot : Nat) = .ok address ∧
    rec = freshRecord g rec.name l snap slot address priv

/-- The creations of a pass. -/
def creations (new : List (String × Record)) : List Write := new.map fun p => .create p.1 p.2

/-- The state of the allocation loop after the candidates `done`: `new` are the object names and
records it has created, in order. -/
structure Allocation (g : Gateway) (snap : Snapshot) (occupied : List Int) (w₀ : World)
    (done : List String) (new : List (String × Record)) (w : World) : Prop where
  log : w.log = w₀.log ++ creations new
  store : w.store = replay Store.commit w₀.store (creations new)
  names : (new.map (·.2.name)).Sublist done
  fresh : ∀ p ∈ new, IsFresh g snap p.1 p.2
  absent : ∀ p ∈ new, w₀.store.lookup p.1 = none
  keys : (new.map Prod.fst).Nodup
  slots : new.map (·.2.slot) =
    ((freeSlots occupied g.capacity).take new.length).map fun s : Nat => (s : Int)

theorem lookup_replay_creations_of_notMem {k : String} :
    ∀ {new : List (String × Record)} {s : Store}, k ∉ new.map Prod.fst →
      (replay Store.commit s (creations new)).lookup k = s.lookup k
  | [], _, _ => rfl
  | p :: new, s, h => by
    rw [List.map_cons, List.mem_cons, not_or] at h
    rw [creations, List.map_cons, replay_cons]
    exact (lookup_replay_creations_of_notMem h.2).trans (Store.lookup_commit_of_ne h.1)

/-- A created record is in the store, with the uid and version it was assigned. -/
theorem lookup_replay_creations_of_mem {p : String × Record} :
    ∀ {new : List (String × Record)} {s : Store}, (new.map Prod.fst).Nodup → p ∈ new →
      ∃ c, (replay Store.commit s (creations new)).lookup p.1 = some (p.2.assign c)
  | [], _, _, h => absurd h List.not_mem_nil
  | q :: new, s, hnd, h => by
    rw [List.map_cons, List.nodup_cons] at hnd
    rw [creations, List.map_cons, replay_cons]
    rcases List.mem_cons.mp h with rfl | h
    · exact ⟨s.clock, (lookup_replay_creations_of_notMem hnd.1).trans
        (Store.lookup_commit_create s p.1 p.2)⟩
    · exact lookup_replay_creations_of_mem hnd.2 h

namespace Allocation

variable {occ : List Int} {w₀ : World} {done : List String} {new : List (String × Record)}

theorem lookup_of_notMem (h : Allocation g snap occ w₀ done new w) {k : String}
    (hk : k ∉ new.map Prod.fst) : w.store.lookup k = w₀.store.lookup k := by
  rw [h.store, lookup_replay_creations_of_notMem hk]

theorem lookup_of_mem (h : Allocation g snap occ w₀ done new w) {p : String × Record}
    (hp : p ∈ new) : ∃ c, w.store.lookup p.1 = some (p.2.assign c) := by
  rw [h.store]
  exact lookup_replay_creations_of_mem h.keys hp

theorem start (w₀ : World) : Allocation g snap occ w₀ [] [] w₀ :=
  ⟨by simp [creations], rfl, List.Sublist.refl _, fun p h => absurd h List.not_mem_nil,
    fun p h => absurd h List.not_mem_nil, List.nodup_nil, rfl⟩

/-- A candidate that creates nothing. -/
theorem skip (h : Allocation g snap occ w₀ done new w) (n : String) :
    Allocation g snap occ w₀ (done ++ [n]) new w :=
  { h with names := h.names.trans (List.sublist_append_left _ _) }

/-- A candidate that takes the next free slot under a free object name. -/
theorem snoc (h : Allocation g snap occ w₀ done new w) {n key address priv : String}
    {l : ListedMember} {slot : Nat} {rest : List Nat}
    (hfree : (freeSlots occ g.capacity).drop new.length = slot :: rest)
    (hl : snap.listedByName.lookup n = some l)
    (haddr : slotAddress g.gatewayAddress g.eligibleAddresses slot = .ok address)
    (hkey : g.secretName n = .ok key) (hnone : w.store.lookup key = none) :
    Allocation g snap occ w₀ (done ++ [n])
      (new ++ [(key, freshRecord g n l snap slot address priv)])
      (w.commit (.create key (freshRecord g n l snap slot address priv))) := by
  have hnew : key ∉ new.map Prod.fst := fun hmem => by
    obtain ⟨p, hp, rfl⟩ := List.mem_map.mp hmem
    obtain ⟨c, hc⟩ := h.lookup_of_mem hp
    rw [hnone] at hc
    cases hc
  refine ⟨?_, ?_, ?_, ?_, ?_, ?_, ?_⟩
  · rw [World.commit_log, h.log, creations, creations, List.map_append, List.append_assoc]
    rfl
  · rw [World.commit_store, h.store, creations, creations, List.map_append, replay_append]
    rfl
  · rw [List.map_append]
    exact h.names.append (List.Sublist.refl _)
  · intro p hp
    rcases List.mem_append.mp hp with hp | hp
    · exact h.fresh p hp
    · rw [List.mem_singleton.mp hp]
      exact ⟨hkey, l, slot, address, priv, hl, haddr, rfl⟩
  · intro p hp
    rcases List.mem_append.mp hp with hp | hp
    · exact h.absent p hp
    · rw [List.mem_singleton.mp hp, ← h.lookup_of_notMem hnew]
      exact hnone
  · rw [List.map_append]
    exact h.keys.append (List.nodup_singleton _)
      (List.disjoint_singleton.mpr hnew)
  · have hget : (freeSlots occ g.capacity)[new.length]? = some slot := by
      rw [← List.head?_drop, hfree]
      rfl
    rw [List.map_append, h.slots, List.length_append, List.length_singleton, List.take_add_one,
      hget, List.map_append]
    rfl

end Allocation

/-- The adoption state after the creations. -/
def Adoption.takeAll (a : Adoption) (new : List (String × Record)) : Adoption :=
  new.foldl (fun a p => a.take p.2.name p.2) a

theorem Adoption.lookup_takeAll_of_notMem :
    ∀ {new : List (String × Record)} {a : Adoption}, n ∉ new.map (·.2.name) →
      (a.takeAll new).adopted.lookup n = a.adopted.lookup n
  | [], _, _ => rfl
  | p :: new, a, h => by
    rw [List.map_cons, List.mem_cons, not_or] at h
    exact (lookup_takeAll_of_notMem (a := a.take p.2.name p.2) h.2).trans
      (AList.lookup_insert_ne h.1)

theorem Adoption.lookup_takeAll_of_mem {p : String × Record} :
    ∀ {new : List (String × Record)} {a : Adoption}, (new.map (·.2.name)).Nodup → p ∈ new →
      (a.takeAll new).adopted.lookup p.2.name = some p.2
  | [], _, _, h => absurd h List.not_mem_nil
  | q :: new, a, hnd, h => by
    rw [List.map_cons, List.nodup_cons] at hnd
    rcases List.mem_cons.mp h with rfl | h
    · exact (lookup_takeAll_of_notMem (a := a.take p.2.name p.2) hnd.1).trans
        (AList.lookup_insert _)
    · exact lookup_takeAll_of_mem (a := a.take q.2.name q.2) hnd.2 h

/-- The state of the allocation loop between two candidates. -/
structure AllocState (g : Gateway) (snap : Snapshot) (a₀ : Adoption) (w₀ : World)
    (done : List String) (a : Adoption) (w : World) (new : List (String × Record)) : Prop where
  allocation : Allocation g snap a₀.occupied w₀ done new w
  adoption : a = a₀.takeAll new
  free : freeSlots a.occupied g.capacity = (freeSlots a₀.occupied g.capacity).drop new.length
  skipped : ∀ n ∈ done, n ∈ new.map (·.2.name) ∨
    (freeSlots a₀.occupied g.capacity).length ≤ new.length ∨
    ∃ key, g.secretName n = .ok key ∧ (w.store.lookup key).isSome

/-- The allocation loop fails at `n`, with a slot left for it. -/
def FailsAt (g : Gateway) (e : Env) (snap : Snapshot) (a₀ : Adoption) (w₀ : World)
    (cands : List String) (n : String) : Prop :=
  Uncreatable g e n ∧ ∃ done rest a w new, cands = done ++ n :: rest ∧
    AllocState g snap a₀ w₀ done a w new ∧
    new.length < (freeSlots a₀.occupied g.capacity).length

/-- What an allocation that stops at a candidate leaves behind. -/
def AllocStop (g : Gateway) (e : Env) (snap : Snapshot) (a₀ : Adoption) (w₀ : World)
    (cands : List String) (err : PassError) (w : World) : Prop :=
  (∃ done new, done <+: cands ∧ Allocation g snap a₀.occupied w₀ done new w) ∧
    ((err.isNoEligibleAddress = false ∧ ∃ n, FailsAt g e snap a₀ w₀ cands n) ∨
      ∃ slot ∈ freeSlots a₀.occupied g.capacity,
        slotAddress g.gatewayAddress g.eligibleAddresses (slot : Nat) = .error err)

theorem lookup_isSome_commit_create {s : Store} {k key : String} {rec : Record}
    (h : (s.lookup k).isSome) : ((s.commit (.create key rec)).lookup k).isSome := by
  by_cases hk : k = key
  · subst hk
    rw [Store.lookup_commit_create]
    rfl
  · rw [Store.lookup_commit_of_ne (x := .create key rec) hk]
    exact h

/-- One candidate of the allocation loop. -/
theorem allocate_step {a₀ : Adoption} {w₀ : World} {done : List String}
    {new : List (String × Record)} (h : AllocState g snap a₀ w₀ done a w new) {l : ListedMember}
    (hl : snap.listedByName.lookup n = some l) (rest : List String) :
    match allocate g e snap a n w with
    | (.ok a', w') => ∃ new', AllocState g snap a₀ w₀ (done ++ [n]) a' w' new'
    | (.error err, w') => AllocStop g e snap a₀ w₀ (done ++ n :: rest) err w' := by
  have hpre : done ++ [n] <+: done ++ n :: rest := ⟨rest, by simp⟩
  have hfails : freeSlots a.occupied g.capacity ≠ [] → Uncreatable g e n →
      FailsAt g e snap a₀ w₀ (done ++ n :: rest) n := fun hfree hcause => by
    rw [h.free, ne_eq, List.drop_eq_nil_iff, not_le] at hfree
    exact ⟨hcause, done, rest, a, w, new, rfl, h, hfree⟩
  unfold allocate
  rw [hl]
  dsimp only
  rw [bind_apply]
  have hend : AllocEnd g e snap n l _ w _ _ := tryAllocate_end n l a.occupied w
  rcases htry : tryAllocate g e n l snap a.occupied w with ⟨r, w'⟩
  rw [htry] at hend
  dsimp only at hend
  cases hend with
  | exhausted hfree =>
    refine ⟨new, h.allocation.skip n, h.adoption, h.free, fun m hm => ?_⟩
    rcases List.mem_append.mp hm with hm | -
    · exact h.skipped m hm
    · rw [h.free, List.drop_eq_nil_iff] at hfree
      exact .inr (.inl hfree)
  | noAddress hslot herr =>
    rw [h.free] at hslot
    exact ⟨⟨done, new, ⟨n :: rest, rfl⟩, h.allocation⟩, .inr ⟨_, List.mem_of_mem_drop hslot, herr⟩⟩
  | failed hfree herr hcause =>
    exact ⟨⟨done, new, ⟨n :: rest, rfl⟩, h.allocation⟩, .inl ⟨herr, n, hfails hfree hcause⟩⟩
  | taken hkey hsome =>
    refine ⟨new, h.allocation.skip n, h.adoption, h.free, fun m hm => ?_⟩
    rcases List.mem_append.mp hm with hm | hm
    · exact h.skipped m hm
    · rw [List.mem_singleton.mp hm]
      exact .inr (.inr ⟨_, hkey, hsome⟩)
  | created hfree haddr hkey hnone =>
    rw [h.free] at hfree
    refine ⟨_, h.allocation.snoc hfree hl haddr hkey hnone, ?_, ?_, fun m hm => ?_⟩
    · rw [Adoption.takeAll, List.foldl_concat, ← Adoption.takeAll, h.adoption]
      rfl
    · rw [List.length_append, List.length_singleton, ← List.drop_drop, hfree]
      exact freeSlots_cons (h.free.trans hfree)
    · rcases List.mem_append.mp hm with hm | hm
      · rcases h.skipped m hm with h1 | h1 | ⟨key', hk', hs'⟩
        · exact .inl (by rw [List.map_append]; exact List.mem_append_left _ h1)
        · exact .inr (.inl (by rw [List.length_append]; omega))
        · exact .inr (.inr ⟨key', hk', lookup_isSome_commit_create hs'⟩)
      · exact .inl (by rw [List.mem_singleton.mp hm, List.map_append]; simp [freshRecord])
  | orphaned hfree haddr hkey hnone herr hcause =>
    have hfail := hfails (hfree ▸ List.cons_ne_nil _ _) hcause
    rw [h.free] at hfree
    exact ⟨⟨_, _, hpre, h.allocation.snoc hfree hl haddr hkey hnone⟩, .inl ⟨herr, n, hfail⟩⟩

/-- **The allocation loop**: it stops at a candidate, or gives a record to every candidate whose
object name was free while slots lasted. -/
theorem allocation_cases {a₀ : Adoption} {cands : List String}
    (hl : ∀ n ∈ cands, (snap.listedByName.lookup n).isSome)
    (h : cands.foldlM (allocate g e snap) a₀ w = (r, w')) :
    (∃ err, r = .error err ∧ AllocStop g e snap a₀ w cands err w') ∨
      ∃ a new, r = .ok a ∧ AllocState g snap a₀ w cands a w' new := by
  have hinv := foldlM_inv (f := allocate g e snap) (l := cands) (s := w) (b := a₀)
    (I := fun done a w₁ => ∃ new, AllocState g snap a₀ w done a w₁ new)
    (E := fun err w₁ => AllocStop g e snap a₀ w cands err w₁)
    (by
      rintro done n rest a w₁ rfl ⟨new, hnew⟩
      obtain ⟨l, hl⟩ := Option.isSome_iff_exists.mp (hl n (by simp))
      have hstep := allocate_step (e := e) hnew hl rest
      rcases hr : allocate g e snap a n w₁ with ⟨_ | _, _⟩ <;> rw [hr] at hstep <;> exact hstep)
    ⟨[], Allocation.start w, rfl, rfl, fun n hn => absurd hn List.not_mem_nil⟩
  rw [h] at hinv
  cases r with
  | error err => exact .inl ⟨err, rfl, hinv⟩
  | ok a =>
    obtain ⟨new, hnew⟩ := hinv
    exact .inr ⟨a, new, rfl, hnew⟩

end

end WireguardGateway.Gcp

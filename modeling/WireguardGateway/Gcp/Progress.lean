import WireguardGateway.Gcp.LivePass

/-!
# How far a live pass gets

A failed step aborts a pass, so whether the record of a name is updated depends on the calls that
come before its own: the reads of the adoption loop, the creations, and the label updates of the
names below it. `Env.reaches` is the condition on those calls, over the store before the pass.

**`PassEnd.relabelled_of_reaches`**: under it, the record's labels are updated as its `Fate` says.
-/

namespace WireguardGateway.Gcp

open Lib

/-! ## The calls of a pass -/

/-- The read does not fail. -/
def ReadOf.served : Read → Bool
  | .fails _ => false
  | .live | .cached _ => true

/-- The write takes effect, whatever it answers. -/
def WriteOutcome.takesEffect : WriteOutcome → Bool
  | .ok => true
  | .failed committed _ => committed

/-- The allocation loop tries to create a record for `n`: a present member without one, for which
the candidates below it leave a free slot. -/
def attempted (g : Gateway) (e : Env) (snap : Snapshot) (s : Store) (n : String) : Bool :=
  (snap.listedByName.lookup n).any (·.verdict = .present) && (g.seen e s n).isNone &&
    (((newcomers g e snap s).filter (· < n)).filterMap (g.freeKey s)).dedup.length <
      (freeSlots (readSlots g e s (allNames snap (g.recordNames s))) g.capacity).length

/-- The walk updates the labels of `n`'s record. -/
def relabels (g : Gateway) (e : Env) (snap : Snapshot) (s : Store) (n : String) : Bool :=
  (g.seen e s n).any fun rec => (fate rec (snap.listedByName.lookup n)).labels rec snap ≠ []

/-- No call of the pass before the label update of `n` fails, and that update takes effect. -/
def Env.reaches (e : Env) (g : Gateway) (snap : Snapshot) (s : Store) (n : String) : Bool :=
  let names := allNames snap (g.recordNames s)
  e.listRead.served &&
    (names.all fun m => (g.secretName m).toBool && (e.getRead m).served) &&
    (names.all fun m => !attempted g e snap s m || (e.keypair m).toBool && e.create m = .ok) &&
    (names.all fun m => n ≤ m || !relabels g e snap s m ||
      (e.updateRead m).served && e.update m = .ok) &&
    (e.updateRead n).served && (e.update n).takesEffect

variable {g : Gateway} {e : Env} {snap : Snapshot} {w w' : World} {k : String}

theorem ReadOf.serve_of_served {r : Read} (h : r.IsLive) (hs : r.served) (s : Store) :
    r.serve s = .ok s := by
  cases r with
  | live => rfl
  | cached => exact h.elim
  | fails => cases hs

theorem toBool_eq_true {ε α : Type} {x : Except ε α} : x.toBool = true ↔ ∃ a, x = .ok a := by
  cases x <;> simp [Except.toBool]

/-! ## Allocation -/

variable {n : String} {a₀ : Adoption}

theorem mem_newcomers {s : Store} :
    n ∈ newcomers g e snap s ↔
      (∃ l, snap.listedByName.lookup n = some l ∧ l.verdict = .present) ∧ g.seen e s n = none ∧
        ∃ key, g.secretName n = .ok key ∧ s.lookup key = none := by
  have hkey : (g.freeKey s n).isSome ↔ ∃ key, g.secretName n = .ok key ∧ s.lookup key = none := by
    unfold Gateway.freeKey
    cases g.secretName n <;> simp [Except.toOption, Option.filter_some]
  simp only [newcomers, isNewcomer, List.mem_filter, Bool.and_eq_true, Option.any_eq_true, hkey,
    Option.isNone_iff_eq_none, decide_eq_true_eq, and_assoc]
  constructor
  · rintro ⟨-, h⟩
    exact h
  · rintro ⟨⟨l, hl, hv⟩, h⟩
    exact ⟨AList.mem_keys.mpr (AList.lookup_isSome.mp (by rw [hl]; rfl)), ⟨l, hl, hv⟩, h⟩

/-- The candidates before one that finds a slot left have a Secret by then. -/
theorem AllocState.key_mem_new {a : Adoption} {w₀ : World} {done : List String}
    {new : List (String × Record)} (h : AllocState g snap a₀ w₀ done a w new)
    (hfree : new.length < (freeSlots a₀.occupied g.capacity).length) {m key : String}
    (hm : m ∈ done) (hkey : g.secretName m = .ok key) (hnone : w₀.store.lookup key = none) :
    key ∈ new.map Prod.fst := by
  rcases h.skipped m hm with hnew | hfull | ⟨key', hkey', hsome⟩
  · obtain ⟨p, hp, rfl⟩ := List.mem_map.mp hnew
    obtain rfl : p.1 = key := Except.ok.inj ((h.allocation.fresh p hp).1.symm.trans hkey)
    exact List.mem_map_of_mem hp
  · omega
  · obtain rfl : key' = key := Except.ok.inj (hkey'.symm.trans hkey)
    by_contra hnot
    rw [h.allocation.lookup_of_notMem hnot, hnone] at hsome
    cases hsome

/-- An allocation fails only at a candidate it attempts. -/
theorem FailsAt.attempted (ha : Adopted g e w.store (allNames snap (g.recordNames w.store)) a₀)
    (h : FailsAt g e snap a₀ w (candidates snap a₀.adopted) n) :
    attempted g e snap w.store n := by
  obtain ⟨-, done, rest, a, w₁, new, hcands, hstate, hfree⟩ := h
  have hn : n ∈ candidates snap a₀.adopted := by rw [hcands]; simp
  have hcand : ∀ {m}, m ∈ candidates snap a₀.adopted ↔
      (∃ l, snap.listedByName.lookup m = some l ∧ l.verdict = .present) ∧
        g.seen e w.store m = none := fun {m} => by
    rw [mem_candidates]
    refine and_congr_right fun ⟨l, hl, _⟩ => ?_
    rw [ha.lookup, if_pos (mem_allNames.mpr (.inl (by rw [hl]; rfl)))]
  obtain ⟨⟨l, hl, hv⟩, hseen⟩ := hcand.mp hn
  have hle : (((newcomers g e snap w.store).filter (· < n)).filterMap
      (g.freeKey w.store)).dedup.length ≤ new.length := by
    rw [show new.length = (new.map Prod.fst).length by rw [List.length_map]]
    refine (List.subperm_of_subset (List.nodup_dedup _) fun key hkey => ?_).length_le
    obtain ⟨m, hm, hfk⟩ := List.mem_filterMap.mp (List.mem_dedup.mp hkey)
    obtain ⟨hmem, hlt⟩ := List.mem_filter.mp hm
    obtain ⟨hpresent, hunseen, key', hkey', hnone⟩ := mem_newcomers.mp hmem
    obtain rfl : key' = key := by
      simpa [Gateway.freeKey, hkey', hnone, Except.toOption, Option.filter_some] using hfk
    refine hstate.key_mem_new hfree ?_ hkey' hnone
    -- the candidates are sorted, so those below `n` come before it
    have hsorted := List.pairwise_insertionSort (· ≤ ·)
      (snap.listedByName.keys.filter fun name =>
        (snap.listedByName.lookup name).any (·.verdict = .present) ∧
          a₀.adopted.lookup name = none)
    rw [show (List.insertionSort _ _) = candidates snap a₀.adopted from rfl, hcands,
      List.pairwise_append] at hsorted
    have hmc : m ∈ done ++ n :: rest := hcands ▸ hcand.mpr ⟨hpresent, hunseen⟩
    have hnle : ¬ n ≤ m := not_le.mpr (by simpa using hlt)
    rcases List.mem_append.mp hmc with hmc | hmc
    · exact hmc
    · rcases List.mem_cons.mp hmc with rfl | hmc
      · exact absurd (le_refl _) hnle
      · exact absurd ((List.pairwise_cons.mp hsorted.2.1).1 m hmc) hnle
  rw [ha.freeSlots_eq] at hfree
  simp only [Gcp.attempted, hl, hv, hseen, Option.any_some, decide_true, Option.isNone_none,
    Bool.and_self, Bool.true_and, decide_eq_true_eq]
  omega

/-! ## The walk -/

theorem Env.reaches_iff {s : Store} :
    e.reaches g snap s n ↔ e.listRead.served ∧
      (∀ m ∈ allNames snap (g.recordNames s),
        (∃ key, g.secretName m = .ok key) ∧ (e.getRead m).served) ∧
      (∀ m ∈ allNames snap (g.recordNames s), attempted g e snap s m →
        (∃ key, e.keypair m = .ok key) ∧ e.create m = .ok) ∧
      (∀ m ∈ allNames snap (g.recordNames s), m < n → relabels g e snap s m →
        (e.updateRead m).served ∧ e.update m = .ok) ∧
      (e.updateRead n).served ∧ (e.update n).takesEffect := by
  simp only [reaches, Bool.and_eq_true, List.all_eq_true, toBool_eq_true, Bool.or_eq_true,
    Bool.not_eq_true', decide_eq_true_eq, and_assoc, ← Bool.not_eq_true, or_assoc]
  refine and_congr_right fun _ => and_congr_right fun _ => and_congr ?_ (and_congr_left fun _ => ?_)
  · exact forall₂_congr fun m _ => by rw [imp_iff_not_or]
  · exact forall₂_congr fun m _ => by rw [imp_iff_not_or, imp_iff_not_or, not_lt]

/-- A live label update of a stored record that does not fail. -/
theorem EnvOf.Live.updatable (he : e.Live) (hs : (e.updateRead n).served) {s : Store} {r : Record}
    (hr : s.lookup k = some r) : Updatable e s n k :=
  ⟨s, (r.uid, r.resourceVersion), ReadOf.serve_of_served (he.update n) hs s,
    congrArg (Option.map fun r : Record => (r.uid, r.resourceVersion)) hr,
    Store.isCurrent_iff.mpr ⟨r, hr, rfl, rfl⟩⟩

/-- An iteration whose label update cannot fail does not fail. -/
theorem NameEnd.ne_error {names : ManagedResourceNames} {rec : Record} {err : PassError}
    (h : NameEnd g e snap n names (some rec) w (.error err) w')
    (hok : (fate rec (snap.listedByName.lookup n)).labels rec snap ≠ [] →
      Updatable e w.store n names.kubernetesSecretName ∧ e.update n = .ok) : False := by
  cases h with
  | failed hf _ hlabels _ hcause =>
    obtain ⟨hup, hu⟩ := hok (hf ▸ hlabels)
    obtain ⟨cause, hc⟩ := hcause hup
    rw [hu] at hc
    cases hc
  | failedRelabelled hf _ hlabels _ _ hcause =>
    obtain ⟨cause, hc⟩ := hcause
    rw [(hok (hf ▸ hlabels)).2] at hc
    cases hc

/-- An iteration whose label update takes effect leaves the relabelled record. -/
theorem NameEnd.relabelled_of_takesEffect {names : ManagedResourceNames} {rec : Record}
    {o : Except PassError NameOutcome} {f : Fate} (h : NameEnd g e snap n names (some rec) w o w')
    (hl : w.store.lookup names.kubernetesSecretName = some rec)
    (hf : fate rec (snap.listedByName.lookup n) = f) (hne : f ≠ .confirm)
    (hlabels : f.labels rec snap ≠ []) (hup : Updatable e w.store n names.kubernetesSecretName)
    (heffect : (e.update n).takesEffect) :
    ∃ c, w'.store.lookup names.kubernetesSecretName =
      some ((rec.relabel (f.labels rec snap)).stamp c) := by
  cases h with
  | quiet hf' _ hempty =>
    cases hf'.symm.trans hf
    exact absurd hempty hlabels
  | relabelled hf' | failedRelabelled hf' =>
    cases hf'.symm.trans hf
    exact ⟨_, Store.lookup_commit_relabel hl _⟩
  | failed hf' _ _ _ hcause =>
    obtain ⟨cause, hc⟩ := hcause hup
    rw [hc] at heffect
    cases heffect
  | blocked hf' | blockedDeleted hf' | released hf' | gone hf' =>
    exact absurd (hf.symm.trans hf') hne

/-- The walk does not stop before a name that the pass reaches. -/
theorem AllocState.not_stopsBefore (he : e.Live) {a : Adoption} {new : List (String × Record)}
    {w₀ : World} (ha : Adopted g e w₀.store (allNames snap (g.recordNames w₀.store)) a₀)
    (h : AllocState g snap a₀ w₀ (candidates snap a₀.adopted) a w new) {u : Except PassError Unit}
    (hreach : e.reaches g snap w₀.store n) :
    ¬ StopsBefore g e snap a.adopted
      ((allNames snap (g.recordNames w₀.store)).insertionSort (· ≤ ·)) w u n := by
  rintro ⟨done, m, rest, names, w₁, w₂, os, err, hns, hn, hnames, hpre, hend, -⟩
  obtain ⟨-, -, -, hupd, -⟩ := Env.reaches_iff.mp hreach
  have hnd := nodup_sorted_allNames snap (g.recordNames w₀.store)
  have hsorted := List.pairwise_insertionSort (· ≤ ·) (allNames snap (g.recordNames w₀.store))
  have hmem : m ∈ allNames snap (g.recordNames w₀.store) :=
    mem_sorted_allNames.mp (by rw [hns]; simp)
  rw [hns] at hnd hsorted
  -- `m` comes before `n` in the sorted names
  have hlt : m < n := lt_of_le_of_ne
    ((List.pairwise_cons.mp (List.pairwise_append.mp hsorted).2.1).1 n hn) (by
      rintro rfl
      exact (List.nodup_cons.mp (List.nodup_append.mp hnd).2.1).1 hn)
  cases hrec : a.adopted.lookup m with
  | none =>
    rw [hrec] at hend
    exact absurd hend.eq_of_unadopted.2 (fun h => nomatch h)
  | some rec =>
    rw [hrec] at hend
    rcases h.lookup_adopted ha hrec with ⟨key, hp, rfl⟩ | ⟨-, hseen, -⟩
    · -- created in this pass: nothing to update
      obtain ⟨⟨l, hl, hv⟩, -⟩ :=
        mem_candidates.mp (h.allocation.names.subset (List.mem_map_of_mem (f := (·.2.name)) hp))
      obtain ⟨hf, hlabels⟩ := fate_fresh (h.allocation.fresh _ hp) hl hv
      exact hend.ne_error fun hne => absurd (hf ▸ hlabels) hne
    · refine hend.ne_error fun hne => ?_
      obtain ⟨hserved, hu⟩ := hupd m hmem hlt (by simp [relabels, hseen, hne])
      obtain ⟨key, r, hkey, hl, -⟩ := h.stored he ha hrec
      obtain rfl : names.kubernetesSecretName = key :=
        Except.ok.inj ((secretName_of_resolveNames hnames).symm.trans hkey)
      refine ⟨he.updatable hserved (r := r) ?_, hu⟩
      rw [hpre.lookup_of_ne, hl]
      intro m' hm' rec' hrec' hkey'
      obtain rfl : m' = m := h.keys_injective he ha hrec' hrec hkey' hkey
      exact (List.nodup_append.mp hnd).2.2 m' hm' m' List.mem_cons_self rfl

/-- **A pass that reaches a record updates its labels.** -/
theorem PassEnd.relabelled_of_reaches {subnet link : String} (hp : g.Planned subnet link)
    (he : e.Live) (hinv : MemberInv g w.store) {targetSize : Int} {o : Except PassError Result}
    (h : PassEnd g e snap targetSize w o w') {r : Record} (hr : g.Holds w.store k r)
    (hreach : e.reaches g snap w.store r.name) {f : Fate}
    (hf : fate r (snap.listedByName.lookup r.name) = f) (hne : f ≠ .confirm)
    (hlabels : f.labels r snap ≠ []) :
    ∃ c, w'.store.lookup k = some ((r.relabel (f.labels r snap)).stamp c) := by
  obtain ⟨hlist, hgets, hcreates, -, hserved, heffect⟩ := Env.reaches_iff.mp hreach
  cases h with
  | unread _ hcause =>
    rcases hcause with ⟨cause, hc⟩ | ⟨v, hv, n, hn, hbad⟩
    · rw [ReadOf.serve_of_served he.list hlist] at hc
      cases hc
    · rw [he.list.serve hv] at hn
      obtain ⟨⟨key, hkey⟩, hget⟩ := hgets n hn
      rcases hbad with ⟨t, ht⟩ | ⟨cause, hc⟩
      · rw [hkey] at ht
        cases ht
      · rw [ReadOf.serve_of_served (he.get n) hget] at hc
        cases hc
  | stopped htracked hadopted hstop =>
    obtain rfl := listRecordNames_live he htracked
    rcases hstop.2 with ⟨-, n, hfails⟩ | ⟨slot, hslot, herr⟩
    · have hatt := hfails.attempted hadopted
      obtain ⟨hbad, done, rest, -, -, -, hcands, -⟩ := hfails
      have hn : n ∈ candidates snap _ := hcands ▸ List.mem_append_right done List.mem_cons_self
      obtain ⟨⟨l, hl, -⟩, -⟩ := mem_candidates.mp hn
      have hmem : n ∈ allNames snap (g.recordNames w.store) :=
        mem_allNames.mpr (.inl (by rw [hl]; rfl))
      obtain ⟨⟨key, hkp⟩, hcreate⟩ := hcreates n hmem hatt
      rcases hbad with ⟨cause, hc⟩ | ⟨t, ht⟩ | hc
      · rw [hkp] at hc
        cases hc
      · obtain ⟨key', hkey'⟩ := (hgets n hmem).1
        rw [hkey'] at ht
        cases ht
      · exact absurd hcreate hc
    · exact absurd herr (hp.slotAddress_ok (mem_freeSlots.mp hslot).1 _)
  | walked htracked hadopted halloc hwalk =>
    obtain rfl := listRecordNames_live he htracked
    obtain ⟨hrec, hl⟩ := halloc.adopted_of_holds he hinv.recordsKept hadopted hr
    obtain ⟨names, hns, rfl⟩ := secretName_ok (hinv.kept hr).2
    have hmem : r.name ∈ (allNames snap (g.recordNames w.store)).insertionSort (· ≤ ·) :=
      mem_sorted_allNames.mpr (mem_allNames.mpr (.inr (hinv.recordsKept.mem_recordNames hr)))
    rcases hwalk.reach hns hmem (nodup_sorted_allNames _ _) (fun m _ hne rec' hrec' hkey =>
        hne (halloc.keys_injective he hadopted hrec' hrec hkey (hinv.kept hr).2)) with
      ⟨hstop, -⟩ | ⟨w₁, w₂, o, hend, h1, h2, -⟩
    · exact absurd hstop (halloc.not_stopsBefore he hadopted hreach)
    · rw [hrec] at hend
      rw [h2]
      exact hend.relabelled_of_takesEffect (h1.trans hl) hf hne hlabels
        (he.updatable hserved (h1.trans hl)) heffect

end WireguardGateway.Gcp

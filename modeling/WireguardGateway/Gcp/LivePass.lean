import WireguardGateway.Gcp.Slots

/-!
# Passes whose reads reflect the store

When every read of a pass is live, what it adopts is what the store holds, and the walk finds each
record as it was adopted. So a pass acts on every record of the Gateway on its own: `RecordEnd` is
what it can leave of one, whatever else fails.

Results:
* **`PassEnd.recordEnd`**: a record is kept, relabelled as its `Fate` says, or released;
* `PassEnd.vacantEnd`: under any other object name it leaves what was there, or a fresh record.
-/

namespace WireguardGateway.Gcp

open Lib

variable {g : Gateway} {e : Env} {snap : Snapshot} {w w' : World} {k : String}

/-! ## The walk, one object at a time -/

theorem NameEnd.lookup_of_ne {n : String} {names : ManagedResourceNames} {adopted : Option Record}
    {r : Except PassError NameOutcome} (h : NameEnd g e snap n names adopted w r w')
    (hk : k ≠ names.kubernetesSecretName) : w'.store.lookup k = w.store.lookup k := by
  cases h with
  | unadopted | quiet | failed | blocked | gone => rfl
  | relabelled | failedRelabelled | blockedDeleted | released => exact Store.lookup_commit_of_ne hk

theorem NameEnd.eq_of_unadopted {n : String} {names : ManagedResourceNames}
    {r : Except PassError NameOutcome} (h : NameEnd g e snap n names none w r w') :
    w' = w ∧ r = .ok { member := some (pendingMember n), rendered := none } := by
  cases h with
  | unadopted => exact ⟨rfl, rfl⟩

/-- The walk touches the objects of adopted names only. -/
theorem Walk.lookup_of_ne {adopted : GoMap String Record} {ns : List String}
    {os : List NameOutcome} {u : Except PassError Unit} (h : Walk g e snap adopted ns w os u w')
    (hk : ∀ m ∈ ns, ∀ rec, adopted.lookup m = some rec → g.secretName m ≠ .ok k) :
    w'.store.lookup k = w.store.lookup k := by
  have hone : ∀ {m : String} {names : ManagedResourceNames} {w w₁ : World}
      {r : Except PassError NameOutcome}, g.resolveNames m = .ok names →
      NameEnd g e snap m names (adopted.lookup m) w r w₁ →
      (∀ rec, adopted.lookup m = some rec → g.secretName m ≠ .ok k) →
      w₁.store.lookup k = w.store.lookup k := fun {m names w w₁ r} hns hend hm => by
    cases hrec : adopted.lookup m with
    | none =>
      rw [hrec] at hend
      rw [hend.eq_of_unadopted.1]
    | some rec =>
      refine hend.lookup_of_ne fun heq => hm rec hrec ?_
      rw [heq, secretName_of_resolveNames hns]
  induction h with
  | nil => rfl
  | cons hns head _ ih =>
    rw [ih fun m hm => hk m (List.mem_cons_of_mem _ hm)]
    exact hone hns head (hk _ List.mem_cons_self)
  | stop hns head => exact hone hns head (hk _ List.mem_cons_self)

/-- The walk failed at a name before `n`. -/
def StopsBefore (g : Gateway) (e : Env) (snap : Snapshot) (adopted : GoMap String Record)
    (ns : List String) (w : World) (u : Except PassError Unit) (n : String) : Prop :=
  ∃ done m rest names w₁ w₂ os err, ns = done ++ m :: rest ∧ n ∈ rest ∧
    g.resolveNames m = .ok names ∧ Walk g e snap adopted done w os (.ok ()) w₁ ∧
    NameEnd g e snap m names (adopted.lookup m) w₁ (.error err) w₂ ∧ u = .error err

/-- The iteration of the walk at `n`, for an object that no other adopted name shares: the walk
stops before it, or the iteration finds the object as it was and leaves it as it will be. -/
theorem Walk.reach {adopted : GoMap String Record} {n : String} {names : ManagedResourceNames}
    (hn : g.resolveNames n = .ok names) {ns : List String} {os : List NameOutcome}
    {u : Except PassError Unit} (h : Walk g e snap adopted ns w os u w') (hmem : n ∈ ns)
    (hnd : ns.Nodup)
    (hk : ∀ m ∈ ns, m ≠ n → ∀ rec, adopted.lookup m = some rec →
      g.secretName m ≠ .ok names.kubernetesSecretName) :
    (StopsBefore g e snap adopted ns w u n ∧
      w'.store.lookup names.kubernetesSecretName = w.store.lookup names.kubernetesSecretName) ∨
    ∃ w₁ w₂ r, NameEnd g e snap n names (adopted.lookup n) w₁ r w₂ ∧
      w₁.store.lookup names.kubernetesSecretName = w.store.lookup names.kubernetesSecretName ∧
      w'.store.lookup names.kubernetesSecretName = w₂.store.lookup names.kubernetesSecretName ∧
      (∀ err, r = .error err → u = .error err) ∧ ∀ o, r = .ok o → o ∈ os := by
  induction h with
  | nil => exact absurd hmem List.not_mem_nil
  | @cons m ns names' w w₁ w' o os u hns head tail ih =>
    rw [List.nodup_cons] at hnd
    rcases List.mem_cons.mp hmem with rfl | hmem
    · -- the names after `n` are others
      rw [hn] at hns
      cases hns
      refine .inr ⟨w, w₁, .ok o, head, rfl, ?_, (fun err herr => nomatch herr), fun o' ho => ?_⟩
      · exact tail.lookup_of_ne fun m hm => hk m (List.mem_cons_of_mem _ hm) (by
          rintro rfl
          exact hnd.1 hm)
      · cases ho
        exact List.mem_cons_self
    · have hmn : m ≠ n := by
        rintro rfl
        exact hnd.1 hmem
      have hframe : w₁.store.lookup names.kubernetesSecretName =
          w.store.lookup names.kubernetesSecretName :=
        (Walk.cons hns head (.nil w₁)).lookup_of_ne fun m' hm' => by
          rw [List.mem_singleton.mp hm']
          exact hk m List.mem_cons_self hmn
      rcases ih hmem hnd.2 fun m' hm' => hk m' (List.mem_cons_of_mem _ hm') with
        ⟨⟨done, m', rest, names', v₁, v₂, os', err, rfl, hr, hns', hpre, hend, hu⟩, hl⟩ |
        ⟨v₁, v₂, r, hend, h1, h2, h3, h4⟩
      · exact .inl ⟨⟨m :: done, m', rest, names', v₁, v₂, o :: os', err, rfl, hr, hns',
          .cons hns head hpre, hend, hu⟩, hl.trans hframe⟩
      · exact .inr ⟨v₁, v₂, r, hend, h1.trans hframe, h2, h3,
          fun o' ho => List.mem_cons_of_mem _ (h4 o' ho)⟩
  | @stop m ns names' w w₁ err hns head =>
    rcases List.mem_cons.mp hmem with rfl | hmem
    · rw [hn] at hns
      cases hns
      exact .inr ⟨w, w₁, .error err, head, rfl, rfl, fun err' h => by cases h; rfl,
        fun o ho => nomatch ho⟩
    · have hmn : m ≠ n := by
        rintro rfl
        exact (List.nodup_cons.mp hnd).1 hmem
      refine .inl ⟨⟨[], m, ns, names', w, w₁, [], err, rfl, hmem, hns, .nil w, head, rfl⟩, ?_⟩
      have hstop : Walk g e snap adopted [m] w [] (.error err) w₁ := .stop hns head
      exact hstop.lookup_of_ne fun m' hm' => by
        rw [List.mem_singleton.mp hm']
        exact hk m List.mem_cons_self hmn

/-! ## What a live pass adopts -/

variable {tracked : List String} {a₀ a : Adoption} {new : List (String × Record)} {w₀ : World}

/-- A record seen live is the one in the store, under its own name. -/
theorem EnvOf.Live.lookup_of_seen (he : e.Live) {s : Store} {n : String} {rec : Record}
    (h : g.seen e s n = some rec) :
    ∃ key, g.secretName n = .ok key ∧ s.lookup key = some rec ∧ g.owns n rec := by
  unfold Gateway.seen at h
  split at h
  · rename_i key v hkey hv
    obtain rfl := (he.get n).serve hv
    obtain ⟨hl, ho⟩ := Option.filter_eq_some_iff.mp h
    exact ⟨key, hkey, hl, ho⟩
  · cases h

/-- After allocation an adopted record is in the store under its name: as created in this pass, or
as it was before. -/
theorem AllocState.stored (he : e.Live) (ha : Adopted g e w₀.store (allNames snap tracked) a₀)
    (h : AllocState g snap a₀ w₀ (candidates snap a₀.adopted) a w new) {n : String} {rec : Record}
    (hrec : a.adopted.lookup n = some rec) :
    ∃ key r, g.secretName n = .ok key ∧ w.store.lookup key = some r ∧ r.name = n ∧
      (((key, rec) ∈ new ∧ ∃ c, r = rec.assign c) ∨
        (r = rec ∧ w₀.store.lookup key = some rec)) := by
  rcases h.lookup_adopted ha hrec with ⟨key, hp, rfl⟩ | ⟨-, hs, -⟩
  · obtain ⟨c, hc⟩ := h.allocation.lookup_of_mem hp
    exact ⟨key, rec.assign c, (h.allocation.fresh _ hp).1, hc, rfl, .inl ⟨hp, c, rfl⟩⟩
  · obtain ⟨key, hkey, hl, ho⟩ := he.lookup_of_seen hs
    refine ⟨key, rec, hkey, ?_, owns_name ho, .inr ⟨rfl, hl⟩⟩
    rw [h.allocation.lookup_of_notMem fun hm => ?_]
    · exact hl
    · obtain ⟨p, hp, rfl⟩ := List.mem_map.mp hm
      exact absurd (hl.symm.trans (h.allocation.absent p hp)) (by simp)

/-- Adopted names have their object names to themselves. -/
theorem AllocState.keys_injective (he : e.Live)
    (ha : Adopted g e w₀.store (allNames snap tracked) a₀)
    (h : AllocState g snap a₀ w₀ (candidates snap a₀.adopted) a w new) {n m key : String}
    {rec rec' : Record} (hn : a.adopted.lookup n = some rec) (hm : a.adopted.lookup m = some rec')
    (hkn : g.secretName n = .ok key) (hkm : g.secretName m = .ok key) : n = m := by
  obtain ⟨k₁, r₁, hk₁, hl₁, hn₁, -⟩ := h.stored he ha hn
  obtain ⟨k₂, r₂, hk₂, hl₂, hn₂, -⟩ := h.stored he ha hm
  obtain rfl : k₁ = key := Except.ok.inj (hk₁.symm.trans hkn)
  obtain rfl : k₂ = k₁ := Except.ok.inj (hk₂.symm.trans hkm)
  rw [← hn₁, ← hn₂, Option.some.inj (hl₁.symm.trans hl₂)]

/-- **A live pass adopts every record of the Gateway**, unless it stops at a read. -/
theorem AllocState.adopted_of_holds (he : e.Live) (hkept : RecordsKept g w₀.store)
    (ha : Adopted g e w₀.store (allNames snap (g.recordNames w₀.store)) a₀)
    (h : AllocState g snap a₀ w₀ (candidates snap a₀.adopted) a w new) {r : Record}
    (hr : g.Holds w₀.store k r) :
    a.adopted.lookup r.name = some r ∧ w.store.lookup k = some r := by
  have hmem : r.name ∈ allNames snap (g.recordNames w₀.store) :=
    mem_allNames.mpr (.inr (hkept.mem_recordNames hr))
  obtain ⟨v, hv⟩ := ha.reads r.name hmem
  have h₀ : a₀.adopted.lookup r.name = some r := by
    rw [ha.lookup, if_pos hmem, he.seen hkept hr hv]
  have hnot : r.name ∉ new.map (·.2.name) := fun hn => by
    have := (mem_candidates.mp (h.allocation.names.subset hn)).2
    exact absurd (h₀.symm.trans this) (by simp)
  refine ⟨by rw [h.adoption, Adoption.lookup_takeAll_of_notMem hnot, h₀], ?_⟩
  rw [h.allocation.lookup_of_notMem fun hm => ?_]
  · exact hr.1
  · obtain ⟨p, hp, rfl⟩ := List.mem_map.mp hm
    exact absurd (hr.1.symm.trans (h.allocation.absent p hp)) (by simp)

/-! ## What a live pass leaves of a record -/

/-- What a pass can leave of a record `r` of the Gateway. -/
inductive RecordEnd (snap : Snapshot) (r : Record) : Option Record → Prop
  | kept : RecordEnd snap r (some r)
  | relabelled {f : Fate} (c : Nat) (hf : fate r (snap.listedByName.lookup r.name) = f)
      (hne : f ≠ .confirm) : RecordEnd snap r (some ((r.relabel (f.labels r snap)).stamp c))
  | released (hf : fate r (snap.listedByName.lookup r.name) = .confirm) : RecordEnd snap r none

theorem RecordEnd.sameIdentity {r r' : Record} (h : RecordEnd snap r (some r')) :
    r.SameIdentity r' := by
  generalize hsome : some r' = o at h
  cases h with
  | kept => cases hsome; exact .refl r
  | @relabelled f c =>
    cases hsome
    exact r.stamp_relabel_sameIdentity (f.labels_mutable r snap) c
  | released => cases hsome

/-- One iteration of the walk on a record it finds as adopted. -/
theorem NameEnd.recordEnd {rec : Record} {names : ManagedResourceNames}
    {o : Except PassError NameOutcome}
    (h : NameEnd g e snap rec.name names (some rec) w o w')
    (hl : w.store.lookup names.kubernetesSecretName = some rec) :
    RecordEnd snap rec (w'.store.lookup names.kubernetesSecretName) := by
  cases h with
  | quiet | failed | blocked => rw [hl]; exact .kept
  | relabelled hf hne | failedRelabelled hf hne =>
    rw [World.commit_store, Store.lookup_commit_relabel hl]
    exact .relabelled _ hf hne
  | blockedDeleted hf | released hf =>
    rw [World.commit_store, Store.lookup_commit_delete]
    exact .released hf
  | gone hf hnone =>
    rw [hnone] at hl
    cases hl

theorem nodup_sorted_allNames (snap : Snapshot) (tracked : List String) :
    ((allNames snap tracked).insertionSort (· ≤ ·)).Nodup :=
  (List.perm_insertionSort _ _).nodup_iff.mpr (List.nodup_dedup _)

theorem mem_sorted_allNames {n : String} :
    n ∈ (allNames snap tracked).insertionSort (· ≤ ·) ↔ n ∈ allNames snap tracked :=
  (List.perm_insertionSort _ _).mem_iff

theorem listRecordNames_live (he : e.Live)
    (h : listRecordNames g e w = (.ok tracked, w)) : tracked = g.recordNames w.store := by
  obtain ⟨v, hv, rfl⟩ := listRecordNames_ok h
  rw [he.list.serve hv]

/-- **What a live pass leaves of a record**, on every exit. -/
theorem PassEnd.recordEnd (he : e.Live) (hkept : RecordsKept g w.store) {targetSize : Int}
    {o : Except PassError Result} (h : PassEnd g e snap targetSize w o w') {r : Record}
    (hr : g.Holds w.store k r) : RecordEnd snap r (w'.store.lookup k) := by
  cases h with
  | unread => rw [hr.1]; exact .kept
  | stopped htracked hadopted hstop =>
    obtain ⟨⟨done, new, -, halloc⟩, -⟩ := hstop
    rw [halloc.lookup_of_notMem fun hm => ?_, hr.1]
    · exact .kept
    · obtain ⟨p, hp, rfl⟩ := List.mem_map.mp hm
      exact absurd (hr.1.symm.trans (halloc.absent p hp)) (by simp)
  | walked htracked hadopted halloc hwalk =>
    obtain rfl := listRecordNames_live he htracked
    obtain ⟨hrec, hl⟩ := halloc.adopted_of_holds he hkept hadopted hr
    obtain ⟨names, hns, rfl⟩ := secretName_ok (hkept k r hr).2
    have hmem : r.name ∈ (allNames snap (g.recordNames w.store)).insertionSort (· ≤ ·) :=
      mem_sorted_allNames.mpr (mem_allNames.mpr (.inr (hkept.mem_recordNames hr)))
    rcases hwalk.reach hns hmem (nodup_sorted_allNames _ _) (fun m _ hne rec' hrec' hkey =>
        hne (halloc.keys_injective he hadopted hrec' hrec hkey (hkept _ r hr).2)) with
      ⟨-, hlast⟩ | ⟨w₁, w₂, o, hend, h1, h2, -⟩
    · rw [hlast, hl]
      exact .kept
    · rw [hrec] at hend
      rw [h2]
      exact hend.recordEnd (h1.trans hl)

/-- What an iteration that completes adds for a record that is not up for release. -/
theorem NameEnd.outcome_eq {n : String} {names : ManagedResourceNames} {rec : Record}
    {o : NameOutcome} (h : NameEnd g e snap n names (some rec) w (.ok o) w')
    (hne : fate rec (snap.listedByName.lookup n) ≠ .confirm) :
    o = (fate rec (snap.listedByName.lookup n)).outcome rec snap names := by
  cases h with
  | quiet hf | relabelled hf =>
    rw [hf]
  | blocked hf | blockedDeleted hf | released hf | gone hf =>
    exact absurd hf hne

/-! ## What a live pass leaves under a free object name -/

/-- The walk leaves a record that was created in the same pass alone. -/
theorem fate_fresh {rec : Record} (h : IsFresh g snap k rec) {l : ListedMember}
    (hl : snap.listedByName.lookup rec.name = some l) (hv : l.verdict = .present) :
    fate rec (snap.listedByName.lookup rec.name) = .resume l false ∧
      (Fate.resume l false).labels rec snap = [] := by
  obtain ⟨-, l', slot, address, priv, hl', -, hrec⟩ := h
  obtain rfl : l' = l := Option.some.inj (hl'.symm.trans hl)
  have hp : rec.pendingConfirmation = false := by rw [hrec]; rfl
  refine ⟨by simp only [fate, hp, hl, hv, Bool.false_eq_true, if_false], ?_⟩
  rw [hrec]
  exact resumeEdits_freshRecord g _ l' snap slot address priv

theorem NameEnd.eq_of_quiet {n : String} {names : ManagedResourceNames} {rec : Record}
    {o : Except PassError NameOutcome} {f : Fate} (h : NameEnd g e snap n names (some rec) w o w')
    (hf : fate rec (snap.listedByName.lookup n) = f) (hne : f ≠ .confirm)
    (hlabels : f.labels rec snap = []) : w' = w ∧ o = .ok (f.outcome rec snap names) := by
  cases h with
  | quiet hf' =>
    cases hf'.symm.trans hf
    exact ⟨rfl, rfl⟩
  | relabelled hf' _ hl | failed hf' _ hl | failedRelabelled hf' _ hl =>
    cases hf'.symm.trans hf
    exact absurd hlabels hl
  | blocked hf' | blockedDeleted hf' | released hf' | gone hf' =>
    exact absurd (hf.symm.trans hf') hne

section

variable (he : e.Live) (ha : Adopted g e w₀.store (allNames snap tracked) a₀)
  (h : AllocState g snap a₀ w₀ (candidates snap a₀.adopted) a w new) {os : List NameOutcome}
  {u : Except PassError Unit}
  (hwalk : Walk g e snap a.adopted ((allNames snap tracked).insertionSort (· ≤ ·)) w os u w')

include he ha h hwalk

/-- A created record goes through the walk unchanged. -/
theorem AllocState.lookup_created {p : String × Record} (hp : p ∈ new) :
    w'.store.lookup p.1 = w.store.lookup p.1 := by
  have hfresh := h.allocation.fresh p hp
  have hrec : a.adopted.lookup p.2.name = some p.2 := by
    rw [h.adoption]
    exact Adoption.lookup_takeAll_of_mem h.nodup_names hp
  obtain ⟨⟨l, hl, hv⟩, -⟩ :=
    mem_candidates.mp (h.allocation.names.subset (List.mem_map_of_mem (f := (·.2.name)) hp))
  obtain ⟨names, hns, hkey⟩ := secretName_ok hfresh.1
  have hmem : p.2.name ∈ (allNames snap tracked).insertionSort (· ≤ ·) :=
    mem_sorted_allNames.mpr (mem_allNames.mpr (.inl (by rw [hl]; rfl)))
  obtain ⟨hf, hlabels⟩ := fate_fresh hfresh hl hv
  rcases hwalk.reach hns hmem (nodup_sorted_allNames _ _) (fun m _ hne rec' hrec' hkey' =>
      hne (h.keys_injective he ha hrec' hrec hkey' (hkey ▸ hfresh.1))) with
    ⟨-, hlast⟩ | ⟨w₁, w₂, o, hend, h1, h2, -⟩
  · rw [← hkey, hlast]
  · rw [hrec] at hend
    rw [← hkey, h2, (hend.eq_of_quiet hf (by simp) hlabels).1, h1]

/-- An object that is neither created nor a record of the Gateway goes
through the pass unchanged. -/
theorem AllocState.lookup_vacant (hnew : k ∉ new.map Prod.fst)
    (hvacant : ∀ r, ¬ g.Holds w₀.store k r) :
    w'.store.lookup k = w₀.store.lookup k := by
  rw [hwalk.lookup_of_ne, h.allocation.lookup_of_notMem hnew]
  intro m _ rec hrec hkey
  obtain ⟨key, r, hkey', hl, -, ⟨hp, -⟩ | ⟨-, hl₀⟩⟩ := h.stored he ha hrec
  all_goals obtain rfl : key = k := Except.ok.inj (hkey'.symm.trans hkey)
  · exact hnew (List.mem_map_of_mem hp)
  · exact hvacant rec ⟨hl₀, (owns_iff.mp (h.owns ha hrec)).1⟩

end

/-- **What a live pass leaves under an object name without a record of the Gateway**: what was
there, or a fresh record if there was nothing. -/
theorem PassEnd.vacantEnd (he : e.Live) {targetSize : Int} {o : Except PassError Result}
    (h : PassEnd g e snap targetSize w o w') (hvacant : ∀ r, ¬ g.Holds w.store k r) :
    w'.store.lookup k = w.store.lookup k ∨
      ∃ rec c, IsFresh g snap k rec ∧ w.store.lookup k = none ∧
        w'.store.lookup k = some (rec.assign c) := by
  cases h with
  | unread => exact .inl rfl
  | stopped _ _ hstop =>
    obtain ⟨⟨done, new, -, halloc⟩, -⟩ := hstop
    by_cases hk : k ∈ new.map Prod.fst
    · obtain ⟨p, hp, rfl⟩ := List.mem_map.mp hk
      obtain ⟨c, hc⟩ := halloc.lookup_of_mem hp
      exact .inr ⟨p.2, c, halloc.fresh p hp, halloc.absent p hp, hc⟩
    · exact .inl (halloc.lookup_of_notMem hk)
  | @walked _ _ _ new _ _ _ _ htracked hadopted halloc hwalk =>
    by_cases hk : k ∈ new.map Prod.fst
    · obtain ⟨p, hp, rfl⟩ := List.mem_map.mp hk
      obtain ⟨c, hc⟩ := halloc.allocation.lookup_of_mem hp
      exact .inr ⟨p.2, c, halloc.allocation.fresh p hp, halloc.allocation.absent p hp,
        (halloc.lookup_created he hadopted hwalk hp).trans hc⟩
    · exact .inl (halloc.lookup_vacant he hadopted hwalk hk hvacant)

/-- Where a record found after a live pass comes from. -/
theorem PassEnd.origin (he : e.Live) (hkept : RecordsKept g w.store) {targetSize : Int}
    {o : Except PassError Result} (h : PassEnd g e snap targetSize w o w') {r : Record}
    (hr : g.Holds w'.store k r) :
    (∃ r₀, g.Holds w.store k r₀ ∧ RecordEnd snap r₀ (some r)) ∨
      ∃ rec c, IsFresh g snap k rec ∧ w.store.lookup k = none ∧ r = rec.assign c := by
  by_cases hheld : ∃ r₀, g.Holds w.store k r₀
  · obtain ⟨r₀, hr₀⟩ := hheld
    have hend := h.recordEnd he hkept hr₀
    rw [hr.1] at hend
    exact .inl ⟨r₀, hr₀, hend⟩
  · rcases h.vacantEnd he (not_exists.mp hheld) with hsame | ⟨rec, c, hfresh, hnone, hl⟩
    · exact absurd ⟨r, hsame.symm.trans hr.1, hr.2⟩ hheld
    · exact .inr ⟨rec, c, hfresh, hnone, Option.some.inj (hr.1.symm.trans hl)⟩

end WireguardGateway.Gcp

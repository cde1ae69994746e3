import Mathlib.Data.List.Forall2
import WireguardGateway.Gcp.LivePass

/-!
# A completed pass, name by name

When the reads of a pass reflect the store and the pass completes, each name it visits is decided by
three things: the record of the name before the pass, whether the pass created one, and the listing.
`CompletedLoops` holds the three loops of such a pass; what the pass does at a name and what it
leaves there is read off it.

Results:
* `Walk.visits`: the outcomes of a completed walk, name by name;
* `CompletedLoops.lookup_adopted_iff`: the records a pass works on;
* `CompletedLoops.recordOf_after_of_unadopted`: no other name has a record after the pass;
* **`CompletedLoops.present_after`**: what a pass leaves of a present member, and what it reports.
-/

namespace WireguardGateway.Gcp

open Lib

variable {g : Gateway} {e : Env} {snap : Snapshot} {w w' : World}

/-! ## The record of a name -/

/-- The record of `n` in the store. -/
def Gateway.recordOf (g : Gateway) (s : Store) (n : String) : Option Record :=
  (g.secretName n).toOption.bind fun key => (s.lookup key).filter (g.owns n)

variable {n : String} {r : Record} {s : Store}

theorem recordOf_eq_some :
    g.recordOf s n = some r ↔
      ∃ key, g.secretName n = .ok key ∧ s.lookup key = some r ∧ g.owns n r := by
  unfold Gateway.recordOf
  cases g.secretName n with
  | error => simp [Except.toOption]
  | ok key => simp [Except.toOption, Option.filter_eq_some_iff]

theorem holds_of_recordOf (h : g.recordOf s n = some r) :
    ∃ key, g.secretName n = .ok key ∧ g.Holds s key r ∧ r.name = n := by
  obtain ⟨key, hkey, hl, ho⟩ := recordOf_eq_some.mp h
  exact ⟨key, hkey, ⟨hl, (owns_iff.mp ho).1⟩, owns_name ho⟩

theorem RecordsKept.recordOf (h : RecordsKept g s) {key : String} (hr : g.Holds s key r) :
    g.recordOf s r.name = some r := by
  obtain ⟨hproject, hkey⟩ := h key r hr
  exact recordOf_eq_some.mpr ⟨key, hkey, hr.1, owns_iff.mpr ⟨hr.2, hproject, rfl⟩⟩

/-- With live reads, the record seen is the record in the store. -/
theorem seen_eq_recordOf {v : Store} (hlive : (e.getRead n).IsLive)
    (hv : (e.getRead n).serve s = .ok v) : g.seen e s n = g.recordOf s n := by
  obtain rfl := hlive.serve hv
  unfold Gateway.seen Gateway.recordOf
  rw [hv]
  cases g.secretName n <;> rfl

theorem mem_recordNames_of_recordOf (h : g.recordOf s n = some r) : n ∈ g.recordNames s := by
  obtain ⟨key, hkey, hheld, rfl⟩ := holds_of_recordOf h
  obtain ⟨names, hns, -⟩ := secretName_ok hkey
  exact Gateway.mem_recordNames.mpr
    ⟨nameResourceNames_ne_empty hns, r, Store.mem_records.mpr ⟨key, hheld.1⟩, hheld.2, rfl⟩

section

variable {s : Store} {a : Adoption} (hlive : ∀ n, (e.getRead n).IsLive)
  (h : Adopted g e s (allNames snap (g.recordNames s)) a)

include hlive h

/-- What live reads adopt under a name is its record. -/
theorem Adopted.lookup_eq (n : String) : a.adopted.lookup n = g.recordOf s n := by
  rw [h.lookup]
  split
  · rename_i hmem
    obtain ⟨v, hv⟩ := h.reads n hmem
    exact seen_eq_recordOf (hlive n) hv
  · rename_i hmem
    cases hr : g.recordOf s n with
    | none => rfl
    | some r => exact absurd (mem_allNames.mpr (.inr (mem_recordNames_of_recordOf hr))) hmem

/-- The slots live reads take as occupied are those of the records. -/
theorem Adopted.mem_occupied {i : Int} :
    i ∈ a.occupied ↔ ∃ n r, g.recordOf s n = some r ∧ r.slot = i := by
  rw [h.occupied]
  constructor
  · rintro ⟨n, hn, r, hseen, hi⟩
    obtain ⟨v, hv⟩ := h.reads n hn
    exact ⟨n, r, (seen_eq_recordOf (hlive n) hv).symm.trans hseen, hi⟩
  · rintro ⟨n, r, hr, hi⟩
    have hmem : n ∈ allNames snap (g.recordNames s) :=
      mem_allNames.mpr (.inr (mem_recordNames_of_recordOf hr))
    obtain ⟨v, hv⟩ := h.reads n hmem
    exact ⟨n, hmem, r, (seen_eq_recordOf (hlive n) hv).trans hr, hi⟩

end

/-! ## The outcomes of a walk, name by name -/

theorem NameEnd.member_name {names : ManagedResourceNames} {adopted : Option Record}
    {o : NameOutcome} (h : NameEnd g e snap n names adopted w (.ok o) w')
    (hname : ∀ rec, adopted = some rec → rec.name = n) {m : MemberStatus} (hm : o.member = some m) :
    m.name = n := by
  have hfate : ∀ {rec : Record} {f : Fate}, adopted = some rec →
      (f.outcome rec snap names).member = some m → m.name = n := by
    intro rec f hrec hm
    cases f with
    | resume l p =>
      cases hm
      simp only [buildMemberStatus, resumeEdits_record_eq, hname rec hrec]
    | depart | advance | lapse | confirm => cases hm; exact hname rec hrec
  cases h with
  | unadopted => cases hm; rfl
  | quiet | relabelled => exact hfate rfl hm
  | blocked | blockedDeleted => cases hm; exact hname _ rfl
  | released | gone => cases hm

theorem exists_of_forall₂_right {α β : Type} {R : α → β → Prop} {l : List α} {l' : List β}
    (h : List.Forall₂ R l l') {b : β} (hb : b ∈ l') : ∃ a ∈ l, R a b := by
  induction h with
  | nil => cases hb
  | cons head _ ih =>
    rcases List.mem_cons.mp hb with rfl | hb
    · exact ⟨_, List.mem_cons_self, head⟩
    · obtain ⟨a, ha, hab⟩ := ih hb
      exact ⟨a, List.mem_cons_of_mem _ ha, hab⟩

/-- What the walk did at `n`; no other iteration touched the object of an adopted name. -/
def Visit (g : Gateway) (e : Env) (snap : Snapshot) (adopted : GoMap String Record)
    (w w' : World) (n : String) (o : NameOutcome) : Prop :=
  ∃ names w₁ w₂, g.resolveNames n = .ok names ∧
    NameEnd g e snap n names (adopted.lookup n) w₁ (.ok o) w₂ ∧
    ∀ rec, adopted.lookup n = some rec →
      w₁.store.lookup names.kubernetesSecretName = w.store.lookup names.kubernetesSecretName ∧
      w'.store.lookup names.kubernetesSecretName = w₂.store.lookup names.kubernetesSecretName

/-- **The outcomes of a completed walk.** -/
theorem Walk.visits {adopted : GoMap String Record} {ns : List String} {os : List NameOutcome}
    {u : Except PassError Unit} (h : Walk g e snap adopted ns w os u w') (hu : u = .ok ())
    (hnd : ns.Nodup)
    (hk : ∀ {n m key rec rec'}, adopted.lookup n = some rec → adopted.lookup m = some rec' →
      g.secretName n = .ok key → g.secretName m = .ok key → n = m) :
    List.Forall₂ (Visit g e snap adopted w w') ns os := by
  induction h with
  | nil => exact .nil
  | @cons n ns names w w₁ w' o os u hns head tail ih =>
    rw [List.nodup_cons] at hnd
    refine .cons ⟨names, w, w₁, hns, head, fun rec hrec => ⟨rfl, ?_⟩⟩ ?_
    · -- the names after `n` are others
      refine tail.lookup_of_ne fun m hm rec' hrec' hkey => ?_
      rw [hk hrec' hrec hkey (secretName_of_resolveNames hns)] at hm
      exact hnd.1 hm
    · -- and `n` is none of them
      have hne : ∀ m o', Visit g e snap adopted w₁ w' m o' → m ∈ ns →
          Visit g e snap adopted w w' m o' := by
        rintro m o' ⟨names', v₁, v₂, hns', hend, hobj⟩ hm
        refine ⟨names', v₁, v₂, hns', hend, fun rec hrec => ⟨?_, (hobj rec hrec).2⟩⟩
        refine (hobj rec hrec).1.trans ((Walk.cons hns head (.nil w₁)).lookup_of_ne ?_)
        intro n' hn' rec' hrec' hkey
        rw [List.mem_singleton] at hn'
        subst hn'
        rw [hk hrec' hrec hkey (secretName_of_resolveNames hns')] at hnd
        exact hnd.1 hm
      have htail := ih hu hnd.2
      rw [List.forall₂_iff_zip] at htail ⊢
      exact ⟨htail.1, fun {m o'} hmo => hne m o' (htail.2 hmo) (List.of_mem_zip hmo).1⟩
  | stop => cases hu

/-! ## The loops of a completed pass -/

/-- The three loops of a completed pass over live reads. -/
structure CompletedLoops (g : Gateway) (e : Env) (snap : Snapshot) (w w' : World) (a₀ a : Adoption)
    (new : List (String × Record)) (w₁ : World) (os : List NameOutcome) : Prop where
  live : e.Live
  adopted : Adopted g e w.store (allNames snap (g.recordNames w.store)) a₀
  alloc : AllocState g snap a₀ w (candidates snap a₀.adopted) a w₁ new
  walk : Walk g e snap a.adopted ((allNames snap (g.recordNames w.store)).insertionSort (· ≤ ·)) w₁
    os (.ok ()) w'

theorem PassEnd.loops (he : e.Live) {targetSize : Int} {res : Result}
    (h : PassEnd g e snap targetSize w (.ok res) w') :
    ∃ a₀ a new w₁ os, CompletedLoops g e snap w w' a₀ a new w₁ os ∧
      res = os.foldl Result.add (Result.start targetSize) := by
  generalize hres : Except.ok res = out at h
  cases h with
  | unread | stopped => cases hres
  | @walked _ a₀ a new w₁ _ os u htracked hadopted halloc hwalk =>
    cases u with
    | error => cases hres
    | ok =>
      obtain rfl := listRecordNames_live he htracked
      cases hres
      exact ⟨a₀, a, new, w₁, os, ⟨he, hadopted, halloc, hwalk⟩, rfl⟩

/-- A record found after the walk was there before it. -/
theorem Walk.origin {adopted : GoMap String Record} {ns : List String} {os : List NameOutcome}
    {u : Except PassError Unit} (h : Walk g e snap adopted ns w os u w') {k : String}
    (hr : w'.store.lookup k = some r) : ∃ r₀, w.store.lookup k = some r₀ ∧ r₀.SameIdentity r := by
  have hstep : ∀ (s : Store) (x : Write),
      (∀ k r, s.lookup k = some r → ∃ r₀, w.store.lookup k = some r₀ ∧ r₀.SameIdentity r) →
      WalkGuard s x → ∀ k r, (s.commit x).lookup k = some r →
        ∃ r₀, w.store.lookup k = some r₀ ∧ r₀.SameIdentity r := by
    intro s x hs hx k r hr
    rcases lookup_commit (g := g) hx.slotGuard hr with ⟨rec, c, rfl, -⟩ | ⟨r₁, hr₁, hid⟩
    · exact hx.elim
    · obtain ⟨r₀, hr₀, hid₀⟩ := hs k r₁ hr₁
      exact ⟨r₀, hr₀, hid₀.trans hid⟩
  exact h.appends.invariant hstep (fun k r hr => ⟨r, hr, .refl r⟩) k r hr

/-- A record but for what the API server assigns. -/
def Record.content (r : Record) : Record := { r with uid := 0, resourceVersion := 0 }

theorem Record.content_relabel (r : Record) (ls : Labels) :
    (r.relabel ls).content = r.content.relabel ls := by
  induction ls generalizing r with
  | nil => rfl
  | cons l ls ih =>
    obtain ⟨l, v⟩ := l
    rw [relabel, List.foldl_cons, ← relabel, ih, relabel, relabel, List.foldl_cons]
    cases l <;> rfl

theorem Record.identity_of_content {r' : Record} (h : r'.content = r.content) :
    r'.name = r.name ∧ r'.slot = r.slot ∧ r'.gatewayUID = r.gatewayUID ∧
      r'.project = r.project := by
  have hname : r'.content.name = r.content.name := by rw [h]
  have hslot : r'.content.slot = r.content.slot := by rw [h]
  have huid : r'.content.gatewayUID = r.content.gatewayUID := by rw [h]
  have hproject : r'.content.project = r.content.project := by rw [h]
  exact ⟨hname, hslot, huid, hproject⟩

theorem Record.owns_of_content {r' : Record} (h : r'.content = r.content) :
    g.owns n r' = g.owns n r := by
  obtain ⟨hname, -, huid, hproject⟩ := identity_of_content h
  rw [Gateway.owns, Gateway.owns, hname, huid, hproject]

/-- What the iteration at a present member leaves of its record. -/
theorem NameEnd.lookup_resumed {names : ManagedResourceNames} {rec : Record} {o : NameOutcome}
    {l : ListedMember} {p : Bool} (h : NameEnd g e snap n names (some rec) w (.ok o) w')
    (hf : fate rec (snap.listedByName.lookup n) = .resume l p)
    (hl : w.store.lookup names.kubernetesSecretName = some r) (hr : r.content = rec.content) :
    ∃ r', w'.store.lookup names.kubernetesSecretName = some r' ∧
      r'.content = (resumeEdits rec l snap p).record.content := by
  rw [resumeEdits_record]
  cases h with
  | quiet hf' _ hlabels =>
    cases hf'.symm.trans hf
    refine ⟨r, hl, hr.trans ?_⟩
    rw [show (resumeEdits rec l snap p).labels = [] from hlabels]
    rfl
  | relabelled hf' =>
    cases hf'.symm.trans hf
    refine ⟨_, Store.lookup_commit_relabel hl _, ?_⟩
    rw [Record.content_relabel rec, ← hr, ← Record.content_relabel]
    rfl
  | blocked hf' | blockedDeleted hf' | released hf' | gone hf' =>
    cases hf'.symm.trans hf

namespace CompletedLoops

variable {a₀ a : Adoption} {new : List (String × Record)} {w₁ : World} {os : List NameOutcome}
  {n : String} {o : NameOutcome}

variable {p : String × Record} {rec : Record} (h : CompletedLoops g e snap w w' a₀ a new w₁ os)

include h

/-- A record created in the pass, after it. -/
theorem lookup_new (hp : p ∈ new) :
    ∃ c, w'.store.lookup p.1 = some (p.2.assign c) := by
  obtain ⟨c, hc⟩ := h.alloc.allocation.lookup_of_mem hp
  exact ⟨c, (h.alloc.lookup_created h.live h.adopted h.walk hp).trans hc⟩

theorem adopted_new (hp : p ∈ new) :
    a.adopted.lookup p.2.name = some p.2 := by
  rw [h.alloc.adoption]
  exact Adoption.lookup_takeAll_of_mem h.alloc.nodup_names hp

theorem visits :
    List.Forall₂ (Visit g e snap a.adopted w₁ w')
      ((allNames snap (g.recordNames w.store)).insertionSort (· ≤ ·)) os :=
  h.walk.visits rfl (nodup_sorted_allNames _ _) fun hn hm hkn hkm =>
    h.alloc.keys_injective h.live h.adopted hn hm hkn hkm

theorem visit_of_name (hn : n ∈ allNames snap (g.recordNames w.store)) :
    ∃ o ∈ os, Visit g e snap a.adopted w₁ w' n o :=
  exists_of_forall₂_right h.visits.flip (mem_sorted_allNames.mpr hn)

theorem visit_of_outcome (ho : o ∈ os) :
    ∃ n ∈ allNames snap (g.recordNames w.store), Visit g e snap a.adopted w₁ w' n o := by
  obtain ⟨n, hn, hvisit⟩ := exists_of_forall₂_right h.visits ho
  exact ⟨n, mem_sorted_allNames.mp hn, hvisit⟩

/-- No record was created for a name without an adopted one. -/
theorem not_new_of_unadopted (hrec : a.adopted.lookup n = none) (hp : p ∈ new) : p.2.name ≠ n := by
  rintro rfl
  rw [h.adopted_new hp] at hrec
  cases hrec

/-- Before allocation, what is adopted under a name is its record. -/
theorem adopted_before (n : String) :
    a₀.adopted.lookup n = g.recordOf w.store n :=
  h.adopted.lookup_eq h.live.get n

/-- A created record is one of a candidate. -/
theorem candidate_of_new (hp : p ∈ new) :
    (∃ l, snap.listedByName.lookup p.2.name = some l ∧ l.verdict = .present) ∧
      g.recordOf w.store p.2.name = none := by
  obtain ⟨hlisted, hnone⟩ := mem_candidates.mp
    (h.alloc.allocation.names.subset (List.mem_map_of_mem (f := (·.2.name)) hp))
  rw [h.adopted_before] at hnone
  exact ⟨hlisted, hnone⟩

/-- **The records a pass works on**: those there before it, and those it created. -/
theorem lookup_adopted_iff :
    a.adopted.lookup n = some rec ↔
      (∃ key, (key, rec) ∈ new ∧ rec.name = n) ∨ g.recordOf w.store n = some rec := by
  constructor
  · intro hrec
    rcases h.alloc.lookup_adopted h.adopted hrec with hnew | ⟨hmem, hseen, -⟩
    · exact .inl hnew
    · rw [← h.adopted_before, h.adopted.lookup, if_pos hmem]
      exact .inr hseen
  · rintro (⟨key, hp, rfl⟩ | hr)
    · exact h.adopted_new hp
    · have hnot : n ∉ new.map (·.2.name) := by
        intro hn
        obtain ⟨p, hp, rfl⟩ := List.mem_map.mp hn
        rw [(h.candidate_of_new hp).2] at hr
        cases hr
      rw [h.alloc.adoption, Adoption.lookup_takeAll_of_notMem hnot, h.adopted_before, hr]

/-- An adopted name is one of the pass. -/
theorem name_of_adopted (hrec : a.adopted.lookup n = some rec) :
    n ∈ allNames snap (g.recordNames w.store) := by
  rcases h.lookup_adopted_iff.mp hrec with ⟨key, hp, rfl⟩ | hbefore
  · obtain ⟨⟨l, hl, -⟩, -⟩ := h.candidate_of_new hp
    exact mem_allNames.mpr (.inl (by rw [hl]; rfl))
  · exact mem_allNames.mpr (.inr (mem_recordNames_of_recordOf hbefore))

theorem recordOf_of_unadopted (hrec : a.adopted.lookup n = none) : g.recordOf w.store n = none := by
  cases hr : g.recordOf w.store n with
  | none => rfl
  | some r => exact absurd (hrec.symm.trans (h.lookup_adopted_iff.mpr (.inr hr))) (by simp)

/-- A name without an adopted record has none after the pass. -/
theorem recordOf_after_of_unadopted (hrec : a.adopted.lookup n = none) :
    g.recordOf w'.store n = none := by
  cases hr : g.recordOf w'.store n with
  | none => rfl
  | some r =>
    obtain ⟨key, hkey, hl, ho⟩ := recordOf_eq_some.mp hr
    by_cases hnew : key ∈ new.map Prod.fst
    · obtain ⟨p, hp, rfl⟩ := List.mem_map.mp hnew
      obtain ⟨c, hc⟩ := h.lookup_new hp
      obtain rfl := Option.some.inj (hl.symm.trans hc)
      exact absurd (owns_name ho) (h.not_new_of_unadopted hrec hp)
    · obtain ⟨r₀, hr₀, hid⟩ := h.walk.origin hl
      rw [h.alloc.allocation.lookup_of_notMem hnew] at hr₀
      exact absurd ((recordOf_eq_some.mpr ⟨key, hkey, hr₀, hid.owns.mp ho⟩).symm.trans
        (h.recordOf_of_unadopted hrec)) (by simp)

/-- The object of an adopted name when the walk starts. -/
theorem stored (hrec : a.adopted.lookup n = some rec) {names : ManagedResourceNames}
    (hns : g.resolveNames n = .ok names) :
    ∃ r, w₁.store.lookup names.kubernetesSecretName = some r ∧ r.content = rec.content := by
  obtain ⟨key, r, hkey, hl, -, hcase⟩ := h.alloc.stored h.live h.adopted hrec
  obtain rfl : names.kubernetesSecretName = key :=
    Except.ok.inj ((secretName_of_resolveNames hns).symm.trans hkey)
  rcases hcase with ⟨-, c, rfl⟩ | ⟨rfl, -⟩
  · exact ⟨_, hl, rfl⟩
  · exact ⟨_, hl, rfl⟩

/-- What the pass leaves under the object name of an adopted name is its record. -/
theorem recordOf_after (hrec : a.adopted.lookup n = some rec) {names : ManagedResourceNames}
    (hns : g.resolveNames n = .ok names) :
    g.recordOf w'.store n = w'.store.lookup names.kubernetesSecretName := by
  rw [Gateway.recordOf, secretName_of_resolveNames hns]
  cases hl : w'.store.lookup names.kubernetesSecretName with
  | none => simp [Except.toOption, hl]
  | some r =>
    obtain ⟨r₀, hr₀, hid⟩ := h.walk.origin hl
    obtain ⟨r₁, hr₁, hcontent⟩ := h.stored hrec hns
    obtain rfl := Option.some.inj (hr₁.symm.trans hr₀)
    have ho : g.owns n r := by
      rw [hid.owns, Record.owns_of_content hcontent]
      exact h.alloc.owns h.adopted hrec
    simp [Except.toOption, hl, ho]

/-- **What a pass leaves of a present member**, and what it reports. -/
theorem present_after {l : ListedMember}
    (hl : snap.listedByName.lookup n = some l) (hv : l.verdict = .present)
    (hrec : a.adopted.lookup n = some rec) (hvisit : Visit g e snap a.adopted w₁ w' n o) :
    ∃ names r, g.resolveNames n = .ok names ∧ g.recordOf w'.store n = some r ∧
      r.content = (resumeEdits rec l snap rec.pendingConfirmation).record.content ∧
      o = (Fate.resume l rec.pendingConfirmation).outcome rec snap names := by
  obtain ⟨names, v₁, v₂, hns, hend, hobj⟩ := hvisit
  obtain ⟨hbefore, hafter⟩ := hobj rec hrec
  obtain ⟨r₁, hr₁, hcontent₁⟩ := h.stored hrec hns
  rw [hrec] at hend
  have hf : fate rec (snap.listedByName.lookup n) = .resume l rec.pendingConfirmation := by
    rw [hl]
    exact fate_present hv
  obtain ⟨r, hr, hcontent⟩ := hend.lookup_resumed hf (hbefore.trans hr₁) hcontent₁
  refine ⟨names, r, hns, (h.recordOf_after hrec hns).trans (hafter.trans hr), hcontent, ?_⟩
  rw [hend.outcome_eq (by rw [hf]; simp), hf]

end CompletedLoops

/-- **A completed live pass has an outcome for every record of the Gateway**, from an iteration
that found the record as it was before the pass and left it as it is after. -/
theorem PassEnd.outcome (he : e.Live) (hkept : RecordsKept g w.store) {targetSize : Int}
    {res : Result} (h : PassEnd g e snap targetSize w (.ok res) w') {k : String}
    (hr : g.Holds w.store k r) :
    ∃ (os : List NameOutcome) (names : ManagedResourceNames) (o : NameOutcome) (w₁ w₂ : World),
      res = os.foldl Result.add (Result.start targetSize) ∧ o ∈ os ∧
      g.resolveNames r.name = .ok names ∧ names.kubernetesSecretName = k ∧
      NameEnd g e snap r.name names (some r) w₁ (.ok o) w₂ ∧ w₁.store.lookup k = some r ∧
      w'.store.lookup k = w₂.store.lookup k := by
  obtain ⟨a₀, a, new, v, os, hpass, rfl⟩ := h.loops he
  have hrec := hpass.lookup_adopted_iff.mpr (.inr (hkept.recordOf hr))
  obtain ⟨o, ho, names, w₁, w₂, hns, hend, hobj⟩ := hpass.visit_of_name (hpass.name_of_adopted hrec)
  obtain ⟨hbefore, hafter⟩ := hobj r hrec
  obtain rfl : names.kubernetesSecretName = k :=
    Except.ok.inj ((secretName_of_resolveNames hns).symm.trans (hkept k r hr).2)
  rw [hrec] at hend
  have hstored := (hpass.alloc.adopted_of_holds he hkept hpass.adopted hr).2
  exact ⟨os, names, o, w₁, w₂, rfl, ho, hns, rfl, hend, hbefore.trans hstored, hafter⟩

end WireguardGateway.Gcp

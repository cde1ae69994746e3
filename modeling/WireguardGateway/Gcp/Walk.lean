import WireguardGateway.Gcp.Allocate

/-!
# The walk over the names, and the whole pass

The last loop of a pass relabels or deletes adopted records. Which branch a record takes is its
`Fate`, a function of its labels and its listing; `NameEnd` lists the ends of one iteration and
`Walk` chains them.

**`reconcileSnapshot_end`** assembles the three loops: every run of a pass stops before its first
write, or is an allocation that stops at a candidate, or an allocation followed by a walk.
-/

namespace WireguardGateway.Gcp

open Lib Lib.Prog

section

variable {g : Gateway} {e : Env} {snap : Snapshot} {w w' : World}

/-! ## The walk over the names -/

/-- What a pass does with an adopted record. -/
inductive Fate where
  | resume (l : ListedMember) (wasPending : Bool)
  | depart (l : ListedMember)
  | advance
  | lapse
  | confirm

/-- The branch of the walk a record takes, from its labels and its listing. -/
def fate (rec : Record) (listed : Option ListedMember) : Fate :=
  let absent : Fate := if rec.departureCount + 1 ≥ 3 then .lapse else .advance
  if rec.pendingConfirmation then
    match listed.filter (·.verdict = .present) with
    | some l => .resume l true
    | none => .confirm
  else
    match listed with
    | some l =>
      match l.verdict with
      | .departed => .depart l
      | .present => .resume l false
      | .pending => absent
    | none => absent

/-- When a record takes which branch. -/
inductive FateCase (rec : Record) : Option ListedMember → Fate → Prop
  | resume {l : ListedMember} (hv : l.verdict = .present) :
      FateCase rec (some l) (.resume l rec.pendingConfirmation)
  | depart {l : ListedMember} (hp : rec.pendingConfirmation = false) (hv : l.verdict = .departed) :
      FateCase rec (some l) (.depart l)
  | advance {listed : Option ListedMember} (hp : rec.pendingConfirmation = false)
      (habsent : ∀ l, listed = some l → l.verdict = .pending) (hc : rec.departureCount + 1 < 3) :
      FateCase rec listed .advance
  | lapse {listed : Option ListedMember} (hp : rec.pendingConfirmation = false)
      (habsent : ∀ l, listed = some l → l.verdict = .pending) (hc : rec.departureCount + 1 ≥ 3) :
      FateCase rec listed .lapse
  | confirm {listed : Option ListedMember} (hp : rec.pendingConfirmation = true)
      (habsent : ∀ l, listed = some l → l.verdict ≠ .present) : FateCase rec listed .confirm

theorem fate_case (rec : Record) (listed : Option ListedMember) :
    FateCase rec listed (fate rec listed) := by
  have habsent : ∀ listed : Option ListedMember, rec.pendingConfirmation = false →
      (∀ l, listed = some l → l.verdict = .pending) →
      FateCase rec listed (if rec.departureCount + 1 ≥ 3 then .lapse else .advance) := by
    intro listed hp hl
    by_cases hc : rec.departureCount + 1 ≥ 3
    · rw [if_pos hc]
      exact .lapse hp hl hc
    · rw [if_neg hc]
      exact .advance hp hl (by omega)
  unfold fate
  by_cases hp : rec.pendingConfirmation
  · rw [if_pos hp]
    cases listed with
    | none => exact .confirm hp (fun l h => nomatch h)
    | some l =>
      by_cases hv : l.verdict = .present
      · simp only [Option.filter_some, hv, decide_true, if_true]
        rw [← hp]
        exact .resume hv
      · simp only [Option.filter_some, hv, decide_false, Bool.false_eq_true, if_false]
        exact .confirm hp fun l' h => by cases h; exact hv
  · rw [if_neg hp]
    rw [Bool.not_eq_true] at hp
    cases listed with
    | none => exact habsent none hp (fun l h => nomatch h)
    | some l =>
      dsimp only
      cases hv : l.verdict with
      | departed => exact .depart hp hv
      | present =>
        rw [← hp]
        exact .resume hv
      | pending => exact habsent _ hp fun l' h => by cases h; exact hv

variable {listed : Option ListedMember} {rec : Record} {l : ListedMember}
  {adopted : GoMap String Record} {n : String} {a a₀ : Adoption} {new : List (String × Record)}

theorem FateCase.of_eq {f : Fate} (h : fate rec listed = f) : FateCase rec listed f :=
  h ▸ fate_case rec listed

theorem fate_eq_confirm (h : fate rec listed = .confirm) :
    rec.pendingConfirmation = true ∧ ∀ l, listed = some l → l.verdict ≠ .present := by
  cases FateCase.of_eq h with
  | confirm hp habsent => exact ⟨hp, habsent⟩

theorem fate_eq_resume {p : Bool} (h : fate rec listed = .resume l p) :
    listed = some l ∧ l.verdict = .present := by
  cases FateCase.of_eq h with
  | resume hv => exact ⟨rfl, hv⟩

theorem fate_eq_depart (h : fate rec listed = .depart l) :
    listed = some l ∧ l.verdict = .departed := by
  cases FateCase.of_eq h with
  | depart _ hv => exact ⟨rfl, hv⟩

theorem fate_eq_lapse (h : fate rec listed = .lapse) :
    (∀ l, listed = some l → l.verdict = .pending) ∧ rec.departureCount + 1 ≥ 3 := by
  cases FateCase.of_eq h with
  | lapse _ habsent hc => exact ⟨habsent, hc⟩

theorem fate_present (hv : l.verdict = .present) :
    fate rec (some l) = .resume l rec.pendingConfirmation := by
  cases hp : rec.pendingConfirmation <;> simp [fate, hp, hv, Option.filter_some]

/-- The labels the branch writes. -/
def Fate.labels (rec : Record) (snap : Snapshot) : Fate → Labels
  | .resume l p => (resumeEdits rec l snap p).labels
  | .depart _ => departLabels
  | .advance => debounceLabels (rec.departureCount + 1)
  | .lapse => debounceDepartLabels
  | .confirm => []

def rosterEntry (rec : Record) (names : ManagedResourceNames) : RosterEntry :=
  { name := rec.name, slot := rec.slot, tunnelAddress := rec.tunnelAddress, names }

/-- What the branch adds to the result; a confirmation is not one of its cases. -/
def Fate.outcome (rec : Record) (snap : Snapshot) (names : ManagedResourceNames) :
    Fate → NameOutcome
  | .resume l p =>
    let rec' := (resumeEdits rec l snap p).record
    { member := some (buildMemberStatus rec' l.zone l.templateRevision (resumeState l) "")
      rendered := some (buildPeer rec', rosterEntry rec' names) }
  | .depart l =>
    { member := some (buildMemberStatus rec l.zone rec.revision .departed ""), rendered := none }
  | .advance =>
    { member := some (buildMemberStatus rec rec.zone rec.revision .departing "")
      rendered := some (buildPeer rec, rosterEntry rec names) }
  | .lapse | .confirm =>
    { member := some (buildMemberStatus rec rec.zone rec.revision .departed ""), rendered := none }

/-- The status of a record whose release is blocked. -/
def blockedStatus (rec : Record) (listed : Option ListedMember) (message : String) : MemberStatus :=
  buildMemberStatus rec ((listed.map (·.zone)).getD rec.zone) rec.revision .departed message

theorem Fate.labels_mutable (rec : Record) (snap : Snapshot) (f : Fate) :
    ∀ x ∈ f.labels rec snap, x.1.isMutable := by
  cases f with
  | resume l p => exact resumeEdits_mutable rec l snap p
  | depart l => simp [labels, departLabels, Label.isMutable]
  | advance => simp [labels, debounceLabels, Label.isMutable]
  | lapse => simp [labels, debounceDepartLabels, departLabels, Label.isMutable]
  | confirm => simp [labels]

/-- The ends of one iteration of the walk, for a name with derived `names` and the record the pass
adopted under it. -/
inductive NameEnd (g : Gateway) (e : Env) (snap : Snapshot) (n : String)
    (names : ManagedResourceNames) :
    Option Record → World → Except PassError NameOutcome → World → Prop
  | unadopted {w : World} :
      NameEnd g e snap n names none w (.ok { member := some (pendingMember n), rendered := none }) w
  | quiet {w : World} {rec : Record} {f : Fate}
      (hf : fate rec (snap.listedByName.lookup n) = f) (hne : f ≠ .confirm)
      (hlabels : f.labels rec snap = []) :
      NameEnd g e snap n names (some rec) w (.ok (f.outcome rec snap names)) w
  | relabelled {w : World} {rec : Record} {f : Fate}
      (hf : fate rec (snap.listedByName.lookup n) = f) (hne : f ≠ .confirm)
      (hlabels : f.labels rec snap ≠ [])
      (hcur : Updatable e w.store n names.kubernetesSecretName) :
      NameEnd g e snap n names (some rec) w (.ok (f.outcome rec snap names))
        (w.commit (.relabel names.kubernetesSecretName (f.labels rec snap)))
  | failed {w : World} {rec : Record} {f : Fate} {err : PassError}
      (hf : fate rec (snap.listedByName.lookup n) = f) (hne : f ≠ .confirm)
      (hlabels : f.labels rec snap ≠ []) (herr : err.isNoEligibleAddress = false)
      (hcause : Updatable e w.store n names.kubernetesSecretName →
        ∃ cause, e.update n = .failed false cause) :
      NameEnd g e snap n names (some rec) w (.error err) w
  | failedRelabelled {w : World} {rec : Record} {f : Fate} {err : PassError}
      (hf : fate rec (snap.listedByName.lookup n) = f) (hne : f ≠ .confirm)
      (hlabels : f.labels rec snap ≠ []) (herr : err.isNoEligibleAddress = false)
      (hcur : Updatable e w.store n names.kubernetesSecretName)
      (hcause : ∃ cause, e.update n = .failed true cause) :
      NameEnd g e snap n names (some rec) w (.error err)
        (w.commit (.relabel names.kubernetesSecretName (f.labels rec snap)))
  | blocked {w : World} {rec : Record} {message : String}
      (hf : fate rec (snap.listedByName.lookup n) = .confirm)
      (hwhy : releaseBlocked e n = none → e.delete n = .ok →
        ¬ w.store.isCurrent names.kubernetesSecretName rec.uid rec.resourceVersion) :
      NameEnd g e snap n names (some rec) w
        (.ok { member := some (blockedStatus rec (snap.listedByName.lookup n) message)
               rendered := none }) w
  | blockedDeleted {w : World} {rec : Record} {message : String}
      (hf : fate rec (snap.listedByName.lookup n) = .confirm) (hfree : releaseBlocked e n = none)
      (hcur : w.store.isCurrent names.kubernetesSecretName rec.uid rec.resourceVersion)
      (hfailed : e.delete n ≠ .ok) :
      NameEnd g e snap n names (some rec) w
        (.ok { member := some (blockedStatus rec (snap.listedByName.lookup n) message)
               rendered := none }) (w.commit (.delete names.kubernetesSecretName))
  | released {w : World} {rec : Record}
      (hf : fate rec (snap.listedByName.lookup n) = .confirm) (hfree : releaseBlocked e n = none)
      (hcur : w.store.isCurrent names.kubernetesSecretName rec.uid rec.resourceVersion)
      (hok : e.delete n = .ok) :
      NameEnd g e snap n names (some rec) w (.ok { member := none, rendered := none })
        (w.commit (.delete names.kubernetesSecretName))
  | gone {w : World} {rec : Record}
      (hf : fate rec (snap.listedByName.lookup n) = .confirm)
      (hnone : w.store.lookup names.kubernetesSecretName = none) :
      NameEnd g e snap n names (some rec) w (.ok { member := none, rendered := none }) w

section NameEnd

variable {n : String} {names : ManagedResourceNames} {rec : Record} {f : Fate}

/-- A branch that is one label update and then its outcome. -/
theorem relabel_end (hns : g.resolveNames n = .ok names)
    (hf : fate rec (snap.listedByName.lookup n) = f) (hne : f ≠ .confirm)
    (hlabels : f.labels rec snap ≠ []) (wrap : ApiError → PassError)
    (hwrap : ∀ c, (wrap c).isNoEligibleAddress = false)
    {p : Prog World PassError NameOutcome}
    (hp : p = (do
      mapErr wrap (updateRecordLabels g e n (f.labels rec snap))
      pure (f.outcome rec snap names))) :
    NameEnd g e snap n names (some rec) w (p w).1 (p w).2 := by
  subst hp
  have hkey := secretName_of_resolveNames hns
  rw [bind_apply, mapErr]
  rcases hu : updateRecordLabels g e n (f.labels rec snap) w with ⟨err | ⟨⟩, w₁⟩
  · rcases updateRecordLabels_error hkey hu with ⟨rfl, hcause⟩ | ⟨hcur, hcause, rfl⟩
    · exact .failed hf hne hlabels (hwrap err) hcause
    · exact .failedRelabelled hf hne hlabels (hwrap err) hcur hcause
  · obtain ⟨key, hk, hcur, -, rfl⟩ := updateRecordLabels_ok hu
    rw [hkey] at hk
    cases hk
    exact .relabelled hf hne hlabels hcur

theorem owns_name (hown : g.owns n rec) : rec.name = n := (owns_iff.mp hown).2.2

theorem buildRosterEntry_eq (hns : g.resolveNames n = .ok names) (hown : g.owns n rec)
    (rec' : Record) (hid : rec.SameIdentity rec') :
    buildRosterEntry rec' = .ok (rosterEntry rec' names) := by
  obtain ⟨hu, hp, hn⟩ := owns_iff.mp hown
  have hnames : nameResourceNames rec'.gatewayUID rec'.project rec'.name = .ok names := by
    rw [hid.gatewayUID, hid.project, hid.name, hu, hp, hn]
    exact hns
  unfold buildRosterEntry
  rw [hnames]
  rfl

theorem resumeActive_end (hns : g.resolveNames n = .ok names)
    (hown : g.owns n rec) {l : ListedMember} {pending : Bool}
    (hf : fate rec (snap.listedByName.lookup n) = .resume l pending) :
    NameEnd g e snap n names (some rec) w (resumeActive g e rec l snap pending w).1
      (resumeActive g e rec l snap pending w).2 := by
  obtain rfl := owns_name hown
  have hid : rec.SameIdentity (resumeEdits rec l snap pending).record := by
    rw [resumeEdits_record]
    exact rec.relabel_sameIdentity (resumeEdits_mutable rec l snap pending)
  by_cases hls : (resumeEdits rec l snap pending).labels = []
  · have hq : resumeActive g e rec l snap pending w =
        (.ok ((Fate.resume l pending).outcome rec snap names), w) := by
      unfold resumeActive
      simp only [hls, ne_eq, not_true_eq_false, if_false, buildRosterEntry_eq hns hown _ hid]
      rfl
    rw [hq]
    exact .quiet hf (by simp) hls
  · refine relabel_end hns hf (by simp) hls (.updatingLabels rec.name) (fun _ => rfl) ?_
    unfold resumeActive
    simp only [hls, ne_eq, not_false_eq_true, if_true, buildRosterEntry_eq hns hown _ hid,
      lift_ok_bind]
    rfl

theorem debounceAbsence_end (hns : g.resolveNames n = .ok names)
    (hown : g.owns n rec)
    (hf : fate rec (snap.listedByName.lookup n) =
      if rec.departureCount + 1 ≥ 3 then .lapse else .advance) :
    NameEnd g e snap n names (some rec) w (debounceAbsence g e rec w).1
      (debounceAbsence g e rec w).2 := by
  obtain rfl := owns_name hown
  by_cases hc : rec.departureCount + 1 ≥ 3
  · rw [if_pos hc] at hf
    refine relabel_end hns hf (by simp) (List.cons_ne_nil _ _) (.departing rec.name)
      (fun _ => rfl) ?_
    unfold debounceAbsence
    simp only [hc, if_true]
    rfl
  · rw [if_neg hc] at hf
    refine relabel_end hns hf (by simp) (List.cons_ne_nil _ _) (.advancing rec.name)
      (fun _ => rfl) ?_
    have hentry : buildRosterEntry { rec with departureCount := rec.departureCount + 1 } =
        .ok (rosterEntry rec names) :=
      buildRosterEntry_eq hns hown { rec with departureCount := rec.departureCount + 1 }
        ⟨rfl, rfl, rfl, rfl, rfl, rfl, rfl, rfl⟩
    unfold debounceAbsence
    simp only [hc, if_false, hentry, lift_ok_bind]
    rfl

theorem confirm_end (hns : g.resolveNames n = .ok names)
    (hown : g.owns n rec) (hf : fate rec (snap.listedByName.lookup n) = .confirm)
    (hl : (snap.listedByName.lookup n).filter (·.verdict = .present) = none) :
    NameEnd g e snap n names (some rec) w
      (confirmOrResume g e rec (snap.listedByName.lookup n) snap w).1
      (confirmOrResume g e rec (snap.listedByName.lookup n) snap w).2 := by
  obtain ⟨-, hp, hn⟩ := owns_iff.mp hown
  have hkey := secretName_of_resolveNames hns
  have hnames : nameResourceNames g.uid rec.project rec.name = .ok names := by
    rw [hp, hn]
    exact hns
  unfold confirmOrResume
  rw [hl, hnames]
  dsimp only
  rw [show Except.mapError PassError.resourceNames (.ok names) = .ok names from rfl, lift_ok_bind,
    hn]
  cases hb : releaseBlocked e n with
  | some reason => exact .blocked hf fun h => absurd (hb.symm.trans h) (by simp)
  | none =>
    dsimp only
    rw [bind_apply, attempt]
    rcases hd : deleteRecord g e n rec.uid rec.resourceVersion w with ⟨err | ⟨⟩, w₁⟩
    · rcases deleteRecord_error hd with ⟨rfl, hwhy⟩ | ⟨hfailed, key, hk, hcur, rfl⟩
      · exact .blocked hf fun _ hok => hwhy hok _ hkey
      · rw [hkey] at hk
        cases hk
        exact .blockedDeleted hf hb hcur hfailed
    · obtain ⟨hok, key, hk, ⟨hcur, rfl⟩ | ⟨hnone, rfl⟩⟩ := deleteRecord_ok hd
      · rw [hkey] at hk
        cases hk
        exact .released hf hb hcur hok
      · rw [hkey] at hk
        cases hk
        exact .gone hf hnone

/-- **One iteration of the walk.** -/
theorem processName_end {adoptedBy : GoMap String Record} (hns : g.resolveNames n = .ok names)
    (hown : ∀ rec, adoptedBy.lookup n = some rec → g.owns n rec) (w : World) :
    NameEnd g e snap n names (adoptedBy.lookup n) w (processName g e snap adoptedBy n w).1
      (processName g e snap adoptedBy n w).2 := by
  unfold processName
  cases hrec : adoptedBy.lookup n with
  | none => exact .unadopted
  | some rec =>
  have ho := hown rec hrec
  dsimp only
  by_cases hp : rec.pendingConfirmation
  · rw [if_pos hp]
    cases hl : (snap.listedByName.lookup n).filter (·.verdict = .present) with
    | some l =>
      have hf : fate rec (snap.listedByName.lookup n) = .resume l true := by
        simp only [fate, hp, if_true, hl]
      rw [show confirmOrResume g e rec (snap.listedByName.lookup n) snap =
        resumeActive g e rec l snap true from by simp only [confirmOrResume, hl]]
      exact resumeActive_end hns ho hf
    | none =>
      have hf : fate rec (snap.listedByName.lookup n) = .confirm := by
        simp only [fate, hp, if_true, hl]
      exact confirm_end hns ho hf hl
  · rw [if_neg hp]
    rw [Bool.not_eq_true] at hp
    cases hl : snap.listedByName.lookup n with
    | none =>
      refine debounceAbsence_end hns ho ?_
      simp only [hl, fate, hp, Bool.false_eq_true, if_false]
    | some l =>
      dsimp only
      cases hv : l.verdict with
      | departed =>
        refine relabel_end (f := .depart l) hns ?_ (by simp) (List.cons_ne_nil _ _)
          (.markingPending n)
          (fun _ => rfl) rfl
        simp only [hl, fate, hp, Bool.false_eq_true, if_false, hv]
      | present =>
        refine resumeActive_end hns ho ?_
        simp only [hl, fate, hp, Bool.false_eq_true, if_false, hv]
      | pending =>
        refine debounceAbsence_end hns ho ?_
        simp only [hl, fate, hp, Bool.false_eq_true, if_false, hv]

end NameEnd

/-! ## The whole walk -/

/-- The walk over `names`: its outcomes, and how it ended. -/
inductive Walk (g : Gateway) (e : Env) (snap : Snapshot) (adopted : GoMap String Record) :
    List String → World → List NameOutcome → Except PassError Unit → World → Prop
  | nil (w : World) : Walk g e snap adopted [] w [] (.ok ()) w
  | cons {n : String} {ns : List String} {names : ManagedResourceNames} {w w₁ w' : World}
      {o : NameOutcome} {os : List NameOutcome} {u : Except PassError Unit}
      (hns : g.resolveNames n = .ok names)
      (head : NameEnd g e snap n names (adopted.lookup n) w (.ok o) w₁)
      (tail : Walk g e snap adopted ns w₁ os u w') :
      Walk g e snap adopted (n :: ns) w (o :: os) u w'
  | stop {n : String} {ns : List String} {names : ManagedResourceNames} {w w₁ : World}
      {err : PassError} (hns : g.resolveNames n = .ok names)
      (head : NameEnd g e snap n names (adopted.lookup n) w (.error err) w₁) :
      Walk g e snap adopted (n :: ns) w [] (.error err) w₁

theorem walk_of_foldlM :
    ∀ {ns : List String} {w w' : World} {res : Result} {r : Except PassError Result},
      (∀ n ∈ ns, ∃ names, g.resolveNames n = .ok names) →
      (∀ n ∈ ns, ∀ rec, adopted.lookup n = some rec → g.owns n rec) →
      ns.foldlM (walkName g e snap adopted) res w = (r, w') →
      ∃ os u, Walk g e snap adopted ns w os u w' ∧ r = u.map fun _ => os.foldl Result.add res
  | [], w, _, res, _, _, _, h => by
    cases h
    exact ⟨[], .ok (), .nil w, rfl⟩
  | n :: ns, w, w', res, r, hd, ho, h => by
    obtain ⟨names, hns⟩ := hd n List.mem_cons_self
    have hhead : NameEnd g e snap n names _ w _ _ :=
      processName_end hns (ho n List.mem_cons_self) w
    rw [foldlM_cons, walkName, bind_apply] at h
    rcases hp : processName g e snap adopted n w with ⟨err | o, w₁⟩
    · rw [hp] at h hhead
      cases h
      exact ⟨[], .error err, .stop hns hhead, rfl⟩
    · rw [hp] at h hhead
      obtain ⟨os, u, hw, hr⟩ := walk_of_foldlM
        (fun m hm => hd m (List.mem_cons_of_mem _ hm))
        (fun m hm => ho m (List.mem_cons_of_mem _ hm)) h
      exact ⟨o :: os, u, .cons hns hhead hw, hr⟩

/-! ## The whole pass -/

/-- The ends of a pass over a usable snapshot. -/
inductive PassEnd (g : Gateway) (e : Env) (snap : Snapshot) (targetSize : Int) (w : World) :
    Except PassError Result → World → Prop
  | unread {err : PassError} (herr : err.isNoEligibleAddress = false)
      (hcause : (∃ cause, e.listRead.serve w.store = .error cause) ∨
        ∃ v, e.listRead.serve w.store = .ok v ∧
          ∃ n ∈ allNames snap (g.recordNames v), Unreadable g e w.store n) :
      PassEnd g e snap targetSize w (.error err) w
  | stopped {tracked : List String} {a₀ : Adoption} {err : PassError} {w' : World}
      (htracked : listRecordNames g e w = (.ok tracked, w))
      (hadopted : Adopted g e w.store (allNames snap tracked) a₀)
      (hstop : AllocStop g e snap a₀ w (candidates snap a₀.adopted) err w') :
      PassEnd g e snap targetSize w (.error err) w'
  | walked {tracked : List String} {a₀ a : Adoption} {new : List (String × Record)}
      {w₁ w' : World} {os : List NameOutcome} {u : Except PassError Unit}
      (htracked : listRecordNames g e w = (.ok tracked, w))
      (hadopted : Adopted g e w.store (allNames snap tracked) a₀)
      (halloc : AllocState g snap a₀ w (candidates snap a₀.adopted) a w₁ new)
      (hwalk : Walk g e snap a.adopted ((allNames snap tracked).insertionSort (· ≤ ·)) w₁ os u w') :
      PassEnd g e snap targetSize w
        (u.map fun _ => os.foldl Result.add (Result.start targetSize)) w'

theorem mem_candidates :
    n ∈ candidates snap adopted ↔
      (∃ l, snap.listedByName.lookup n = some l ∧ l.verdict = .present) ∧
        adopted.lookup n = none := by
  simp only [candidates, List.mem_insertionSort, List.mem_filter, decide_eq_true_eq,
    Option.any_eq_true]
  constructor
  · rintro ⟨-, ⟨l, hl, hv⟩, hn⟩
    exact ⟨⟨l, hl, by simpa using hv⟩, hn⟩
  · rintro ⟨⟨l, hl, hv⟩, hn⟩
    exact ⟨AList.mem_keys.mpr (AList.lookup_isSome.mp (by rw [hl]; rfl)),
      ⟨l, hl, by simpa using hv⟩, hn⟩

theorem nodup_candidates (adopted : GoMap String Record) : (candidates snap adopted).Nodup :=
  (List.perm_insertionSort _ _).nodup_iff.mpr (snap.listedByName.keys_nodup.filter _)

theorem mem_allNames {tracked : List String} :
    n ∈ allNames snap tracked ↔ (snap.listedByName.lookup n).isSome ∨ n ∈ tracked := by
  rw [allNames, List.mem_dedup, List.mem_append, AList.lookup_isSome, AList.mem_keys]

theorem seen_owns {s : Store} (h : g.seen e s n = some rec) :
    g.owns n rec := by
  unfold Gateway.seen at h
  split at h
  · exact (Option.filter_eq_some_iff.mp h).2
  · cases h

theorem IsFresh.owns {key : String} (h : IsFresh g snap key rec) :
    g.owns rec.name rec := by
  obtain ⟨-, l, slot, address, priv, -, -, hrec⟩ := h
  rw [hrec]
  exact owns_iff.mpr ⟨rfl, rfl, rfl⟩

/-- The names of the created records are distinct. -/
theorem AllocState.nodup_names {w₀ : World}
    (h : AllocState g snap a₀ w₀ (candidates snap adopted) a w new) :
    (new.map (·.2.name)).Nodup :=
  h.allocation.names.nodup (nodup_candidates adopted)

/-- A record adopted after allocation was created in this pass or seen by its reads. -/
theorem AllocState.lookup_adopted {w₀ : World} {names : List String}
    (ha : Adopted g e w₀.store names a₀)
    (h : AllocState g snap a₀ w₀ (candidates snap a₀.adopted) a w new)
    (hrec : a.adopted.lookup n = some rec) :
    (∃ key, (key, rec) ∈ new ∧ rec.name = n) ∨
      (n ∈ names ∧ g.seen e w₀.store n = some rec ∧ n ∉ new.map (·.2.name)) := by
  rw [h.adoption] at hrec
  by_cases hn : n ∈ new.map (·.2.name)
  · obtain ⟨⟨key, r⟩, hp, rfl⟩ := List.mem_map.mp hn
    rw [Adoption.lookup_takeAll_of_mem h.nodup_names hp] at hrec
    cases hrec
    exact .inl ⟨key, hp, rfl⟩
  · rw [Adoption.lookup_takeAll_of_notMem hn, ha.lookup n] at hrec
    split at hrec
    · rename_i hmem
      exact .inr ⟨hmem, hrec, hn⟩
    · cases hrec

theorem AllocState.owns {w₀ : World} {names : List String} (ha : Adopted g e w₀.store names a₀)
    (h : AllocState g snap a₀ w₀ (candidates snap a₀.adopted) a w new)
    (hrec : a.adopted.lookup n = some rec) : g.owns n rec := by
  rcases h.lookup_adopted ha hrec with ⟨key, hp, rfl⟩ | ⟨-, hs, -⟩
  · exact (h.allocation.fresh _ hp).owns
  · exact seen_owns hs

/-- **Every pass over a usable snapshot ends in one of three ways.** -/
theorem reconcileSnapshot_end (targetSize : Int) (w : World) :
    PassEnd g e snap targetSize w (reconcileSnapshot g e snap targetSize w).1
      (reconcileSnapshot g e snap targetSize w).2 := by
  unfold reconcileSnapshot
  rw [bind_apply, mapErr]
  rcases ht : listRecordNames g e w with ⟨cause | tracked, w₁⟩
  all_goals
    obtain rfl : w₁ = w := (congrArg Prod.snd ht).symm.trans (listRecordNames_world w)
  · exact .unread rfl (.inl (listRecordNames_error ht))
  dsimp only
  rw [bind_apply]
  rcases had : (e.visit (allNames snap tracked)).foldlM (adopt g e)
    { adopted := ∅, occupied := [] } w₁ with ⟨r, w₂⟩
  obtain ⟨rfl, ⟨err, rfl, hne, hcause⟩ | ⟨a₀, rfl, hadopted⟩⟩ := adoption_cases had
  · obtain ⟨v, hv, rfl⟩ := listRecordNames_ok ht
    exact .unread hne (.inr ⟨v, hv, hcause⟩)
  dsimp only
  rw [bind_apply]
  rcases hal : (candidates snap a₀.adopted).foldlM (allocate g e snap) a₀ w₂ with ⟨r, w₃⟩
  have hlisted : ∀ n ∈ candidates snap a₀.adopted, (snap.listedByName.lookup n).isSome :=
    fun n hn => by
    obtain ⟨⟨l, hl, -⟩, -⟩ := mem_candidates.mp hn
    rw [hl]
    rfl
  rcases allocation_cases hlisted hal with ⟨err, rfl, hstop⟩ | ⟨a, new, rfl, hstate⟩
  · exact .stopped ht hadopted hstop
  dsimp only
  rcases hwalk : ((allNames snap tracked).insertionSort (· ≤ ·)).foldlM
    (walkName g e snap a.adopted) (Result.start targetSize) w₃ with ⟨r, w₄⟩
  obtain ⟨os, u, hw, rfl⟩ := walk_of_foldlM
    (fun n hn => hadopted.derives n ((List.perm_insertionSort _ _).mem_iff.mp hn))
    (fun n _ rec hrec => hstate.owns hadopted hrec) hwalk
  exact .walked ht hadopted hstate hw

/-! ## What the walk writes -/

/-- The writes of the walk: mutable labels, and deletions. -/
def WalkGuard (_ : Store) : Write → Prop
  | .create .. => False
  | .relabel _ labels => ∀ x ∈ labels, x.1.isMutable
  | .delete _ => True

theorem NameEnd.appends {names : ManagedResourceNames} {adopted : Option Record}
    {r : Except PassError NameOutcome} (h : NameEnd g e snap n names adopted w r w') :
    World.Appends WalkGuard w w' := by
  cases h with
  | unadopted | quiet | failed | blocked | gone => exact .refl w
  | relabelled | failedRelabelled => exact .single (Fate.labels_mutable _ _ _)
  | blockedDeleted | released => exact .single trivial

theorem Walk.appends {ns : List String} {os : List NameOutcome} {u : Except PassError Unit}
    (h : Walk g e snap adopted ns w os u w') :
    World.Appends WalkGuard w w' := by
  induction h with
  | nil w => exact .refl w
  | cons _ head _ ih => exact head.appends.trans ih
  | stop _ head => exact head.appends

/-- The walk has no error of its own about addresses. -/
theorem NameEnd.error {names : ManagedResourceNames} {adopted : Option Record} {err : PassError}
    (h : NameEnd g e snap n names adopted w (.error err) w') :
    err.isNoEligibleAddress = false := by
  cases h with
  | failed _ _ _ herr _ | failedRelabelled _ _ _ herr _ _ => exact herr

theorem Walk.error {ns : List String} {os : List NameOutcome} {u : Except PassError Unit}
    (h : Walk g e snap adopted ns w os u w') :
    ∀ err, u = .error err → err.isNoEligibleAddress = false := by
  induction h with
  | nil => exact fun err herr => nomatch herr
  | cons _ _ _ ih => exact ih
  | stop _ head =>
    rintro err ⟨⟩
    exact head.error

end

/-! ## Runs -/

/-- One pass of a run: its environment and its inputs. -/
structure Pass where
  env : Env
  snap : Option Snapshot
  desiredReplicas : Int
  lastAccepted : Int

def Pass.exec (p : Pass) (g : Gateway) (w : World) : Except PassError Result × World :=
  reconcile g p.env p.snap p.desiredReplicas p.lastAccepted w

/-- The world after a pass. -/
def Pass.step (g : Gateway) (w : World) (p : Pass) : World := (p.exec g w).2

/-- The world after a run of passes. -/
def runPasses (g : Gateway) (w : World) (ps : List Pass) : World := replay (Pass.step g) w ps

/-- The two ends of a pass: no snapshot and nothing done, or a pass over the snapshot. -/
theorem Pass.exec_cases (p : Pass) (g : Gateway) (w : World) :
    (p.snap = none ∧ (p.exec g w).2 = w ∧ ∃ r, (p.exec g w).1 = .ok r) ∨
      ∃ snap targetSize, p.snap = some snap ∧
        PassEnd g p.env snap targetSize w (p.exec g w).1 (p.exec g w).2 := by
  unfold Pass.exec reconcile
  cases p.snap with
  | none => exact .inl ⟨rfl, rfl, _, rfl⟩
  | some snap => exact .inr ⟨snap, _, rfl, reconcileSnapshot_end _ w⟩

/-- What a pass returns: the retained size and nothing done, or a usable result. -/
theorem reconcile_spec {snap : Option Snapshot} {desiredReplicas lastAccepted : Int} {w : World} :
    Spec (· = w) (reconcile g e snap desiredReplicas lastAccepted)
      (fun r w' => (r.unusable = true ∧ r.targetSize = lastAccepted ∧ w' = w) ∨
        (snap.isSome ∧ r.unusable = false ∧
          r.targetSize = computeTargetSize desiredReplicas g.capacity lastAccepted))
      fun _ => True := by
  cases snap with
  | none => exact Spec.pure fun _ h => .inl ⟨rfl, rfl, h⟩
  | some snap =>
    intro w₀ _
    refine ⟨fun r w' h => .inr ?_, fun _ _ _ => trivial⟩
    have hend : PassEnd g e snap (computeTargetSize desiredReplicas g.capacity
      lastAccepted) w₀ _ _ :=
      reconcileSnapshot_end (computeTargetSize desiredReplicas g.capacity lastAccepted) w₀
    rw [show reconcileSnapshot g e snap _ w₀ = (.ok r, w') from h] at hend
    generalize hout : Except.ok r = out at hend
    cases hend with
    | unread | stopped => cases hout
    | @walked tracked a₀ a new w₁ w'' os u =>
      cases u with
      | error => cases hout
      | ok =>
        cases hout
        rw [Result.foldl_add]
        exact ⟨rfl, rfl, rfl⟩

/-! ## A small fleet

The Gateway the concrete runs below and in the modules over this one are about: the default subnet,
with room for five members. -/

def fleet : Gateway where
  uid := "u1"
  gatewayNamespace := "ns"
  gatewayName := "gw"
  project := "p"
  capacity := 5
  eligibleAddresses := ["10.99.0.3", "10.99.0.4", "10.99.0.5", "10.99.0.6"]
  gatewayAddress := "10.99.0.1"
  bundle := { subnetPrefix := 29, peerPublicKey := "link", peerAllowedIPs := "10.99.0.2/32" }
  publicKeyOf := fun k => "pub-" ++ k

/-- Every read is served by `r`, every write succeeds and every release is confirmed. -/
def EnvOf.calm {σ : Type} (r : ReadOf σ) : EnvOf σ where
  visit := id
  visit_perm := fun _ => .refl _
  listRead := r
  getRead := fun _ => r
  keypair := fun n => .ok ("key-" ++ n)
  create := fun _ => .ok
  updateRead := fun _ => r
  update := fun _ => .ok
  confirm := fun _ => .ok (true, "")
  synced := fun _ => .ok (true, "")
  delete := fun _ => .ok

/-- An entry of the listing. -/
def listedAs (name : String) (action : MemberAction) (id : String) (verdict : Verdict) :
    ListedMember :=
  { name, action, instanceID := id, verdict, zone := "z", templateRevision := "rev" }

/-- A running member. -/
def running (name : String) : ListedMember := listedAs name .none "1" .present

/-- A pass over a usable snapshot. -/
def Pass.over (e : Env) (members : List ListedMember) (details : List (String × Detail)) : Pass :=
  { env := e
    snap := some { members, details := details.foldl (fun m d => m.insert d.1 d.2) ∅ }
    desiredReplicas := 1
    lastAccepted := 1 }

/-- No Secret at all. -/
def emptyWorld : World := { store := { secrets := ∅, clock := 1 }, log := [] }

end WireguardGateway.Gcp

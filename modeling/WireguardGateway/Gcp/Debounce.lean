import WireguardGateway.Gcp.Completed
import WireguardGateway.Gcp.Progress
import WireguardGateway.Gcp.Rounds

/-!
# The departure debounce

A record's `departureCount` stands for the number of usable snapshots in a row that its member was
missing from. It lives in a label that is written one name at a time, and only by a pass that gets
as far as the name; so a snapshot that lists the member counts only if the pass over it resets the
label. `Round.resets` says when it does.

Results:
* `Fate.departureCount_relabel`: what each branch of the walk does to the count;
* **`CountInv.step`**: a round that resets the counts it should keeps every count within the number
  of snapshots missed;
* **`departure_debounce`**: in a run of such rounds a member stops being rendered only when it is
  listed on its way out or was missing from three usable snapshots in a row.
-/

namespace WireguardGateway.Gcp

open Lib

/-! ## What a pass does to the count -/

theorem Edits.put_ne_nil {p : Edits} (h : p.labels ≠ []) (value : Option String) (l : Label)
    (f : String → Record → Record) : (p.put value l f).labels ≠ [] := by
  cases value with
  | none => exact h
  | some v => simp [Edits.put]

variable {rec : Record} {r : Round} {link subnet : String}

/-- A count that is not `0` is written back. -/
theorem resumeEdits_ne_nil (h : rec.departureCount ≠ 0) (l : ListedMember) (snap : Snapshot)
    (pending : Bool) : (resumeEdits rec l snap pending).labels ≠ [] := by
  unfold resumeEdits
  refine Edits.put_ne_nil (Edits.put_ne_nil (Edits.put_ne_nil (Edits.put_ne_nil (Edits.put_ne_nil
    (Edits.put_ne_nil ?_ _ _ _) _ _ _) _ _ _) _ _ _) _ _ _) _ _ _
  simp [Edits.put, h]

/-- The count a branch of the walk leaves. -/
def Fate.count (rec : Record) : Fate → Int
  | .resume .. => 0
  | .depart _ | .confirm => rec.departureCount
  | .advance => rec.departureCount + 1
  | .lapse => 3

theorem Fate.departureCount_relabel {snap : Snapshot} {f : Fate} {listed : Option ListedMember}
    (hpos : 0 ≤ rec.departureCount) (hf : FateCase rec listed f) :
    (rec.relabel (f.labels rec snap)).departureCount = f.count rec := by
  cases hf with
  | resume _ =>
    rw [Fate.labels, ← resumeEdits_record, resumeEdits_record_eq]
    rfl
  | depart | confirm => rfl
  | lapse => exact atoi_toString (n := 3) (by decide)
  | advance _ _ hc => exact atoi_toString ⟨by unfold maxInt; omega, by unfold maxInt; omega⟩

/-! ## Snapshots missed in a row -/

/-- How many of the most recent snapshots in a row do not list `n`. -/
def missed (hist : List Snapshot) (n : String) : Nat :=
  (hist.reverse.takeWhile fun snap => (snap.listedByName.lookup n).isNone).length

theorem missed_snoc (hist : List Snapshot) (snap : Snapshot) (n : String) :
    missed (hist ++ [snap]) n =
      if (snap.listedByName.lookup n).isNone then missed hist n + 1 else 0 := by
  unfold missed
  rw [List.reverse_append, List.reverse_singleton, List.singleton_append, List.takeWhile_cons]
  split <;> simp

/-- The usable snapshots of a run, oldest first. -/
def history (g : Gateway) : World → List Round → List Snapshot
  | _, [] => []
  | w, r :: rs => (r.snapshot g w.store).toList ++ history g (r.step g w) rs

theorem history_snoc (g : Gateway) (r : Round) : ∀ (rs : List Round) (w : World),
    history g w (rs ++ [r]) = history g w rs ++ (r.snapshot g (runRounds g w rs).store).toList
  | [], w => by simp [history, runRounds]
  | q :: rs, w => by
    rw [List.cons_append, history, history_snoc g r rs, history, List.append_assoc]
    rfl

/-! ## The rounds that keep the count -/

/-- Every record whose count is not `0` and whose member the snapshot lists is reset: the member is
not listed on its way out, and the pass gets to its label update. -/
def Round.resets (r : Round) (g : Gateway) (s : Store) : Bool :=
  (r.snapshot g s).all fun snap => s.records.all fun rec =>
    rec.gatewayUID ≠ g.uid || rec.departureCount = 0 ||
      (snap.listedByName.lookup rec.name).all fun l =>
        !l.action.departing && r.env.reaches g snap s rec.name

variable {g : Gateway} {s : Store} {w : World} {snap : Snapshot} {k : String}

theorem Round.resets_spec (h : r.resets g s) (hs : r.snapshot g s = some snap)
    (hr : g.Holds s k rec) (hc : rec.departureCount ≠ 0) {l : ListedMember}
    (hl : snap.listedByName.lookup rec.name = some l) :
    l.action.departing = false ∧ r.env.reaches g snap s rec.name := by
  simp only [Round.resets, hs, Option.all_some, List.all_eq_true] at h
  have := h rec (Store.mem_records.mpr ⟨k, hr.1⟩)
  simpa [hr.2, hc, hl] using this

/-- Every count is within the number of snapshots missed. -/
def CountInv (g : Gateway) (hist : List Snapshot) (s : Store) : Prop :=
  ∀ key r, g.Holds s key r → 0 ≤ r.departureCount ∧ r.departureCount ≤ missed hist r.name

/-- What a live pass leaves of a counted record: its count moves as its branch says. -/
theorem RecordEnd.count {r r' : Record} (h : RecordEnd snap r (some r'))
    (hpos : 0 ≤ r.departureCount) :
    r'.departureCount = r.departureCount ∨
      r'.departureCount = (fate r (snap.listedByName.lookup r.name)).count r := by
  generalize hsome : some r' = o at h
  cases h with
  | kept => cases hsome; exact .inl rfl
  | relabelled c hf hne =>
    cases hsome
    subst hf
    exact .inr (Fate.departureCount_relabel hpos (fate_case r _))
  | released => cases hsome

/-- A recorded member that the walk counts as absent is not listed. -/
theorem Round.not_listed (hinv : MemberInv g s) (hs : r.snapshot g s = some snap)
    (hr : g.Holds s k rec)
    (habsent : ∀ l, snap.listedByName.lookup rec.name = some l → l.verdict = .pending) :
    snap.listedByName.lookup rec.name = none := by
  cases hl : snap.listedByName.lookup rec.name with
  | none => rfl
  | some l =>
    have hv := (r.verdict hinv hs hr hl).symm.trans (habsent l hl)
    split at hv <;> cases hv

/-- **One usable round keeps the counts**, when it resets those of the members it lists. -/
theorem CountInv.step (hp : g.Planned subnet link) {hist : List Snapshot} (he : r.env.Live)
    (hinv : MemberInv g w.store) (hcount : CountInv g hist w.store) (hreset : r.resets g w.store) :
    CountInv g (hist ++ (r.snapshot g w.store).toList) (r.exec g w).2.store := by
  rcases r.exec_cases g w with ⟨hs, hw⟩ | ⟨snap, ts, hs, hend⟩
  · rw [hs, hw, Option.toList_none, List.append_nil]
    exact hcount
  rw [hs, Option.toList_some]
  intro k r' hr'
  rw [missed_snoc]
  rcases hend.origin he hinv.recordsKept hr' with ⟨r₀, hr₀, hrec⟩ | ⟨rec, c, hfresh, -, rfl⟩
  · obtain ⟨hpos, hle⟩ := hcount k r₀ hr₀
    rw [hrec.sameIdentity.name]
    have hmove := hrec.count hpos
    have hcase := fate_case r₀ (snap.listedByName.lookup r₀.name)
    cases hl : snap.listedByName.lookup r₀.name with
    | none =>
      -- missing: at most one more
      rw [hl] at hmove hcase
      rw [Option.isNone_none, if_pos rfl]
      generalize fate r₀ none = f at hmove hcase
      cases hcase <;> simp only [Fate.count] at hmove <;> omega
    | some l =>
      rw [Option.isNone_some, if_neg Bool.false_ne_true]
      by_cases hc : r₀.departureCount = 0
      · rw [hl] at hmove hcase
        generalize hf : fate r₀ (some l) = f at hmove hcase
        cases hcase with
        | resume | depart | confirm => simp only [Fate.count] at hmove; omega
        | advance _ habsent | lapse _ habsent =>
          exact absurd (hl.symm.trans (r.not_listed hinv hs hr₀ (hl ▸ habsent))) (by simp)
      · -- listed with a count: the pass gets to the record and resets it
        obtain ⟨hdep, hreach⟩ := Round.resets_spec hreset hs hr₀ hc hl
        have hv := r.verdict hinv hs hr₀ hl
        rw [hdep, if_neg Bool.false_ne_true] at hv
        have hf : fate r₀ (snap.listedByName.lookup r₀.name) =
            .resume l r₀.pendingConfirmation := by
          rw [hl]
          exact fate_present hv
        obtain ⟨c, hc'⟩ := hend.relabelled_of_reaches hp he hinv hr₀ hreach hf (by simp)
          (resumeEdits_ne_nil hc l snap _)
        obtain rfl := Option.some.inj (hr'.1.symm.trans hc')
        have hzero : (r₀.relabel ((Fate.resume l r₀.pendingConfirmation).labels r₀
            snap)).departureCount = 0 := Fate.departureCount_relabel hpos (.of_eq hf)
        simp only [Record.stamp, hzero, le_refl, true_and]
        exact Int.natCast_nonneg _
  · -- no record before the pass: nothing counted yet
    obtain ⟨-, l, slot, address, priv, -, -, hrec⟩ := hfresh
    rw [hrec]
    exact ⟨le_refl 0, Int.natCast_nonneg _⟩

/-- Live rounds that reset the counts they should keep both invariants. -/
theorem countInv_rounds (hp : g.Planned subnet link) :
    ∀ {rs : List Round} {w : World} {hist : List Snapshot}, (∀ r ∈ rs, r.env.Live) →
      MemberInv g w.store → CountInv g hist w.store →
      Guarded (Round.step g) (fun w r => r.resets g w.store) w rs →
      CountInv g (hist ++ history g w rs) (runRounds g w rs).store
  | [], w, hist, _, _, hcount, _ => by
    rw [history, List.append_nil]
    exact hcount
  | r :: rs, w, hist, hlive, hinv, hcount, hreset => by
    obtain ⟨hhead, htail⟩ := guarded_cons.mp hreset
    have he := hlive r List.mem_cons_self
    rw [history, ← List.append_assoc]
    have hlive' : ∀ q ∈ rs, q.env.Live := fun q hq => hlive q (List.mem_cons_of_mem _ hq)
    have h := countInv_rounds hp hlive' (memberInv_round he hinv) (hcount.step hp he hinv hhead)
      htail
    exact h

/-! ## Rendering -/

/-- The result renders the member: it has a peer and a roster entry for the record. -/
def Result.Renders (res : Result) (r : Record) : Prop :=
  (∃ p ∈ res.peers, p.slot = r.slot ∧ p.publicKey = r.publicKey ∧
    p.tunnelAddress = r.tunnelAddress) ∧
  ∃ x ∈ res.roster, x.name = r.name ∧ x.slot = r.slot ∧ x.tunnelAddress = r.tunnelAddress

theorem Result.renders_of_mem {os : List NameOutcome} {o : NameOutcome} (ho : o ∈ os)
    {targetSize : Int} {r r' : Record} {names : ManagedResourceNames}
    (hr : o.rendered = some (buildPeer r', rosterEntry r' names)) (hid : r.SameIdentity r') :
    (os.foldl Result.add (Result.start targetSize)).Renders r := by
  rw [Result.foldl_add]
  refine ⟨⟨buildPeer r', ?_, hid.slot, hid.publicKey, hid.tunnelAddress⟩,
    rosterEntry r' names, ?_, hid.name, hid.slot, hid.tunnelAddress⟩
  · exact List.mem_append_right _ (List.mem_filterMap.mpr ⟨o, ho, by rw [hr]; rfl⟩)
  · exact List.mem_append_right _ (List.mem_filterMap.mpr ⟨o, ho, by rw [hr]; rfl⟩)

/-- A completed round renders a record that is not pending, unless its branch departs it. -/
theorem PassEnd.renders {e : Env} {w' : World} (he : e.Live) (hinv : MemberInv g w.store)
    {targetSize : Int} {res : Result} (h : PassEnd g e snap targetSize w (.ok res) w') {r : Record}
    (hr : g.Holds w.store k r) (hp : r.pendingConfirmation = false) :
    res.Renders r ∨ (∃ l, fate r (snap.listedByName.lookup r.name) = .depart l) ∨
      fate r (snap.listedByName.lookup r.name) = .lapse := by
  obtain ⟨os, names, o, w₁, w₂, rfl, ho, -, -, hend, -⟩ := h.outcome he hinv.recordsKept hr
  have hne : fate r (snap.listedByName.lookup r.name) ≠ .confirm := fun hc => by
    rw [(fate_eq_confirm hc).1] at hp
    cases hp
  have hout := hend.outcome_eq hne
  cases hf : fate r (snap.listedByName.lookup r.name) with
  | resume l p =>
    rw [hf] at hout
    refine .inl (Result.renders_of_mem ho (congrArg _ hout) ?_)
    rw [resumeEdits_record]
    exact r.relabel_sameIdentity (resumeEdits_mutable r l snap p)
  | depart l => exact .inr (.inl ⟨l, rfl⟩)
  | advance =>
    rw [hf] at hout
    exact .inl (Result.renders_of_mem ho (congrArg _ hout) (.refl r))
  | lapse => exact .inr (.inr rfl)
  | confirm => exact absurd hf hne

/-! ## The debounce over whole runs -/

/-- What the debounce promises of a round from `w` with the snapshot `snap`, when `hist` are the
usable snapshots up to and including it. -/
structure Debounced (g : Gateway) (hist : List Snapshot) (snap : Option Snapshot) (w : World)
    (out : Except PassError Result × World) : Prop where
  /-- A record that is not pending is rendered, unless its member is listed on its way out or was
  missing from the last three usable snapshots. -/
  rendered : ∀ {sn res key r}, snap = some sn → out.1 = .ok res → g.Holds w.store key r →
    r.pendingConfirmation = false → ¬ res.Renders r →
      (∃ l, sn.listedByName.lookup r.name = some l ∧ l.action.departing) ∨ 3 ≤ missed hist r.name
  /-- No count exceeds the number of snapshots missed in a row. -/
  count_le : ∀ {key r}, g.Holds out.2.store key r → r.departureCount ≤ missed hist r.name
  /-- A member listed with any other action is not counted. -/
  listed : ∀ {sn key r l}, snap = some sn → g.Holds w.store key r →
    sn.listedByName.lookup r.name = some l → l.action.departing = false →
      ∃ r', g.Holds out.2.store key r' ∧ r'.departureCount ≤ r.departureCount

/-- One round of the debounce. -/
theorem Debounced.of_countInv (hp : g.Planned subnet link) {hist : List Snapshot} (he : r.env.Live)
    (hinv : MemberInv g w.store) (hcount : CountInv g hist w.store) (hreset : r.resets g w.store) :
    Debounced g (hist ++ (r.snapshot g w.store).toList) (r.snapshot g w.store) w (r.exec g w) := by
  refine ⟨fun {sn res key rec} hs hok hr hnp hnot => ?_,
    fun hr => (hcount.step hp he hinv hreset _ _ hr).2, fun {sn key rec l} hs hr hl hdep => ?_⟩
  all_goals
    rcases r.exec_cases g w with ⟨hs', -⟩ | ⟨snap, ts, hs', hend⟩
    · rw [hs] at hs'
      cases hs'
    cases hs.symm.trans hs'
  · rw [hok] at hend
    rcases hend.renders he hinv hr hnp with h | ⟨l, h⟩ | h
    · exact absurd h hnot
    · obtain ⟨hl, hv⟩ := fate_eq_depart h
      refine .inl ⟨l, hl, ?_⟩
      by_contra hdep
      rw [r.verdict hinv hs hr hl, if_neg hdep] at hv
      cases hv
    · obtain ⟨habsent, hc⟩ := fate_eq_lapse h
      right
      rw [hs, Option.toList_some, missed_snoc, r.not_listed hinv hs hr habsent,
        Option.isNone_none, if_pos rfl]
      have := (hcount _ _ hr).2
      omega
  · have hv := r.verdict hinv hs hr hl
    rw [hdep, if_neg Bool.false_ne_true] at hv
    have hf : fate rec (sn.listedByName.lookup rec.name) = .resume l rec.pendingConfirmation := by
      rw [hl]
      exact fate_present hv
    have hrec := hend.recordEnd he hinv.recordsKept hr
    obtain ⟨r', hr'⟩ : ∃ r', (r.exec g w).2.store.lookup key = some r' := by
      generalize (r.exec g w).2.store.lookup key = o at hrec
      cases hrec with
      | kept | relabelled => exact ⟨_, rfl⟩
      | released hconf => rw [hf] at hconf; cases hconf
    rw [hr'] at hrec
    refine ⟨r', ⟨hr', hrec.sameIdentity.gatewayUID.trans hr.2⟩, ?_⟩
    have hpos := (hcount _ _ hr).1
    rcases hrec.count hpos with h | h
    · exact h.le
    · rw [h, hf]
      exact hpos

/-- **The departure debounce.** In a run of rounds whose reads reflect the store, whatever fails in
them, and each of which resets the counts of the members its snapshot lists: a member whose record
is not pending stops being rendered only when it is listed on its way out or was missing from three
usable snapshots in a row; no count exceeds the number of snapshots missed; and a listed member is
not counted. -/
theorem departure_debounce {subnet link : String} (hp : g.Planned subnet link) {w₀ : World}
    (h₀ : g.Unrecorded w₀.store) {rs : List Round} (hlive : ∀ r ∈ rs, r.env.Live)
    (hreset : Guarded (Round.step g) (fun w r => r.resets g w.store) w₀ rs) :
    ∀ rs₁ r rs₂, rs = rs₁ ++ r :: rs₂ →
      Debounced g (history g w₀ (rs₁ ++ [r])) (r.snapshot g (runRounds g w₀ rs₁).store)
        (runRounds g w₀ rs₁) (r.exec g (runRounds g w₀ rs₁)) := by
  rintro rs₁ r rs₂ rfl
  have hlive₁ : ∀ q ∈ rs₁, q.env.Live := fun q hq => hlive q (List.mem_append_left _ hq)
  have hinv := memberInv_rounds hlive₁ (MemberInv.of_unrecorded h₀)
  have hcount : CountInv g (history g w₀ rs₁) (runRounds g w₀ rs₁).store := by
    have hnone : CountInv g [] w₀.store := fun key r hr => (h₀ key r hr).elim
    have h := countInv_rounds hp hlive₁ (MemberInv.of_unrecorded h₀) hnone hreset.left
    rwa [List.nil_append] at h
  rw [history_snoc]
  exact .of_countInv hp (hlive r (by simp)) hinv hcount hreset.at

/-- `a` is missed once, and then listed again. -/
def resetRun : List Round :=
  [seesA (.calm .live) .none, seesNothing (.calm .live), seesA (.calm .live) .none]

/-- A miss after the reset is the first one. -/
theorem departure_debounce_resetRun :
    missed (history fleet emptyWorld (resetRun ++ [seesNothing (.calm .live)])) "a" = 1 ∧
      Debounced fleet (history fleet emptyWorld (resetRun ++ [seesNothing (.calm .live)]))
        ((seesNothing (.calm .live)).snapshot fleet (runRounds fleet emptyWorld resetRun).store)
        (runRounds fleet emptyWorld resetRun)
        ((seesNothing (.calm .live)).exec fleet (runRounds fleet emptyWorld resetRun)) := by
  refine ⟨by decide +kernel, departure_debounce fleet_planned (emptyWorld_unrecorded fleet)
    ?_ (by decide +kernel) resetRun (seesNothing (.calm .live)) [] rfl⟩
  intro r hr
  simp only [resetRun, List.cons_append, List.nil_append, List.mem_cons, List.not_mem_nil,
    or_false] at hr
  rcases hr with rfl | rfl | rfl | rfl <;> exact EnvOf.calm_live

/-- `a` is missed once; the pass over the snapshot that lists it again aborts on its label update;
then `a` is missed twice. -/
def abortedRun : List Round :=
  [seesA (.calm .live) .none, seesNothing (.calm .live),
    seesA { EnvOf.calm .live with update := fun _ => .failed false "timeout" } .none,
      seesNothing (.calm .live)]

/-- `a` is missed once and then listed on its way out. -/
def departingRun : List Round :=
  [seesA (.calm .live) .none, seesNothing (.calm .live), seesA (.calm .live) .deleting]

/-- **A member departs early.** After the aborted run `a` has a count of `2` with one snapshot
missed, and the next round, in which `a` is missing for the second time in a row, completes without
a peer or a roster entry for it. And a count outlives a snapshot that lists its member on its way
out. -/
theorem abortedRun_departs_early :
    (∀ r ∈ abortedRun, r.env.Live) ∧
      (runRounds fleet emptyWorld abortedRun).store.records.map
          (fun r => (r.name, r.departureCount, r.pendingConfirmation)) = [("a", 2, false)] ∧
      missed (history fleet emptyWorld abortedRun) "a" = 1 ∧
      missed (history fleet emptyWorld (abortedRun ++ [seesNothing (.calm .live)])) "a" = 2 ∧
      ((seesNothing (.calm .live)).exec fleet
        (runRounds fleet emptyWorld abortedRun)).1.toOption.map
          (fun res => (res.unusable, res.peers, res.roster)) = some (false, [], []) ∧
      (runRounds fleet emptyWorld departingRun).store.records.map
          (fun r => (r.name, r.departureCount)) = [("a", 1)] ∧
      missed (history fleet emptyWorld departingRun) "a" = 0 := by
  refine ⟨fun r hr => ?_, by decide +kernel⟩
  simp only [abortedRun, List.mem_cons, List.not_mem_nil, or_false] at hr
  rcases hr with rfl | rfl | rfl | rfl <;>
    exact ⟨trivial, fun _ => trivial, fun _ => trivial⟩

end WireguardGateway.Gcp

import WireguardGateway.Gcp.Completed
import WireguardGateway.Gcp.Retirement

/-!
# The pass as a party of the retirement protocol

The operator of `Gcp.Retirement` is the walk of `reconcile`, taken apart into its calls. One
iteration of the walk is a few operator steps (`NameEnd.simulated`), and so a whole walk is a run of
them:

* **`Walk.simulated`**: for every walk there is a run of the operator that renders the same members,
  ends where the pass ends, and leaves the pending flags that the walk leaves in the store;
* `AllocState.walkReady`: every live pass walks in a state this applies to;
* **`pass_refines_protocol`**: so every completed pass over live reads is a run of the operator,
  from the flags of one store to those of the next.
-/

namespace WireguardGateway.Gcp

open Lib

/-- Label updates act on the pending flag alone alike. -/
theorem relabel_pendingConfirmation (ls : Labels) :
    ∀ {r r' : Record}, r.pendingConfirmation = r'.pendingConfirmation →
      (r.relabel ls).pendingConfirmation = (r'.relabel ls).pendingConfirmation := by
  induction ls with
  | nil => exact fun h => h
  | cons l ls ih =>
    intro r r' h
    refine ih ?_
    obtain ⟨l, v⟩ := l
    cases l <;> first | exact h | rfl

/-- The pending flag a branch of the walk leaves. -/
def Fate.pendingAfter (rec : Record) : Fate → Bool
  | .resume .. => false
  | .depart _ | .lapse => true
  | .advance | .confirm => rec.pendingConfirmation

theorem Fate.relabel_pending {rec : Record} {f : Fate} {listed : Option ListedMember}
    (hf : FateCase rec listed f) (snap : Snapshot) :
    (rec.relabel (f.labels rec snap)).pendingConfirmation = f.pendingAfter rec := by
  cases hf with
  | resume hv =>
    rw [Fate.labels, ← resumeEdits_record, resumeEdits_record_eq]
    cases rec.pendingConfirmation <;> rfl
  | depart | advance | lapse | confirm => rfl

theorem SameCloud.trans {s s' s'' : System} (h : SameCloud s s') (h' : SameCloud s' s'') :
    SameCloud s s'' :=
  ⟨h'.1.trans h.1, h'.2.trans h.2, h'.3.trans h.3, h'.4.trans h.4, h'.5.trans h.5⟩

section Simulation

variable {g : Gateway} {e : Env} {snap : Snapshot} {n : String} {names : ManagedResourceNames}
  {s : System} {todo roster : List String}

/-- The step of the walk that writes what a branch writes. -/
def Fate.writes (w : WriteOutcome) : Fate → OperatorStep
  | .resume _ true => .resume w
  | .resume _ false | .advance => .refresh w
  | .depart _ | .lapse => .markPending w
  | .confirm => .confirm

/-- The members the outcome renders. -/
def NameOutcome.rendersName (o : NameOutcome) : List String :=
  (o.rendered.map (·.2.name)).toList

theorem flatMap_rendersName (os : List NameOutcome) : os.flatMap NameOutcome.rendersName =
    (os.filterMap (·.rendered.map Prod.snd)).map (·.name) := by
  rw [List.map_filterMap, List.filterMap_eq_flatMap_toList]
  simp only [Option.map_map]
  rfl

/-- A checked release passes, when nothing is left and the composite is synced. -/
theorem replay_checks (hnames : g.resolveNames n = .ok names)
    (hpc : s.operator = .walking (n :: todo) roster) (hp : s.pending n = some true)
    (hfree : ∀ k, (n, k) ∉ s.resources) (hsync : s.synced = some s.generation) :
    replay (System.operatorStep g) s
        [.confirm, .get none, .get none, .get none, .getComposite none] =
      { s with operator := .releasing n todo roster } := by
  simp [replay, System.operatorStep, hpc, hp, hnames, ManagedKind.checks, confirmCheck,
    System.answer, hfree, System.readComposite, hsync, compositeSynced]

/-- The write of a branch, as a step of the operator. -/
theorem operatorStep_writes {rec : Record} {listed : Option ListedMember} {f : Fate}
    (hf : FateCase rec listed f) (hne : f ≠ .confirm) (hname : rec.name = n)
    (hpc : s.operator = .walking (n :: todo) roster)
    (hrec : s.pending n = some rec.pendingConfirmation) (w : WriteOutcome) :
    s.operatorStep g (f.writes w) =
      s.write w (·.setPending n (some (f.pendingAfter rec)))
        (.walking todo (roster ++ (f.outcome rec snap names).rendersName)) := by
  -- a refresh leaves the flag as it is
  have hsame : ∀ {p : Bool}, s.pending n = some p → s.setPending n (some p) = s := fun {p} hp => by
    rw [System.setPending, ← hp, Function.update_eq_self]
  have hwrite : ∀ {p : Bool} (next : Pc), s.pending n = some p →
      s.write w (·.setPending n (some p)) next = s.write w id next := fun next hp => by
    cases w <;> simp only [System.write, hsame hp, id]
  cases hf with
  | @resume l hv =>
    have hout : ((Fate.resume l rec.pendingConfirmation).outcome rec snap names).rendersName =
        [n] := by
      simp [NameOutcome.rendersName, Fate.outcome, rosterEntry, resumeEdits_record_eq, hname]
    rw [hout]
    cases hp : rec.pendingConfirmation
    all_goals
      rw [hp] at hrec
      simp only [Fate.writes, System.operatorStep, hpc, hrec, if_true, Fate.pendingAfter,
        hwrite _ hrec]
  | depart hp | lapse hp =>
    rw [hp] at hrec
    simp only [Fate.writes, System.operatorStep, hpc, hrec, if_true, Fate.pendingAfter,
      NameOutcome.rendersName, Fate.outcome, Option.map_none, Option.toList_none, List.append_nil]
  | advance hp =>
    rw [hp] at hrec
    simp only [Fate.writes, System.operatorStep, hpc, hrec, if_true, Fate.pendingAfter, hp,
      hwrite _ hrec, NameOutcome.rendersName, Fate.outcome, rosterEntry, hname, Option.map_some,
      Option.toList_some]
  | confirm => exact absurd rfl hne

/-- The system follows one iteration: where the operator goes on, and what it leaves of `n`. -/
structure Follows (s s' : System) (n : String) (p : Option Bool) (pc : Pc) : Prop where
  operator : s'.operator = pc
  pending : s'.pending = Function.update s.pending n p
  cloud : SameCloud s s'

/-- Where the operator goes on after an iteration. -/
def nextPc (todo roster : List String) : Except PassError NameOutcome → Pc
  | .ok o => .walking todo (roster ++ o.rendersName)
  | .error _ => .idle

variable {r : Except PassError NameOutcome} {w w' : World} {adopted : GoMap String Record}
  {ns : List String}

/-- **Every iteration of the walk is a run of the operator.** The iteration finds the record it
adopted; a release that its checks let through is one the system lets through. -/
theorem NameEnd.simulated {rec stored : Record} (h : NameEnd g e snap n names (some rec) w r w')
    (hnames : g.resolveNames n = .ok names) (hname : rec.name = n)
    (hl : w.store.lookup names.kubernetesSecretName = some stored)
    (hstored : stored.pendingConfirmation = rec.pendingConfirmation)
    (hpc : s.operator = .walking (n :: todo) roster)
    (hrec : s.pending n = some rec.pendingConfirmation)
    (hchecks : releaseBlocked e n = none →
      (∀ k, (n, k) ∉ s.resources) ∧ s.synced = some s.generation) :
    ∃ os : List OperatorStep, Follows s (replay (System.operatorStep g) s os) n
      ((w'.store.lookup names.kubernetesSecretName).map (·.pendingConfirmation))
      (nextPc todo roster r) := by
  have hcase := fate_case rec (snap.listedByName.lookup n)
  -- a branch that writes labels: `w` is how the write ends
  have hwrites : ∀ {f : Fate} (wr : WriteOutcome), f ≠ .confirm →
      fate rec (snap.listedByName.lookup n) = f →
      replay (System.operatorStep g) s [f.writes wr] =
        s.write wr (·.setPending n (some (f.pendingAfter rec)))
          (.walking todo (roster ++ (f.outcome rec snap names).rendersName)) :=
    fun wr hne hf => operatorStep_writes (hf ▸ hcase) hne hname hpc hrec wr
  have hrelabelled : ∀ {f : Fate} (c : Nat), fate rec (snap.listedByName.lookup n) = f →
      ((stored.relabel (f.labels rec snap)).stamp c).pendingConfirmation = f.pendingAfter rec :=
    fun c hf => (relabel_pendingConfirmation _ hstored).trans
      (Fate.relabel_pending (hf ▸ hcase) snap)
  have hsame : Function.update s.pending n (some stored.pendingConfirmation) = s.pending := by
    rw [hstored, ← hrec, Function.update_eq_self]
  have hpending : fate rec (snap.listedByName.lookup n) = .confirm → s.pending n = some true :=
    fun hf => by rw [hrec, (fate_eq_confirm hf).1]
  cases h with
  | @quiet _ _ f hf hne hempty =>
    refine ⟨[f.writes .ok], ?_⟩
    have hp : f.pendingAfter rec = stored.pendingConfirmation := by
      rw [← Fate.relabel_pending (hf ▸ hcase) snap, hempty, hstored]
      rfl
    rw [hwrites .ok hne hf, hl, Option.map_some, hp]
    exact ⟨rfl, rfl, rfl, rfl, rfl, rfl, rfl⟩
  | @relabelled _ _ f hf hne =>
    refine ⟨[f.writes .ok], ?_⟩
    rw [hwrites .ok hne hf, World.commit_store, Store.lookup_commit_relabel hl, Option.map_some,
      hrelabelled _ hf]
    exact ⟨rfl, rfl, rfl, rfl, rfl, rfl, rfl⟩
  | @failed _ _ f err hf hne =>
    refine ⟨[f.writes (.failed false "")], ?_⟩
    rw [hwrites _ hne hf, hl, Option.map_some]
    exact ⟨rfl, hsame.symm, rfl, rfl, rfl, rfl, rfl⟩
  | @failedRelabelled _ _ f err hf hne =>
    refine ⟨[f.writes (.failed true "")], ?_⟩
    rw [hwrites _ hne hf, World.commit_store, Store.lookup_commit_relabel hl, Option.map_some,
      hrelabelled _ hf]
    exact ⟨rfl, rfl, rfl, rfl, rfl, rfl, rfl⟩
  | blocked hf =>
    -- a confirmation that does not get through, by a read that fails
    refine ⟨[.confirm, .get (some "")], ?_⟩
    rw [hl, Option.map_some]
    have hrun : replay (System.operatorStep g) s [.confirm, .get (some "")] =
        { s with operator := .walking todo roster } := by
      simp [replay, System.operatorStep, hpc, hpending hf, hnames, ManagedKind.checks, confirmCheck,
        System.answer]
    rw [hrun]
    exact ⟨by simp [nextPc, NameOutcome.rendersName], hsame.symm, rfl, rfl, rfl, rfl, rfl⟩
  | blockedDeleted hf hfree | released hf hfree =>
    obtain ⟨hnone, hsync⟩ := hchecks hfree
    refine ⟨[.confirm, .get none, .get none, .get none, .getComposite none] ++ [.deleteRecord .ok],
      ?_⟩
    rw [replay_append, replay_checks hnames hpc (hpending hf) hnone hsync, World.commit_store,
      Store.lookup_commit_delete]
    exact ⟨by simp [replay, System.operatorStep, nextPc, NameOutcome.rendersName], rfl, rfl, rfl,
      rfl, rfl, rfl⟩
  | gone hf hnone => exact absurd (hl.symm.trans hnone) (by simp)

/-- The records the walk works on are in the store, under object names of their own. -/
structure WalkReady (g : Gateway) (adopted : GoMap String Record) (ns : List String) (s : Store) :
    Prop where
  stored : ∀ n ∈ ns, ∀ rec, adopted.lookup n = some rec → rec.name = n ∧ ∃ key r,
    g.secretName n = .ok key ∧ s.lookup key = some r ∧
      r.pendingConfirmation = rec.pendingConfirmation
  injective : ∀ n ∈ ns, ∀ m ∈ ns, ∀ rec rec', adopted.lookup n = some rec →
    adopted.lookup m = some rec' → g.secretName n = g.secretName m → n = m

/-- The pending flag of `n`'s record in the store. -/
def Gateway.pendingIn (g : Gateway) (s : Store) (n : String) : Option Bool :=
  ((g.secretName n).toOption.bind s.lookup).map (·.pendingConfirmation)

theorem pendingIn_eq {st : Store} {key : String} (h : g.secretName n = .ok key) :
    g.pendingIn st n = (st.lookup key).map (·.pendingConfirmation) := by
  rw [Gateway.pendingIn, h]
  rfl

/-- The iteration at `n` keeps the rest of the walk ready. -/
theorem WalkReady.tail (h : WalkReady g adopted (n :: ns) w.store) (hnd : n ∉ ns)
    (hnames : g.resolveNames n = .ok names)
    (hend : NameEnd g e snap n names (adopted.lookup n) w r w') :
    WalkReady g adopted ns w'.store := by
  have hmem : ∀ {m}, m ∈ ns → m ∈ n :: ns := fun hm => List.mem_cons_of_mem _ hm
  refine ⟨fun m hm rec hrec => ?_, fun m hm m' hm' => h.injective m (hmem hm) m' (hmem hm')⟩
  obtain ⟨hname, key, r, hkey, hl, hp⟩ := h.stored m (hmem hm) rec hrec
  refine ⟨hname, key, r, hkey, ?_, hp⟩
  cases hn : adopted.lookup n with
  | none =>
    rw [hn] at hend
    rw [hend.eq_of_unadopted.1, hl]
  | some rec' =>
    rw [hend.lookup_of_ne, hl]
    rintro rfl
    have hsame : g.secretName n = g.secretName m := by
      rw [hkey, secretName_of_resolveNames hnames]
    exact hnd (h.injective n List.mem_cons_self m (hmem hm) rec' rec hn hrec hsame ▸ hm)

/-- An iteration of the walk, whether or not a record was adopted under its name. -/
theorem WalkReady.head (h : WalkReady g adopted (n :: ns) w.store)
    (hnames : g.resolveNames n = .ok names)
    (hend : NameEnd g e snap n names (adopted.lookup n) w r w')
    (hpc : s.operator = .walking (n :: ns) roster)
    (hrec : s.pending n = (adopted.lookup n).map (·.pendingConfirmation))
    (hchecks : releaseBlocked e n = none →
      (∀ k, (n, k) ∉ s.resources) ∧ s.synced = some s.generation) :
    ∃ ops : List OperatorStep, Follows s (replay (System.operatorStep g) s ops) n
      ((adopted.lookup n).bind fun _ => g.pendingIn w'.store n) (nextPc ns roster r) := by
  cases hn : adopted.lookup n with
  | none =>
    rw [hn] at hend hrec
    obtain ⟨-, rfl⟩ := hend.eq_of_unadopted
    refine ⟨[.skip], ?_⟩
    have hskip : replay (System.operatorStep g) s [.skip] =
        { s with operator := .walking ns roster } := by
      rw [Option.map_none] at hrec
      simp [replay, System.operatorStep, hpc, hrec]
    rw [hskip]
    refine ⟨by simp [nextPc, NameOutcome.rendersName], ?_, rfl, rfl, rfl, rfl, rfl⟩
    rw [Option.map_none] at hrec
    rw [Option.bind_none, ← hrec, Function.update_eq_self]
  | some rec =>
    rw [hn] at hend hrec
    obtain ⟨hname, key, stored, hkey, hl, hp⟩ := h.stored n List.mem_cons_self rec hn
    obtain rfl : names.kubernetesSecretName = key :=
      Except.ok.inj ((secretName_of_resolveNames hnames).symm.trans hkey)
    obtain ⟨ops, hfollow⟩ := hend.simulated hnames hname hl hp hpc hrec hchecks
    rw [← pendingIn_eq hkey] at hfollow
    exact ⟨ops, hfollow⟩

/-- Where the operator is after the walk. -/
def walkedPc (roster : List String) (os : List NameOutcome) : Except PassError Unit → Pc
  | .ok _ => .walking [] (roster ++ os.flatMap NameOutcome.rendersName)
  | .error _ => .idle

/-- **Every walk is a run of the operator**: it renders the same members, and leaves the same
pending flags. -/
theorem Walk.simulated {os : List NameOutcome} {u : Except PassError Unit}
    (h : Walk g e snap adopted ns w os u w') : ∀ {s : System} {roster : List String},
      ns.Nodup → WalkReady g adopted ns w.store → s.operator = .walking ns roster →
      (∀ n ∈ ns, s.pending n = (adopted.lookup n).map (·.pendingConfirmation)) →
      (∀ n, releaseBlocked e n = none →
        (∀ k, (n, k) ∉ s.resources) ∧ s.synced = some s.generation) →
      ∃ ops : List OperatorStep,
        let s' := replay (System.operatorStep g) s ops
        SameCloud s s' ∧ s'.operator = walkedPc roster os u ∧
        (∀ n, n ∉ ns → s'.pending n = s.pending n) ∧
        ∀ n ∈ ns, s'.pending n = (adopted.lookup n).bind fun _ => g.pendingIn w'.store n := by
  induction h with
  | nil w =>
    intro s roster _ _ hpc _ _
    exact ⟨[], ⟨rfl, rfl, rfl, rfl, rfl⟩, by simp [walkedPc, hpc], fun _ _ => rfl,
      fun n hn => absurd hn List.not_mem_nil⟩
  | @cons n ns names w w₁ w' o os u hns head tail ih =>
    intro s roster hnd hready hpc hrec hchecks
    obtain ⟨hnot, hnd'⟩ := List.nodup_cons.mp hnd
    obtain ⟨ops, hfollow⟩ := hready.head hns head hpc (hrec n List.mem_cons_self) (hchecks n)
    have hrec' : ∀ m ∈ ns, (replay (System.operatorStep g) s ops).pending m =
        (adopted.lookup m).map (·.pendingConfirmation) := fun m hm => by
      have hmn : m ≠ n := fun heq => hnot (heq ▸ hm)
      rw [hfollow.pending, Function.update_of_ne hmn]
      exact hrec m (List.mem_cons_of_mem _ hm)
    obtain ⟨ops', hcloud, hpc', hframe, hpending⟩ := ih hnd' (hready.tail hnot hns head)
      hfollow.operator hrec' (by
        rw [hfollow.cloud.resources, hfollow.cloud.synced, hfollow.cloud.generation]
        exact hchecks)
    refine ⟨ops ++ ops', ?_⟩
    rw [replay_append]
    refine ⟨hfollow.cloud.trans hcloud, ?_, fun m hm => ?_, fun m hm => ?_⟩
    · rw [hpc']
      cases u <;> simp [walkedPc]
    · rw [List.mem_cons, not_or] at hm
      rw [hframe m hm.2, hfollow.pending, Function.update_of_ne hm.1]
    · rcases List.mem_cons.mp hm with rfl | hm
      · -- the rest of the walk leaves `n` alone, here and in the store
        rw [hframe _ hnot, hfollow.pending, Function.update_self]
        refine Option.bind_congr fun rec hrec => ?_
        have hkey := secretName_of_resolveNames hns
        rw [pendingIn_eq hkey, pendingIn_eq hkey, tail.lookup_of_ne]
        intro m' hm' rec' hrec' hkey'
        exact hnot (hready.injective _ List.mem_cons_self m' (List.mem_cons_of_mem _ hm') rec rec'
          hrec hrec' (hkey.trans hkey'.symm) ▸ hm')
      · exact hpending m hm
  | @stop n ns names w w₁ err hns head =>
    intro s roster hnd hready hpc hrec hchecks
    obtain ⟨hnot, -⟩ := List.nodup_cons.mp hnd
    obtain ⟨ops, hfollow⟩ := hready.head hns head hpc (hrec n List.mem_cons_self) (hchecks n)
    refine ⟨ops, hfollow.cloud, hfollow.operator, fun m hm => ?_, fun m hm => ?_⟩
    · rw [List.mem_cons, not_or] at hm
      rw [hfollow.pending, Function.update_of_ne hm.1]
    · rcases List.mem_cons.mp hm with rfl | hm'
      · rw [hfollow.pending, Function.update_self]
      · -- names the walk did not get to
        have hmn : m ≠ n := fun heq => hnot (heq ▸ hm')
        rw [hfollow.pending, Function.update_of_ne hmn, hrec m hm, Option.map_eq_bind]
        refine Option.bind_congr fun rec hrec' => ?_
        obtain ⟨-, key, r, hkey, hl, hr⟩ := (hready.tail hnot hns head).stored m hm' rec hrec'
        rw [pendingIn_eq hkey, hl, Option.map_some, hr, Function.comp_apply]

/-- After the allocation of a live pass its walk is ready. -/
theorem AllocState.walkReady (he : e.Live) {tracked : List String} {a₀ a : Adoption} {w₀ : World}
    {new : List (String × Record)} (ha : Adopted g e w₀.store (allNames snap tracked) a₀)
    (h : AllocState g snap a₀ w₀ (candidates snap a₀.adopted) a w new) (ns : List String) :
    WalkReady g a.adopted ns w.store := by
  refine ⟨fun n _ rec hrec => ?_, fun n _ m _ rec rec' hn hm hkey => ?_⟩
  · obtain ⟨key, r, hkey, hl, -, hr⟩ := h.stored he ha hrec
    refine ⟨owns_name (h.owns ha hrec), key, r, hkey, hl, ?_⟩
    rcases hr with ⟨-, c, rfl⟩ | ⟨rfl, -⟩
    · rfl
    · rfl
  · obtain ⟨key, -, hkn, -⟩ := h.stored he ha hn
    exact h.keys_injective he ha hn hm hkn (hkey ▸ hkn)

/-! ## The whole pass -/

/-- The allocation loop gives every name a record, and the walk starts. -/
theorem replay_allocates : ∀ (ms : List String) (s : System),
    s.operator = .allocating ms ns →
      ∃ ops : List OperatorStep,
        let s' := replay (System.operatorStep g) s ops
        SameCloud s s' ∧ s'.operator = .walking ns [] ∧
        ∀ n, s'.pending n = if n ∈ ms then some ((s.pending n).getD false) else s.pending n
  | [], s, hpc => by
    have hrun : replay (System.operatorStep g) s [.startWalk] =
        { s with operator := .walking ns [] } := by
      simp [replay, System.operatorStep, hpc]
    refine ⟨[.startWalk], ?_⟩
    rw [hrun]
    exact ⟨⟨rfl, rfl, rfl, rfl, rfl⟩, rfl, fun n => (if_neg List.not_mem_nil).symm⟩
  | m :: ms, s, hpc => by
    have hrun : s.operatorStep g (.allocate .ok) =
        { s with
          pending := Function.update s.pending m (some ((s.pending m).getD false))
          operator := .allocating ms ns } := by
      cases hm : s.pending m with
      | none => simp [System.operatorStep, hpc, System.write, System.setPending, hm]
      | some p =>
        rw [Option.getD_some, ← hm, Function.update_eq_self]
        simp [System.operatorStep, hpc, System.write, hm]
    obtain ⟨ops, hcloud, hpc', hpending⟩ := replay_allocates ms _ (congrArg System.operator hrun)
    refine ⟨.allocate .ok :: ops, .trans ?_ hcloud, hpc', fun n => ?_⟩
    · rw [hrun]
      exact ⟨rfl, rfl, rfl, rfl, rfl⟩
    · rw [replay_cons, hpending, hrun]
      by_cases hn : n = m
      · subst hn
        simp
      · simp [hn]

namespace CompletedLoops

variable {w w' w₁ : World} {a₀ a : Adoption} {new : List (String × Record)} {os : List NameOutcome}

/-- The flags the walk starts from, after the allocation. -/
theorem pending_adopted (h : CompletedLoops g e snap w w' a₀ a new w₁ os) (n : String) :
    (if n ∈ new.map (·.2.name) then
        some (((g.recordOf w.store n).map (·.pendingConfirmation)).getD false)
      else (g.recordOf w.store n).map (·.pendingConfirmation)) =
      (a.adopted.lookup n).map (·.pendingConfirmation) := by
  split_ifs with hn
  · obtain ⟨p, hp, rfl⟩ := List.mem_map.mp hn
    obtain ⟨-, l, slot, address, priv, -, -, hfresh⟩ := h.alloc.allocation.fresh _ hp
    rw [(h.candidate_of_new hp).2, h.adopted_new hp, Option.map_some, hfresh]
    rfl
  · rw [h.alloc.adoption, Adoption.lookup_takeAll_of_notMem hn, h.adopted_before]

/-- The flags the walk leaves are those of the records after the pass. -/
theorem pending_after (h : CompletedLoops g e snap w w' a₀ a new w₁ os) (n : String) :
    ((a.adopted.lookup n).bind fun _ => g.pendingIn w'.store n) =
      (g.recordOf w'.store n).map (·.pendingConfirmation) := by
  cases hrec : a.adopted.lookup n with
  | none => rw [h.recordOf_after_of_unadopted hrec, Option.bind_none, Option.map_none]
  | some rec =>
    obtain ⟨key, -, hkey, -⟩ := h.alloc.stored h.live h.adopted hrec
    obtain ⟨names, hns, rfl⟩ := secretName_ok hkey
    rw [Option.bind_some, pendingIn_eq hkey, h.recordOf_after hrec hns]

end CompletedLoops

/-- **A completed pass is a run of the protocol's operator**: it renders the roster that the pass
returns and takes the flags of one store to those of the other. -/
theorem pass_refines_protocol (he : e.Live) {desired last : Int} {w w' : World} {res : Result}
    (h : reconcile g e (some snap) desired last w = (.ok res, w')) (hpc : s.operator = .idle)
    (hpending : ∀ n, s.pending n = (g.recordOf w.store n).map (·.pendingConfirmation))
    (hchecks : ∀ n, releaseBlocked e n = none →
      (∀ k, (n, k) ∉ s.resources) ∧ s.synced = some s.generation) :
    ∃ ops : List OperatorStep,
      let s' := replay (System.operatorStep g) s ops
      SameCloud s s' ∧ s'.operator = .walking [] (res.roster.map (·.name)) ∧
      ∀ n, s'.pending n = (g.recordOf w'.store n).map (·.pendingConfirmation) := by
  have hend : PassEnd g e snap (computeTargetSize desired g.capacity last) w _ _ :=
    reconcileSnapshot_end _ w
  rw [show reconcileSnapshot g e snap _ w = (.ok res, w') from h] at hend
  obtain ⟨a₀, a, new, w₁, os, hloops, rfl⟩ := hend.loops he
  let names := (allNames snap (g.recordNames w.store)).insertionSort (· ≤ ·)
  let started := s.operatorStep g (.startPass (new.map (·.2.name)) names)
  have hstarted : started = { s with operator := .allocating (new.map (·.2.name)) names } := by
    simp only [started, System.operatorStep, hpc]
  obtain ⟨ops₁, hcloud₁, hpc₁, hpending₁⟩ := replay_allocates (g := g) _ started
    (congrArg System.operator hstarted)
  have hflags : ∀ n, (replay (System.operatorStep g) started ops₁).pending n =
      (a.adopted.lookup n).map (·.pendingConfirmation) := fun n => by
    rw [hpending₁, hstarted, ← hloops.pending_adopted]
    simp only [hpending]
  have hcloud : SameCloud s (replay (System.operatorStep g) started ops₁) :=
    .trans (by rw [hstarted]; exact ⟨rfl, rfl, rfl, rfl, rfl⟩) hcloud₁
  obtain ⟨ops₂, hcloud₂, hpc₂, hframe, hpending₂⟩ := hloops.walk.simulated
    (nodup_sorted_allNames _ _) (hloops.alloc.walkReady he hloops.adopted _) hpc₁
      (fun n _ => hflags n)
    (by rw [hcloud.resources, hcloud.synced, hcloud.generation]; exact hchecks)
  refine ⟨.startPass (new.map (·.2.name)) names :: (ops₁ ++ ops₂), ?_⟩
  rw [replay_cons, replay_append]
  refine ⟨hcloud.trans hcloud₂, hpc₂.trans ?_, fun n => ?_⟩
  · rw [walkedPc, Result.foldl_add, List.nil_append, flatMap_rendersName]
    rfl
  · rw [← hloops.pending_after]
    by_cases hn : n ∈ names
    · exact hpending₂ n hn
    · rw [hframe n hn, hflags]
      cases hrec : a.adopted.lookup n with
      | none => rfl
      | some rec => exact absurd (mem_sorted_allNames.mpr (hloops.name_of_adopted hrec)) hn

end Simulation

/-- A pass over this listing. -/
def listingPass (members : List ListedMember) : World → Except PassError Result × World :=
  reconcile fleet (.calm .live) (some { members, details := ∅ }) 2 2

/-- Two members ran, and then one of them was being deleted. -/
def departedWorld : World :=
  (listingPass [listedAs "a" .deleting "1" .departed, running "b"]
    (listingPass [running "a", running "b"] emptyWorld).2).2

/-- The protocol at that world, with nothing left of the departed member. -/
def departedSystem : System :=
  { System.initial with
    synced := some 0
    pending := fun n => (fleet.recordOf departedWorld.store n).map (·.pendingConfirmation) }

/-- The next pass releases the departed member, and so does the operator of the protocol. -/
theorem pass_refines_protocol_release :
    departedSystem.pending "a" = some true ∧ ∃ ops,
      (replay (System.operatorStep fleet) departedSystem ops).operator = .walking [] ["b"] ∧
      (replay (System.operatorStep fleet) departedSystem ops).pending "a" = none := by
  have hroster : (listingPass [running "b"] departedWorld).1.map (·.roster.map (·.name)) =
    .ok ["b"] := by
    decide +kernel
  have hreleased : fleet.recordOf (listingPass [running "b"] departedWorld).2.store "a" = none := by
    decide +kernel
  refine ⟨by decide +kernel, ?_⟩
  rcases h : listingPass [running "b"] departedWorld with ⟨err | res, w'⟩
  all_goals rw [h] at hroster hreleased
  · cases hroster
  obtain ⟨ops, -, hpc, hpending⟩ := pass_refines_protocol EnvOf.calm_live (s := departedSystem) h
    rfl (fun _ => rfl) fun n _ => ⟨fun k => List.not_mem_nil, rfl⟩
  refine ⟨ops, hpc.trans (congrArg (Pc.walking []) (Except.ok.inj hroster)), ?_⟩
  rw [hpending, hreleased]
  rfl

end WireguardGateway.Gcp

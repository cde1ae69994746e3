import WireguardGateway.Gcp.Confirm
import WireguardGateway.Gcp.Progress

/-!
# The retirement protocol

Two parties act on a member's resources. The operator walks its records, marks departed ones
pending, and then re-applies the composite with the members it still renders; in a later pass it
releases a pending record after three absence reads and a Synced read. Crossplane reconciles the
composite at any moment: it reads the spec, creates the resources of the members listed there,
removes all others, and reports Synced at the generation it read.

`System` is the state of both, one step per call (`OperatorStep`, `CrossplaneStep`), so that a run
is an arbitrary interleaving; a step that does not apply is ignored. Every operator write may fail,
with or without having taken effect, and the operator may stop anywhere (`abort`). Here the absence
reads find the resources: that the code's reads look elsewhere is the subject of `Gcp.Confirm`.

Results:
* **`SyncInv.step`**: when Synced is reported at the current generation, only members of the spec
  have resources, and Crossplane is not at work on an older spec;
* **`deleted_unlisted_free`**: in every run, a member whose record is deleted while the spec does
  not list it has no resource left;
* **`retirement_order`**: in a run that starts no confirmation while the spec still lists the
  member, a deleted record's member is neither listed nor has resources.
-/

namespace WireguardGateway.Gcp

open Lib

/-! ## The two parties -/

/-- Where the operator is in its pass: the names it has still to visit and the roster so far. -/
inductive Pc where
  | idle
  | allocating (candidates names : List String)
  | walking (todo roster : List String)
  | confirming (m : String) (names : ManagedResourceNames) (checks : List ManagedKind)
      (reason : String) (todo roster : List String)
  | syncing (m : String) (todo roster : List String)
  | releasing (m : String) (todo roster : List String)
  | applying (roster : List String)
  deriving DecidableEq

/-- The state of the protocol. `pending m` is the pending flag of `m`'s record, `synced` the
generation of a true Synced condition, `crossplane` the spec and generation that Crossplane works
on. -/
structure System where
  pending : String → Option Bool
  members : List String
  generation : Nat
  synced : Option Nat
  resources : List (String × ManagedKind)
  crossplane : Option (List String × Nat)
  operator : Pc

/-- No record, no member, no resource. -/
def System.initial : System where
  pending := fun _ => none
  members := []
  generation := 0
  synced := none
  resources := []
  crossplane := none
  operator := .idle

inductive OperatorStep where
  | startPass (candidates names : List String)
  | allocate (w : WriteOutcome)
  | startWalk
  | skip
  | refresh (w : WriteOutcome)
  | markPending (w : WriteOutcome)
  | resume (w : WriteOutcome)
  | confirm
  | get (failure : Option String)
  | getComposite (failure : Option String)
  | deleteRecord (w : WriteOutcome)
  | finish
  | apply (w : WriteOutcome) (bumps : Bool)
  | reapply
  | abort

inductive CrossplaneStep where
  | start
  | compose (m : String) (k : ManagedKind)
  | remove (m : String) (k : ManagedKind)
  | report
  | giveUp (unsynced : Bool)

inductive Event where
  | operator (o : OperatorStep)
  | crossplane (c : CrossplaneStep)

namespace System

def setPending (s : System) (m : String) (p : Option Bool) : System :=
  { s with pending := Function.update s.pending m p }

/-- A write of the pass: it goes on when the write succeeds and ends when it fails. -/
def write (s : System) (w : WriteOutcome) (commit : System → System) (next : Pc) : System :=
  match w with
  | .ok => { commit s with operator := next }
  | .failed committed _ => { (if committed then commit s else s) with operator := .idle }

/-- What an absence read of `m` answers. -/
def answer (s : System) (m : String) (k : ManagedKind) : Option String → GetAnswer
  | some cause => .failed cause
  | none => if (m, k) ∈ s.resources then .found else .notFound

/-- The composite as an uncached read returns it. -/
def readComposite (s : System) : Option String → CompositeRead
  | some cause => .failed cause
  | none => .found s.generation (.ok (s.synced.toList.map fun n : Nat =>
      some { type := "Synced", status := "True", observedGeneration := some (n : Int) }))

/-- The composite applied with `roster`: its generation moves when its spec changes, in its members
or elsewhere. -/
def applied (s : System) (roster : List String) (bumps : Bool) : System :=
  { s with
    members := roster
    generation := if roster ≠ s.members ∨ bumps then s.generation + 1 else s.generation }

/-- The operator moves; `g` gives the names of the reads. -/
def operatorStep (g : Gateway) (s : System) : OperatorStep → System
  | .startPass candidates names =>
    match s.operator with
    | .idle => { s with operator := .allocating candidates names }
    | _ => s
  | .allocate w =>
    match s.operator with
    | .allocating (m :: candidates) names =>
      s.write w (fun s => if s.pending m = none then s.setPending m (some false) else s)
        (.allocating candidates names)
    | _ => s
  | .startWalk =>
    match s.operator with
    | .allocating [] names => { s with operator := .walking names [] }
    | _ => s
  | .skip =>
    match s.operator with
    | .walking (m :: todo) roster =>
      if s.pending m = none then { s with operator := .walking todo roster } else s
    | _ => s
  | .refresh w =>
    match s.operator with
    | .walking (m :: todo) roster =>
      if s.pending m = some false then s.write w id (.walking todo (roster ++ [m])) else s
    | _ => s
  | .markPending w =>
    match s.operator with
    | .walking (m :: todo) roster =>
      if s.pending m = some false then
        s.write w (·.setPending m (some true)) (.walking todo roster)
      else s
    | _ => s
  | .resume w =>
    match s.operator with
    | .walking (m :: todo) roster =>
      if s.pending m = some true then
        s.write w (·.setPending m (some false)) (.walking todo (roster ++ [m]))
      else s
    | _ => s
  | .confirm =>
    match s.operator with
    | .walking (m :: todo) roster =>
      if s.pending m = some true then
        match g.resolveNames m with
        | .ok names =>
          { s with operator := .confirming m names ManagedKind.checks "" todo roster }
        | .error _ => { s with operator := .idle }
      else s
    | _ => s
  | .get failure =>
    match s.operator with
    | .confirming m names (k :: checks) reason todo roster =>
      match confirmCheck (fun k _ => s.answer m k failure) names reason k with
      | .error _ => { s with operator := .walking todo roster }
      | .ok reason =>
        { s with
          operator :=
            if checks ≠ [] then .confirming m names checks reason todo roster
            else if reason ≠ "" then .walking todo roster
            else .syncing m todo roster }
    | _ => s
  | .getComposite failure =>
    match s.operator with
    | .syncing m todo roster =>
      match compositeSynced g.gatewayNamespace g.gatewayName (s.readComposite failure) with
      | .ok (true, _) => { s with operator := .releasing m todo roster }
      | _ => { s with operator := .walking todo roster }
    | _ => s
  | .deleteRecord w =>
    match s.operator with
    | .releasing m todo roster =>
      { (if w.takesEffect then s.setPending m none else s) with operator := .walking todo roster }
    | _ => s
  | .finish =>
    match s.operator with
    | .walking [] roster => { s with operator := .applying roster }
    | _ => s
  | .apply w bumps =>
    match s.operator with
    | .applying roster => s.write w (·.applied roster bumps) .idle
    | _ => s
  | .reapply =>
    match s.operator with
    | .idle => s.applied s.members true
    | _ => s
  | .abort => { s with operator := .idle }

/-- Crossplane moves. It reports once the resources are those of the spec it read. -/
def crossplaneStep (s : System) : CrossplaneStep → System
  | .start =>
    match s.crossplane with
    | none => { s with crossplane := some (s.members, s.generation) }
    | some _ => s
  | .compose m k =>
    match s.crossplane with
    | some (listed, _) => if m ∈ listed then { s with resources := (m, k) :: s.resources } else s
    | none => s
  | .remove m k =>
    match s.crossplane with
    | some (listed, _) =>
      if m ∉ listed then { s with resources := s.resources.filter (· ≠ (m, k)) } else s
    | none => s
  | .report =>
    match s.crossplane with
    | some (listed, generation) =>
      if (∀ m ∈ listed, ∀ k ∈ ManagedKind.checks, (m, k) ∈ s.resources) ∧
          ∀ r ∈ s.resources, r.1 ∈ listed then
        { s with synced := some generation, crossplane := none }
      else s
    | none => s
  | .giveUp unsynced =>
    match s.crossplane with
    | some _ => { s with synced := if unsynced then none else s.synced, crossplane := none }
    | none => s

def step (g : Gateway) (s : System) : Event → System
  | .operator o => s.operatorStep g o
  | .crossplane c => s.crossplaneStep c

end System

/-! ## What the operator's steps can do -/

/-- The member whose release is being confirmed. -/
def Pc.subject : Pc → Option String
  | .confirming m .. | .syncing m .. | .releasing m .. => some m
  | .idle | .allocating .. | .walking .. | .applying _ => none

/-- Both checks have passed for `m`. -/
def Pc.isReleasing : Pc → Bool
  | .releasing .. => true
  | _ => false

/-- The composite and its resources are the same. -/
structure SameCloud (s s' : System) : Prop where
  members : s'.members = s.members
  generation : s'.generation = s.generation
  synced : s'.synced = s.synced
  resources : s'.resources = s.resources
  crossplane : s'.crossplane = s.crossplane

/-- What an operator step can do to a state. -/
inductive Move (s : System) : OperatorStep → System → Prop
  /-- The operator is not, or no longer, confirming anything. -/
  | other {o : OperatorStep} {s' : System} (hcloud : SameCloud s s')
      (hkept : ∀ m, s.pending m ≠ none → s'.pending m ≠ none)
      (hpc : s'.operator.subject = none) : Move s o s'
  | stutter {o : OperatorStep} : Move s o s
  | confirm {m : String} {todo roster : List String} {pc : Pc}
      (hwalk : s.operator = .walking (m :: todo) roster) (hpending : s.pending m = some true)
      (hpc : pc.subject = some m) (hrel : pc.isReleasing = false) :
      Move s .confirm { s with operator := pc }
  | check {o : OperatorStep} {m : String} {pc : Pc} (hsub : s.operator.subject = some m)
      (hpc : pc.subject = some m) (hrel : pc.isReleasing = false) :
      Move s o { s with operator := pc }
  | clear {o : OperatorStep} {m : String} {todo roster todo' roster' : List String}
      (hsub : s.operator = .syncing m todo roster) (hsynced : s.synced = some s.generation) :
      Move s o { s with operator := .releasing m todo' roster' }
  | release {o : OperatorStep} {m : String} {todo roster todo' roster' : List String}
      (hsub : s.operator = .releasing m todo roster) :
      Move s o { s.setPending m none with operator := .walking todo' roster' }
  | apply {o : OperatorStep} {members : List String} :
      Move s o { s with members, generation := s.generation + 1, operator := .idle }

variable {s : System} {o : OperatorStep}

theorem compositeSynced_readComposite {ns name : String} {failure : Option String} {reason : String}
    (h : compositeSynced ns name (s.readComposite failure) = .ok (true, reason)) :
    s.synced = some s.generation := by
  cases failure with
  | some cause => cases h
  | none =>
    cases hs : s.synced with
    | none => simp [System.readComposite, hs, compositeSynced] at h
    | some n =>
      by_cases hn : (n : Int) = s.generation
      · rw [Int.natCast_inj] at hn
        rw [hn]
      · simp [System.readComposite, hs, compositeSynced, hn] at h

/-- The operator goes on to something else, and nothing is written. -/
theorem Move.goto {pc : Pc} (hpc : pc.subject = none) :
    Move s o { s with operator := pc } :=
  .other ⟨rfl, rfl, rfl, rfl, rfl⟩ (fun _ h => h) hpc

/-- A write of the walk that deletes no record. -/
theorem Move.write {w : WriteOutcome} {commit : System → System} {next : Pc}
    (hcloud : SameCloud s (commit s))
    (hkept : ∀ m, s.pending m ≠ none → (commit s).pending m ≠ none) (hnext : next.subject = none) :
    Move s o (s.write w commit next) := by
  cases w with
  | ok => exact .other ⟨hcloud.1, hcloud.2, hcloud.3, hcloud.4, hcloud.5⟩ hkept hnext
  | failed committed cause =>
    cases committed with
    | true => exact .other ⟨hcloud.1, hcloud.2, hcloud.3, hcloud.4, hcloud.5⟩ hkept rfl
    | false => exact .goto rfl

theorem setPending_some_kept {n : String} {p : Bool} (m : String) (h : s.pending m ≠ none) :
    (s.setPending n (some p)).pending m ≠ none := by
  unfold System.setPending
  by_cases hm : m = n
  · subst hm
    simp
  · simpa [hm] using h

theorem move_applied (roster : List String) (bumps : Bool) :
    Move s o { s.applied roster bumps with operator := .idle } := by
  unfold System.applied
  by_cases h : roster ≠ s.members ∨ bumps
  · simp only [h, if_true]
    exact .apply
  · simp only [h, if_false]
    rw [not_or, not_not] at h
    exact .other ⟨h.1, rfl, rfl, rfl, rfl⟩ (fun _ h => h) rfl

/-- **Every operator step is one of these moves.** -/
theorem move_operatorStep (g : Gateway) (s : System) (o : OperatorStep) :
    Move s o (s.operatorStep g o) := by
  cases o with
  | startPass candidates names | startWalk | finish =>
    rw [System.operatorStep]
    split
    · exact .goto rfl
    · exact .stutter
  | allocate w =>
    rw [System.operatorStep]
    split
    · refine .write ?_ ?_ rfl
      · split <;> exact ⟨rfl, rfl, rfl, rfl, rfl⟩
      · split
        · exact setPending_some_kept
        · exact fun _ h => h
    · exact .stutter
  | skip =>
    rw [System.operatorStep]
    split
    · split
      · exact .goto rfl
      · exact .stutter
    · exact .stutter
  | refresh w =>
    rw [System.operatorStep]
    split
    · split
      · exact .write ⟨rfl, rfl, rfl, rfl, rfl⟩ (fun _ h => h) rfl
      · exact .stutter
    · exact .stutter
  | markPending w | resume w =>
    rw [System.operatorStep]
    split
    · split
      · exact .write ⟨rfl, rfl, rfl, rfl, rfl⟩ setPending_some_kept rfl
      · exact .stutter
    · exact .stutter
  | confirm =>
    rw [System.operatorStep]
    split
    · rename_i m todo roster hpc
      split
      · rename_i hp
        split
        · exact .confirm hpc hp rfl rfl
        · exact .goto rfl
      · exact .stutter
    · exact .stutter
  | get failure =>
    rw [System.operatorStep]
    split
    · rename_i m names k checks reason todo roster hpc
      have hsub : s.operator.subject = some m := by rw [hpc]; rfl
      split
      · exact .goto rfl
      · split
        · exact .check hsub rfl rfl
        · split
          · exact .goto rfl
          · exact .check hsub rfl rfl
    · exact .stutter
  | getComposite failure =>
    rw [System.operatorStep]
    split
    · rename_i m todo roster hpc
      split
      · rename_i reason hread
        exact .clear hpc (compositeSynced_readComposite hread)
      · exact .goto rfl
    · exact .stutter
  | deleteRecord w =>
    rw [System.operatorStep]
    split
    · rename_i m todo roster hpc
      split
      · exact .release hpc
      · exact .goto rfl
    · exact .stutter
  | apply w bumps =>
    rw [System.operatorStep]
    split
    · cases w with
      | ok => exact move_applied _ bumps
      | failed committed cause =>
        cases committed with
        | true => exact move_applied _ bumps
        | false => exact .goto rfl
    · exact .stutter
  | reapply =>
    rw [System.operatorStep]
    split
    · rename_i hpc
      have h := move_applied (s := s) (o := .reapply) s.members true
      unfold System.applied at h ⊢
      rwa [← hpc] at h
    · exact .stutter
  | abort => exact .goto rfl

/-- Only the release of a record deletes one. -/
theorem Move.releasing_of_deleted {s' : System} (h : Move s o s') {m : String}
    (hrec : s.pending m ≠ none) (hgone : s'.pending m = none) :
    ∃ todo roster, s.operator = .releasing m todo roster := by
  cases h with
  | other _ hkept => exact absurd hgone (hkept m hrec)
  | stutter | confirm | check | clear | apply => exact absurd hgone hrec
  | @release _ n todo roster _ _ hsub =>
    by_cases hm : m = n
    · subst hm
      exact ⟨todo, roster, hsub⟩
    · refine absurd hgone ?_
      simpa [System.setPending, hm] using hrec

/-- Crossplane writes neither records nor specs. -/
theorem crossplaneStep_frame (s : System) (c : CrossplaneStep) :
    (s.crossplaneStep c).pending = s.pending ∧ (s.crossplaneStep c).members = s.members ∧
      (s.crossplaneStep c).operator = s.operator := by
  cases c <;> simp only [System.crossplaneStep] <;> split <;>
    first | exact ⟨rfl, rfl, rfl⟩ | (split <;> exact ⟨rfl, rfl, rfl⟩)

/-- A record is deleted only when its release has passed both checks. -/
theorem releasing_of_deleted {g : Gateway} {ev : Event} {m : String} (hrec : s.pending m ≠ none)
    (hgone : (s.step g ev).pending m = none) :
    s.operator.isReleasing ∧ s.operator.subject = some m := by
  cases ev with
  | operator o =>
    obtain ⟨todo, roster, hpc⟩ := (move_operatorStep g s o).releasing_of_deleted hrec hgone
    rw [hpc]
    exact ⟨rfl, rfl⟩
  | crossplane c =>
    rw [System.step, (crossplaneStep_frame s c).1] at hgone
    exact absurd hgone hrec

/-! ## What Synced means -/

/-- A true Synced condition at the current generation describes the current spec: only its members
have resources, and Crossplane is not at work on an older one. A member on its way to be released
that the spec does not list has none and gets none. -/
structure SyncInv (s : System) : Prop where
  synced_le : ∀ n, s.synced = some n → n ≤ s.generation
  working : ∀ listed n, s.crossplane = some (listed, n) →
    n ≤ s.generation ∧ (n = s.generation → listed = s.members) ∧ ∀ n', s.synced = some n' → n' ≤ n
  free : s.synced = some s.generation → ∀ r ∈ s.resources, r.1 ∈ s.members
  releasing : ∀ m, s.operator.isReleasing → s.operator.subject = some m → m ∉ s.members →
    (∀ k, (m, k) ∉ s.resources) ∧ ∀ listed n, s.crossplane = some (listed, n) → m ∉ listed

theorem SyncInv.initial : SyncInv System.initial :=
  ⟨fun _ h => (nomatch h), fun _ _ h => (nomatch h), fun h => (nomatch h), fun _ h => (nomatch h)⟩

/-- The composite did not change, and nothing new is up for release. -/
theorem SyncInv.of_sameCloud {s' : System} (h : SyncInv s) (hcloud : SameCloud s s')
    (hpc : s'.operator.isReleasing = false) : SyncInv s' := by
  refine ⟨?_, ?_, ?_, fun m hrel => absurd (hpc.symm.trans hrel) Bool.false_ne_true⟩
  · rw [hcloud.synced, hcloud.generation]
    exact h.synced_le
  · rw [hcloud.crossplane, hcloud.generation, hcloud.members, hcloud.synced]
    exact h.working
  · rw [hcloud.synced, hcloud.generation, hcloud.resources, hcloud.members]
    exact h.free

theorem Pc.isReleasing_of_subject {pc : Pc} (h : pc.subject = none) : pc.isReleasing = false := by
  cases pc <;> first | rfl | cases h

theorem SyncInv.move {s' : System} (h : SyncInv s) (hm : Move s o s') :
    SyncInv s' := by
  cases hm with
  | other hcloud _ hpc => exact h.of_sameCloud hcloud (Pc.isReleasing_of_subject hpc)
  | stutter => exact h
  | confirm _ _ _ hrel | check _ _ hrel => exact h.of_sameCloud ⟨rfl, rfl, rfl, rfl, rfl⟩ hrel
  | release => exact h.of_sameCloud ⟨rfl, rfl, rfl, rfl, rfl⟩ rfl
  | @clear _ m _ _ _ _ _ hsynced =>
    refine ⟨h.synced_le, h.working, h.free, fun m' _ hsub hnot => ?_⟩
    obtain rfl : m = m' := Option.some.inj hsub
    refine ⟨fun k hk => hnot (h.free hsynced _ hk), fun listed n hwork => ?_⟩
    -- Crossplane is at work on a generation at least as new as the one it reported
    obtain ⟨hle, hsame, hnew⟩ := h.working listed n hwork
    rw [hsame (le_antisymm hle (hnew _ hsynced))]
    exact hnot
  | apply =>
    refine ⟨fun n hn => ?_, fun listed n hwork => ?_, fun hn => ?_, fun _ hrel => nomatch hrel⟩
    · exact (h.synced_le n hn).trans (Nat.le_succ _)
    · obtain ⟨hle, -, hnew⟩ := h.working listed n hwork
      exact ⟨hle.trans (Nat.le_succ _), fun heq => absurd (heq ▸ hle)
        (Nat.not_succ_le_self _), hnew⟩
    · exact absurd (h.synced_le _ hn) (Nat.not_succ_le_self _)

theorem SyncInv.crossplaneStep (h : SyncInv s) (c : CrossplaneStep) :
    SyncInv (s.crossplaneStep c) := by
  cases c with
  | start =>
    rw [System.crossplaneStep]
    split
    · refine ⟨h.synced_le, fun listed n hwork => ?_, h.free, fun m hrel hsub hnot => ?_⟩
      · cases hwork
        exact ⟨le_refl _, fun _ => rfl, h.synced_le⟩
      · refine ⟨(h.releasing m hrel hsub hnot).1, fun listed n hwork => ?_⟩
        cases hwork
        exact hnot
    · exact h
  | compose m k =>
    rw [System.crossplaneStep]
    split
    · rename_i listed n hwork
      split
      · rename_i hmem
        refine ⟨h.synced_le, h.working, fun hsynced r hr => ?_, fun m' hrel hsub hnot => ?_⟩
        · rcases List.mem_cons.mp hr with rfl | hr
          · obtain ⟨hle, hsame, hnew⟩ := h.working listed n hwork
            rw [← hsame (le_antisymm hle (hnew _ hsynced))]
            exact hmem
          · exact h.free hsynced r hr
        · obtain ⟨hfree, hout⟩ := h.releasing m' hrel hsub hnot
          refine ⟨fun k' hk' => ?_, hout⟩
          rcases List.mem_cons.mp hk' with heq | hk'
          · cases heq
            exact hout listed n hwork hmem
          · exact hfree k' hk'
      · exact h
    · exact h
  | remove m k =>
    rw [System.crossplaneStep]
    split
    · split
      · refine ⟨h.synced_le, h.working, fun hsynced r hr => ?_, fun m' hrel hsub hnot => ?_⟩
        · exact h.free hsynced r (List.mem_of_mem_filter hr)
        · obtain ⟨hfree, hout⟩ := h.releasing m' hrel hsub hnot
          exact ⟨fun k' hk' => hfree k' (List.mem_of_mem_filter hk'), hout⟩
      · exact h
    · exact h
  | report =>
    rw [System.crossplaneStep]
    split
    · rename_i listed n hwork
      obtain ⟨hle, hsame, -⟩ := h.working listed n hwork
      split
      · rename_i hdone
        refine ⟨fun n' hn' => ?_, fun _ _ hwork' => (nomatch hwork'), fun hsynced r hr => ?_,
          fun m' hrel hsub hnot => ⟨(h.releasing m' hrel hsub hnot).1, fun _ _ hw => nomatch hw⟩⟩
        · cases hn'
          exact hle
        · rw [← hsame (Option.some.inj hsynced)]
          exact hdone.2 r hr
      · exact h
    · exact h
  | giveUp unsynced =>
    rw [System.crossplaneStep]
    split
    · have hsub : ∀ {n : Nat}, (if unsynced then none else s.synced) = some n → s.synced = some n :=
        fun hn => by
          split at hn
          · cases hn
          · exact hn
      exact ⟨fun n hn => h.synced_le n (hsub hn), fun _ _ hw => (nomatch hw),
        fun hn => h.free (hsub hn),
        fun m hrel hs hnot => ⟨(h.releasing m hrel hs hnot).1, fun _ _ hw => nomatch hw⟩⟩
    · exact h

/-- **Every step keeps it.** -/
theorem SyncInv.step (h : SyncInv s) (g : Gateway) (ev : Event) :
    SyncInv (s.step g ev) := by
  cases ev with
  | operator o => exact h.move (move_operatorStep g s o)
  | crossplane c => exact h.crossplaneStep c

/-- The state after a run. -/
def System.run (g : Gateway) (es : List Event) : System := replay (System.step g) .initial es

theorem syncInv_run (g : Gateway) (es : List Event) : SyncInv (System.run g es) := by
  induction es using List.reverseRecOn with
  | nil => exact .initial
  | append_singleton es ev ih =>
    rw [System.run, replay_append]
    exact ih.step g ev

/-- **In every run, a record deleted while the spec does not list its member** leaves no resource
behind. -/
theorem deleted_unlisted_free (g : Gateway) (es : List Event) (ev : Event) {m : String}
    (hrec : (System.run g es).pending m ≠ none)
    (hgone : ((System.run g es).step g ev).pending m = none)
    (hnot : m ∉ (System.run g es).members) : ∀ k, (m, k) ∉ (System.run g es).resources := by
  obtain ⟨hrel, hsub⟩ := releasing_of_deleted hrec hgone
  exact ((syncInv_run g es).releasing m hrel hsub hnot).1

/-! ## Starting a confirmation only when the spec has let go -/

/-- A step that starts the confirmation of a member finds it dropped from the spec. -/
def ConfirmsUnlisted (s : System) (ev : Event) : Prop :=
  match ev, s.operator with
  | .operator .confirm, .walking (m :: _) _ => s.pending m = some true → m ∉ s.members
  | _, _ => True

instance (s : System) (ev : Event) : Decidable (ConfirmsUnlisted s ev) := by
  unfold ConfirmsUnlisted
  split <;> infer_instance

/-- The member whose release is being confirmed is not in the spec. -/
def SubjectUnlisted (s : System) : Prop := ∀ m, s.operator.subject = some m → m ∉ s.members

theorem SubjectUnlisted.step (h : SubjectUnlisted s) {g : Gateway} {ev : Event}
    (hev : ConfirmsUnlisted s ev) : SubjectUnlisted (s.step g ev) := by
  cases ev with
  | operator o =>
    have hmove := move_operatorStep g s o
    rw [System.step]
    generalize s.operatorStep g o = s' at hmove
    intro m hsub
    cases hmove with
    | other _ _ hpc => exact absurd (hpc.symm.trans hsub) (by simp)
    | stutter => exact h m hsub
    | confirm hwalk hpending hpc =>
      obtain rfl := Option.some.inj (hpc.symm.trans hsub)
      simp only [ConfirmsUnlisted, hwalk] at hev
      exact hev hpending
    | check hs hpc =>
      obtain rfl := Option.some.inj (hpc.symm.trans hsub)
      exact h _ hs
    | clear hs =>
      obtain rfl := Option.some.inj hsub
      exact h _ (by rw [hs]; rfl)
    | release | apply => cases hsub
  | crossplane c =>
    obtain ⟨-, hmembers, hpc⟩ := crossplaneStep_frame s c
    intro m hsub
    rw [System.step, hmembers]
    rw [System.step, hpc] at hsub
    exact h m hsub

/-- **The order of a retirement.** In every interleaving of the operator with Crossplane, with any
failures, in which no confirmation is started while the composite still lists the member: at the
moment a record is deleted its member is not in the spec and none of its resources exists. -/
theorem retirement_order (g : Gateway) {es : List Event}
    (hes : Guarded (System.step g) ConfirmsUnlisted .initial es) :
    ∀ es₁ ev es₂ m, es = es₁ ++ ev :: es₂ → (System.run g es₁).pending m ≠ none →
      ((System.run g es₁).step g ev).pending m = none →
        m ∉ (System.run g es₁).members ∧ ∀ k, (m, k) ∉ (System.run g es₁).resources := by
  rintro es₁ ev es₂ m rfl hrec hgone
  have hsub : SubjectUnlisted (System.run g es₁) :=
    hes.left.invariant (I := SubjectUnlisted) (fun s ev h hev => h.step hev)
      (fun m hm => nomatch hm) (List.prefix_refl _)
  have hnot : m ∉ (System.run g es₁).members := hsub m (releasing_of_deleted hrec hgone).2
  exact ⟨hnot, deleted_unlisted_free g es₁ ev hrec hgone hnot⟩

/-- `a` is created and rendered, and marked pending in the next pass; `second` is how the apply of
that pass ends. The third pass then confirms that `a` has no resource. -/
def retiring (second : WriteOutcome) : List Event :=
  [.startPass ["a"] ["a"], .allocate .ok, .startWalk, .refresh .ok, .finish, .apply .ok false,
    .startPass [] ["a"], .startWalk, .markPending .ok, .finish, .apply second false,
    .startPass [] ["a"], .startWalk, .confirm, .get none, .get none, .get none].map .operator

/-- Crossplane reconciles the composite as it finds it. -/
def reconciles (members : List String) : List Event :=
  (CrossplaneStep.start :: members.flatMap (fun m =>
    ManagedKind.checks.map fun k => CrossplaneStep.compose m k) ++
    [CrossplaneStep.report]).map .crossplane

/-- The applied spec has dropped `a`, and the Synced read passes once Crossplane has caught up. -/
theorem retirement_order_applied :
    (System.run fleet (retiring .ok ++ reconciles [] ++
        [.operator (.getComposite none), .operator (.deleteRecord .ok)])).pending "a" = none ∧
      "a" ∉ (System.run fleet (retiring .ok ++ reconciles [] ++
        [.operator (.getComposite none)])).members := by
  have hes : Guarded (System.step fleet) ConfirmsUnlisted .initial
      ((retiring .ok ++ reconciles [] ++ [.operator (.getComposite none)]) ++
        .operator (.deleteRecord .ok) :: []) := by decide +kernel
  exact ⟨by decide +kernel, (retirement_order fleet hes _ _ _ "a" rfl (by decide +kernel)
    (by decide +kernel)).1⟩

/-- **A record is deleted while its member is in the spec and has all its resources.** The apply of
the second pass fails, so the spec still lists `a`; Crossplane, late, creates the resources of that
spec between the absence reads and the Synced read, and is synced at its generation. -/
theorem retiring_deletes_listed :
    let s := System.run fleet (retiring (.failed false "timeout") ++ reconciles ["a"] ++
      [.operator (.getComposite none)])
    s.pending "a" = some true ∧ (s.step fleet (.operator (.deleteRecord .ok))).pending "a" = none ∧
      s.members = ["a"] ∧ ∀ k ∈ ManagedKind.checks, ("a", k) ∈ s.resources := by
  decide +kernel

end WireguardGateway.Gcp

import WireguardGateway.Controller.Calls
import WireguardGateway.Lib.Objects
import Mathlib.Logic.Relation

/-!
# `ensureLinkID`: the link ids of Local Gateways

Every Local Gateway gets an id of its own in `1..250`, from which the node-global names of its link
derive. The id is kept in the status; an annotation repeats it, so that it survives a restore that
keeps the metadata only. Both reserve the id against other Gateways, and anybody may edit the
annotation.

A pass works on a copy of the Gateway from the cache, which may be stale, and the API server is
shared: between any two calls of a pass users create, delete and edit Gateways (`UserEvent`). Each
pass is one step with the events that came between its calls in its environment. Status updates name
the version they were made from, so a stale one conflicts and is retried.

Results:
* `linkIDHolders_isSome`, `chooseLinkID_claimed`, `chooseLinkID_none`: the pure choice of an id;
* `Move`, `ensureLinkID_moves`: everything a pass or a user can do to the stored Gateways;
* **`link_ids_sound`**: over every run, ids are unique, in range and final, an id that is claimed by
  the annotation and not held elsewhere is the one assigned, and exhaustion is reported exactly when
  every id is held.
-/

namespace WireguardGateway.Controller

open Lib Gcp Prog

/-! ## Gateways -/

/-- The parts of a Gateway that concern its link id: `linkID` is `status.link.id`, `0` when unset,
and `claim` the text of the link-id annotation. -/
structure LinkedGateway where
  uid : Nat
  isLocal : Bool
  linkID : Int
  claim : Option String
  deriving DecidableEq, Repr

/-- `link.MaxLinkID`. -/
def maxLinkID : Int := 250

/-- `parseLinkID`. -/
def parseLinkID (raw : String) : Option Int :=
  (signed? (trimSpace raw)).filter fun id => 1 ≤ id ∧ id ≤ maxLinkID

/-- The ids a Gateway reserves: the one in its status and the one its annotation names. -/
def LinkedGateway.Reserves (g : LinkedGateway) (id : Int) : Prop :=
  (0 < g.linkID ∧ g.linkID = id) ∨ g.claim.bind parseLinkID = some id

instance (g : LinkedGateway) (id : Int) : Decidable (g.Reserves id) :=
  inferInstanceAs (Decidable (_ ∨ _))

/-- One iteration of the loop of `linkIDHolders`. -/
def addHolder (self_ : String) (holders : GoMap Int String) (g : String × LinkedGateway) :
    GoMap Int String :=
  if g.1 = self_ then holders
  else
    let holders := if 0 < g.2.linkID then holders.insert g.2.linkID g.1 else holders
    match g.2.claim.bind parseLinkID with
    | some id => holders.insert id g.1
    | none => holders

/-- `linkIDHolders`. -/
def linkIDHolders (gateways : List (String × LinkedGateway)) (self_ : String) : GoMap Int String :=
  gateways.foldl (addHolder self_) ∅

/-- Another Gateway of the list reserves the id. -/
def HeldByOther (gateways : List (String × LinkedGateway)) (self_ : String) (id : Int) : Prop :=
  ∃ g ∈ gateways, g.1 ≠ self_ ∧ g.2.Reserves id

instance (gateways : List (String × LinkedGateway)) (self_ : String) (id : Int) :
    Decidable (HeldByOther gateways self_ id) := inferInstanceAs (Decidable (∃ _ ∈ _, _))

theorem addHolder_isSome {self_ : String} {holders : GoMap Int String} {g : String × LinkedGateway}
    {id : Int} : ((addHolder self_ holders g).lookup id).isSome ↔
      (holders.lookup id).isSome ∨ (g.1 ≠ self_ ∧ g.2.Reserves id) := by
  have hinsert : ∀ (m : GoMap Int String) (a : Int) (v : String),
      ((m.insert a v).lookup id).isSome ↔ (m.lookup id).isSome ∨ a = id := fun m a v => by
    by_cases ha : id = a
    · subst ha; simp
    · rw [AList.lookup_insert_ne ha]; simp [Ne.symm ha]
  unfold addHolder LinkedGateway.Reserves
  split
  · rename_i h; simp [h]
  · rename_i hself
    cases hclaim : g.2.claim.bind parseLinkID with
    | none => split <;> rename_i hpos <;> simp [hinsert, hpos, hself]
    | some a => split <;> rename_i hpos <;> simp [hinsert, hpos, hself, or_assoc]

theorem linkIDHolders_isSome (gateways : List (String × LinkedGateway)) (self_ : String)
    (id : Int) :
    ((linkIDHolders gateways self_).lookup id).isSome ↔ HeldByOther gateways self_ id := by
  have hloop : ∀ (l : List (String × LinkedGateway)) (holders : GoMap Int String),
      ((l.foldl (addHolder self_) holders).lookup id).isSome ↔
        (holders.lookup id).isSome ∨ HeldByOther l self_ id := by
    intro l
    induction l with
    | nil => intro holders; simp [HeldByOther]
    | cons g l ih =>
      intro holders
      rw [List.foldl_cons, ih, addHolder_isSome]
      simp only [HeldByOther, List.mem_cons, exists_eq_or_imp, or_assoc]
  simpa [linkIDHolders] using hloop gateways ∅

/-- `adoptableLinkID`. -/
def adoptableLinkID (copy : LinkedGateway) (gateways : List (String × LinkedGateway))
    (self_ : String) : Option Int :=
  (copy.claim.bind parseLinkID).filter fun id => ((linkIDHolders gateways self_).lookup id).isNone

/-- The ids, in ascending order. -/
def linkIDs : List Int := (List.range 250).map fun n : Nat => (n : Int) + 1

/-- `lowestFreeLinkID`. -/
def lowestFreeLinkID (gateways : List (String × LinkedGateway)) (self_ : String) : Option Int :=
  linkIDs.find? fun id => ((linkIDHolders gateways self_).lookup id).isNone

/-- The id a pass allocates, `none` for `errNoFreeLinkID`. -/
def chooseLinkID (copy : LinkedGateway) (gateways : List (String × LinkedGateway))
    (self_ : String) : Option Int :=
  (adoptableLinkID copy gateways self_).or (lowestFreeLinkID gateways self_)

section

variable {copy : LinkedGateway} {gateways : List (String × LinkedGateway)} {self_ : String}
  {id : Int}

theorem mem_linkIDs : id ∈ linkIDs ↔ 1 ≤ id ∧ id ≤ maxLinkID := by
  simp only [linkIDs, maxLinkID, List.mem_map, List.mem_range]
  constructor
  · rintro ⟨n, hn, rfl⟩
    omega
  · intro h
    exact ⟨(id - 1).toNat, by omega, by omega⟩

theorem free_iff : ((linkIDHolders gateways self_).lookup id).isNone ↔
    ¬ HeldByOther gateways self_ id := by
  rw [← linkIDHolders_isSome]
  cases (linkIDHolders gateways self_).lookup id <;> simp

theorem parseLinkID_range {raw : String} (h : parseLinkID raw = some id) :
    1 ≤ id ∧ id ≤ maxLinkID := by
  unfold parseLinkID at h
  simpa using (Option.filter_eq_some_iff.mp h).2

/-- An allocated id is in range and free. -/
theorem chooseLinkID_free (h : chooseLinkID copy gateways self_ = some id) :
    (1 ≤ id ∧ id ≤ maxLinkID) ∧ ¬ HeldByOther gateways self_ id := by
  rw [chooseLinkID, Option.or_eq_some_iff] at h
  obtain h | ⟨-, h⟩ := h
  · obtain ⟨hclaim, hfree⟩ := Option.filter_eq_some_iff.mp h
    obtain ⟨raw, -, hraw⟩ := Option.bind_eq_some_iff.mp hclaim
    exact ⟨parseLinkID_range hraw, free_iff.mp hfree⟩
  · have hfree := List.find?_some h
    exact ⟨mem_linkIDs.mp (List.mem_of_find?_eq_some h), free_iff.mp hfree⟩

/-- The id the annotation names is allocated if nobody else reserves it. -/
theorem chooseLinkID_claimed (hclaim : copy.claim.bind parseLinkID = some id)
    (hfree : ¬ HeldByOther gateways self_ id) : chooseLinkID copy gateways self_ = some id := by
  have hadopt : adoptableLinkID copy gateways self_ = some id :=
    Option.filter_eq_some_iff.mpr ⟨hclaim, free_iff.mpr hfree⟩
  rw [chooseLinkID, hadopt, Option.some_or]

/-- No id is allocated exactly when the others reserve all of them. -/
theorem chooseLinkID_none : chooseLinkID copy gateways self_ = none ↔
    ∀ id, 1 ≤ id → id ≤ maxLinkID → HeldByOther gateways self_ id := by
  rw [chooseLinkID, Option.or_eq_none_iff, lowestFreeLinkID, List.find?_eq_none]
  simp only [free_iff, not_not, mem_linkIDs]
  constructor
  · rintro ⟨-, h⟩ id hlow hhigh
    exact h id ⟨hlow, hhigh⟩
  · intro h
    refine ⟨Option.filter_eq_none_iff.mpr fun id hid => ?_, fun id hid => h id hid.1 hid.2⟩
    obtain ⟨raw, -, hraw⟩ := Option.bind_eq_some_iff.mp hid
    obtain ⟨hlow, hhigh⟩ := parseLinkID_range hraw
    rw [free_iff, not_not]
    exact h id hlow hhigh

end

/-! ## The API server -/

/-- The Gateways the API server stores. -/
abbrev Registry := Objects LinkedGateway

/-- What `APIReader.List` returns. -/
def Registry.listing (s : Registry) : List (String × LinkedGateway) :=
  s.current.entries.map fun e => (e.1, e.2.value)

/-- What users do: create a Gateway (a restore among them: with an annotation, never with a status),
delete one, edit its annotation, or edit something else of it. -/
inductive UserEvent where
  | create (key : String) (isLocal : Bool) (claim : Option String)
  | delete (key : String)
  | annotate (key : String) (claim : Option String)
  | touch (key : String)
  deriving DecidableEq, Repr

def UserEvent.apply (s : Registry) : UserEvent → Registry
  | .create key isLocal claim =>
    match s.get key with
    | some _ => s
    | none => s.store key { uid := s.last + 1, isLocal, linkID := 0, claim }
  | .delete key => s.erase key
  | .annotate key claim =>
    match s.get key with
    | some g => s.store key { g.value with claim }
    | none => s
  | .touch key =>
    match s.get key with
    | some g => s.store key g.value
    | none => s

/-- `errNoFreeLinkID`, or the failure of a call. -/
inductive LinkIDError where
  | noFreeLinkID
  | api (cause : String)
  deriving DecidableEq, Repr

/-- Users act between two calls. -/
def interleave {ε : Type} (events : List UserEvent) : Prog Registry ε Unit := fun s =>
  (.ok (), events.foldl UserEvent.apply s)

/-- `APIReader.Get`. -/
def getGateway (key what : String) (fault : Fault) :
    Prog Registry String (Versioned LinkedGateway) := do
  match ← serve fault what fun s : Registry => s.get key with
  | none => fail (what ++ ": not found")
  | some g => pure g

/-- An update made from `base`, which changes the stored Gateway by `f`: `false` is a conflict. -/
def updateGateway (key what : String) (base : Versioned LinkedGateway) (outcome : WriteOutcome)
    (f : LinkedGateway → LinkedGateway) : Prog Registry String Bool := do
  match ← serve none what fun s : Registry => s.get key with
  | none => fail (what ++ ": not found")
  | some g =>
    if g.version = base.version then do
      write outcome what fun s : Registry => s.store key (f g.value)
      pure true
    else pure false

/-- One attempt under `RetryOnConflict`: the answers to its `Get` and its update, and what users did
before each. -/
structure Attempt where
  beforeGet : List UserEvent
  get : Fault
  beforeUpdate : List UserEvent
  update : WriteOutcome

/-- An attempt: get the Gateway afresh, and update it by `f` unless `done` already gives the result;
`none` is a conflict. -/
def attemptUpdate {α : Type} (key what : String)
    (done : LinkedGateway → Option α) (f : LinkedGateway → LinkedGateway) (result : α)
    (a : Attempt) : Prog Registry String (Option α) := do
  interleave a.beforeGet
  let fresh ← getGateway key ("get gateway for " ++ what) a.get
  match done fresh.value with
  | some r => pure (some r)
  | none => do
    interleave a.beforeUpdate
    let accepted ← updateGateway key ("update gateway " ++ what) fresh a.update f
    pure (if accepted then some result else none)

/-- `retry.RetryOnConflict` over the attempts the environment grants. -/
def retryOnConflict {α : Type} (attempt : Attempt → Prog Registry String (Option α)) :
    List Attempt → Prog Registry String α
  | [] => fail "conflict"
  | a :: rest => do
    match ← attempt a with
    | some r => pure r
    | none => retryOnConflict attempt rest

/-! ## The pass -/

/-- `persistLinkIDAnnotation`. -/
def persistLinkIDAnnotation (key : String) (copy : LinkedGateway) (id : Int)
    (attempts : List Attempt) : Prog Registry String Unit :=
  let want := toString id
  if copy.claim = some want then pure ()
  else retryOnConflict (attemptUpdate key "link id annotation update"
    (fun fresh => if fresh.claim = some want then some () else none)
    (fun g => { g with claim := some want }) ()) attempts

/-- The update of the status in `ensureLinkID`: a status that has an id keeps it. -/
def recordLinkID (key : String) (id : Int) (attempts : List Attempt) :
    Prog Registry String Int :=
  retryOnConflict (attemptUpdate key "link id update"
    (fun fresh => if 0 < fresh.linkID then some fresh.linkID else none)
    (fun g => { g with linkID := id }) id) attempts

/-- The answers one call of `ensureLinkID` gets, with what users did before `List`. -/
structure LinkIDEnv where
  beforeList : List UserEvent
  list : Fault
  record : List Attempt
  persist : List Attempt

/-- The Gateways that the call of `List` would return. -/
def LinkIDEnv.listed (e : LinkIDEnv) (s : Registry) : List (String × LinkedGateway) :=
  Registry.listing (e.beforeList.foldl UserEvent.apply s)

/-- `APIReader.List`. -/
def listGateways (fault : Fault) : Prog Registry LinkIDError (List (String × LinkedGateway)) :=
  mapErr .api (serve fault "list gateways for link id allocation" Registry.listing)

/-- `ensureLinkID` from the list on: choose an id, record it in the status and in the annotation. -/
def allocateLinkID (key : String) (copy : LinkedGateway) (e : LinkIDEnv)
    (gateways : List (String × LinkedGateway)) : Prog Registry LinkIDError Unit :=
  match chooseLinkID copy gateways key with
  | none => fail .noFreeLinkID
  | some id => mapErr .api do
    let id ← recordLinkID key id e.record
    persistLinkIDAnnotation key copy id e.persist

/-- `ensureLinkID` on the copy of the Gateway the pass has read. -/
def ensureLinkID (key : String) (copy : LinkedGateway) (e : LinkIDEnv) :
    Prog Registry LinkIDError Unit :=
  if !copy.isLocal then pure ()
  else if 0 < copy.linkID then
    mapErr .api <| persistLinkIDAnnotation key copy copy.linkID e.persist
  else do
    interleave e.beforeList
    let gateways ← listGateways e.list
    allocateLinkID key copy e gateways

/-- The status update of `mirrorStatusWithForwards` and of `recordFailure`: the whole status is
written back from the Gateway just read; `unchanged` is whether it is left at that. -/
def mirrorStatus (key : String) (unchanged : Bool) (attempts : List Attempt) :
    Prog Registry String Unit :=
  retryOnConflict (fun a => do
    interleave a.beforeGet
    let fresh ← getGateway key "get gateway for status update" a.get
    if unchanged then pure (some ())
    else do
      interleave a.beforeUpdate
      let accepted ← updateGateway key "update gateway status" fresh a.update fun g =>
        { g with linkID := fresh.value.linkID }
      pure (if accepted then some () else none)) attempts

/-- The status update of `reconcileDelete`, from the copy in the cache. -/
def terminatingStatus (key : String) (copy : Versioned LinkedGateway) (outcome : WriteOutcome) :
    Prog Registry String Bool :=
  updateGateway key "update gateway status" copy outcome fun g =>
    { g with linkID := copy.value.linkID }

/-- A step: users act, or the operator runs a part of a pass; the operator runs one at a time. The
copy a pass works on is any value that was ever stored under the name. -/
inductive RegistryStep where
  | user (event : UserEvent)
  | ensure (key : String) (copy : Versioned LinkedGateway) (e : LinkIDEnv)
  | mirror (key : String) (unchanged : Bool) (attempts : List Attempt)
  | terminating (key : String) (copy : Versioned LinkedGateway) (outcome : WriteOutcome)

namespace RegistryStep

def next (s : Registry) : RegistryStep → Registry
  | .user event => event.apply s
  | .ensure key copy e => (ensureLinkID key copy.value e s).2
  | .mirror key unchanged attempts => (mirrorStatus key unchanged attempts s).2
  | .terminating key copy outcome => (terminatingStatus key copy outcome s).2

/-- The copy comes from the cache. -/
def Enabled (s : Registry) : RegistryStep → Prop
  | .ensure key copy _ | .terminating key copy _ => (key, copy) ∈ s.history
  | .user _ | .mirror _ _ _ => True

end RegistryStep

/-! ## What can happen to the stored Gateways -/

/-- No other Gateway has the id in its status. -/
def FreeOf (key : String) (id : Int) (s : Registry) : Prop :=
  ∀ k g, k ≠ key → s.get k = some g → g.value.linkID ≠ id

/-- A change that leaves the ids alone: a new Gateway has none. -/
inductive Quiet (s : Registry) : Registry → Prop
  | created (key : String) (g : LinkedGateway) (absent : s.get key = none)
      (uid : g.uid = s.last + 1) (unset : g.linkID = 0) : Quiet s (s.store key g)
  | deleted (key : String) : Quiet s (s.erase key)
  | edited (key : String) (old : Versioned LinkedGateway) (g : LinkedGateway)
      (present : s.get key = some old) (uid : g.uid = old.value.uid)
      (same : g.linkID = old.value.linkID) : Quiet s (s.store key g)

/-- Any change: a quiet one, or an id that is free, for a Gateway that has none. -/
inductive Move (s : Registry) : Registry → Prop
  | quiet {s' : Registry} (h : Quiet s s') : Move s s'
  | assigned (key : String) (old : Versioned LinkedGateway) (id : Int)
      (present : s.get key = some old) (unset : old.value.linkID = 0)
      (range : 1 ≤ id ∧ id ≤ maxLinkID) (free : FreeOf key id s) :
      Move s (s.store key { old.value with linkID := id })

/-- What holds of the stored Gateways in every run: ids are in range and unique, and uids are not
given out twice. -/
structure Registered (s : Registry) : Prop where
  sound : s.Sound
  born : ∀ k g, s.get k = some g → g.value.uid ≤ s.last
  range : ∀ k g, s.get k = some g → g.value.linkID ≠ 0 →
    1 ≤ g.value.linkID ∧ g.value.linkID ≤ maxLinkID
  unique : ∀ k g k' g', s.get k = some g → s.get k' = some g' → g.value.linkID ≠ 0 →
    g.value.linkID = g'.value.linkID → k = k'

section

variable {s s' : Registry} {key : String} {g : LinkedGateway}

/-- Storing a Gateway whose id is unset or free. -/
theorem Registered.store (h : Registered s) (huid : g.uid ≤ s.last + 1)
    (hid : g.linkID ≠ 0 → (1 ≤ g.linkID ∧ g.linkID ≤ maxLinkID) ∧ FreeOf key g.linkID s) :
    Registered (s.store key g) where
  sound := h.sound.store key g
  born k v hv := by
    obtain ⟨-, rfl⟩ | ⟨-, hv⟩ := Objects.get_store_cases hv
    · exact huid
    · exact Nat.le_succ_of_le (h.born k v hv)
  range k v hv := by
    obtain ⟨-, rfl⟩ | ⟨-, hv⟩ := Objects.get_store_cases hv
    · exact fun hne => (hid hne).1
    · exact h.range k v hv
  unique k v k' v' hv hv' hne heq := by
    obtain ⟨rfl, rfl⟩ | ⟨hk, hold⟩ := Objects.get_store_cases hv
    · obtain ⟨rfl, -⟩ | ⟨hk', hold'⟩ := Objects.get_store_cases hv'
      · rfl
      · exact absurd heq.symm ((hid hne).2 k' v' hk' hold')
    · obtain ⟨rfl, rfl⟩ | ⟨-, hold'⟩ := Objects.get_store_cases hv'
      · exact absurd heq ((hid (heq ▸ hne)).2 k v hk hold)
      · exact h.unique k v k' v' hold hold' hne heq

theorem Registered.quiet (h : Registered s) (hq : Quiet s s') : Registered s' := by
  cases hq with
  | created key g absent uid unset => exact h.store uid.le fun hne => absurd unset hne
  | deleted key =>
    exact ⟨h.sound.erase key, fun k v hv => h.born k v (Objects.get_of_get_erase hv).2,
      fun k v hv => h.range k v (Objects.get_of_get_erase hv).2,
      fun k v k' v' hv hv' => h.unique k v k' v' (Objects.get_of_get_erase hv).2
        (Objects.get_of_get_erase hv').2⟩
  | edited key old g present uid same =>
    refine h.store (uid ▸ Nat.le_succ_of_le (h.born key old present)) fun hne => ?_
    rw [same] at hne ⊢
    refine ⟨h.range key old present hne, fun k v hk hv heq => ?_⟩
    exact hk (h.unique key old k v present hv hne heq.symm).symm

theorem Registered.move (h : Registered s) (hm : Move s s') : Registered s' := by
  cases hm with
  | quiet hq => exact h.quiet hq
  | assigned key old id present unset range free =>
    exact h.store (Nat.le_succ_of_le (h.born key old present)) fun _ => ⟨range, free⟩

variable {id : Int}

theorem FreeOf.quiet (h : FreeOf key id s) (hid : id ≠ 0) (hq : Quiet s s') :
    FreeOf key id s' := by
  intro k v hk hv
  cases hq with
  | created key' g absent uid unset =>
    obtain ⟨-, rfl⟩ | ⟨-, hv⟩ := Objects.get_store_cases hv
    · exact unset ▸ hid.symm
    · exact h k v hk hv
  | deleted key' => exact h k v hk (Objects.get_of_get_erase hv).2
  | edited key' old g present uid same =>
    obtain ⟨rfl, rfl⟩ | ⟨-, hv⟩ := Objects.get_store_cases hv
    · exact same ▸ h k old hk present
    · exact h k v hk hv

/-- The Gateway `uid`, if it is still the one stored under the name, has the id. -/
def HasID (key : String) (uid : Nat) (id : Int) (s : Registry) : Prop :=
  uid ≤ s.last ∧ ∀ g, s.get key = some g → g.value.uid = uid → g.value.linkID = id

theorem HasID.store {uid : Nat} {k : String} (h : HasID key uid id s)
    (hg : k = key → g.uid = uid → g.linkID = id) : HasID key uid id (s.store k g) := by
  refine ⟨Nat.le_succ_of_le h.1, fun v hv huid => ?_⟩
  obtain ⟨rfl, rfl⟩ | ⟨-, hv⟩ := Objects.get_store_cases hv
  · exact hg rfl huid
  · exact h.2 v hv huid

/-- Nothing quiet changes the id of a Gateway. -/
theorem HasID.quiet {uid : Nat} (h : HasID key uid id s) (hq : Quiet s s') :
    HasID key uid id s' := by
  cases hq with
  | created k g absent huid unset =>
    refine h.store fun _ heq => ?_
    have := h.1
    omega
  | deleted k => exact ⟨h.1, fun v hv => h.2 v (Objects.get_of_get_erase hv).2⟩
  | edited k old g present huid same =>
    refine h.store fun hk heq => ?_
    subst hk
    rw [same]
    exact h.2 old present (huid ▸ heq)

/-- An id that is set is final. -/
theorem HasID.move {uid : Nat} (h : HasID key uid id s) (hid : id ≠ 0) (hm : Move s s') :
    HasID key uid id s' := by
  cases hm with
  | quiet hq => exact h.quiet hq
  | assigned k old id' present unset range free =>
    refine h.store fun hk heq => ?_
    subst hk
    exact absurd ((h.2 old present heq).symm.trans unset) hid

end

/-! ## What a pass does -/

/-- `s'` is reached from `s` by moves. -/
abbrev Moves : Registry → Registry → Prop := Relation.ReflTransGen Move

/-- `s'` is reached from `s` by quiet changes. -/
abbrev Quietly : Registry → Registry → Prop := Relation.ReflTransGen Quiet

section

variable {s s' : Registry} {key : String} {P : Registry → Prop}

theorem Registered.moves (h : Registered s) (hm : Moves s s') : Registered s' := by
  induction hm with
  | refl => exact h
  | tail _ hstep ih => exact ih.move hstep

theorem UserEvent.apply_quietly (s : Registry) (event : UserEvent) : Quietly s (event.apply s) := by
  unfold apply
  split
  · split
    · exact .refl
    · rename_i habsent
      exact .single (.created _ _ habsent rfl rfl)
  · exact .single (.deleted _)
  · split
    · rename_i g hg
      exact .single (.edited _ g _ hg rfl rfl)
    · exact .refl
  · split
    · rename_i g hg
      exact .single (.edited _ g _ hg rfl rfl)
    · exact .refl

/-- A property that quiet changes keep. -/
def KeptQuietly (P : Registry → Prop) : Prop := ∀ s s', Quiet s s' → P s → P s'

theorem KeptQuietly.run (hP : KeptQuietly P) (hq : Quietly s s') (h : P s) : P s' := by
  induction hq with
  | refl => exact h
  | tail _ hstep ih => exact hP _ _ hstep ih

theorem KeptQuietly.events (hP : KeptQuietly P) :
    ∀ (events : List UserEvent) {s : Registry}, P s → P (events.foldl UserEvent.apply s)
  | [], _, h => h
  | event :: events, s, h => hP.events events (hP.run (event.apply_quietly s) h)

theorem interleave_spec {ε : Type} (hP : KeptQuietly P) (events : List UserEvent) :
    Keeps P (interleave events : Prog Registry ε Unit) :=
  fun _ hs => ⟨fun _ _ h => (Prod.mk.inj h).2 ▸ hP.events events hs, fun _ _ h => nomatch h⟩

variable {what : String} {f : LinkedGateway → LinkedGateway} {E : Registry → Prop} {α : Type}
  {s₀ : Registry} {id : Int} {copy : LinkedGateway} {e : LinkIDEnv} {R : α → Registry → Prop}

theorem getGateway_spec {fault : Fault} :
    Spec P (getGateway key what fault) (fun g s => P s ∧ s.get key = some g) P := by
  refine serve_spec.bind fun found => ?_
  cases found with
  | none => exact Spec.fail fun _ h => h.1
  | some g => exact Spec.pure fun s h => ⟨h.1, h.2.symm⟩

/-- An update is refused, or it changes the very value it was made from. -/
theorem updateGateway_spec {base : Versioned LinkedGateway} {outcome : WriteOutcome}
    {Q : Registry → Prop} (hbase : ∀ s, P s → s.Sound ∧ (key, base) ∈ s.history)
    (hf : ∀ s, P s → s.get key = some base → Q (s.store key (f base.value))) :
    Spec P (updateGateway key what base outcome f)
      (fun accepted s => if accepted then Q s else P s) (fun s => P s ∨ Q s) := by
  refine (serve_spec.orElse fun _ => .inl).bind fun found => ?_
  cases found with
  | none => exact Spec.fail fun _ h => .inl h.1
  | some g =>
    dsimp only
    split_ifs with hversion
    · refine Spec.bind (Q := fun _ => Q) ?_ fun _ => Spec.pure fun _ h => h
      refine (write_spec (Q := Q) fun s h => ?_).weaken (fun _ h => h) (fun _ _ h => h)
        fun _ h => h.imp_left And.left
      obtain ⟨hsound, hmem⟩ := hbase s h.1
      obtain rfl := hsound.coherent key base g hmem h.2.symm hversion
      exact hf s h.1 h.2.symm
    · exact Spec.pure fun _ h => h.1

theorem Quiet.history {x : String × Versioned LinkedGateway} (hq : Quiet s s')
    (hx : x ∈ s.history) : x ∈ s'.history := by
  cases hq with
  | created | edited => exact List.mem_cons_of_mem _ hx
  | deleted => exact hx

/-- What an attempt needs of `P`: users do not take it away, and versions identify values. -/
structure Stable (P : Registry → Prop) : Prop where
  kept : KeptQuietly P
  sound : ∀ s, P s → s.Sound

/-- A get and an update made from what it returned, with users in between. -/
theorem getUpdate_spec (hP : Stable P) (hE : ∀ s, P s → E s) {a : Attempt}
    {m : Versioned LinkedGateway → Prog Registry String α}
    (hm : ∀ fresh, Spec (fun s => P s ∧ s.get key = some fresh) (m fresh) R E) :
    Spec P (do interleave a.beforeGet; let fresh ← getGateway key what a.get; m fresh) R E := by
  refine ((interleave_spec hP.kept a.beforeGet).orElse hE).bind fun _ => ?_
  exact (getGateway_spec.orElse hE).bind fun fresh => hm fresh

/-- The update of an attempt, in which a conflict leaves `P`. -/
theorem updateFresh_spec (hP : Stable P) (hE : ∀ s, P s → E s) {fresh : Versioned LinkedGateway}
    {events : List UserEvent} {outcome : WriteOutcome} {result : α} (hRE : ∀ s, R result s → E s)
    (hf : ∀ s, P s → s.get key = some fresh → R result (s.store key (f fresh.value))) :
    Spec (fun s => P s ∧ s.get key = some fresh)
      (do interleave events
          let accepted ← updateGateway key what fresh outcome f
          pure (if accepted then some result else none))
      (fun o s => match o with | some r => R r s | none => P s) E := by
  have hkept : KeptQuietly fun s => P s ∧ (key, fresh) ∈ s.history := fun s s' hq h =>
    ⟨hP.kept s s' hq h.1, hq.history h.2⟩
  refine Spec.bind (Q := fun _ s => P s ∧ (key, fresh) ∈ s.history) ?_ fun _ => ?_
  · refine (interleave_spec hkept events).weaken (fun s h => ?_) (fun _ _ h => h)
      fun s h => hE s h.1
    exact ⟨h.1, (hP.sound s h.1).stored key fresh h.2⟩
  · refine ((updateGateway_spec (Q := R result) (fun s h => ⟨hP.sound s h.1, h.2⟩)
      fun s h hg => hf s h.1 hg).orElse ?_).bind fun accepted => ?_
    · rintro s (h | h)
      · exact hE s h.1
      · exact hRE s h
    · cases accepted with
      | true => exact Spec.pure fun s h => h
      | false => exact Spec.pure fun s h => h.1

theorem attemptUpdate_spec (hP : Stable P) (hE : ∀ s, P s → E s) {done : LinkedGateway → Option α}
    {result : α} (hRE : ∀ s, R result s → E s)
    (hdone : ∀ s g r, P s → s.get key = some g → done g.value = some r → R r s)
    (hf : ∀ s g, P s → s.get key = some g → done g.value = none →
      R result (s.store key (f g.value))) (a : Attempt) :
    Spec P (attemptUpdate key what done f result a)
      (fun o s => match o with | some r => R r s | none => P s) E := by
  refine getUpdate_spec hP hE fun fresh => ?_
  cases hd : done fresh.value with
  | some r => exact Spec.pure fun s h => hdone s fresh r h.1 h.2 hd
  | none => exact updateFresh_spec hP hE hRE fun s h hg => hf s fresh h hg hd

theorem retryOnConflict_spec (hE : ∀ s, P s → E s)
    {attempt : Attempt → Prog Registry String (Option α)}
    (hattempt : ∀ a, Spec P (attempt a)
      (fun o s => match o with | some r => R r s | none => P s) E) :
    ∀ attempts, Spec P (retryOnConflict attempt attempts) R E
  | [] => Spec.fail hE
  | a :: rest => by
    refine (hattempt a).bind fun o => ?_
    cases o with
    | some r => exact Spec.pure fun _ h => h
    | none => exact retryOnConflict_spec hE hattempt rest

/-- Recording the annotation changes no id. -/
theorem persistLinkIDAnnotation_spec (hP : Stable P) (copy : LinkedGateway) (id : Int)
    (attempts : List Attempt) :
    Keeps P (fun s => persistLinkIDAnnotation key copy id attempts s) := by
  unfold persistLinkIDAnnotation
  split
  · exact Spec.pure fun _ h => h
  · refine retryOnConflict_spec (fun _ h => h) (attemptUpdate_spec hP (fun _ h => h) (fun _ h => h)
      (fun _ _ _ h _ _ => h) fun s g h hg _ => ?_) attempts
    exact hP.kept s _ (.edited key g _ hg rfl rfl) h

/-- Writing a status back changes no id. -/
theorem mirrorStatus_spec (hP : Stable P) (unchanged : Bool) (attempts : List Attempt) :
    Keeps P (mirrorStatus key unchanged attempts) := by
  refine retryOnConflict_spec (fun _ h => h) (fun a => getUpdate_spec hP (fun _ h => h)
    fun fresh => ?_) attempts
  split
  · exact Spec.pure fun _ h => h.1
  · exact updateFresh_spec hP (fun _ h => h) (fun _ h => h) fun s h hg =>
      hP.kept s _ (.edited key fresh _ hg rfl rfl) h

/-- What is reached from a registered state by moves. -/
theorem stable_moves (h₀ : Registered s₀) : Stable (Moves s₀) where
  kept _ _ hq h := h.tail (.quiet hq)
  sound _ h := (h₀.moves h).sound

/-- `linkID` is unset when it is not positive. -/
theorem Registered.unset {g : Versioned LinkedGateway} (h : Registered s)
    (hg : s.get key = some g) (hid : ¬ 0 < g.value.linkID) : g.value.linkID = 0 := by
  by_contra hne
  have := (h.range key g hg hne).1
  omega

theorem recordLinkID_moves (h₀ : Registered s₀) (hid : 1 ≤ id ∧ id ≤ maxLinkID)
    (attempts : List Attempt) :
    Spec (fun s => Moves s₀ s ∧ FreeOf key id s) (recordLinkID key id attempts)
      (fun _ => Moves s₀) (Moves s₀) := by
  have hstable : Stable fun s => Moves s₀ s ∧ FreeOf key id s :=
    ⟨fun s s' hq h => ⟨(stable_moves h₀).kept s s' hq h.1, h.2.quiet (by omega) hq⟩,
      fun s h => (stable_moves h₀).sound s h.1⟩
  refine retryOnConflict_spec (fun _ h => h.1) (attemptUpdate_spec (R := fun _ => Moves s₀) hstable
    (fun _ h => h.1) (fun _ h => h) (fun _ _ _ h _ _ => h.1) fun s g h hg hdone => ?_) attempts
  have hunset : g.value.linkID = 0 := (h₀.moves h.1).unset hg fun hpos => by simp [hpos] at hdone
  exact h.1.tail (.assigned key g id hg hunset hid h.2)

/-- The Gateways the list has are the stored ones. -/
theorem mem_listing {k : String} {g : LinkedGateway} :
    (k, g) ∈ Registry.listing s ↔ ∃ v, s.get k = some v ∧ v.value = g := by
  simp only [Registry.listing, List.mem_map, Prod.mk.injEq]
  constructor
  · rintro ⟨e, he, rfl, rfl⟩
    exact ⟨e.2, AList.mem_lookup_iff.mpr he, rfl⟩
  · rintro ⟨v, hv, rfl⟩
    exact ⟨⟨k, v⟩, AList.mem_lookup_iff.mp hv, rfl, rfl⟩

/-- An id that the list shows free is in no other status. -/
theorem freeOf_listing (hid : 1 ≤ id) (h : ¬ HeldByOther (Registry.listing s) key id) :
    FreeOf key id s := by
  intro k g hk hg heq
  exact h ⟨(k, g.value), mem_listing.mpr ⟨g, hg, rfl⟩, hk,
    .inl ⟨show 0 < g.value.linkID by omega, heq⟩⟩

/-- **What a pass does to the stored Gateways.** -/
theorem ensureLinkID_moves (h₀ : Registered s₀) (copy : LinkedGateway) (e : LinkIDEnv) :
    Keeps (Moves s₀) (ensureLinkID key copy e) := by
  have hstable := stable_moves h₀
  unfold ensureLinkID
  split
  · exact Spec.pure fun _ h => h
  · split
    · exact (persistLinkIDAnnotation_spec hstable copy _ e.persist).mapErr
    · refine (interleave_spec hstable.kept e.beforeList).bind fun _ => ?_
      refine serve_spec.mapErr.bind fun gateways => ?_
      unfold allocateLinkID
      cases hchoice : chooseLinkID copy gateways key with
      | none => exact Spec.fail fun _ h => h.1
      | some id =>
        obtain ⟨hrange, hfree⟩ := chooseLinkID_free hchoice
        refine Spec.mapErr (Spec.bind (Q := fun _ => Moves s₀) ?_ fun id' =>
          persistLinkIDAnnotation_spec hstable copy id' e.persist)
        refine (recordLinkID_moves h₀ hrange e.record).pre fun s h => ⟨h.1, ?_⟩
        rw [h.2] at hfree
        exact freeOf_listing hrange.1 hfree

/-- Once the Gateway `uid` is without an id, a pass that returns has given it the chosen one. -/
theorem recordLinkID_hasID {uid : Nat} (attempts : List Attempt) :
    Spec (fun s => Registered s ∧ FreeOf key id s ∧ (1 ≤ id ∧ id ≤ maxLinkID) ∧ HasID key uid 0 s)
      (recordLinkID key id attempts) (fun _ s => Registered s ∧ HasID key uid id s)
      (fun _ => True) := by
  have hstable : Stable fun s => Registered s ∧ FreeOf key id s ∧ (1 ≤ id ∧ id ≤ maxLinkID) ∧
      HasID key uid 0 s :=
    ⟨fun s s' hq h => ⟨h.1.quiet hq, h.2.1.quiet (by omega) hq, h.2.2.1, h.2.2.2.quiet hq⟩,
      fun s h => h.1.sound⟩
  refine retryOnConflict_spec (fun _ _ => trivial) (attemptUpdate_spec
    (R := fun _ s => Registered s ∧ HasID key uid id s) hstable (fun _ _ => trivial)
    (fun _ _ => trivial) (fun s g r h hg hdone => ⟨h.1, h.2.2.2.1, ?_⟩) ?_) attempts
  · -- a status that has an id belongs to a Gateway other than `uid`
    intro g' hg' huid
    cases hg.symm.trans hg'
    rw [h.2.2.2.2 g hg huid] at hdone
    cases hdone
  · intro s g h hg hdone
    have hunset : g.value.linkID = 0 := h.1.unset hg fun hpos => by simp [hpos] at hdone
    refine ⟨h.1.move (.assigned key g id hg hunset h.2.2.1 h.2.1),
      Nat.le_succ_of_le h.2.2.2.1, fun v hv _ => ?_⟩
    rw [Objects.get_store_self] at hv
    cases hv
    rfl

/-- A pass of a Local Gateway without an id, up to the list. -/
theorem ensureLinkID_unset (hlocal : copy.isLocal = true) (hcopy : copy.linkID = 0) (s : Registry) :
    (e.list = none ∧ ensureLinkID key copy e s =
      allocateLinkID key copy e (e.listed s) (e.beforeList.foldl UserEvent.apply s)) ∨
    ∃ cause, e.list = some cause ∧
    (∃ what, (ensureLinkID key copy e s).1 = .error (.api what)) := by
  unfold ensureLinkID
  rw [hlocal, hcopy]
  cases hlist : e.list with
  | none => exact .inl ⟨rfl, rfl⟩
  | some cause => exact .inr ⟨cause, rfl, _, rfl⟩

/-- **The chosen id is the one the Gateway gets.** -/
theorem ensureLinkID_hasID {uid : Nat} (hlocal : copy.isLocal = true) (hcopy : copy.linkID = 0)
    (hs : Registered s) (huid : HasID key uid 0 s)
    (hchoice : chooseLinkID copy (e.listed s) key = some id)
    (hok : (ensureLinkID key copy e s).1 = .ok ()) :
    HasID key uid id (ensureLinkID key copy e s).2 := by
  obtain ⟨-, hrun⟩ | ⟨cause, -, what, herr⟩ := ensureLinkID_unset (e := e) hlocal hcopy s
  swap
  · rw [hok] at herr
    cases herr
  have hkept : KeptQuietly fun s => Registered s ∧ HasID key uid 0 s := fun _ _ hq h =>
    ⟨h.1.quiet hq, h.2.quiet hq⟩
  have hstable : Stable fun s => Registered s ∧ HasID key uid id s :=
    ⟨fun _ _ hq h => ⟨h.1.quiet hq, h.2.quiet hq⟩, fun _ h => h.1.sound⟩
  have hlisted := hkept.events e.beforeList ⟨hs, huid⟩
  obtain ⟨hrange, hfree⟩ := chooseLinkID_free hchoice
  have hrest : Spec (fun s' => s' = e.beforeList.foldl UserEvent.apply s)
      (allocateLinkID key copy e (e.listed s))
      (fun _ s => Registered s ∧ HasID key uid id s) (fun _ => True) := by
    unfold allocateLinkID
    rw [hchoice]
    refine Spec.mapErr (Spec.bind (Q := fun _ s => Registered s ∧ HasID key uid id s) ?_ fun id' =>
      (persistLinkIDAnnotation_spec hstable copy id' e.persist).orElse fun _ _ => trivial)
    refine (recordLinkID_hasID e.record).pre ?_
    rintro s' rfl
    exact ⟨hlisted.1, freeOf_listing hrange.1 hfree, hrange, hlisted.2⟩
  rw [hrun] at hok ⊢
  rcases hend : allocateLinkID key copy e (e.listed s) (e.beforeList.foldl UserEvent.apply s)
    with ⟨r, s'⟩
  rw [hend] at hok
  cases hok
  exact ((hrest _ rfl).1 () s' hend).2

/-! ## Exhaustion -/

/-- **Exhaustion is reported exactly when the others reserve every id.** -/
theorem ensureLinkID_exhausted (hlocal : copy.isLocal = true) (hcopy : copy.linkID = 0)
    (hlist : e.list = none) :
    (ensureLinkID key copy e s).1 = .error .noFreeLinkID ↔
      ∀ id, 1 ≤ id → id ≤ maxLinkID → HeldByOther (e.listed s) key id := by
  obtain ⟨-, hrun⟩ | ⟨cause, hsome, -⟩ := ensureLinkID_unset (e := e) hlocal hcopy s
  swap
  · rw [hlist] at hsome
    cases hsome
  rw [hrun, ← chooseLinkID_none, allocateLinkID]
  cases hchoice : chooseLinkID copy (e.listed s) key with
  | none => exact ⟨fun _ => rfl, fun _ => rfl⟩
  | some id =>
    refine ⟨fun h => ?_, fun h => nomatch h⟩
    -- what follows the choice fails only because a call does
    obtain ⟨cause, hcause⟩ := mapErr_error h
    cases hcause

/-! ## Runs -/

theorem RegistryStep.next_moves {x : RegistryStep} (hs : Registered s) (hx : x.Enabled s) :
    Moves s (x.next s) := by
  have hstable := stable_moves hs
  cases x with
  | user event => exact hstable.kept.run (event.apply_quietly s) .refl
  | ensure key copy e => exact (ensureLinkID_moves hs copy.value e).state .refl
  | mirror key unchanged attempts =>
    exact (mirrorStatus_spec hstable unchanged attempts).state .refl
  | terminating key copy outcome =>
    have hspec : Spec (fun s' => Moves s s' ∧ (key, copy) ∈ s'.history)
        (terminatingStatus key copy outcome) (fun _ => Moves s) (Moves s) := by
      refine (updateGateway_spec (Q := Moves s) (fun s' h => ⟨hstable.sound s' h.1, h.2⟩)
        fun s' h hg => h.1.tail (.quiet (.edited key copy _ hg rfl rfl))).weaken
          (fun _ h => h) ?_ ?_
      · intro accepted s' h
        cases accepted with
        | true => exact h
        | false => exact h.1
      · rintro s' (h | h)
        · exact h.1
        · exact h
    exact hspec.state ⟨.refl, hx⟩

theorem registered_empty : Registered Objects.empty :=
  ⟨Objects.sound_empty, fun _ _ h => (nomatch h), fun _ _ h => (nomatch h),
    fun _ _ _ _ h => (nomatch h)⟩

theorem HasID.moves {uid : Nat} (h : HasID key uid id s) (hid : id ≠ 0) (hm : Moves s s') :
    HasID key uid id s' := by
  induction hm with
  | refl => exact h
  | tail _ hstep ih => exact ih.move hid hstep

/-- A stored Gateway has its id. -/
theorem Registered.hasID {g : Versioned LinkedGateway} (h : Registered s)
    (hg : s.get key = some g) : HasID key g.value.uid g.value.linkID s :=
  ⟨h.born key g hg, fun g' hg' _ => by cases hg.symm.trans hg'; rfl⟩

end

/-- **Link ids are unique and stable.** In every state of every run no two Gateways have the same
id, ids are in range, and no step changes an id that is set. A pass that finds neither its copy nor
the Gateway with an id, and returns, has given the Gateway the id its copy's annotation names,
unless another Gateway reserved it; and a pass reports exhaustion exactly when the others reserve
every id. -/
theorem link_ids_sound (xs : List RegistryStep)
    (hrun : Guarded RegistryStep.next (fun s x => x.Enabled s) Objects.empty xs) :
    let s := replay RegistryStep.next Objects.empty xs
    (∀ k g k' g', s.get k = some g → s.get k' = some g' → g.value.linkID ≠ 0 →
      g.value.linkID = g'.value.linkID → k = k') ∧
    (∀ k g, s.get k = some g → g.value.linkID ≠ 0 → 1 ≤ g.value.linkID ∧ g.value.linkID ≤ 250) ∧
    (∀ x : RegistryStep, x.Enabled s → ∀ k g g', s.get k = some g → g.value.linkID ≠ 0 →
      (x.next s).get k = some g' → g'.value.uid = g.value.uid →
        g'.value.linkID = g.value.linkID) ∧
    (∀ key (copy : LinkedGateway) (e : LinkIDEnv), copy.isLocal = true → copy.linkID = 0 →
      (∀ raw id g g', copy.claim = some raw → parseLinkID raw = some id →
        ¬ HeldByOther (e.listed s) key id → s.get key = some g → g.value.linkID = 0 →
        (ensureLinkID key copy e s).1 = .ok () → (ensureLinkID key copy e s).2.get key = some g' →
        g'.value.uid = g.value.uid → g'.value.linkID = id) ∧
      (e.list = none → ((ensureLinkID key copy e s).1 = .error .noFreeLinkID ↔
        ∀ id, 1 ≤ id → id ≤ 250 → HeldByOther (e.listed s) key id))) := by
  have hs : Registered (replay RegistryStep.next Objects.empty xs) :=
    hrun.invariant (fun s x h hx => h.moves (RegistryStep.next_moves h hx)) registered_empty
      (List.prefix_refl xs)
  refine ⟨hs.unique, hs.range, ?_, ?_⟩
  · intro x hx k g g' hg hne hg' huid
    exact ((hs.hasID hg).moves hne (RegistryStep.next_moves hs hx)).2 g' hg' huid
  · intro key copy e hlocal hcopy
    refine ⟨?_, ensureLinkID_exhausted hlocal hcopy⟩
    intro raw id g g' hraw hparse hfree hg hunset hok hg' huid
    have hclaim : copy.claim.bind parseLinkID = some id := by rw [hraw, Option.bind_some, hparse]
    have hbefore := hunset ▸ hs.hasID hg
    exact (ensureLinkID_hasID hlocal hcopy hs hbefore (chooseLinkID_claimed hclaim hfree) hok).2
      g' hg' huid

instance (s : Registry) : (x : RegistryStep) → Decidable (x.Enabled s)
  | .ensure key copy _ | .terminating key copy _ =>
    inferInstanceAs (Decidable ((key, copy) ∈ s.history))
  | .user _ | .mirror _ _ _ => inferInstanceAs (Decidable True)

/-- An attempt that users leave alone and that is answered. -/
def Attempt.answered : Attempt :=
  { beforeGet := [], get := none, beforeUpdate := [], update := .ok }

/-- A restored Gateway claims id 7, and while its pass is between the list and the update somebody
edits another one's annotation to the same id. -/
def restoreRun : List RegistryStep :=
  [.user (.create "a" true (some "7")), .user (.create "b" true none),
    .ensure "a"
      { version := 1, value := { uid := 1, isLocal := true, linkID := 0, claim := some "7" } }
      { beforeList := [], list := none,
        record := [{ Attempt.answered with beforeGet := [.annotate "b" (some "7")] }],
        persist := [.answered] },
    .ensure "b" { version := 2, value := { uid := 2, isLocal := true, linkID := 0, claim := none } }
      { beforeList := [], list := none, record := [.answered], persist := [.answered] }]

/-- Both get an id of their own. -/
theorem link_ids_sound_restored :
    (((replay RegistryStep.next Objects.empty restoreRun).get "a").map (·.value.linkID) = some 7 ∧
      ((replay RegistryStep.next Objects.empty restoreRun).get "b").map (·.value.linkID) = some 1) ∧
    ∀ k g k' g', (replay RegistryStep.next Objects.empty restoreRun).get k = some g →
      (replay RegistryStep.next Objects.empty restoreRun).get k' = some g' → g.value.linkID ≠ 0 →
      g.value.linkID = g'.value.linkID → k = k' :=
  ⟨by decide +kernel, (link_ids_sound restoreRun (by decide +kernel)).1⟩

end WireguardGateway.Controller

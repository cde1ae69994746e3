import WireguardGateway.Lib.GoMap
import WireguardGateway.Lib.Text

/-!
# Discovery: one read-only pass over the managed instance group

`list` walks the group's listing once, classifies every entry (`classify`), decides which entries
need an instance detail (`detailReason`), and then reads those details; the first failure of any
read leaves no snapshot. The Compute Engine API is a parameter (`ComputeApi`): an arbitrary listing
and an arbitrary answer to every detail read.

Results:
* `classify_eq_departed`, `classify_eq_pending`: when an entry is departed or pending, so that every
  other entry is present;
* **`list_members`**: the members of a snapshot are the listing's entries, in order, classified
  against the recorded names;
* **`list_detail`**, `list_detail_isSome`: a detail in a snapshot was read for a listed entry of its
  name that called for one, and every such entry has one.
-/

namespace WireguardGateway.Gcp

open Lib

/-! ## The classification table -/

/-- `currentAction` of a managed instance, verbatim; `other` is any action without a constant. -/
inductive MemberAction where
  | none
  | creating
  | creatingWithoutRetries
  | recreating
  | deleting
  | abandoning
  | restarting
  | refreshing
  | verifying
  | other (text : String)
  deriving DecidableEq, Repr

/-- The classification table's outcome for one listed entry. -/
inductive Verdict where
  | departed
  | pending
  | present
  deriving DecidableEq, Repr

/-- `Classify`. -/
def classify (action : MemberAction) (hasInstanceID hasRecord : Bool) : Verdict :=
  match action with
  | .deleting | .abandoning => .departed
  | .recreating => .present
  | _ =>
    if !hasInstanceID then
      if hasRecord then .present else .pending
    else .present

/-- The two actions under which an instance is on its way out of the group. -/
def MemberAction.departing (a : MemberAction) : Bool := a == .deleting || a == .abandoning

theorem classify_eq_departed {a : MemberAction} {i r : Bool} :
    classify a i r = .departed ↔ a.departing := by
  cases a <;> cases i <;> cases r <;> simp [classify, MemberAction.departing]

theorem classify_eq_pending {a : MemberAction} {i r : Bool} :
    classify a i r = .pending ↔
      a.departing = false ∧ a ≠ .recreating ∧ i = false ∧ r = false := by
  cases a <;> cases i <;> cases r <;> simp [classify, MemberAction.departing]

/-! ## The API and the snapshot -/

/-- One entry of the managed-instances listing. -/
structure ManagedInstance where
  name : String
  currentAction : MemberAction
  id : Option Nat
  instanceURL : String
  instanceTemplate : String
  deriving DecidableEq, Repr

/-- The part of an instance that a detail read uses: its id, and per network interface the
`natIP` of each access config. -/
structure Instance where
  id : Nat
  networkInterfaces : List (List String)
  deriving DecidableEq, Repr

/-- The API as one pass sees it: the listing, and the answer to its `i`-th `instances.get`. -/
structure ComputeApi where
  managedInstances : Except String (List ManagedInstance)
  getInstance : (i : Nat) → (zone name : String) → Except String Instance

structure ListedMember where
  name : String
  action : MemberAction
  instanceID : String
  verdict : Verdict
  zone : String
  templateRevision : String
  deriving DecidableEq, Repr

/-- Which trigger issued a detail read. -/
inductive DetailReason where
  | noRecordedAddress
  | idChanged
  | periodicRefresh
  deriving DecidableEq, Repr

structure Detail where
  name : String
  instanceID : String
  externalAddress : String
  reason : DetailReason
  deriving DecidableEq, Repr

/-- The caller's prior knowledge of one name. -/
structure Recorded where
  name : String
  externalAddress : String
  instanceID : String
  deriving DecidableEq, Repr

structure Snapshot where
  members : List ListedMember
  details : GoMap String Detail

/-- `zoneFromInstanceURL`: the segment after the first `zones` that has one. -/
def zoneFromInstanceURL (url : String) : String :=
  let rec go : List String → String
    | segment :: next :: rest => if segment = "zones" then next else go (next :: rest)
    | _ => ""
  go (split '/' url)

/-- `templateRevision`: the last path segment. -/
def templateRevision (url : String) : String :=
  if url = "" then "" else ((split '/' url).getLast?).getD ""

/-- `externalAddress`: the first non-empty `natIP`. -/
def externalAddress (inst : Instance) : String :=
  (inst.networkInterfaces.flatten.find? (· ≠ "")).getD ""

/-! ## `List` -/

def recordedByName (recorded : List Recorded) : GoMap String Recorded :=
  recorded.foldl (fun m r => m.insert r.name r) ∅

/-- The listed id as text, empty when the instance does not exist yet. -/
def ManagedInstance.instanceID (mi : ManagedInstance) : String :=
  match mi.id with
  | some id => toString id
  | none => ""

/-- The entry `List` appends to the snapshot's members. -/
def listedMember (recs : GoMap String Recorded) (mi : ManagedInstance) : ListedMember where
  name := mi.name
  action := mi.currentAction
  instanceID := mi.instanceID
  verdict := classify mi.currentAction (mi.instanceID ≠ "") (recs.lookup mi.name).isSome
  zone := zoneFromInstanceURL mi.instanceURL
  templateRevision := templateRevision mi.instanceTemplate

/-- The trigger under which an entry's detail is read, if any. -/
def detailReason (recs : GoMap String Recorded) (refreshNames : List String)
    (m : ListedMember) : Option DetailReason :=
  if m.verdict ≠ .present ∨ m.action = .recreating ∨ m.instanceID = "" then none
  else
    match recs.lookup m.name with
    | some r =>
      if r.externalAddress = "" then some .noRecordedAddress
      else if m.instanceID ≠ r.instanceID then some .idChanged
      else if m.name ∈ refreshNames then some .periodicRefresh
      else none
    -- an unrecorded name has the zero `Recorded`, whose id differs from every listed one
    | none => some .idChanged

/-- The details the listing calls for, in listing order. -/
def detailFetches (recs : GoMap String Recorded) (refreshNames : List String)
    (members : List ListedMember) : List (ListedMember × DetailReason) :=
  members.filterMap fun m => (detailReason recs refreshNames m).map (m, ·)

/-- One detail read, refused when the instance is not the listed one. -/
def readDetail (api : ComputeApi) (i : Nat) (f : ListedMember × DetailReason) :
    Except String Detail :=
  match api.getInstance i f.1.zone f.1.name with
  | .error cause => .error ("reading instance detail for " ++ f.1.name ++ ": " ++ cause)
  | .ok inst =>
    let gotID := toString inst.id
    if gotID ≠ f.1.instanceID then
      .error ("instance detail for " ++ f.1.name ++ ": id mismatch, listed " ++ f.1.instanceID ++
        " got " ++ gotID)
    else
      .ok { name := f.1.name
            instanceID := gotID
            externalAddress := externalAddress inst
            reason := f.2 }

/-- The detail loop: later reads of one name replace earlier ones. -/
def readDetails (api : ComputeApi) :
    Nat → List (ListedMember × DetailReason) → GoMap String Detail →
      Except String (GoMap String Detail)
  | _, [], details => .ok details
  | i, f :: fs, details =>
    match readDetail api i f with
    | .error e => .error e
    | .ok d => readDetails api (i + 1) fs (details.insert f.1.name d)

/-- `List`. -/
def list (api : ComputeApi) (project region mig : String) (recorded : List Recorded)
    (refreshNames : List String) : Except String Snapshot :=
  match api.managedInstances with
  | .error cause =>
    .error ("listing managed instances for " ++ project ++ "/" ++ region ++ "/" ++ mig ++ ": " ++
      cause)
  | .ok listing =>
    let recs := recordedByName recorded
    let members := listing.map (listedMember recs)
    match readDetails api 0 (detailFetches recs refreshNames members) ∅ with
    | .error e => .error e
    | .ok details => .ok { members, details }

/-! ## What a snapshot says -/

/-- The detail is what the API answers for the listed entry. -/
structure ReadFor (api : ComputeApi) (m : ListedMember) (d : Detail) : Prop where
  name : d.name = m.name
  instanceID : d.instanceID = m.instanceID
  address : ∃ i inst, api.getInstance i m.zone m.name = .ok inst ∧
    d.externalAddress = externalAddress inst

variable {api : ComputeApi} {mig project region : String} {recorded : List Recorded}
  {refreshNames : List String} {snap : Snapshot}

theorem readDetail_eq_ok {i : Nat} {f : ListedMember × DetailReason} {d : Detail}
    (h : readDetail api i f = .ok d) : ReadFor api f.1 d := by
  unfold readDetail at h
  split at h
  · cases h
  · rename_i inst hinst
    dsimp only at h
    split at h
    · cases h
    · rename_i hid
      cases h
      exact ⟨rfl, not_not.mp hid, i, inst, hinst, rfl⟩

/-- Every detail the loop returns was there before or is the read of one fetch of its name. -/
theorem readDetails_lookup {n : String} {d : Detail} :
    ∀ {fs : List (ListedMember × DetailReason)} {i : Nat} {ds ds' : GoMap String Detail},
      readDetails api i fs ds = .ok ds' → ds'.lookup n = some d →
        ds.lookup n = some d ∨ ∃ f ∈ fs, ∃ j, f.1.name = n ∧ readDetail api j f = .ok d
  | [], _, _, _, h, hd => by cases h; exact .inl hd
  | f :: fs, i, ds, ds', h, hd => by
    rw [readDetails] at h
    cases hf : readDetail api i f with
    | error e => rw [hf] at h; cases h
    | ok d₀ =>
      rw [hf] at h
      rcases readDetails_lookup h hd with h1 | ⟨f', hf', j, hn, hr⟩
      · by_cases hn : n = f.1.name
        · subst hn
          rw [AList.lookup_insert] at h1
          cases h1
          exact .inr ⟨f, List.mem_cons_self, i, rfl, hf⟩
        · rw [AList.lookup_insert_ne hn] at h1
          exact .inl h1
      · exact .inr ⟨f', List.mem_cons_of_mem _ hf', j, hn, hr⟩

/-- Every fetch leaves a detail of its name, and none is taken away again. -/
theorem readDetails_isSome {n : String} :
    ∀ {fs : List (ListedMember × DetailReason)} {i : Nat} {ds ds' : GoMap String Detail},
      readDetails api i fs ds = .ok ds' →
        ((ds.lookup n).isSome ∨ ∃ f ∈ fs, f.1.name = n) → (ds'.lookup n).isSome
  | [], _, _, _, h, hn => by
    cases h
    exact hn.resolve_right (by rintro ⟨f, hf, -⟩; cases hf)
  | f :: fs, i, ds, ds', h, hn => by
    rw [readDetails] at h
    cases hf : readDetail api i f with
    | error e => rw [hf] at h; cases h
    | ok d =>
      rw [hf] at h
      refine readDetails_isSome h ?_
      rcases eq_or_ne n f.1.name with rfl | hne
      · exact .inl (by rw [AList.lookup_insert]; rfl)
      · rw [AList.lookup_insert_ne hne]
        rcases hn with hn | ⟨f', hf', rfl⟩
        · exact .inl hn
        · rcases List.mem_cons.mp hf' with rfl | hf'
          · exact absurd rfl hne
          · exact .inr ⟨f', hf', rfl⟩

/-- What a successful `List` consists of. -/
theorem list_eq_ok (h : list api project region mig recorded refreshNames = .ok snap) :
    ∃ listing, api.managedInstances = .ok listing ∧
      snap.members = listing.map (listedMember (recordedByName recorded)) ∧
      readDetails api 0
        (detailFetches (recordedByName recorded) refreshNames snap.members) ∅ =
          .ok snap.details := by
  unfold list at h
  cases hl : api.managedInstances with
  | error e => rw [hl] at h; cases h
  | ok listing =>
    rw [hl] at h
    dsimp only at h
    split at h
    · cases h
    · rename_i details hd
      cases h
      exact ⟨listing, rfl, rfl, hd⟩

/-- **The members of a snapshot** are the listing's entries classified against the recorded
names. -/
theorem list_members (h : list api project region mig recorded refreshNames = .ok snap)
    {m : ListedMember} (hm : m ∈ snap.members) :
    m.verdict =
      classify m.action (m.instanceID ≠ "") ((recordedByName recorded).lookup m.name).isSome := by
  obtain ⟨listing, -, hmem, -⟩ := list_eq_ok h
  rw [hmem, List.mem_map] at hm
  obtain ⟨mi, -, rfl⟩ := hm
  rfl

/-- **The details of a snapshot**: read for a listed entry of the name that called for one, with
the id the listing shows. -/
theorem list_detail (h : list api project region mig recorded refreshNames = .ok snap) {n : String}
    {d : Detail} (hd : snap.details.lookup n = some d) :
    ∃ m ∈ snap.members, m.name = n ∧ ReadFor api m d ∧
      (detailReason (recordedByName recorded) refreshNames m).isSome := by
  obtain ⟨listing, -, -, hdet⟩ := list_eq_ok h
  rcases readDetails_lookup hdet hd with h0 | ⟨f, hf, j, hn, hr⟩
  · exact absurd h0 (by simp)
  · simp only [detailFetches, List.mem_filterMap, Option.map_eq_some_iff] at hf
    obtain ⟨m, hm, reason, hreason, rfl⟩ := hf
    exact ⟨m, hm, hn, readDetail_eq_ok hr, by rw [hreason]; rfl⟩

/-- An entry that calls for a detail gets one. -/
theorem list_detail_isSome (h : list api project region mig recorded refreshNames = .ok snap)
    {m : ListedMember} (hm : m ∈ snap.members)
    (hreason : (detailReason (recordedByName recorded) refreshNames m).isSome) :
    (snap.details.lookup m.name).isSome := by
  obtain ⟨listing, -, -, hdet⟩ := list_eq_ok h
  obtain ⟨reason, hreason⟩ := Option.isSome_iff_exists.mp hreason
  refine readDetails_isSome hdet (.inr ⟨(m, reason), ?_, rfl⟩)
  exact List.mem_filterMap.mpr ⟨m, hm, by rw [hreason]; rfl⟩

end WireguardGateway.Gcp

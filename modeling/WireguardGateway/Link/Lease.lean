import WireguardGateway.Link.DataPlane
import WireguardGateway.Link.Endpoints

/-!
# What the holder publishes on its Lease

`internal/link/fault.go`: after each apply the holder writes the state of its slots and its fault,
if any, into annotations of the Lease. Either write is a read and an update, repeated while the
update meets a conflict, at most five times.

The API server may fail any read or update, and the answer to an update may be lost after the
update was stored (`UpdateResult`). The elector renews the same Lease meanwhile; it leaves
these annotations alone (`Lease.annotate`), and what it writes between a read and an update
makes that update a conflict.

Results:
* `retryOnConflict_end`: a publish ends as one of its attempts does;
* `retryOnConflict_success`: a publish that returns no error has left what it was to leave, as long
  as the replica holds the Lease;
* `retryOnConflict_preserves`: whatever happens, a publish leaves other annotations alone;
* `delivers_success`: a publish whose calls are answered returns no error.
-/

namespace WireguardGateway.Link

open Lib
open Controller (RuntimeConfig)

variable {σ : Type}

/-! ## The Lease -/

structure Lease where
  /-- `spec.holderIdentity`. -/
  holder : Option String
  annotations : GoMap String String

def leaseTunnelReadyAnnotation : String := "wgnet.dev/tunnel-ready"

def leaseTunnelReasonAnnotation : String := "wgnet.dev/tunnel-reason"

def leaseFaultAnnotation : String := "wgnet.dev/link-fault"

def leaseFaultMessageAnnotation : String := "wgnet.dev/link-fault-message"

def leaseSlotStateAnnotation : String := "wgnet.dev/link-slot-state"

/-- `annotate`, by which the elector stamps each of its writes. -/
def annotate (ready : Bool) (reason : String) (annotations : GoMap String String) :
    GoMap String String :=
  (annotations.insert leaseTunnelReadyAnnotation (formatBool ready)).insert
    leaseTunnelReasonAnnotation (if ready then "" else reason)

/-- What becomes of an update. -/
inductive UpdateResult where
  | stored
  | conflict (cause : String)
  | failed (cause : String)
  /-- The update was stored, but the answer did not arrive. -/
  | lost (cause : String)
  deriving DecidableEq, Repr

/-- One attempt of a publish. -/
structure LeaseAttempt where
  /-- What the elector wrote since the attempt before: the tunnel's state, each time. -/
  renewals : List (Bool × String)
  /-- The error of the read. -/
  get : Option String
  update : UpdateResult
  deriving DecidableEq, Repr

/-- The steps of `retry.DefaultRetry`. -/
def defaultRetrySteps : Nat := 5

/-- The attempts a publish may make. -/
abbrev Attempts : Type := { as : List LeaseAttempt // as.length = defaultRetrySteps }

/-- The Lease of a Gateway, and who writes it. -/
structure LeaseRef where
  namespace_ : String
  name : String
  self : String
  deriving DecidableEq, Repr

structure PublishError where
  conflict : Bool
  text : String
  deriving DecidableEq, Repr

/-- The replica may write the Lease. -/
def Lease.HeldBy (l : Lease) (self : String) : Prop :=
  l.holder.getD "" = "" ∨ l.holder.getD "" = self

instance (l : Lease) (self : String) : Decidable (l.HeldBy self) :=
  inferInstanceAs (Decidable (_ ∨ _))

def Lease.renew (l : Lease) (renewals : List (Bool × String)) : Lease :=
  { l with annotations := renewals.foldl (fun as r => annotate r.1 r.2 as) l.annotations }

/-- The function `publishFault` and `publishSlotState` hand to `RetryOnConflict`. `edit` is their
own part: the annotations to store, or none if these are as they should be. -/
def publishOnce (ref : LeaseRef) (edit : GoMap String String → Option (GoMap String String))
    (a : LeaseAttempt) (lease : Lease) : Lease × Option PublishError :=
  let lease := lease.renew a.renewals
  let failure (verb cause : String) (conflict : Bool) : Option PublishError :=
    some { conflict, text := verb ++ " lease " ++ ref.namespace_ ++ "/" ++ ref.name ++
      ": " ++ cause }
  match a.get with
  | some cause => (lease, failure "get" cause false)
  | none =>
    if lease.HeldBy ref.self then
      match edit lease.annotations with
      | none => (lease, none)
      | some annotations =>
        match a.update with
        | .stored => ({ lease with annotations }, none)
        | .conflict cause => (lease, failure "update" cause true)
        | .failed cause => (lease, failure "update" cause false)
        | .lost cause => ({ lease with annotations }, failure "update" cause false)
    else (lease, none)

/-- `retry.RetryOnConflict`. -/
def retryOnConflict (ref : LeaseRef) (edit : GoMap String String → Option (GoMap String String)) :
    List LeaseAttempt → Lease → Lease × Option String
  | [], lease => (lease, none)
  | [a], lease =>
    let (lease, err) := publishOnce ref edit a lease
    (lease, err.map (·.text))
  | a :: b :: rest, lease =>
    match publishOnce ref edit a lease with
    | (lease, none) => (lease, none)
    | (lease, some e) =>
      if e.conflict then retryOnConflict ref edit (b :: rest) lease else (lease, some e.text)

/-! ## Faults -/

def faultApplyFailed : String := "ApplyFailed"

def faultNoLocalEndpoint : String := "NoLocalEndpoint"

def nodeMessage (node msg : String) : String := if node = "" then msg else node ++ ": " ++ msg

def describeUnsatisfied (unsatisfied : List UnsatisfiedForward) : String :=
  join ", " (unsatisfied.map fun u => u.name ++ " (" ++ u.reason ++ ")")

def maxFaultMessageBytes : Nat := 4096

def faultMessageTruncationMarker : String := "... (truncated)"

/-- The characters of a text that end within its first `n` bytes. -/
def takeBytes : Nat → List Char → List Char
  | _, [] => []
  | n, c :: cs => if c.utf8Size ≤ n then c :: takeBytes (n - c.utf8Size) cs else []

/-- `boundMessage`. -/
def boundMessage (msg : String) : String :=
  if msg.utf8ByteSize ≤ maxFaultMessageBytes then msg
  else
    String.ofList (takeBytes (maxFaultMessageBytes - faultMessageTruncationMarker.utf8ByteSize)
      msg.toList) ++ faultMessageTruncationMarker

/-- `leaderFault`: the reason and the message; no fault has the empty reason. -/
def leaderFault (node : String) (applyErr : Option String) (unsatisfied : List UnsatisfiedForward) :
    String × String :=
  match applyErr with
  | some err => (faultApplyFailed, boundMessage (nodeMessage node ("apply: " ++ err)))
  | none =>
    if unsatisfied ≠ [] then
      (faultNoLocalEndpoint, nodeMessage node
        ("forwards without a ready local endpoint: " ++ describeUnsatisfied unsatisfied))
    else ("", "")

/-- What `publishFault` does to the annotations. -/
def editFault (reason message : String) (annotations : GoMap String String) :
    Option (GoMap String String) :=
  if reason = "" then
    if (annotations.lookup leaseFaultAnnotation).isNone then none
    else some ((annotations.erase leaseFaultAnnotation).erase leaseFaultMessageAnnotation)
  else if (annotations.lookup leaseFaultAnnotation).getD "" = reason ∧
      (annotations.lookup leaseFaultMessageAnnotation).getD "" = message then none
  else
    some ((annotations.insert leaseFaultAnnotation reason).insert
      leaseFaultMessageAnnotation message)

/-- `publishFault`. -/
def publishFault (ref : LeaseRef) (reason message : String) (attempts : Attempts) :
    Lease → Lease × Option String :=
  retryOnConflict ref (editFault reason message) attempts.1

/-! ## Slot states -/

def slotStateApplied : String := "applied"

def slotStateDown : String := "down"

/-- `SlotState`, encoded. -/
def slotState (r : SlotResult) : Json :=
  if r.applied then .obj [("state", .str slotStateApplied)]
  else
    .obj (("state", .str slotStateDown) ::
      Json.omitEmpty (r.err.getD "" = "") "message" (.str (r.err.getD "")))

/-- The map of `slotStateJSON`. -/
def slotStates (results : List SlotResult) : GoMap String Json :=
  results.foldl (fun states r => states.insert (decimal r.slot) (slotState r)) ∅

/-- `slotStateJSON`; `Marshal` writes a map in the order of its keys. -/
def slotStateJSON (results : List SlotResult) : String :=
  Json.marshal (.obj (((slotStates results).entries.map fun e => (e.1, e.2)).insertionSort
    fun a b => a.1 ≤ b.1))

/-- What `publishSlotState` does to the annotations. -/
def editSlotState (results : List SlotResult) (annotations : GoMap String String) :
    Option (GoMap String String) :=
  if results = [] then
    if (annotations.lookup leaseSlotStateAnnotation).isNone then none
    else some (annotations.erase leaseSlotStateAnnotation)
  else if (annotations.lookup leaseSlotStateAnnotation).getD "" = slotStateJSON results then none
  else some (annotations.insert leaseSlotStateAnnotation (slotStateJSON results))

/-- `publishSlotState`. -/
def publishSlotState (ref : LeaseRef) (results : List SlotResult) (attempts : Attempts) :
    Lease → Lease × Option String :=
  retryOnConflict ref (editSlotState results) attempts.1

/-! ## What a publish leaves -/

section

variable {ref : LeaseRef} {edit : GoMap String String → Option (GoMap String String)}
  {lease : Lease} {P : GoMap String String → Prop}

theorem renew_preserves (hrenew : ∀ ready reason as, P as → P (annotate ready reason as)) :
    ∀ {renewals : List (Bool × String)} {lease : Lease}, P lease.annotations →
      P (lease.renew renewals).annotations := by
  intro renewals
  induction renewals with
  | nil => exact fun h => h
  | cons r renewals ih =>
    intro lease h
    show P (Lease.renew { lease with annotations := annotate r.1 r.2 lease.annotations }
      renewals).annotations
    exact ih (hrenew r.1 r.2 _ h)

variable {a : LeaseAttempt}

/-- What an attempt leaves: the Lease as the elector renewed it, which without an error is as it
should be; or the edited one. -/
theorem publishOnce_cases (ref : LeaseRef)
    (edit : GoMap String String → Option (GoMap String String)) (a : LeaseAttempt) (lease : Lease) :
    ((publishOnce ref edit a lease).1 = lease.renew a.renewals ∧
      (lease.HeldBy ref.self → (publishOnce ref edit a lease).2 = none →
        edit (lease.renew a.renewals).annotations = none)) ∨
    ∃ annotations, edit (lease.renew a.renewals).annotations = some annotations ∧
      (publishOnce ref edit a lease).1 = { lease.renew a.renewals with annotations } := by
  unfold publishOnce
  simp only
  cases a.get with
  | some cause => exact .inl ⟨rfl, fun _ h => nomatch h⟩
  | none =>
    split_ifs with hheld
    · cases hedited : edit (lease.renew a.renewals).annotations with
      | none => exact .inl ⟨rfl, fun _ _ => rfl⟩
      | some annotations =>
        cases a.update with
        | stored | lost cause => exact .inr ⟨annotations, rfl, rfl⟩
        | conflict cause | failed cause => exact .inl ⟨rfl, fun _ h => nomatch h⟩
    · exact .inl ⟨rfl, fun h _ => absurd h hheld⟩

theorem publishOnce_holder : (publishOnce ref edit a lease).1.holder = lease.holder := by
  obtain ⟨hlease, -⟩ | ⟨_, -, hlease⟩ := publishOnce_cases ref edit a lease
  all_goals rw [hlease]; rfl

/-- **A publish ends as one of its attempts does**, made from a Lease that attempts have left. -/
theorem retryOnConflict_end (ref : LeaseRef)
    (edit : GoMap String String → Option (GoMap String String)) {S : Lease → Prop}
    (hS : ∀ a lease, S lease → S (publishOnce ref edit a lease).1) :
    ∀ {attempts : List LeaseAttempt} {lease : Lease}, attempts ≠ [] → S lease → ∃ a l, S l ∧
      retryOnConflict ref edit attempts lease =
        ((publishOnce ref edit a l).1, (publishOnce ref edit a l).2.map (·.text))
  | [], _, h, _ => absurd rfl h
  | [a], lease, _, hs => ⟨a, lease, hs, rfl⟩
  | a :: b :: rest, lease, _, hs => by
    have hafter := hS a lease hs
    rw [retryOnConflict]
    rcases honce : publishOnce ref edit a lease with ⟨lease', _ | e⟩
    · exact ⟨a, lease, hs, by rw [honce]; rfl⟩
    · rw [honce] at hafter
      simp only
      split_ifs
      · exact retryOnConflict_end ref edit hS (List.cons_ne_nil b rest) hafter
      · exact ⟨a, lease, hs, by rw [honce]; rfl⟩

variable {attempts : List LeaseAttempt}

theorem retryOnConflict_holder (hne : attempts ≠ []) :
    (retryOnConflict ref edit attempts lease).1.holder = lease.holder := by
  obtain ⟨a, l, hl, hend⟩ := retryOnConflict_end ref edit
    (S := fun l => l.holder = lease.holder) (fun _ _ h => publishOnce_holder.trans h) hne rfl
  rw [hend]
  exact publishOnce_holder.trans hl

/-- **A publish leaves other annotations alone**, whatever happens to its calls. -/
theorem retryOnConflict_preserves (hrenew : ∀ ready reason as, P as → P (annotate ready reason as))
    (hedit : ∀ as as', edit as = some as' → P as → P as') (hne : attempts ≠ [])
    (h : P lease.annotations) : P (retryOnConflict ref edit attempts lease).1.annotations := by
  have honce : ∀ a l, P (Lease.annotations l) → P (publishOnce ref edit a l).1.annotations := by
    intro a l hl
    have hrenewed : P (l.renew a.renewals).annotations := renew_preserves hrenew hl
    obtain ⟨hlease, -⟩ | ⟨_, hedited, hlease⟩ := publishOnce_cases ref edit a l
    · rwa [hlease]
    · rw [hlease]
      exact hedit _ _ hedited hrenewed
  obtain ⟨a, l, hl, hend⟩ := retryOnConflict_end ref edit (S := fun l => P l.annotations)
    honce hne h
  rw [hend]
  exact honce a l hl

/-- **A publish without an error** has left what it was to leave. -/
theorem retryOnConflict_success (hdone : ∀ as, edit as = none → P as)
    (hedit : ∀ as as', edit as = some as' → P as') (hne : attempts ≠ [])
    (hheld : lease.HeldBy ref.self) (h : (retryOnConflict ref edit attempts lease).2 = none) :
    P (retryOnConflict ref edit attempts lease).1.annotations := by
  obtain ⟨a, l, hl, hend⟩ := retryOnConflict_end ref edit
    (S := fun l => l.HeldBy ref.self) (fun _ _ h => by rwa [Lease.HeldBy, publishOnce_holder]) hne
    hheld
  rw [hend] at h ⊢
  obtain ⟨hlease, hnone⟩ | ⟨_, hedited, hlease⟩ := publishOnce_cases ref edit a l
  · simp only [hlease]
    exact hdone _ (hnone hl (Option.map_eq_none_iff.mp h))
  · simp only [hlease]
    exact hedit _ _ hedited

/-- The calls of a publish are answered: up to four conflicts, then a read and an update that
succeed. -/
def Delivers : List LeaseAttempt → Bool
  | [] => false
  | a :: rest =>
    a.get.isNone && match a.update with
      | .stored => true
      | .conflict _ => Delivers rest
      | _ => false

/-- **A publish whose calls are answered** returns no error. -/
theorem delivers_success : ∀ {attempts : List LeaseAttempt} {lease : Lease},
    Delivers attempts = true → (retryOnConflict ref edit attempts lease).2 = none := by
  intro attempts
  induction attempts with
  | nil => exact fun h => nomatch h
  | cons a rest ih =>
    intro lease h
    rw [Delivers, Bool.and_eq_true, Option.isNone_iff_eq_none] at h
    obtain ⟨hget, hupdate⟩ := h
    have honce : (publishOnce ref edit a lease).2 = none ∨
        (∃ e, (publishOnce ref edit a lease).2 = some e ∧ e.conflict = true) ∧
          Delivers rest = true := by
      unfold publishOnce
      simp only [hget]
      split_ifs
      · cases edit (lease.renew a.renewals).annotations with
        | none => exact .inl rfl
        | some annotations =>
          cases hu : a.update with
          | stored => exact .inl rfl
          | conflict cause =>
            rw [hu] at hupdate
            exact .inr ⟨⟨_, rfl, rfl⟩, hupdate⟩
          | failed cause | lost cause => simp [hu] at hupdate
      · exact .inl rfl
    cases rest with
    | nil =>
      rcases honce with hnone | ⟨-, hrest⟩
      · exact Option.map_eq_none_iff.mpr hnone
      · cases hrest
    | cons b rest =>
      rw [retryOnConflict]
      generalize publishOnce ref edit a lease = out at honce
      obtain ⟨lease', err⟩ := out
      rcases honce with hnone | ⟨⟨e, herr, hconflict⟩, hrest⟩
      · simp only at hnone
        rw [hnone]
      · simp only at herr
        rw [herr]
        simp only [hconflict, if_true]
        exact ih hrest

end

/-! ## The two annotations -/

/-- The fault on the Lease. -/
def Lease.fault? (l : Lease) : Option String := l.annotations.lookup leaseFaultAnnotation

/-- The slot states on the Lease. -/
def Lease.slotState? (l : Lease) : Option String := l.annotations.lookup leaseSlotStateAnnotation

/-- What the annotation of slot states is to be; without results it is to be absent. -/
def slotStateValue (results : List SlotResult) : Option String :=
  if results = [] then none else some (slotStateJSON results)

theorem slotStateJSON_ne_empty (results : List SlotResult) : slotStateJSON results ≠ "" := by
  intro h
  have hlist := congrArg String.toList h
  simp [slotStateJSON, Json.marshal, Json.chars] at hlist

variable {as : GoMap String String} {key : String}

theorem lookup_annotate {ready : Bool} {reason : String} (hready : key ≠ leaseTunnelReadyAnnotation)
    (hreason : key ≠ leaseTunnelReasonAnnotation) :
    (annotate ready reason as).lookup key = as.lookup key := by
  unfold annotate
  rw [AList.lookup_insert_ne hreason, AList.lookup_insert_ne hready]

/-- `publishSlotState` leaves every other annotation. -/
theorem editSlotState_lookup {results : List SlotResult} {as' : GoMap String String}
    (h : editSlotState results as = some as') (hkey : key ≠ leaseSlotStateAnnotation) :
    as'.lookup key = as.lookup key := by
  unfold editSlotState at h
  split_ifs at h
  · cases h
    exact AList.lookup_erase_ne hkey
  · cases h
    exact AList.lookup_insert_ne hkey

/-- `publishFault` leaves every other annotation. -/
theorem editFault_lookup {reason message : String} {as' : GoMap String String}
    (h : editFault reason message as = some as') (hfault : key ≠ leaseFaultAnnotation)
    (hmessage : key ≠ leaseFaultMessageAnnotation) : as'.lookup key = as.lookup key := by
  unfold editFault at h
  split_ifs at h
  · cases h
    rw [AList.lookup_erase_ne hmessage, AList.lookup_erase_ne hfault]
  · cases h
    rw [AList.lookup_insert_ne hmessage, AList.lookup_insert_ne hfault]

section

variable {ref : LeaseRef} {attempts : Attempts} {lease : Lease}

theorem attempts_ne_nil (attempts : Attempts) : attempts.1 ≠ [] := by
  intro h
  have hlength := attempts.2
  rw [h] at hlength
  cases hlength

theorem publishSlotState_success {results : List SlotResult} (hheld : lease.HeldBy ref.self)
    (h : (publishSlotState ref results attempts lease).2 = none) :
    (publishSlotState ref results attempts lease).1.slotState? = slotStateValue results := by
  refine retryOnConflict_success (P := fun as => as.lookup leaseSlotStateAnnotation =
    slotStateValue results) ?_ ?_ (attempts_ne_nil attempts) hheld h
  · intro as hedit
    unfold editSlotState at hedit
    split_ifs at hedit with hresults habsent hsame
    · rw [slotStateValue, if_pos hresults]
      exact Option.isNone_iff_eq_none.mp habsent
    · rw [slotStateValue, if_neg hresults]
      cases hlookup : as.lookup leaseSlotStateAnnotation with
      | none =>
        rw [hlookup] at hsame
        exact absurd hsame.symm (slotStateJSON_ne_empty results)
      | some value =>
        rw [hlookup] at hsame
        exact congrArg some hsame
  · intro as as' hedit
    unfold editSlotState at hedit
    split_ifs at hedit with hresults
    · cases hedit
      rw [slotStateValue, if_pos hresults]
      exact AList.lookup_erase _ _
    · cases hedit
      rw [slotStateValue, if_neg hresults]
      exact AList.lookup_insert _

variable {message reason : String}

theorem publishFault_success (hheld : lease.HeldBy ref.self)
    (h : (publishFault ref reason message attempts lease).2 = none) :
    (publishFault ref reason message attempts lease).1.fault? = none ↔ reason = "" := by
  refine retryOnConflict_success (P := fun as => as.lookup leaseFaultAnnotation = none ↔
    reason = "") ?_ ?_ (attempts_ne_nil attempts) hheld h
  · intro as hedit
    unfold editFault at hedit
    split_ifs at hedit with hreason habsent hsame
    · exact ⟨fun _ => hreason, fun _ => Option.isNone_iff_eq_none.mp habsent⟩
    · refine ⟨fun hnone => ?_, fun hempty => absurd hempty hreason⟩
      rw [hnone] at hsame
      exact hsame.1.symm
  · intro as as' hedit
    unfold editFault at hedit
    split_ifs at hedit with hreason
    · cases hedit
      refine ⟨fun _ => hreason, fun _ => ?_⟩
      rw [AList.lookup_erase_ne (by decide)]
      exact AList.lookup_erase _ _
    · cases hedit
      refine ⟨fun hnone => ?_, fun hempty => absurd hempty hreason⟩
      rw [AList.lookup_insert_ne (by decide), AList.lookup_insert] at hnone
      cases hnone

/-- A publish of the fault leaves the slot states. -/
theorem publishFault_slotState :
    (publishFault ref reason message attempts lease).1.slotState? = lease.slotState? := by
  refine retryOnConflict_preserves
    (P := fun as => as.lookup leaseSlotStateAnnotation = lease.slotState?) ?_ ?_
    (attempts_ne_nil attempts) rfl
  · intro ready reason as has
    rw [lookup_annotate (by decide) (by decide)]
    exact has
  · intro as as' hedit has
    rw [editFault_lookup hedit (by decide) (by decide)]
    exact has

theorem publishSlotState_holder {results : List SlotResult} :
    (publishSlotState ref results attempts lease).1.holder = lease.holder :=
  retryOnConflict_holder (attempts_ne_nil attempts)

theorem publishFault_holder :
    (publishFault ref reason message attempts lease).1.holder = lease.holder :=
  retryOnConflict_holder (attempts_ne_nil attempts)

end

theorem leaderFault_reason {node : String} {applyErr : Option String}
    {unsatisfied : List UnsatisfiedForward} :
    (leaderFault node applyErr unsatisfied).1 = "" ↔ applyErr = none ∧ unsatisfied = [] := by
  unfold leaderFault
  cases applyErr with
  | some err => simp [faultApplyFailed]
  | none =>
    by_cases hunsatisfied : unsatisfied = []
    · simp [hunsatisfied]
    · simp [hunsatisfied, faultNoLocalEndpoint]

end WireguardGateway.Link

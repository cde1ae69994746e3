import WireguardGateway.Lib.Versions
import WireguardGateway.Link.Lease
import WireguardGateway.Link.Readiness

/-!
# Three writers of one Lease

The elector's lock (`tunnelLeaseLock`, `internal/link/leaselock.go`), `publishFault` and
`publishSlotState` (`internal/link/fault.go:93-185`) of every replica write the same Lease.
The lock keeps a copy of it between its calls. `Update` writes its record and its annotations
into that copy before it calls the API, and a call that fails leaves the copy so, under the
version it was read with. The publishers read the Lease, leave it alone if it names another
replica, and update what they read.

A fleet is the API server with any number of replicas, each of them the process of
`Link/Readiness.lean` with the lock's copy and any number of publishers. A write is a request that
travels: the server takes it at any time after it was sent, also after its sender gave up on it, or
never. The server stores a request that names the stored version, or that is to create a Lease where
there is none. A replica may restart at any time and forgets everything; its requests do not.
Somebody may delete the Lease.

Results:
* **`lease_unmixed`**: an annotation of the publishers changes only through a publish that read the
  stored version, and that found it held by its own replica or by nobody; a Lease that names a
  holder carries the readiness that this replica computed for the last lock write that named it; and
  the lock stamps a write as ready only after the callback of the same cycle has completed an apply.

A retry after a conflict is another publish. The rest of the record and the errors are left out.
-/

namespace WireguardGateway.Link

open Function Lib

/-! ## The fleet -/

/-- What a publisher writes: `publishFault` or `publishSlotState`. -/
inductive Publication
  | fault (reason message : String)
  | slotState (results : List SlotResult)
  deriving DecidableEq, Repr

def Publication.edit : Publication → GoMap String String → Option (GoMap String String)
  | .fault reason message => editFault reason message
  | .slotState results => editSlotState results

/-- The annotations it writes. -/
def Publication.keys : Publication → List String
  | .fault _ _ => leaseFaultAnnotation :: leaseFaultMessageAnnotation :: []
  | .slotState _ => leaseSlotStateAnnotation :: []

/-- Where a publisher is. -/
inductive PublishPhase
  | idle
  | reading (p : Publication)
  /-- About to call `Update` with the Lease it read and edited. -/
  | writing (p : Publication) (read : Versioned Lease) (annotations : GoMap String String)

namespace PublishPhase

def resting : PublishPhase → Bool
  | .idle => true
  | _ => false

def reads : PublishPhase → Bool
  | .reading _ => true
  | _ => false

def writes : PublishPhase → Bool
  | .writing _ _ _ => true
  | _ => false

end PublishPhase

/-- Where a request is. -/
inductive RequestPhase
  | unsent
  | sent
  | stored (version : Nat)
  | refused
  deriving DecidableEq, Repr

/-- The version under which the request was stored. -/
def RequestPhase.accepted : RequestPhase → Option Nat
  | .stored version => some version
  | _ => none

/-- What sent the request; for the lock, what the closure answered. -/
inductive LeaseWriter
  | lock (holder : String) (ready : Bool) (reason : String)
  | publisher (p : Publication)
  deriving DecidableEq, Repr

/-- A `Create`, which names no version, or an `Update`. -/
structure LeaseRequest where
  phase : RequestPhase := .unsent
  replica : String := ""
  base : Option Nat := none
  lease : Lease := { holder := none, annotations := ∅ }
  writer : LeaseWriter := .lock "" false ""

/-- A write of a lock that was stored. -/
structure LeaseWrite where
  replica : String
  holder : String
  ready : Bool
  reason : String
  deriving DecidableEq, Repr

/-- A replica: its process, the lock's copy of the Lease, the request the lock
waits for, the publishers. -/
structure LinkReplica where
  process : Contender
  cached : Option (Versioned Lease) := none
  waiting : Option Nat := none
  publishers : Nat → PublishPhase := fun _ => .idle

/-- What is the same throughout: the mode of the Gateway, the node of each replica and what it
inherits. A replica goes by the name of its pod. -/
structure FleetDeps where
  isLocal : Bool
  node : String → String
  inherits : String → Bool

def FleetDeps.replica (d : FleetDeps) (r : String) : ElectionDeps :=
  { podName := r, nodeName := d.node r, watching := d.isLocal, inheritedDataPlane := d.inherits r }

structure Fleet where
  store : VersionedStore Lease := {}
  requests : Nat → LeaseRequest := fun _ => {}
  replicas : String → LinkReplica
  /-- *Bookkeeping*: the writes of locks that were stored, the last one first. -/
  writes : List LeaseWrite := []

/-- The steps of a fleet. -/
inductive FleetStep
  | process (r : String) (a : ContenderStep)
  /-- The lock's `Get`, answered. -/
  | get (r : String)
  /-- The lock's `Create` or `Update` calls the API. -/
  | send (r : String) (id : Nat) (creating : Bool)
  /-- It returns without an error. -/
  | answer (r : String)
  | publish (r : String) (i : Nat) (p : Publication)
  /-- The publisher's `Get` is answered. -/
  | read (r : String) (i : Nat)
  /-- The publisher's `Update` calls the API. -/
  | update (r : String) (i : Nat) (id : Nat)
  /-- The server takes a request. -/
  | deliver (id : Nat)
  | restart (r : String)
  | delete
  deriving DecidableEq, Repr

namespace LinkReplica

/-- What the closure answered. -/
def answer (x : LinkReplica) : Bool × String :=
  match x.process.sample with
  | .answered ready reason => (ready, reason)
  | _ => (false, "")

/-- The Lease that `Create` builds, or that `Update` makes of the lock's copy: the record and the
annotations of this write. -/
def draft (x : LinkReplica) (creating : Bool) : Lease :=
  let kept : GoMap String String :=
    if creating then ∅ else (x.cached.map fun c => c.value.annotations).getD ∅
  { holder := some x.process.write.holder, annotations := annotate x.answer.1 x.answer.2 kept }

/-- The version that the write is to replace. -/
def base (x : LinkReplica) (creating : Bool) : Option Nat :=
  if creating then none else x.cached.map fun c => c.version

def setPublisher (x : LinkReplica) (i : Nat) (phase : PublishPhase) : LinkReplica :=
  { x with publishers := Function.update x.publishers i phase }

/-- The election's step by which the elector's write reaches the API. -/
def sendStep (x : LinkReplica) : ContenderStep :=
  .election (.cycle (x.process.election.started - 1) (.lock (.send ())))

/-- The election's step by which it is answered. -/
def answerStep (x : LinkReplica) : ContenderStep :=
  .election (.cycle (x.process.election.started - 1) (.lock (.answer () true)))

end LinkReplica

/-- What the publisher does with the Lease it read. -/
def Publication.examine (p : Publication) (r : String) : Option (Versioned Lease) → PublishPhase
  | none => .idle
  | some l =>
    if l.value.HeldBy r then
      match p.edit l.value.annotations with
      | none => .idle
      | some annotations => .writing p l annotations
    else .idle

/-- The write of the lock, for the record. -/
def LeaseRequest.log (q : LeaseRequest) : List LeaseWrite :=
  match q.writer with
  | .lock holder ready reason => [{ replica := q.replica, holder, ready, reason }]
  | .publisher _ => []

namespace Fleet

variable (d : FleetDeps) (s : Fleet)

/-- The steps of a process in which the API takes part. -/
def Shared : ContenderStep → Bool
  | .election (.cycle _ (.lock (.send _))) | .election (.cycle _ (.lock (.answer _ true))) => true
  | _ => false

def Enabled : FleetStep → Prop
  | .process r a => (s.replicas r).process.Enabled (d.replica r) a ∧ Shared a = false
  | .get _ => True
  | .send r id creating =>
    (s.replicas r).process.Enabled (d.replica r) (s.replicas r).sendStep ∧
      (s.requests id).phase = .unsent ∧ (creating = true ∨ (s.replicas r).cached.isSome = true)
  | .answer r => (s.replicas r).process.Enabled (d.replica r) (s.replicas r).answerStep ∧
      ((s.replicas r).waiting.any fun id => (s.requests id).phase.accepted.isSome) = true
  | .publish r i _ => ((s.replicas r).publishers i).resting = true
  | .read r i => ((s.replicas r).publishers i).reads = true
  | .update r i id => ((s.replicas r).publishers i).writes = true ∧ (s.requests id).phase = .unsent
  | .deliver id => (s.requests id).phase = .sent
  | .restart _ | .delete => True

def setReplica (r : String) (x : LinkReplica) : Fleet :=
  { s with replicas := Function.update s.replicas r x }

def setRequest (id : Nat) (q : LeaseRequest) : Fleet :=
  { s with requests := Function.update s.requests id q }

/-- `Create` or `Update` of the lock, up to the call of the API. -/
def send (r : String) (id : Nat) (creating : Bool) : Fleet :=
  let x := s.replicas r
  let lease := x.draft creating
  (s.setRequest id
    { phase := .sent
      replica := r
      base := x.base creating
      lease := lease
      writer := .lock x.process.write.holder x.answer.1 x.answer.2 }).setReplica r
    { x with
      process := x.process.next (d.replica r) x.sendStep
      cached := if creating then x.cached else x.cached.map fun c => { c with value := lease }
      waiting := some id }

/-- The rest of it, when the API has stored the write. -/
def answer (r : String) : Fleet :=
  let x := s.replicas r
  let updated := x.waiting.bind fun id =>
    (s.requests id).phase.accepted.map fun version =>
      { version := version, value := (s.requests id).lease }
  s.setReplica r
    { x with
      process := x.process.next (d.replica r) x.answerStep
      cached := updated
      waiting := none }

/-- The publisher's `Update`, up to the call of the API. -/
def update (r : String) (i : Nat) (id : Nat) : Fleet :=
  match (s.replicas r).publishers i with
  | .writing p read annotations =>
    (s.setRequest id
      { phase := .sent
        replica := r
        base := some read.version
        lease := { read.value with annotations := annotations }
        writer := .publisher p }).setReplica r ((s.replicas r).setPublisher i .idle)
  | _ => s

/-- The server takes a request. -/
def deliver (id : Nat) : Fleet :=
  let q := s.requests id
  if s.store.accepts q.base then
    { s.setRequest id { q with phase := .stored (s.store.last + 1) } with
      store := s.store.put q.lease
      writes := q.log ++ s.writes }
  else s.setRequest id { q with phase := .refused }

def next : FleetStep → Fleet
  | .process r a =>
    s.setReplica r { s.replicas r with process := (s.replicas r).process.next (d.replica r) a }
  | .get r =>
    match s.store.current with
    | none => s
    | some l => s.setReplica r { s.replicas r with cached := some l }
  | .send r id creating => s.send d r id creating
  | .answer r => s.answer d r
  | .publish r i p => s.setReplica r ((s.replicas r).setPublisher i (.reading p))
  | .read r i =>
    match (s.replicas r).publishers i with
    | .reading p => s.setReplica r ((s.replicas r).setPublisher i (p.examine r s.store.current))
    | _ => s
  | .update r i id => s.update r i id
  | .deliver id => s.deliver id
  | .restart r => s.setReplica r { process := .start (d.replica r) }
  | .delete => { s with store := s.store.delete }

/-- No Lease, and replicas that start. -/
def start : Fleet := { replicas := fun r => { process := .start (d.replica r) } }

/-- The state after an interleaving. -/
abbrev run (steps : List FleetStep) : Fleet := replay (next d) (start d) steps

/-- Every step of the interleaving was possible when it was taken. -/
abbrev Runs (steps : List FleetStep) : Prop :=
  Guarded (next d) (fun s a => s.Enabled d a) (start d) steps

instance : (a : FleetStep) → Decidable (s.Enabled d a)
  | .process _ _ => inferInstanceAs (Decidable (_ ∧ _ = _))
  | .send _ _ _ => inferInstanceAs (Decidable (_ ∧ _ = _ ∧ (_ = _ ∨ _ = _)))
  | .answer _ => inferInstanceAs (Decidable (_ ∧ _ = _))
  | .update _ _ _ => inferInstanceAs (Decidable (_ = _ ∧ _ = _))
  | .publish _ _ _ | .read _ _ | .deliver _ => inferInstanceAs (Decidable (_ = _))
  | .get _ | .restart _ | .delete => .isTrue trivial

/-- An annotation of the Lease; there is none where there is no Lease. -/
def carried (key : String) : Option String :=
  s.store.current.bind fun l => l.value.annotations.lookup key

end Fleet

/-! ## What a copy is worth -/

/-- The two Leases agree on all annotations but the lock's own. -/
def Lease.Agrees (a b : Lease) : Prop :=
  ∀ key, key ≠ leaseTunnelReadyAnnotation → key ≠ leaseTunnelReasonAnnotation →
    a.annotations.lookup key = b.annotations.lookup key

/-- The Lease names the holder and carries what the closure answered for it. -/
structure Lease.Stamped (l : Lease) (holder : String) (ready : Bool) (reason : String) : Prop where
  named : l.holder = some holder
  annotated : l.annotations.lookup leaseTunnelReadyAnnotation = some (formatBool ready)
  explained : l.annotations.lookup leaseTunnelReasonAnnotation = some (if ready then "" else reason)

theorem Lease.Agrees.refl (l : Lease) : l.Agrees l := fun _ _ _ => rfl

/-- `annotate` on a copy. -/
theorem Lease.Agrees.annotate {a b : Lease} (h : a.Agrees b) (holder : Option String) (ready : Bool)
    (reason : String) :
    Lease.Agrees { holder := holder, annotations := Link.annotate ready reason a.annotations }
      b := by
  intro key hready hreason
  rw [lookup_annotate hready hreason]
  exact h key hready hreason

theorem stamped_annotate (holder : String) (ready : Bool) (reason : String)
    (annotations : GoMap String String) :
    Lease.Stamped { holder := some holder, annotations := annotate ready reason annotations }
      holder ready reason where
  named := rfl
  annotated := by
    unfold annotate
    rw [AList.lookup_insert_ne (by decide), AList.lookup_insert]
  explained := by
    unfold annotate
    rw [AList.lookup_insert]

theorem Publication.edit_lookup {p : Publication} {as as' : GoMap String String} {key : String}
    (h : p.edit as = some as') (hkey : key ∉ p.keys) : as'.lookup key = as.lookup key := by
  cases p with
  | fault reason message =>
    simp only [keys, List.mem_cons, List.not_mem_nil, or_false, not_or] at hkey
    exact editFault_lookup h hkey.1 hkey.2
  | slotState results =>
    simp only [keys, List.mem_singleton] at hkey
    exact editSlotState_lookup h hkey

theorem Publication.keys_published (p : Publication) :
    leaseTunnelReadyAnnotation ∉ p.keys ∧ leaseTunnelReasonAnnotation ∉ p.keys := by
  cases p <;> simp only [keys] <;> decide

/-- A publish leaves the holder and what the lock stamped. -/
theorem Lease.Stamped.publish {l : Lease} {holder reason : String} {ready : Bool} {p : Publication}
    {as : GoMap String String} (h : l.Stamped holder ready reason)
    (hedit : p.edit l.annotations = some as) :
    Lease.Stamped { l with annotations := as } holder ready reason where
  named := h.named
  annotated := (p.edit_lookup hedit p.keys_published.1).trans h.annotated
  explained := (p.edit_lookup hedit p.keys_published.2).trans h.explained

/-- What a request of the lock was made from. -/
def LeaseRequest.FromLock (store : VersionedStore Lease) (q : LeaseRequest) (holder : String)
    (ready : Bool) (reason : String) : Prop :=
  q.lease.Stamped holder ready reason ∧ (holder = q.replica ∨ holder = "") ∧
    match q.base with
    | none => q.lease.Agrees { holder := none, annotations := ∅ }
    | some version => store.Known Lease.Agrees { version := version, value := q.lease }

/-- What a request of a publisher was made from. -/
def LeaseRequest.FromPublisher (store : VersionedStore Lease) (q : LeaseRequest) (p : Publication) :
    Prop :=
  ∃ (read : Versioned Lease) (annotations : GoMap String String), q.base = some read.version ∧
    store.Known Eq read ∧ p.edit read.value.annotations = some annotations ∧
    q.lease = { read.value with annotations := annotations } ∧ read.value.HeldBy q.replica

def LeaseRequest.Grounded (store : VersionedStore Lease) (q : LeaseRequest) : Prop :=
  match q.writer with
  | .lock holder ready reason => q.FromLock store holder ready reason
  | .publisher p => q.FromPublisher store p

/-- Requests on their way, and copies of what was stored. -/
structure LeaseRequest.Sound (store : VersionedStore Lease) (q : LeaseRequest) : Prop where
  sent : q.phase = .sent → q.Grounded store
  stored : ∀ version, q.phase = .stored version →
    store.Known Lease.Agrees { version := version, value := q.lease }

/-- The copies that a replica holds. -/
structure LinkReplica.Sound (d : FleetDeps) (store : VersionedStore Lease) (r : String)
    (x : LinkReplica) : Prop where
  process : x.process.Sound (d.replica r)
  cached : ∀ c, x.cached = some c → store.Known Lease.Agrees c
  writing : ∀ i p read annotations, x.publishers i = .writing p read annotations →
    store.Known Eq read ∧ p.edit read.value.annotations = some annotations ∧ read.value.HeldBy r

/-- The invariant of a fleet. -/
structure Fleet.Sound (d : FleetDeps) (s : Fleet) : Prop where
  valid : s.store.Valid
  replicas : ∀ r, (s.replicas r).Sound d s.store r
  requests : ∀ id, (s.requests id).Sound s.store
  last : ∀ l, s.store.current = some l → ∃ w ws, s.writes = w :: ws ∧
    l.value.Stamped w.holder w.ready w.reason
  named : ∀ w ∈ s.writes, w.holder = w.replica ∨ w.holder = ""

section

variable {d : FleetDeps} {store store' : VersionedStore Lease} {q : LeaseRequest} {x : LinkReplica}
  {r : String}

/-- What survives a change of the store: all that is known of copies. -/
theorem LeaseRequest.Sound.mono (h : q.Sound store)
    (hknown : ∀ {R : Lease → Lease → Prop} {c : Versioned Lease}, store.Known R c →
      store'.Known R c) :
    q.Sound store' where
  sent hsent := by
    have hgrounded := h.sent hsent
    unfold Grounded at hgrounded ⊢
    cases hw : q.writer with
    | lock holder ready reason =>
      rw [hw] at hgrounded
      obtain ⟨hstamped, hholder, hbase⟩ := hgrounded
      refine ⟨hstamped, hholder, ?_⟩
      cases hb : q.base with
      | none =>
        rw [hb] at hbase
        exact hbase
      | some version =>
        rw [hb] at hbase
        exact hknown hbase
    | publisher p =>
      rw [hw] at hgrounded
      obtain ⟨read, annotations, hbase, hread, hrest⟩ := hgrounded
      exact ⟨read, annotations, hbase, hknown hread, hrest⟩
  stored version hstored := hknown (h.stored version hstored)

/-- A request of a publisher that is accepted replaces the version the publisher read. -/
theorem LeaseRequest.FromPublisher.accepted {p : Publication} (h : q.FromPublisher store p)
    (haccepts : store.accepts q.base = true) :
    ∃ (l : Versioned Lease) (annotations : GoMap String String), store.current = some l ∧
      q.base = some l.version ∧ p.edit l.value.annotations = some annotations ∧
      q.lease = { l.value with annotations := annotations } ∧ l.value.HeldBy q.replica := by
  obtain ⟨read, annotations, hbase, hread, hrest⟩ := h
  obtain ⟨l, hl, hversion, hvalue⟩ := hread.accepted (hbase ▸ haccepts)
  rw [hvalue] at hrest
  exact ⟨l, annotations, hl, hbase.trans (congrArg some hversion.symm), hrest⟩

/-- A request of a lock that is accepted leaves the annotations of the publishers. -/
theorem LeaseRequest.FromLock.accepted {holder reason key : String} {ready : Bool}
    (h : q.FromLock store holder ready reason) (haccepts : store.accepts q.base = true)
    (hready : key ≠ leaseTunnelReadyAnnotation) (hreason : key ≠ leaseTunnelReasonAnnotation) :
    q.lease.annotations.lookup key = store.current.bind fun l =>
      l.value.annotations.lookup key := by
  obtain ⟨-, -, hbase⟩ := h
  cases hb : q.base with
  | none =>
    rw [hb] at hbase haccepts
    rw [Option.isNone_iff_eq_none.mp haccepts]
    exact hbase key hready hreason
  | some version =>
    rw [hb] at hbase haccepts
    obtain ⟨l, hl, -, hagrees⟩ := hbase.accepted haccepts
    rw [hl]
    exact hagrees key hready hreason

theorem LinkReplica.Sound.mono (h : x.Sound d store r)
    (hknown : ∀ {R : Lease → Lease → Prop} {c : Versioned Lease}, store.Known R c →
      store'.Known R c) :
    x.Sound d store' r where
  process := h.process
  cached c hc := hknown (h.cached c hc)
  writing i p read annotations hw := by
    obtain ⟨hread, hrest⟩ := h.writing i p read annotations hw
    exact ⟨hknown hread, hrest⟩

theorem LinkReplica.Sound.setPublisher (h : x.Sound d store r) {i : Nat} {phase : PublishPhase}
    (hphase : ∀ p read annotations, phase = .writing p read annotations →
      store.Known Eq read ∧ p.edit read.value.annotations = some annotations ∧
        read.value.HeldBy r) :
    (x.setPublisher i phase).Sound d store r where
  process := h.process
  cached := h.cached
  writing j p read annotations hw := by
    by_cases hj : j = i
    · subst hj
      exact hphase p read annotations (by simpa [LinkReplica.setPublisher] using hw)
    · exact h.writing j p read annotations (by simpa [LinkReplica.setPublisher, hj] using hw)

end

namespace Fleet

variable {d : FleetDeps} {s : Fleet} {r : String} {x : LinkReplica}

theorem Sound.setReplica (h : s.Sound d) (hx : x.Sound d s.store r) : (s.setReplica r x).Sound d :=
  { h with
    replicas := (forall_update_iff _ fun r x => LinkReplica.Sound d s.store r x).mpr
      ⟨hx, fun r' _ => h.replicas r'⟩ }

theorem Sound.setRequest (h : s.Sound d) {id : Nat} {q : LeaseRequest} (hq : q.Sound s.store) :
    (s.setRequest id q).Sound d :=
  { h with
    requests := (forall_update_iff _ fun _ q => LeaseRequest.Sound s.store q).mpr
      ⟨hq, fun id' _ => h.requests id'⟩ }

/-- The lock's copy and the draft made of it. -/
theorem Sound.send (h : s.Sound d) {id : Nat} {creating : Bool}
    (ha : s.Enabled d (.send r id creating)) : (s.send d r id creating).Sound d := by
  obtain ⟨hprocess, -, hcopy⟩ := ha
  have hx := h.replicas r
  have hholder := hx.process.holder ((s.replicas r).process.election.started - 1)
  have hagrees : ∀ c, (s.replicas r).cached = some c → creating = false →
      s.store.Known Lease.Agrees { c with value := (s.replicas r).draft creating } := by
    rintro c hc rfl
    refine (hx.cached c hc).edit fun a hca => ?_
    have hdraft := hca.annotate (some (s.replicas r).process.write.holder) (s.replicas r).answer.1
      (s.replicas r).answer.2
    simpa [LinkReplica.draft, hc] using hdraft
  refine Sound.setReplica (s := s.setRequest id _) (h.setRequest ?_) ?_
  · refine ⟨fun _ => ⟨stamped_annotate _ _ _ _, hholder, ?_⟩,
      fun version hstored => (nomatch hstored)⟩
    cases creating with
    | true =>
      exact (Lease.Agrees.refl { holder := none, annotations := ∅ }).annotate
        (some (s.replicas r).process.write.holder) _ _
    | false =>
      obtain ⟨c, hc⟩ := Option.isSome_iff_exists.mp (hcopy.resolve_left Bool.false_ne_true)
      simp only [LinkReplica.base, hc, Bool.false_eq_true, if_false, Option.map_some]
      exact hagrees c hc rfl
  · refine { hx with process := hx.process.step hprocess, cached := ?_ }
    cases creating with
    | true => exact hx.cached
    | false =>
      intro c hc
      obtain ⟨c', hc', rfl⟩ := Option.map_eq_some_iff.mp hc
      exact hagrees c' hc' rfl

theorem Sound.answer (h : s.Sound d) (ha : s.Enabled d (.answer r)) : (s.answer d r).Sound d := by
  have hx := h.replicas r
  refine h.setReplica { hx with process := hx.process.step ha.1, cached := fun c hc => ?_ }
  obtain ⟨id, -, hid⟩ := Option.bind_eq_some_iff.mp hc
  obtain ⟨version, hversion, rfl⟩ := Option.map_eq_some_iff.mp hid
  have hphase : (s.requests id).phase = .stored version := by
    revert hversion
    cases (s.requests id).phase <;> simp [RequestPhase.accepted]
  exact (h.requests id).stored version hphase

theorem examine_writing {p p' : Publication} {current : Option (Versioned Lease)}
    {read : Versioned Lease}
    {annotations : GoMap String String} (h : p.examine r current = .writing p' read annotations) :
    p' = p ∧ current = some read ∧ p.edit read.value.annotations = some annotations ∧
      read.value.HeldBy r := by
  cases current with
  | none => cases h
  | some l =>
    simp only [Publication.examine] at h
    split_ifs at h with hheld
    split at h
    · cases h
    · rename_i as hedit
      cases h
      exact ⟨rfl, rfl, hedit, hheld⟩

theorem Sound.read (h : s.Sound d) (i : Nat) : (s.next d (.read r i)).Sound d := by
  simp only [next]
  split
  · rename_i p _
    refine h.setReplica ((h.replicas r).setPublisher fun p' read annotations hexamine => ?_)
    obtain ⟨rfl, hcurrent, hedit, hheld⟩ := examine_writing hexamine
    exact ⟨.current h.valid (fun _ => rfl) hcurrent, hedit, hheld⟩
  · exact h

theorem Sound.update (h : s.Sound d) (i id : Nat) : (s.update r i id).Sound d := by
  unfold Fleet.update
  split
  · rename_i p read annotations hwriting
    obtain ⟨hread, hedit, hheld⟩ := (h.replicas r).writing i p read annotations hwriting
    refine Sound.setReplica (s := s.setRequest id _) (h.setRequest ?_)
      ((h.replicas r).setPublisher fun _ _ _ hidle => (nomatch hidle))
    exact ⟨fun _ => ⟨read, annotations, rfl, hread, hedit, rfl, hheld⟩,
      fun _ hstored => (nomatch hstored)⟩
  · exact h

/-- The server stores a request of a lock: it replaces the version the lock's copy has. -/
theorem Sound.deliver (h : s.Sound d) {id : Nat} (hsent : (s.requests id).phase = .sent) :
    (s.deliver id).Sound d := by
  have hgrounded := (h.requests id).sent hsent
  unfold Fleet.deliver
  simp only
  split_ifs with haccepts
  · have hput : ∀ {R : Lease → Lease → Prop} {c : Versioned Lease}, s.store.Known R c →
        (s.store.put (s.requests id).lease).Known R c := fun hc => hc.put _
    refine
      { valid := .put _
        replicas := fun r => (h.replicas r).mono hput
        requests := (forall_update_iff _ fun _ q =>
          LeaseRequest.Sound (s.store.put (s.requests id).lease) q).mpr
            ⟨⟨fun hphase => (nomatch hphase), ?_⟩, fun id' _ => (h.requests id').mono hput⟩
        last := ?_
        named := ?_ }
    · rintro version ⟨⟩
      exact .stored Lease.Agrees.refl _
    · rintro l ⟨⟩
      unfold LeaseRequest.Grounded at hgrounded
      cases hw : (s.requests id).writer with
      | lock holder ready reason =>
        rw [hw] at hgrounded
        exact ⟨⟨(s.requests id).replica, holder, ready, reason⟩,
          s.writes, by simp [LeaseRequest.log, hw], hgrounded.1⟩
      | publisher p =>
        -- the stored version is the one it read, with the stamp of the last lock write
        rw [hw] at hgrounded
        obtain ⟨l, annotations, hl, -, hedit, hlease, -⟩ := hgrounded.accepted haccepts
        obtain ⟨w, ws, hwrites, hstamped⟩ := h.last l hl
        rw [hlease]
        exact ⟨w, ws, by simp [LeaseRequest.log, hw, hwrites], hstamped.publish hedit⟩
    · intro w hmem
      rcases List.mem_append.mp hmem with hlog | hold
      · unfold LeaseRequest.Grounded at hgrounded
        unfold LeaseRequest.log at hlog
        cases hw : (s.requests id).writer with
        | lock holder ready reason =>
          rw [hw] at hgrounded hlog
          cases List.mem_singleton.mp hlog
          exact hgrounded.2.1
        | publisher p =>
          rw [hw] at hlog
          cases hlog
      · exact h.named w hold
  · exact h.setRequest ⟨fun hphase => (nomatch hphase), fun _ hphase => (nomatch hphase)⟩

/-- **A step of the fleet.** -/
theorem Sound.step (h : s.Sound d) {a : FleetStep} (ha : s.Enabled d a) : (s.next d a).Sound d := by
  cases a with
  | process r a =>
    exact h.setReplica { h.replicas r with process := (h.replicas r).process.step ha.1 }
  | get r =>
    simp only [next]
    split
    · exact h
    · rename_i l hl
      refine h.setReplica { h.replicas r with cached := ?_ }
      rintro c ⟨⟩
      exact .current h.valid Lease.Agrees.refl hl
  | send r id creating => exact h.send ha
  | answer r => exact h.answer ha
  | publish r i p =>
    exact h.setReplica ((h.replicas r).setPublisher fun _ _ _ hreading => (nomatch hreading))
  | read r i => exact h.read i
  | update r i id => exact h.update i id
  | deliver id => exact h.deliver ha
  | restart r =>
    exact h.setReplica
      { process := .initial
        cached := fun _ hc => (nomatch hc)
        writing := fun _ _ _ _ hw => (nomatch hw) }
  | delete =>
    exact
      { valid := .delete
        replicas := fun r => (h.replicas r).mono fun hc => hc.delete
        requests := fun id => (h.requests id).mono fun hc => hc.delete
        last := fun _ hl => (nomatch hl)
        named := h.named }

theorem Sound.initial : (start d).Sound d where
  valid := fun _ hl => (nomatch hl)
  replicas _ :=
    { process := .initial
      cached := fun _ hc => (nomatch hc)
      writing := fun _ _ _ _ hw => (nomatch hw) }
  requests _ := ⟨fun hphase => (nomatch hphase), fun _ hphase => (nomatch hphase)⟩
  last := fun _ hl => (nomatch hl)
  named := fun _ hw => (nomatch hw)

theorem Sound.of_runs {steps : List FleetStep} (h : Runs d steps) : (run d steps).Sound d :=
  h.invariant (fun _ _ hs ha => hs.step ha) .initial (List.prefix_refl steps)

/-! ## Whole runs -/

/-- Every other step than the server's leaves the Lease. -/
theorem next_store {a : FleetStep} (hdeliver : ∀ id, a ≠ .deliver id) (hdelete : a ≠ .delete) :
    (s.next d a).store = s.store := by
  cases a with
  | get r | read r i => simp only [next]; split <;> rfl
  | update r i id => simp only [next, Fleet.update]; split <;> rfl
  | deliver id => exact absurd rfl (hdeliver id)
  | delete => exact absurd rfl hdelete
  | _ => rfl

end Fleet

/-- The annotations that the publishers write. -/
def publishedAnnotations : List String :=
  leaseFaultAnnotation :: leaseFaultMessageAnnotation :: leaseSlotStateAnnotation :: []

/-- The step stores a publication whose publisher read the version that is stored, found it held by
its own replica or by nobody, and edited nothing but its own annotations of it. -/
def Fleet.Publishes (d : FleetDeps) (s : Fleet) (a : FleetStep) (key : String) : Prop :=
  ∃ (id : Nat) (p : Publication) (l : Versioned Lease) (annotations : GoMap String String),
    a = .deliver id ∧ (s.requests id).writer = .publisher p ∧ key ∈ p.keys ∧
    s.store.current = some l ∧ (s.requests id).base = some l.version ∧
    l.value.HeldBy (s.requests id).replica ∧ p.edit l.value.annotations = some annotations ∧
    ((s.next d a).store.current.map fun l => l.value) =
      some { l.value with annotations := annotations }

theorem Fleet.Sound.publishes {d : FleetDeps} {s : Fleet} {a : FleetStep} {key : String}
    (h : s.Sound d) (ha : s.Enabled d a) (hkey : key ∈ publishedAnnotations) (hdelete : a ≠ .delete)
    (hchange : (s.next d a).carried key ≠ s.carried key) : s.Publishes d a key := by
  by_cases hdeliver : ∃ id, a = .deliver id
  · obtain ⟨id, rfl⟩ := hdeliver
    have hgrounded := (h.requests id).sent ha
    by_cases haccepts : s.store.accepts (s.requests id).base = true
    · have hstore : (s.next d (.deliver id)).store = s.store.put (s.requests id).lease := by
        simp [next, Fleet.deliver, haccepts]
      have hafter : (s.next d (.deliver id)).carried key =
          (s.requests id).lease.annotations.lookup key := by
        simp [carried, hstore, VersionedStore.put]
      rw [hafter] at hchange
      unfold LeaseRequest.Grounded at hgrounded
      cases hw : (s.requests id).writer with
      | lock holder ready reason =>
        rw [hw] at hgrounded
        refine absurd (hgrounded.accepted haccepts ?_ ?_) hchange
        · rintro rfl
          exact absurd hkey (by decide)
        · rintro rfl
          exact absurd hkey (by decide)
      | publisher p =>
        rw [hw] at hgrounded
        obtain ⟨l, annotations, hl, hbase, hedit, hlease, hheld⟩ := hgrounded.accepted haccepts
        refine ⟨id, p, l, annotations, rfl, hw, ?_, hl, hbase, hheld, hedit, ?_⟩
        · by_contra hnot
          refine hchange ?_
          rw [hlease, carried, hl]
          exact p.edit_lookup hedit hnot
        · rw [hstore, ← hlease]
          rfl
    · refine absurd ?_ hchange
      have hstore : (s.next d (.deliver id)).store = s.store := by
        simp [next, Fleet.deliver, haccepts, Fleet.setRequest]
      rw [carried, hstore, carried]
  · refine absurd ?_ hchange
    rw [carried, next_store (fun id hid => hdeliver ⟨id, hid⟩) hdelete, carried]

theorem formatBool_true {b : Bool} (h : formatBool b = "true") : b = true := by
  cases b
  · exact absurd h (by decide)
  · rfl

/-- What the lock puts on the wire as ready. -/
theorem Fleet.Sound.ready_completed {d : FleetDeps} {s : Fleet} {r : String} {id : Nat}
    {creating : Bool} (h : s.Sound d)
    (hready : ((s.next d (.send r id creating)).requests id).lease.annotations.lookup
      leaseTunnelReadyAnnotation = some "true") :
    (s.replicas r).process.completed ((s.replicas r).process.election.started - 1) = true := by
  refine (h.replicas r).process.stamped ?_
  have hstamped := stamped_annotate (s.replicas r).process.write.holder (s.replicas r).answer.1
    (s.replicas r).answer.2
    (if creating then ∅ else ((s.replicas r).cached.map fun c => c.value.annotations).getD ∅)
  have hlease : ((s.next d (.send r id creating)).requests id).lease =
    (s.replicas r).draft creating := by
    simp [next, Fleet.send, Fleet.setRequest, Fleet.setReplica]
  rw [hlease] at hready
  have hanswer : (s.replicas r).answer.1 = true :=
    formatBool_true (Option.some.inj (hstamped.annotated.symm.trans hready))
  unfold LinkReplica.answer at hanswer
  split at hanswer
  · rename_i ready reason hsample
    rw [hsample, show ready = true from hanswer]
    rfl
  · cases hanswer

/-- **The Lease is never mixed.** In every interleaving of any number of replicas:
* a Lease that names a holder carries the readiness which that replica computed, in the last
  lock write that named it;
* an annotation of the publishers changes, other than with the Lease itself, only when a publish is
  stored whose publisher read the version it replaces, and found no other holder on it;
* a lock stamps its Lease as ready only when the callback of the same cycle
  has completed an apply. -/
theorem lease_unmixed (d : FleetDeps) {steps : List FleetStep} (h : Fleet.Runs d steps) :
    (∀ l r, (Fleet.run d steps).store.current = some l → l.value.holder = some r → r ≠ "" →
      ∃ w, (Fleet.run d steps).writes.find? (fun w => w.holder = r) = some w ∧ w.replica = r ∧
        l.value.Stamped r w.ready w.reason) ∧
    ∀ before a after, steps = before ++ a :: after →
      (∀ key ∈ publishedAnnotations, a ≠ .delete →
        ((Fleet.run d before).next d a).carried key ≠ (Fleet.run d before).carried key →
        (Fleet.run d before).Publishes d a key) ∧
      (∀ r id creating, a = .send r id creating →
        (((Fleet.run d before).next d a).requests id).lease.annotations.lookup
          leaseTunnelReadyAnnotation = some "true" →
        ((Fleet.run d before).replicas r).process.completed
          (((Fleet.run d before).replicas r).process.election.started - 1) = true) := by
  constructor
  · intro l r hl hholder hr
    have hsound := Fleet.Sound.of_runs h
    obtain ⟨w, ws, hwrites, hstamped⟩ := hsound.last l hl
    have hname : w.holder = r := Option.some.inj (hstamped.named.symm.trans hholder)
    refine ⟨w, by rw [hwrites, List.find?_cons_of_pos (by simp [hname])], ?_, hname ▸ hstamped⟩
    rcases hsound.named w (by rw [hwrites]; exact List.mem_cons_self) with hreplica | hnobody
    · exact hreplica.symm.trans hname
    · exact absurd (hname.symm.trans hnobody) hr
  · rintro before a after rfl
    have hsound := Fleet.Sound.of_runs h.left
    refine ⟨fun key hkey hdelete hchange => hsound.publishes h.at hkey hdelete hchange, ?_⟩
    rintro r id creating rfl hready
    exact hsound.ready_completed hready

/-- A Gateway in Cluster mode. -/
def sampleFleet : FleetDeps :=
  { isLocal := false, node := fun _ => "node-a", inherits := fun _ => false }

/-- `link-0` acquires the Lease by a `Create`, leads and completes a pass. -/
def creatingSteps : List FleetStep :=
  ([.election (.main .check), .election (.main .create), .election (.main .launch),
    .election (.cycle 0 (.lock (.start () "link-0"))), .election (.cycle 0 (.lock (.check ()))),
    .election (.cycle 0 (.lock (.enter ()))), .sample, .askLeader]
    : List ContenderStep).map (fun a => .process "link-0" a) ++
  [.send "link-0" 0 true, .deliver 0, .answer "link-0"] ++
  ([.election (.cycle 0 (.lock (.observe ()))), .election (.cycle 0 (.lock (.done ()))),
    .election (.cycle 0 (.elector .win)), .election (.cycle 0 (.callback .claim)),
    .election (.cycle 0 (.callback .startLeading)), .clear 0, .passed,
    .election (.cycle 0 (.callback .setLeader)), .election (.cycle 0 (.callback .lead)),
    .election (.cycle 0 (.callback (.readTerm (some 1)))), .pass 0 1 true, .passed]
    : List ContenderStep).map (fun a => .process "link-0" a)

/-- A renewal of `link-0`, up to its request. -/
def renewingSteps (id : Nat) : List FleetStep :=
  ([.election (.cycle 0 (.lock (.start () "link-0"))), .election (.cycle 0 (.lock (.check ()))),
    .sample, .askLeader, .askApplied, .askTunnel true]
    : List ContenderStep).map (fun a => .process "link-0" a) ++
      [.send "link-0" id false, .deliver id]

/-- The fault is stored between two renewals, so that the first is refused and the second,
after a `Get`, keeps it. -/
def publishingSteps : List FleetStep :=
  creatingSteps ++
  [.publish "link-0" 0 (.fault faultApplyFailed "apply: exit status 1"), .read "link-0" 0,
    .update "link-0" 0 1, .deliver 1] ++ renewingSteps 2 ++
  ([.election (.cycle 0 (.lock (.answer () false))), .election (.cycle 0 (.lock (.observe ()))),
    .election (.cycle 0 (.lock (.done ())))] : List ContenderStep).map
      (fun a => .process "link-0" a) ++
  [.get "link-0"] ++ renewingSteps 3

theorem lease_unmixed_renewed :
    Fleet.Runs sampleFleet publishingSteps ∧
      (Fleet.run sampleFleet publishingSteps).carried leaseFaultAnnotation = some faultApplyFailed ∧
      ∃ l w, (Fleet.run sampleFleet publishingSteps).store.current = some l ∧
        (Fleet.run sampleFleet publishingSteps).writes.find?
          (fun w => w.holder = "link-0") = some w ∧
        w.replica = "link-0" ∧ l.value.Stamped "link-0" w.ready w.reason := by
  have hruns : Fleet.Runs sampleFleet publishingSteps := by decide +kernel
  have hholder : ((Fleet.run sampleFleet publishingSteps).store.current.map fun l =>
      l.value.holder) = some (some "link-0") := by decide +kernel
  obtain ⟨l, hl, hname⟩ := Option.map_eq_some_iff.mp hholder
  obtain ⟨w, hw⟩ := (lease_unmixed sampleFleet hruns).1 l "link-0" hl hname (by decide)
  exact ⟨hruns, by decide +kernel, l, w, hl, hw⟩

end WireguardGateway.Link

import WireguardGateway.Lib.GoMap
import WireguardGateway.Link.Render

/-!
# The endpoint watcher

`internal/link/endpoints.go`: Local mode resolves each forward to a ready backend pod on the node,
from one EndpointSlice informer per Service. Until an informer's first list is in, and within a
grace period, its forwards are *pending*: they are neither programmed nor reported.

The informers belong to the client library. Here an informer is what it shows at an instant: the
slices in its store and whether the first list is in (`SliceInformer`); how that comes about is the
environment's business (`EndpointWatcher.observe`).

Results:
* `mem_setForwards`: the informers after `setForwards` are those of the forwards, so a tracked
  forward always has one (the field `watched`);
* **`snapshot_resolved`**: a resolved forward keeps its port and protocol and has a valid address.

Log lines are left out, and so are the wake-up signals: nothing is said about when the reload loop
runs.
-/

namespace WireguardGateway.Link

open Lib
open Controller (LinkForward)

/-! ## EndpointSlices -/

inductive AddressType where
  | ipv4
  | ipv6
  | fqdn
  deriving DecidableEq, Repr

structure EndpointPort where
  name : Option String
  port : Option Int32
  deriving DecidableEq, Repr

structure Endpoint where
  nodeName : Option String
  ready : Option Bool
  addresses : List String
  deriving DecidableEq, Repr

structure EndpointSlice where
  addressType : AddressType
  endpoints : List Endpoint
  ports : List EndpointPort
  deriving DecidableEq, Repr

/-- `readyIPv4Endpoints`. -/
def readyIPv4Endpoints (slices : List EndpointSlice) (node : String) :
    List (EndpointSlice × Endpoint) :=
  (slices.filter (·.addressType = .ipv4)).flatMap fun s =>
    (s.endpoints.filter fun ep => ep.nodeName = some node ∧ ep.ready ≠ some false).map fun ep =>
      (s, ep)

/-- `hasReadyEndpoint`. -/
def hasReadyEndpoint (slices : List EndpointSlice) (node : String) : Bool :=
  !(readyIPv4Endpoints slices node).isEmpty

/-- `findPort`: the first port of the name decides. -/
def findPort (name : String) : List EndpointPort → Option Int64
  | [] => none
  | p :: ports =>
    if p.name.getD "" ≠ name then findPort name ports else p.port.map Int32.toInt64

structure Candidate where
  addr : String
  port : Int64
  deriving DecidableEq, Repr

/-- The comparison of `selectEndpoint`, as "not after". -/
def candidateLE (a b : Candidate) : Bool :=
  if a.addr ≠ b.addr then a.addr < b.addr else a.port - b.port ≤ 0

def candidates (slices : List EndpointSlice) (node portName : String) : List Candidate :=
  (readyIPv4Endpoints slices node).flatMap fun (s, ep) =>
    match findPort portName s.ports with
    | none => []
    | some port =>
      (ep.addresses.filter fun a => (parseIP a).isSome).map fun addr => { addr, port }

/-- `selectEndpoint`. -/
def selectEndpoint (slices : List EndpointSlice) (node portName : String) : Option Candidate :=
  ((candidates slices node portName).insertionSort (candidateLE · ·)).head?

theorem parseIP_of_selectEndpoint {slices : List EndpointSlice} {node portName : String}
    {c : Candidate} (h : selectEndpoint slices node portName = some c) :
    (parseIP c.addr).isSome := by
  have hmem : c ∈ candidates slices node portName :=
    (List.mem_insertionSort _).mp (List.mem_of_mem_head? h)
  obtain ⟨⟨s, ep⟩, -, hc⟩ := List.mem_flatMap.mp hmem
  simp only at hc
  cases hport : findPort portName s.ports with
  | none =>
    rw [hport] at hc
    cases hc
  | some port =>
    rw [hport] at hc
    obtain ⟨a, ha, rfl⟩ := List.mem_map.mp hc
    exact (List.mem_filter.mp ha).2

/-! ## The watcher -/

/-- `endpointWatcherKey`. -/
structure EndpointWatcherKey where
  namespace_ : String
  serviceName : String
  deriving DecidableEq, Repr

def keyOf (f : LinkForward) : EndpointWatcherKey :=
  { namespace_ := f.namespace_, serviceName := f.serviceName }

structure SliceInformer where
  /-- The informer's store. -/
  slices : List EndpointSlice
  /-- `hasSynced`. -/
  synced : Bool
  /-- When the informer was started, in nanoseconds. -/
  started : Int
  deriving DecidableEq, Repr

/-- `pendingSync`. -/
def SliceInformer.pendingSync (i : SliceInformer) (now grace : Int) : Bool :=
  !i.synced && now - i.started < grace

/-- `startSliceInformer`. -/
def startSliceInformer (now : Int) : SliceInformer :=
  { slices := [], synced := false, started := now }

/-- `endpointSyncGrace`. -/
def endpointSyncGrace : Int := 30 * 10 ^ 9

/-- Every tracked forward has its informer. -/
structure EndpointWatcher where
  node : String
  forwards : List LinkForward
  slices : GoMap EndpointWatcherKey SliceInformer
  watched : ∀ f ∈ forwards, keyOf f ∈ slices

namespace EndpointWatcher

/-- The informers after the first loop of `setForwards`. -/
def startMissing (now : Int) (slices : GoMap EndpointWatcherKey SliceInformer)
    (forwards : List LinkForward) : GoMap EndpointWatcherKey SliceInformer :=
  forwards.foldl (fun m f => if keyOf f ∈ m then m else m.insert (keyOf f) (startSliceInformer now))
    slices

/-- The informers after the second loop of `setForwards`. -/
def stopUnwanted (forwards : List LinkForward) (slices : GoMap EndpointWatcherKey SliceInformer) :
    GoMap EndpointWatcherKey SliceInformer :=
  (slices.keys.filter (· ∉ forwards.map keyOf)).foldl (fun m key => m.erase key) slices

variable {key : EndpointWatcherKey}

theorem mem_startMissing {now : Int} : ∀ {forwards : List LinkForward}
    {slices : GoMap EndpointWatcherKey SliceInformer},
    key ∈ startMissing now slices forwards ↔ key ∈ forwards.map keyOf ∨ key ∈ slices := by
  intro forwards
  induction forwards with
  | nil => simp [startMissing]
  | cons f fs ih =>
    intro slices
    have hstep : key ∈ startMissing now slices (f :: fs) ↔ key ∈ fs.map keyOf ∨
        key ∈ (if keyOf f ∈ slices then slices
          else slices.insert (keyOf f) (startSliceInformer now)) := ih
    rw [hstep, List.map_cons, List.mem_cons]
    split_ifs with hf
    · constructor
      · rintro (h | h)
        · exact .inl (.inr h)
        · exact .inr h
      · rintro ((rfl | h) | h)
        · exact .inr hf
        · exact .inl h
        · exact .inr h
    · rw [AList.mem_insert]
      tauto

theorem mem_foldl_erase : ∀ {keys : List EndpointWatcherKey}
    {slices : GoMap EndpointWatcherKey SliceInformer},
    key ∈ keys.foldl (fun m key => m.erase key) slices ↔ key ∈ slices ∧ key ∉ keys := by
  intro keys
  induction keys with
  | nil => simp
  | cons k keys ih =>
    intro slices
    rw [List.foldl_cons, ih, AList.mem_erase, List.mem_cons]
    tauto

/-- **The informers after `setForwards`** are those of the forwards. -/
theorem mem_setForwards {now : Int} {forwards : List LinkForward}
    {slices : GoMap EndpointWatcherKey SliceInformer} :
    key ∈ stopUnwanted forwards (startMissing now slices forwards) ↔ key ∈ forwards.map keyOf := by
  unfold stopUnwanted
  rw [mem_foldl_erase, List.mem_filter, ← AList.mem_keys, mem_startMissing]
  simp only [decide_eq_true_eq]
  tauto

/-- `setForwards`. -/
def setForwards (w : EndpointWatcher) (forwards : List LinkForward) (now : Int) : EndpointWatcher :=
  if w.forwards = forwards then w
  else
    { w with
      forwards
      slices := stopUnwanted forwards (startMissing now w.slices forwards)
      watched := fun _ hf => mem_setForwards.mpr (List.mem_map_of_mem hf) }

@[simp] theorem setForwards_forwards {w : EndpointWatcher} {forwards : List LinkForward}
    {now : Int} : (w.setForwards forwards now).forwards = forwards := by
  unfold setForwards
  split_ifs with h
  · exact h
  · rfl

/-- `newEndpointWatcher`, once the pod informer has synced. -/
def new (node : String) (forwards : List LinkForward) (now : Int) : EndpointWatcher :=
  setForwards
    { node, forwards := [], slices := ∅, watched := fun _ hf => absurd hf List.not_mem_nil }
    forwards now

/-- An informer's store changes, and its first list may come in; it stays in. -/
def observe (w : EndpointWatcher) (key : EndpointWatcherKey) (slices : List EndpointSlice)
    (synced : Bool) : EndpointWatcher :=
  match w.slices.lookup key with
  | none => w
  | some i =>
    { w with
      slices := w.slices.replace key { i with slices, synced := i.synced || synced }
      watched := fun f hf => AList.mem_replace.mpr (w.watched f hf) }

theorem observe_forwards {w : EndpointWatcher} {slices : List EndpointSlice} {synced : Bool} :
    (w.observe key slices synced).forwards = w.forwards := by
  unfold observe
  cases w.slices.lookup key <;> rfl

end EndpointWatcher

/-! ## The snapshot -/

structure UnsatisfiedForward where
  name : String
  reason : String
  deriving DecidableEq, Repr

def reasonWatchUnsynced : String := "endpoint watch not synced"

def reasonNoLocalPod : String := "no ready backend pod on this node"

def reasonPortNotFound : String := "service port not found on the ready local endpoints"

/-- Why `selectEndpoint` found nothing. -/
def unresolvedReason (slices : List EndpointSlice) (node : String) : String :=
  if hasReadyEndpoint slices node then reasonPortNotFound else reasonNoLocalPod

/-- What `snapshot` returns. -/
structure Snapshot where
  resolved : List ResolvedForward
  unsatisfied : List UnsatisfiedForward
  pending : List String
  deriving DecidableEq, Repr

def Snapshot.empty : Snapshot := { resolved := [], unsatisfied := [], pending := [] }

/-- What a forward comes to at an instant. -/
inductive ForwardState where
  | pending
  | unsatisfied (reason : String)
  | resolved (c : Candidate)
  deriving DecidableEq, Repr

namespace EndpointWatcher

variable (w : EndpointWatcher) (now : Int)

/-- The body of the loop of `snapshot`, for the informer it found. -/
def stateWith (i : SliceInformer) (f : LinkForward) : ForwardState :=
  if i.pendingSync now endpointSyncGrace then .pending
  else if !i.synced then .unsatisfied reasonWatchUnsynced
  else
    match selectEndpoint i.slices w.node f.servicePortName with
    | some c => .resolved c
    | none => .unsatisfied (unresolvedReason i.slices w.node)

/-- A forward of the watcher has an informer (`watched`); another has no state. -/
def stateOf (f : LinkForward) : Option ForwardState :=
  (w.slices.lookup (keyOf f)).map fun i => w.stateWith now i f

def resolvedAs (f : LinkForward) (c : Candidate) : ResolvedForward :=
  { name := f.name, publicPort := f.publicPort, protocol := f.protocol, target := c.addr,
    targetPort := c.port }

/-- The loop of `snapshot`. -/
def snapshotLoop : List LinkForward → Snapshot
  | [] => .empty
  | f :: fs =>
    let rest := snapshotLoop fs
    match w.stateOf now f with
    | none => rest
    | some .pending => { rest with pending := f.name :: rest.pending }
    | some (.unsatisfied reason) =>
      { rest with unsatisfied := { name := f.name, reason } :: rest.unsatisfied }
    | some (.resolved c) => { rest with resolved := resolvedAs f c :: rest.resolved }

/-- `snapshot`. -/
def snapshot : Snapshot := w.snapshotLoop now w.forwards

variable {w now}

theorem mem_snapshotLoop_resolved {r : ResolvedForward} : ∀ {fs : List LinkForward},
    r ∈ (w.snapshotLoop now fs).resolved →
      ∃ f ∈ fs, ∃ c, w.stateOf now f = some (.resolved c) ∧ r = resolvedAs f c := by
  intro fs
  induction fs with
  | nil => intro h; cases h
  | cons f fs ih =>
    intro h
    have hrest : r ∈ (w.snapshotLoop now fs).resolved →
        ∃ g ∈ f :: fs, ∃ c, w.stateOf now g = some (.resolved c) ∧ r = resolvedAs g c := by
      intro h
      obtain ⟨g, hg, hstate⟩ := ih h
      exact ⟨g, List.mem_cons_of_mem _ hg, hstate⟩
    rw [snapshotLoop] at h
    cases hstate : w.stateOf now f with
    | none =>
      rw [hstate] at h
      exact hrest h
    | some state =>
      rw [hstate] at h
      cases state with
      | pending | unsatisfied reason => exact hrest h
      | resolved c =>
        rcases List.mem_cons.mp h with rfl | h
        · exact ⟨f, List.mem_cons_self, c, hstate, rfl⟩
        · exact hrest h

theorem parseIP_of_stateOf {f : LinkForward} {c : Candidate}
    (h : w.stateOf now f = some (.resolved c)) : (parseIP c.addr).isSome := by
  unfold stateOf at h
  obtain ⟨i, -, hi⟩ := Option.map_eq_some_iff.mp h
  unfold stateWith at hi
  split_ifs at hi
  cases hselect : selectEndpoint i.slices w.node f.servicePortName with
  | none =>
    rw [hselect] at hi
    cases hi
  | some c' =>
    rw [hselect] at hi
    cases hi
    exact parseIP_of_selectEndpoint hselect

/-- **A resolved forward** is one of the watcher's, with a valid address for its target. -/
theorem snapshot_resolved {r : ResolvedForward} (h : r ∈ (w.snapshot now).resolved) :
    ∃ f ∈ w.forwards, r.name = f.name ∧ r.publicPort = f.publicPort ∧ r.protocol = f.protocol ∧
      (parseIP r.target).isSome := by
  obtain ⟨f, hf, c, hstate, rfl⟩ := mem_snapshotLoop_resolved h
  exact ⟨f, hf, rfl, rfl, rfl, parseIP_of_stateOf hstate⟩

end EndpointWatcher

end WireguardGateway.Link

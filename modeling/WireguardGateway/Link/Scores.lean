import Mathlib.Data.Finset.Dedup
import WireguardGateway.Link.Endpoints

/-!
# The election's view

`evaluate` and `scoreLocked` (`internal/link/endpoints.go:288-365`): from the state of the
informers, the nodes that carry a Ready link pod and how many forwards each node could serve. The
election trusts a full score to mean that an apply on the node satisfies every forward
(`endpoints.go:336-337`).

A score and a snapshot read the same stores through the same `selectEndpoint`, behind different
gates: a snapshot counts a forward as resolved only if its informer has synced, a score does not
ask. A list that is in the store in part and stuck past the grace is the difference.

Results:
* `snapshot_all_iff`: with nothing pending, a snapshot resolves every forward iff every informer has
  synced and every forward has an endpoint on the node;
* **`fullScore_iff`**: a full score of the own node then means the same iff no informer is unsynced
  while every forward has an endpoint; `partialList_scores` is a reachable state where one is.
-/

namespace WireguardGateway.Link

open Lib
open Controller (LinkForward)

/-! ## Pods -/

/-- A link pod, as the informer has it: its conditions as types and statuses. -/
structure Pod where
  name : String
  nodeName : String
  conditions : List (String × String)
  deriving DecidableEq, Repr

/-- `podReady`: the first condition of the type decides. -/
def podReady (p : Pod) : Bool := (p.conditions.lookup "Ready").any (· = "True")

/-- `liveNodes`. -/
def liveNodes (pods : List Pod) : Finset String :=
  ((pods.filter fun p => p.nodeName ≠ "" ∧ podReady p).map (·.nodeName)).toFinset

/-! ## The view -/

/-- `electionView`. The values of the source's `live` are all true; a node without a score reads
as 0. -/
structure ElectionView where
  forwardCount : Int
  pending : List String
  live : Finset String
  scores : String → Int

namespace EndpointWatcher

variable (w : EndpointWatcher)

/-- The forward's informer has an endpoint for it on the node. -/
def serves (node : String) (f : LinkForward) : Bool :=
  (w.slices.lookup (keyOf f)).any fun i => (selectEndpoint i.slices node f.servicePortName).isSome

/-- The forward's informer has synced. -/
def synced (f : LinkForward) : Bool := (w.slices.lookup (keyOf f)).any (·.synced)

/-- The forward's informer is still listing, within the grace. -/
def awaits (now : Int) (f : LinkForward) : Bool :=
  (w.slices.lookup (keyOf f)).any (·.pendingSync now endpointSyncGrace)

/-- `scoreLocked`. -/
def score (node : String) : Nat := w.forwards.countP (w.serves node)

/-- `evaluate`. -/
def evaluate (pods : List Pod) (now : Int) : ElectionView where
  forwardCount := w.forwards.length
  pending := (w.forwards.filter (w.awaits now)).map (·.name)
  live := liveNodes pods
  scores node := if node ∈ liveNodes pods ∨ node = w.node then w.score node else 0

variable {w} {now : Int}

theorem evaluate_own (pods : List Pod) : (w.evaluate pods now).scores w.node = w.score w.node :=
  if_pos (.inr rfl)

theorem awaits_of_pending_nil {pods : List Pod} (h : (w.evaluate pods now).pending = []) :
    ∀ f ∈ w.forwards, w.awaits now f = false := by
  intro f hf
  have hnone : w.forwards.filter (w.awaits now) = [] := List.map_eq_nil_iff.mp h
  exact Bool.eq_false_iff.mpr (List.filter_eq_nil_iff.mp hnone f hf)

/-! ## A snapshot with nothing pending -/

/-- What a forward comes to, once its informer is not pending. -/
theorem stateOf_settled {f : LinkForward} (hf : f ∈ w.forwards) (hawaits : w.awaits now f = false) :
    (∃ c, w.stateOf now f = some (.resolved c)) ∧ w.synced f = true ∧ w.serves w.node f = true ∨
      (∃ reason, w.stateOf now f = some (.unsatisfied reason)) ∧
        ¬ (w.synced f = true ∧ w.serves w.node f = true) := by
  obtain ⟨i, hi⟩ := Option.isSome_iff_exists.mp (AList.lookup_isSome.mpr (w.watched f hf))
  unfold awaits at hawaits
  rw [hi, Option.any_some] at hawaits
  unfold stateOf stateWith synced serves
  rw [hi, Option.map_some, hawaits, Option.any_some, Option.any_some]
  cases hsynced : i.synced with
  | false => exact .inr ⟨⟨reasonWatchUnsynced, rfl⟩, fun h => nomatch h.1⟩
  | true =>
    cases hselect : selectEndpoint i.slices w.node f.servicePortName with
    | none => exact .inr ⟨⟨_, rfl⟩, fun h => nomatch h.2⟩
    | some c => exact .inl ⟨⟨c, rfl⟩, rfl, rfl⟩

/-- The snapshot's loop over forwards that are not pending. -/
theorem snapshotLoop_all_iff : ∀ {fs : List LinkForward}, (∀ f ∈ fs, f ∈ w.forwards) →
    (∀ f ∈ fs, w.awaits now f = false) →
    ((w.snapshotLoop now fs).resolved.map (·.name) = fs.map (·.name) ∧
        (w.snapshotLoop now fs).unsatisfied = [] ↔
      ∀ f ∈ fs, w.synced f = true ∧ w.serves w.node f = true) := by
  intro fs
  induction fs with
  | nil => exact fun _ _ => ⟨fun _ f hf => absurd hf List.not_mem_nil, fun _ => ⟨rfl, rfl⟩⟩
  | cons f fs ih =>
    intro hmem hawaits
    have hrest := ih (fun g hg => hmem g (List.mem_cons_of_mem f hg))
      fun g hg => hawaits g (List.mem_cons_of_mem f hg)
    rw [snapshotLoop, List.forall_mem_cons, ← hrest]
    rcases stateOf_settled (hmem f List.mem_cons_self) (hawaits f List.mem_cons_self) with
      ⟨⟨c, hc⟩, hsettled⟩ | ⟨⟨reason, hreason⟩, hnot⟩
    · rw [hc]
      simp only [List.map_cons, resolvedAs, List.cons.injEq, true_and]
      exact ⟨fun h => ⟨hsettled, h⟩, fun h => h.2⟩
    · rw [hreason]
      exact ⟨(fun h => by cases h.2), fun h => absurd h.1 hnot⟩

/-- **A snapshot with nothing pending** resolves every forward iff every informer has synced and has
an endpoint on the node. -/
theorem snapshot_all_iff (hawaits : ∀ f ∈ w.forwards, w.awaits now f = false) :
    (w.snapshot now).resolved.map (·.name) = w.forwards.map (·.name) ∧
        (w.snapshot now).unsatisfied = [] ↔
      ∀ f ∈ w.forwards, w.synced f = true ∧ w.serves w.node f = true :=
  snapshotLoop_all_iff (fun _ hf => hf) hawaits

end EndpointWatcher

/-! ## Full scores -/

/-- **A full score means a full apply**, at an instant with nothing pending, iff every informer has
synced whenever every forward has an endpoint on the node. -/
theorem fullScore_iff (w : EndpointWatcher) (pods : List Pod) (now : Int)
    (hpending : (w.evaluate pods now).pending = []) :
    ((w.evaluate pods now).scores w.node = (w.evaluate pods now).forwardCount ↔
        (w.snapshot now).resolved.map (·.name) = w.forwards.map (·.name) ∧
          (w.snapshot now).unsatisfied = []) ↔
      ((∀ f ∈ w.forwards, w.serves w.node f = true) → ∀ f ∈ w.forwards, w.synced f = true) := by
  have hscore : (w.evaluate pods now).scores w.node = (w.evaluate pods now).forwardCount ↔
      ∀ f ∈ w.forwards, w.serves w.node f = true := by
    rw [EndpointWatcher.evaluate_own]
    exact Int.natCast_inj.trans List.countP_eq_length
  rw [hscore, EndpointWatcher.snapshot_all_iff (EndpointWatcher.awaits_of_pending_nil hpending)]
  constructor
  · intro hiff hserves f hf
    exact (hiff.mp hserves f hf).1
  · intro hsynced
    exact ⟨fun hserves f hf => ⟨hsynced hserves f hf, hserves f hf⟩, fun h f hf => (h f hf).2⟩

/-- The states of a watcher: forward sets come and go, and informers receive
their lists in parts. -/
inductive EndpointWatcher.Reachable : EndpointWatcher → Prop
  | new (node : String) (forwards : List LinkForward) (now : Int) :
      Reachable (EndpointWatcher.new node forwards now)
  | setForwards {w : EndpointWatcher} (hw : Reachable w) (forwards : List LinkForward) (now : Int) :
      Reachable (w.setForwards forwards now)
  | observe {w : EndpointWatcher} (hw : Reachable w) (key : EndpointWatcherKey)
      (slices : List EndpointSlice) (synced : Bool) : Reachable (w.observe key slices synced)

/-- A ready pod behind port 443. -/
def sampleSlice : EndpointSlice where
  addressType := .ipv4
  endpoints := [{ nodeName := some "node-a", ready := some true, addresses := ["10.1.2.3"] }]
  ports := [{ name := some "https", port := some 8443 }]

def sampleForward : LinkForward where
  name := "web"
  publicPort := 443
  protocol := "tcp"
  service := ""
  targetPort := 0
  namespace_ := "default"
  serviceName := "web"
  servicePortName := "https"

/-- The informer's first list, as far as it got. -/
def listing (synced : Bool) : EndpointWatcher :=
  (EndpointWatcher.new "node-a" [sampleForward] 0).observe (keyOf sampleForward)
    [sampleSlice] synced

theorem fullScore_iff_synced :
    ((listing true).evaluate [] 0).pending = [] ∧
      (((listing true).evaluate [] 0).scores "node-a" =
        ((listing true).evaluate [] 0).forwardCount ↔
        ((listing true).snapshot 0).resolved.map (·.name) = (listing true).forwards.map (·.name) ∧
          ((listing true).snapshot 0).unsatisfied = []) :=
  ⟨by decide +kernel, (fullScore_iff (listing true) [] 0 (by decide +kernel)).mpr
    (by decide +kernel)⟩

/-- A list that is stuck past the grace with the endpoint already in the store: the score is full,
and an apply satisfies nothing. -/
theorem partialList_scores :
    (listing false).Reachable ∧ ((listing false).evaluate [] endpointSyncGrace).pending = [] ∧
      ((listing false).evaluate [] endpointSyncGrace).scores "node-a" =
        ((listing false).evaluate [] endpointSyncGrace).forwardCount ∧
      ((listing false).snapshot endpointSyncGrace).resolved = [] ∧
      ((listing false).snapshot endpointSyncGrace).unsatisfied =
        [{ name := "web", reason := reasonWatchUnsynced }] :=
  ⟨.observe (.new _ _ _) _ _ _, by decide +kernel, by decide +kernel, by decide +kernel,
    by decide +kernel⟩

end WireguardGateway.Link

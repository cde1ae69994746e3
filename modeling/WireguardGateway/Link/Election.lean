import WireguardGateway.Link.AcquisitionLock
import WireguardGateway.Link.Custody

/-!
# The election: cycles, fences and the kept data plane

`runElection` (`internal/link/election.go:247-417`) with every goroutine it starts, as a step
relation. A process runs one *cycle* after another. In a cycle the elector contends for the Lease;
when it wins, the leadership callback runs the reload loop until the term ends, and then either
fences the data plane or keeps it (fail-static), which hands it to the process-wide flag
`pending`. Three watches may end a cycle through `endCycle`: on shutdown, on lapsed entry
conditions, on a handoff. Holder observations arrive in callbacks that nobody joins, and in the
polls of the entry gate.

A step is one access to shared state: a field under its mutex, an atomic, a channel, a context. A
fence holds `fenceMu` from the step that begins it to the step that ends it. What the environment
decides is an argument of the step: what a read of the Lease returned, when the reload loop or a
renewal fails, which node the pod informer places a holder on. Timers may expire at any time.

Of client-go's elector the model has what its documentation and code say: it makes its writes one
after another and only while `Run` runs; `acquire` succeeds exactly if one of its writes did, and
only then the callback is started, once; `Run` returns without it only if its context was cancelled;
the leader's context ends with the election's and with `Run`; observations are dispatched in
goroutines of their own.

The fields under *Bookkeeping* are read by no step: they record what happened, for the statements.

Log lines, fault texts, the writes of `publishFault` and the decisions of the watches (any time is
possible) are left out.
-/

namespace WireguardGateway.Link

open Function Lib

/-! ## One cycle -/

/-- What `electionDeps` says for good: the replica's pod and node, whether it has an endpoint
watcher (Local mode), and whether an earlier process left a data plane. -/
structure ElectionDeps where
  podName : String
  nodeName : String
  watching : Bool
  inheritedDataPlane : Bool
  deriving DecidableEq, Repr

/-- The two contexts of the process: `outerCtx` ends at SIGTERM, `gctx` also
when a sibling fails. -/
structure Contexts where
  outer : Bool := false
  group : Bool := false
  deriving DecidableEq, Repr

/-- The callers of `endCycle`. -/
inductive Ender
  | shutdown
  | entry
  | handoff
  deriving DecidableEq, Repr

/-- Where a call of `endCycle` is. -/
inductive EnderPhase
  | idle
  | marking
  /-- In `leave`, whose own steps are those of the lock. -/
  | leaving
  | asking
  /-- Waiting for `registered`. -/
  | awaiting
  | taking
  /-- Waiting for `reloadDone`. -/
  | draining
  /-- About to take `fenceMu` in `fenceCycle`. -/
  | locking
  | fencing
  /-- Waiting for `teardownDone`. -/
  | settling
  | cancelling
  | returned
  deriving DecidableEq, Repr

/-- A call of `endCycle`, and whether it logged one of its two timeouts. -/
structure EndCall where
  phase : EnderPhase := .idle
  timedOut : Bool := false
  deriving DecidableEq, Repr

/-- Where the elector's `Run` is. -/
inductive ElectorPhase
  | idle
  | acquiring
  | leading
  | returned
  deriving DecidableEq, Repr

/-- `Run` is running. -/
def ElectorPhase.running : ElectorPhase → Bool
  | .acquiring | .leading => true
  | _ => false

/-- Where `OnStartedLeading` is. -/
inductive CallbackPhase
  | idle
  | claiming
  | starting
  | promoting
  | registering
  | reading
  | reloading
  | closingReload
  /-- `leaderCtx.Err() == nil`. -/
  | asking
  /-- `!cycle.stopped()`. -/
  | checking
  /-- The reload loop failed: about to take `fenceMu`. -/
  | failing
  | failFencing
  | failCancelling
  | readingOuter
  | readingGroup
  /-- `steppedDown.Load()`. -/
  | loading
  /-- `cycle.stopped()`. -/
  | consulting
  | readingHolder
  /-- The decision is to keep the data plane: about to take `fenceMu`. -/
  | keeping
  /-- The decision is to tear it down: about to take `fenceMu`. -/
  | locking
  | fencing
  | clearing
  | closingTeardown
  | demoting
  | closingDone
  | finished
  deriving DecidableEq, Repr

/-- `OnStartedLeading` with the values it has read. -/
structure Callback where
  phase : CallbackPhase := .idle
  keptDataPlane : Bool := false
  acquiredTerm : Option Int := none
  reloadFailed : Bool := false
  sigterm : Bool := false
  forced : Bool := false
  stepped : Bool := false
  deriving DecidableEq, Repr

/-- `teardownDecision`: `read` is what the read after the end returned, `acquiredTerm` the one at
the beginning; `none` is a read that failed. -/
def teardownDecision (steppedDown sigterm forced : Bool) (read : Option (String × Int))
    (self : String) (acquiredTerm : Option Int) : Bool :=
  if steppedDown || sigterm || forced then true
  else
    match read, acquiredTerm with
    | some (holder, term), some acquired => holder != self && term > acquired
    | _, _ => false

/-- What became of a cycle's data plane. -/
inductive PlaneEnd
  | standing
  | fencing
  | fenced
  | handed
  deriving DecidableEq, Repr

/-- Its fence has run to its end, or it belongs to the pending flag. -/
def PlaneEnd.settled : PlaneEnd → Bool
  | .fenced | .handed => true
  | _ => false

/-- `leadershipCycle`, with the goroutines of the cycle. -/
structure LeadershipCycle where
  lock : LockState Unit Ender := {}
  elector : ElectorPhase := .idle
  /-- `electionCtx` is cancelled. -/
  cancelled : Bool := false
  /-- The watches of the cycle are set up, and `stopShutdownWatch` was called. -/
  watched : Bool := false
  unwatched : Bool := false
  otherHolder : Bool := false
  /-- `stopReload` and `reloadDone` are stored and `registered` is closed: one critical section. -/
  registered : Bool := false
  ended : Bool := false
  /-- `watchCtx` is cancelled by `stop` or `cancelWatch`. -/
  stopReload : Bool := false
  reloadDone : Bool := false
  teardownDone : Bool := false
  done : Bool := false
  fenced : Bool := false
  steppedDown : Bool := false
  cycleErr : Bool := false
  callback : Callback := {}
  enders : Ender → EndCall := fun _ => {}
  /-- *Bookkeeping.* -/
  planeEnd : PlaneEnd := .standing

namespace LeadershipCycle

variable (c : LeadershipCycle)

/-- `leaderCtx.Err() != nil`. -/
def leaderDone : Bool := c.cancelled || c.elector == .returned

/-- The callback moves on. -/
def goto (phase : CallbackPhase) : LeadershipCycle :=
  { c with callback := { c.callback with phase := phase } }

/-- The call of `endCycle` moves on. -/
def move (e : Ender) (phase : EnderPhase) : LeadershipCycle :=
  { c with enders := update c.enders e { c.enders e with phase := phase } }

/-- The call of `endCycle` moves on after a logged timeout. -/
def expire (e : Ender) (phase : EnderPhase) : LeadershipCycle :=
  { c with enders := update c.enders e { phase := phase, timedOut := true } }

/-- `fenceCycle` skips a cycle that was fenced, or handed over. -/
def skips (pending : Bool) : Bool := c.fenced || pending

/-- A fence of the cycle begins, respectively ends. -/
def beginFence : LeadershipCycle := { c with fenced := true, planeEnd := .fencing }

def endFence : LeadershipCycle := { c with planeEnd := .fenced }

end LeadershipCycle

/-- The steps of the elector besides its writes. -/
inductive ElectorStep
  /-- `acquire` succeeds and the callback is started. -/
  | win
  /-- `acquire` gives up. -/
  | lose
  /-- The renewals end and `Run` returns. -/
  | stop
  deriving DecidableEq, Repr

/-- The steps of the callback. -/
inductive CallbackStep
  | claim
  | startLeading
  | setLeader
  | lead
  | readTerm (term : Option Int)
  /-- `watchAndReload` returns, with an error or not. -/
  | reload (failed : Bool)
  | closeReload
  | askLeader
  | askStopped
  | fence
  | fenceDone
  | cancel
  | readOuter
  | readGroup
  | loadStepped
  | loadStopped
  | readHolder (read : Option (String × Int))
  | keep
  | clear
  | closeTeardown
  | unsetLeader
  | closeDone
  deriving DecidableEq, Repr

/-- The steps of a call of `endCycle`. -/
inductive EndStep
  | call
  | mark
  /-- `leave` has returned. -/
  | left
  | ask
  | await
  | expire
  | take
  | drained
  | fence
  | fenceDone
  | settle
  | cancel
  deriving DecidableEq, Repr

/-- The steps of a cycle. -/
inductive CycleStep
  | lock (a : LockStep Unit Ender)
  | elector (a : ElectorStep)
  | callback (a : CallbackStep)
  | ender (e : Ender) (a : EndStep)
  deriving DecidableEq, Repr

/-! ## The process -/

/-- Who observes holders: the poll of the entry gate, and the callbacks `OnNewLeader`. -/
inductive Observer
  | poll
  | callback (i : Nat)
  deriving DecidableEq, Repr

/-- Where an observation is. -/
inductive NoticePhase
  | idle
  /-- The poll is about to read the Lease. -/
  | reading
  /-- `OnNewLeader` is dispatched. -/
  | dispatched
  | observing
  | loading
  /-- About to take `fenceMu` in `fenceKept`. -/
  | locking
  | fencing
  | returned
  deriving DecidableEq, Repr

/-- An observation of the holder, on its way. -/
structure Notice where
  phase : NoticePhase := .idle
  holder : String := ""
  /-- The cycle whose elector dispatched it. -/
  cycle : Nat := 0
  /-- *Bookkeeping*: the terms that had begun when the Lease was read. -/
  term : Nat := 0
  deriving DecidableEq, Repr

/-- Where `runElection` is. -/
inductive MainPhase
  | looping
  /-- In `waitForEntryEligible`. -/
  | gate
  | creating
  | launching
  /-- In `elector.Run`. -/
  | electing
  | joining
  | unwatching
  | cancelling
  | exiting
  | exitFencing
  | returned
  deriving DecidableEq, Repr

/-- Who can hold `fenceMu` while a fence runs. -/
inductive Fencer
  | callback (k : Nat)
  | ender (k : Nat) (e : Ender)
  | notice (o : Observer)
  | exit
  deriving DecidableEq, Repr

/-- The cycle whose fence it is; none for a fence of the kept data plane. -/
def Fencer.cycle : Fencer → Option Nat
  | .callback k | .ender k _ => some k
  | .notice _ | .exit => none

/-- Evidence that another replica took over: the holder, the node the pod informer had it on, and
the terms begun when the Lease was read. -/
structure Evidence where
  term : Nat
  holder : String
  node : Option String
  deriving DecidableEq, Repr

/-- The evidence that `observeHolder` reports. -/
def Notice.evidence (n : Notice) (node : Option String) : Evidence :=
  { term := n.term, holder := n.holder, node := node }

/-- The process. -/
structure Election where
  ctx : Contexts := {}
  /-- `pendingFence`. -/
  pending : Bool := false
  fenceMu : Option Fencer := none
  /-- `dataPlane.otherHolder`. -/
  otherHolder : Bool := false
  /-- `readiness.leader`. -/
  leader : Bool := false
  main : MainPhase := .looping
  /-- The cycles that were created, and all of them. -/
  started : Nat := 0
  cycles : Nat → LeadershipCycle := fun _ => {}
  notices : Observer → Notice := fun _ => {}
  /-- *Bookkeeping*: the terms begun, the one that claimed last and the one that last called
  `startLeading` (terms count from 1), and the evidence that was reported. -/
  custody : Custody := {}
  terms : Nat := 0
  claimed : Nat := 0
  led : Nat := 0
  evidence : List Evidence := []

/-- The steps of `runElection` itself. -/
inductive MainStep
  | check
  | poll
  | read (holder : Option String)
  | contend
  | create
  | launch
  | launchFail
  | ran
  | join
  | unwatch
  | cancel
  | exit
  | exitDone
  deriving DecidableEq, Repr

/-- The steps of an observation. -/
inductive NoticeStep
  /-- The elector of a cycle reads another holder and dispatches `OnNewLeader`. -/
  | dispatch (k : Nat) (holder : String)
  | note
  /-- `observeHolder`, with the node on which the pod informer has the holder. -/
  | observe (node : Option String)
  | load
  | fence
  | fenceDone
  deriving DecidableEq, Repr

/-- The steps of the process and of what it runs in. -/
inductive ElectionStep
  | cycle (k : Nat) (a : CycleStep)
  | notice (o : Observer) (a : NoticeStep)
  | main (a : MainStep)
  | sigterm
  | siblingFailure
  | standbyPass
  deriving DecidableEq, Repr

/-! ## When a step is possible -/

/-- A step of the lock belongs to a thread: its writes to the elector, `leave` to
a call of `endCycle`. -/
def LeadershipCycle.EnabledLock (c : LeadershipCycle) (a : LockStep Unit Ender) : Prop :=
  c.lock.Enabled a ∧
    match a with
    | .start _ _ => c.elector.running = true
    | .leave e | .drain e | .finish e | .timeout e => (c.enders e).phase = .leaving
    | _ => True

/-- The elector acts between its writes. -/
def LeadershipCycle.EnabledElector (c : LeadershipCycle) (a : ElectorStep) : Prop :=
  (c.lock.writes ()).phase.resting = true ∧
    match a with
    | .win => c.elector = .acquiring ∧ c.lock.lock.acquired = true
    | .lose => c.elector = .acquiring ∧ c.lock.lock.acquired = false ∧ c.cancelled = true
    | .stop => c.elector = .leading

def LeadershipCycle.EnabledCallback (c : LeadershipCycle) (fenceMu : Option Fencer) :
    CallbackStep → Prop
  | .claim => c.callback.phase = .claiming ∧ fenceMu = none
  | .startLeading => c.callback.phase = .starting
  | .setLeader => c.callback.phase = .promoting
  | .lead => c.callback.phase = .registering
  | .readTerm _ => c.callback.phase = .reading
  | .reload failed =>
    c.callback.phase = .reloading ∧ (failed = true ∨ c.stopReload = true ∨ c.leaderDone = true)
  | .closeReload => c.callback.phase = .closingReload
  | .askLeader => c.callback.phase = .asking
  | .askStopped => c.callback.phase = .checking
  | .fence => (c.callback.phase = .failing ∨ c.callback.phase = .locking) ∧ fenceMu = none
  | .fenceDone => c.callback.phase = .failFencing ∨ c.callback.phase = .fencing
  | .cancel => c.callback.phase = .failCancelling
  | .readOuter => c.callback.phase = .readingOuter
  | .readGroup => c.callback.phase = .readingGroup
  | .loadStepped => c.callback.phase = .loading
  | .loadStopped => c.callback.phase = .consulting
  | .readHolder _ => c.callback.phase = .readingHolder
  | .keep => c.callback.phase = .keeping ∧ fenceMu = none
  | .clear => c.callback.phase = .clearing
  | .closeTeardown => c.callback.phase = .closingTeardown
  | .unsetLeader => c.callback.phase = .demoting
  | .closeDone => c.callback.phase = .closingDone

/-- What makes each watch call `endCycle`: the shutdown watch the end of `gctx` while it is not
stopped, the other two their own decision, at any time after they were started. -/
def LeadershipCycle.MayEnd (d : ElectionDeps) (ctx : Contexts) (c : LeadershipCycle) : Ender → Prop
  | .shutdown => c.watched = true ∧ c.unwatched = false ∧ ctx.group = true
  | .entry => d.watching = true ∧ c.watched = true
  | .handoff => d.watching = true ∧ c.registered = true

def LeadershipCycle.EnabledEnd (d : ElectionDeps) (ctx : Contexts) (c : LeadershipCycle)
    (fenceMu : Option Fencer) (e : Ender) : EndStep → Prop
  | .call => (c.enders e).phase = .idle ∧ c.MayEnd d ctx e
  | .mark => (c.enders e).phase = .marking
  | .left => (c.enders e).phase = .leaving ∧
      (c.lock.leaves e = .returned true ∨ c.lock.leaves e = .returned false)
  | .ask => (c.enders e).phase = .asking
  | .await => (c.enders e).phase = .awaiting ∧ c.registered = true
  | .expire => (c.enders e).phase = .awaiting
  | .take => (c.enders e).phase = .taking
  | .drained => (c.enders e).phase = .draining ∧ c.reloadDone = true
  | .fence => (c.enders e).phase = .locking ∧ fenceMu = none
  | .fenceDone => (c.enders e).phase = .fencing
  | .settle => (c.enders e).phase = .settling ∧ c.teardownDone = true
  | .cancel => (c.enders e).phase = .cancelling

def LeadershipCycle.Enabled (d : ElectionDeps) (ctx : Contexts) (fenceMu : Option Fencer)
    (c : LeadershipCycle) : CycleStep → Prop
  | .lock a => c.EnabledLock a
  | .elector a => c.EnabledElector a
  | .callback a => c.EnabledCallback fenceMu a
  | .ender e a => c.EnabledEnd d ctx fenceMu e a

/-- The cycle that was created last. -/
def Election.last (s : Election) : LeadershipCycle := s.cycles (s.started - 1)

def Election.EnabledMain (s : Election) : MainStep → Prop
  | .check => s.main = .looping
  | .poll => s.main = .gate ∧ (s.notices .poll).phase = .idle
  | .read _ => s.main = .gate ∧ (s.notices .poll).phase = .reading
  | .contend => s.main = .gate ∧ (s.notices .poll).phase = .idle
  | .create => s.main = .creating
  | .launch | .launchFail => s.main = .launching
  | .ran => s.main = .electing ∧ s.last.elector = .returned
  | .join => s.main = .joining ∧ (s.last.lock.lock.acquired = true → s.last.done = true)
  | .unwatch => s.main = .unwatching
  | .cancel => s.main = .cancelling
  | .exit => s.main = .exiting ∧ s.fenceMu = none
  | .exitDone => s.main = .exitFencing

def Election.EnabledNotice (s : Election) (o : Observer) : NoticeStep → Prop
  | .dispatch k _ => o ≠ .poll ∧ (s.notices o).phase = .idle ∧ (s.cycles k).elector.running = true
  | .note => (s.notices o).phase = .dispatched
  | .observe _ => (s.notices o).phase = .observing
  | .load => (s.notices o).phase = .loading
  | .fence => (s.notices o).phase = .locking ∧ s.fenceMu = none
  | .fenceDone => (s.notices o).phase = .fencing

def Election.Enabled (d : ElectionDeps) (s : Election) : ElectionStep → Prop
  | .cycle k a => (s.cycles k).Enabled d s.ctx s.fenceMu a
  | .notice o a => s.EnabledNotice o a
  | .main a => s.EnabledMain a
  | .sigterm | .siblingFailure => True
  | .standbyPass => d.watching = true

instance (c : LeadershipCycle) : (a : LockStep Unit Ender) → Decidable (c.EnabledLock a)
  | .start _ _ | .leave _ | .drain _ | .finish _ | .timeout _ =>
      inferInstanceAs (Decidable (_ ∧ _ = _))
  | .check _ | .enter _ | .send _ | .answer _ _ | .observe _ | .done _ =>
    inferInstanceAs (Decidable (_ ∧ True))

instance (c : LeadershipCycle) : (a : ElectorStep) → Decidable (c.EnabledElector a)
  | .win => inferInstanceAs (Decidable (_ ∧ _ = _ ∧ _ = _))
  | .lose => inferInstanceAs (Decidable (_ ∧ _ = _ ∧ _ = _ ∧ _ = _))
  | .stop => inferInstanceAs (Decidable (_ ∧ _ = _))

instance (c : LeadershipCycle) (fenceMu : Option Fencer) :
    (a : CallbackStep) → Decidable (c.EnabledCallback fenceMu a)
  | .claim | .keep => inferInstanceAs (Decidable (_ = _ ∧ _ = _))
  | .reload _ => inferInstanceAs (Decidable (_ = _ ∧ (_ = _ ∨ _ = _ ∨ _ = _)))
  | .fence => inferInstanceAs (Decidable ((_ = _ ∨ _ = _) ∧ _ = _))
  | .fenceDone => inferInstanceAs (Decidable (_ = _ ∨ _ = _))
  | .startLeading | .setLeader | .lead | .readTerm _ | .closeReload | .askLeader | .askStopped
  | .cancel | .readOuter | .readGroup | .loadStepped | .loadStopped | .readHolder _ | .clear
  | .closeTeardown | .unsetLeader | .closeDone => inferInstanceAs (Decidable (_ = _))

instance (d : ElectionDeps) (ctx : Contexts) (c : LeadershipCycle) :
    (e : Ender) → Decidable (c.MayEnd d ctx e)
  | .shutdown => inferInstanceAs (Decidable (_ = _ ∧ _ = _ ∧ _ = _))
  | .entry | .handoff => inferInstanceAs (Decidable (_ = _ ∧ _ = _))

instance (d : ElectionDeps) (ctx : Contexts) (c : LeadershipCycle) (fenceMu : Option Fencer)
    (e : Ender) : (a : EndStep) → Decidable (c.EnabledEnd d ctx fenceMu e a)
  | .call => inferInstanceAs (Decidable (_ = _ ∧ _))
  | .left => inferInstanceAs (Decidable (_ = _ ∧ (_ = _ ∨ _ = _)))
  | .await | .drained | .fence | .settle => inferInstanceAs (Decidable (_ = _ ∧ _ = _))
  | .mark | .ask | .expire | .take | .fenceDone | .cancel => inferInstanceAs (Decidable (_ = _))

instance (d : ElectionDeps) (ctx : Contexts) (fenceMu : Option Fencer) (c : LeadershipCycle) :
    (a : CycleStep) → Decidable (c.Enabled d ctx fenceMu a)
  | .lock a => inferInstanceAs (Decidable (c.EnabledLock a))
  | .elector a => inferInstanceAs (Decidable (c.EnabledElector a))
  | .callback a => inferInstanceAs (Decidable (c.EnabledCallback fenceMu a))
  | .ender e a => inferInstanceAs (Decidable (c.EnabledEnd d ctx fenceMu e a))

instance (s : Election) : (a : MainStep) → Decidable (s.EnabledMain a)
  | .poll | .read _ | .contend | .ran | .exit => inferInstanceAs (Decidable (_ = _ ∧ _ = _))
  | .join => inferInstanceAs (Decidable (_ = _ ∧ (_ = _ → _ = _)))
  | .check | .create | .launch | .launchFail | .unwatch | .cancel | .exitDone =>
    inferInstanceAs (Decidable (_ = _))

instance (s : Election) (o : Observer) : (a : NoticeStep) → Decidable (s.EnabledNotice o a)
  | .dispatch _ _ => inferInstanceAs (Decidable (_ ≠ _ ∧ _ = _ ∧ _ = _))
  | .fence => inferInstanceAs (Decidable (_ = _ ∧ _ = _))
  | .note | .observe _ | .load | .fenceDone => inferInstanceAs (Decidable (_ = _))

instance (d : ElectionDeps) (s : Election) : (a : ElectionStep) → Decidable (s.Enabled d a)
  | .cycle k a => inferInstanceAs (Decidable ((s.cycles k).Enabled d s.ctx s.fenceMu a))
  | .notice o a => inferInstanceAs (Decidable (s.EnabledNotice o a))
  | .main a => inferInstanceAs (Decidable (s.EnabledMain a))
  | .sigterm | .siblingFailure => .isTrue trivial
  | .standbyPass => inferInstanceAs (Decidable (_ = _))

/-! ## What a step does -/

namespace LeadershipCycle

variable (d : ElectionDeps) (ctx : Contexts) (pending : Bool) (c : LeadershipCycle)

def nextElector : ElectorStep → LeadershipCycle
  | .win => { c.goto .claiming with elector := .leading }
  | .lose | .stop => { c with elector := .returned }

/-- The decision, from what the callback has read. -/
def decide (read : Option (String × Int)) : LeadershipCycle :=
  if teardownDecision c.callback.stepped c.callback.sigterm c.callback.forced read d.podName
      c.callback.acquiredTerm = true then c.goto .locking
  else c.goto .keeping

/-- With `stepped` read: the Lease is read only if nothing has decided yet. -/
def weigh (stepped : Bool) : LeadershipCycle :=
  let c' := { c with callback := { c.callback with stepped := stepped } }
  if stepped || c.callback.sigterm || c.callback.forced then c'.decide d none
  else c'.goto .readingHolder

/-- The fence of the callback, before or after the decision: where it goes when it is
skipped, and when it runs. -/
def fencePhases : CallbackPhase → CallbackPhase × CallbackPhase
  | .failing => (.failCancelling, .failFencing)
  | _ => (.clearing, .fencing)

def nextCallback : CallbackStep → LeadershipCycle
  | .claim =>
    { c with callback := { c.callback with phase := .starting, keptDataPlane := pending } }
  | .startLeading => c.goto .promoting
  | .setLeader => c.goto .registering
  | .lead => { c.goto .reading with registered := true, stopReload := c.stopReload || c.ended }
  | .readTerm term =>
    { c with callback := { c.callback with phase := .reloading, acquiredTerm := term } }
  | .reload _ => c.goto .closingReload
  | .closeReload => { c.goto .asking with reloadDone := true, stopReload := true }
  | .askLeader => if c.leaderDone then c.goto .readingOuter else c.goto .checking
  | .askStopped =>
    if c.ended then c.goto .readingOuter
    else
      { c with
        cycleErr := true
        callback := { c.callback with phase := .failing, reloadFailed := true } }
  | .fence =>
    if c.skips pending then c.goto (fencePhases c.callback.phase).1
    else c.beginFence.goto (fencePhases c.callback.phase).2
  | .fenceDone =>
    if c.callback.phase = .failFencing then c.endFence.goto .failCancelling
    else c.endFence.goto .clearing
  | .cancel => { c.goto .readingOuter with cancelled := true }
  | .readOuter =>
    { c with callback := { c.callback with phase := .readingGroup, sigterm := ctx.outer } }
  | .readGroup =>
    { c with
      callback :=
        { c.callback with
          phase := .loading
          forced := (ctx.group && !c.callback.sigterm) || c.callback.reloadFailed } }
  | .loadStepped => if c.steppedDown then c.weigh d true else c.goto .consulting
  | .loadStopped => c.weigh d c.ended
  | .readHolder read => c.decide d read
  | .keep =>
    if c.fenced then c.goto .closingTeardown
    else { c.goto .closingTeardown with fenced := true, planeEnd := .handed }
  | .clear => c.goto .closingTeardown
  | .closeTeardown => { c.goto .demoting with teardownDone := true }
  | .unsetLeader => c.goto .closingDone
  | .closeDone => { c.goto .finished with done := true }

def nextEnd (e : Ender) : EndStep → LeadershipCycle
  | .call => { c.move e .marking with steppedDown := c.steppedDown || e == .handoff }
  | .mark => { c.move e .leaving with ended := true }
  | .left => if c.lock.leaves e = .returned true then c.move e .asking else c.expire e .asking
  | .ask => if c.lock.lock.acquired then c.move e .awaiting else c.move e .cancelling
  | .await => c.move e .taking
  | .expire => c.expire e .taking
  | .take =>
    if c.registered then { c.move e .draining with stopReload := true } else c.move e .cancelling
  | .drained => c.move e .locking
  | .fence => if c.skips pending then c.move e .settling else c.beginFence.move e .fencing
  | .fenceDone => c.endFence.move e .settling
  | .settle => c.move e .cancelling
  | .cancel => { c.move e .returned with cancelled := true }

def next : CycleStep → LeadershipCycle
  | .lock a => { c with lock := c.lock.next d.podName a }
  | .elector a => c.nextElector a
  | .callback a => c.nextCallback d ctx pending a
  | .ender e a => c.nextEnd pending e a

end LeadershipCycle

namespace Election

variable (d : ElectionDeps) (s : Election)

/-- What a step of the cycle `k` does to the rest of the process. -/
def effect (k : Nat) : CycleStep → Election
  | .elector .win => { s with terms := s.terms + 1 }
  | .callback .claim =>
    { s with pending := false, custody := s.custody.claim k, claimed := s.terms }
  | .callback .startLeading => { s with otherHolder := false, led := s.claimed }
  | .callback .setLeader => { s with leader := true }
  | .callback .fence =>
    if (s.cycles k).skips s.pending then s
    else { s with fenceMu := some (.callback k), custody := s.custody.fence k }
  | .callback .fenceDone => { s with fenceMu := none }
  | .callback .keep =>
    if (s.cycles k).fenced then s else { s with pending := true, custody := s.custody.keep k }
  | .callback .unsetLeader => { s with leader := false }
  | .ender e .fence =>
    if (s.cycles k).skips s.pending then s
    else { s with fenceMu := some (.ender k e), custody := s.custody.fence k }
  | .ender _ .fenceDone => { s with fenceMu := none }
  | _ => s

def setCycle (k : Nat) (c : LeadershipCycle) : Election := { s with cycles := update s.cycles k c }

def nextCycle (k : Nat) (a : CycleStep) : Election :=
  (s.effect k a).setCycle k ((s.cycles k).next d s.ctx s.pending a)

/-- `observeHolder`: another replica's pod, in Local mode one that the informer
places on another node. -/
def isOtherHolder (holder : String) (node : Option String) : Bool :=
  holder != "" && holder != d.podName &&
    (!d.watching || (match node with | some n => n != d.nodeName | none => false))

def setNotice (o : Observer) (n : Notice) : Election := { s with notices := update s.notices o n }

/-- The observation moves on. -/
def moveNotice (o : Observer) (phase : NoticePhase) : Election :=
  s.setNotice o { s.notices o with phase := phase }

/-- The observation is over: a callback returned, the poll may begin again. -/
def dropNotice (o : Observer) : Election :=
  s.moveNotice o (if o = .poll then .idle else .returned)

/-- `fenceKept` under the mutex, by `f`. -/
def fenceKept (f : Fencer) : Election :=
  { s with pending := false, fenceMu := some f, custody := s.custody.fenceKept }

def nextNotice (o : Observer) : NoticeStep → Election
  | .dispatch k holder =>
    s.setNotice o { phase := .dispatched, holder := holder, cycle := k, term := s.terms }
  | .note =>
    let n := s.notices o
    if n.holder != "" && n.holder != d.podName then
      (s.setCycle n.cycle { s.cycles n.cycle with otherHolder := true }).moveNotice o .observing
    else s.moveNotice o .observing
  | .observe node =>
    let n := s.notices o
    if isOtherHolder d n.holder node then
      { s.moveNotice o .loading with
        otherHolder := true
        evidence := n.evidence node :: s.evidence }
    else s.dropNotice o
  | .load => if s.pending then s.moveNotice o .locking else s.dropNotice o
  | .fence =>
    if s.pending then (s.fenceKept (.notice o)).moveNotice o .fencing else s.dropNotice o
  | .fenceDone => { s.dropNotice o with fenceMu := none }

def setLast (c : LeadershipCycle) : Election := s.setCycle (s.started - 1) c

def nextMain : MainStep → Election
  | .check =>
    { s with main := if s.ctx.group then .exiting else if d.watching then .gate else .creating }
  | .poll => if s.pending then s.moveNotice .poll .reading else s
  | .read none => s.moveNotice .poll .idle
  | .read (some holder) =>
    s.setNotice .poll { phase := .observing, holder := holder, term := s.terms }
  | .contend => { s with main := if s.ctx.group then .exiting else .creating }
  | .create =>
    { s.setCycle s.started { watched := true } with started := s.started + 1, main := .launching }
  | .launch => { s.setLast { s.last with elector := .acquiring } with main := .electing }
  | .launchFail =>
    { s.setLast { s.last with unwatched := true, cancelled := true } with main := .exiting }
  | .ran => { s with main := .joining }
  | .join => { s with main := .unwatching }
  | .unwatch => { s.setLast { s.last with unwatched := true } with main := .cancelling }
  | .cancel =>
    { s.setLast { s.last with cancelled := true } with
      main := if s.last.cycleErr then .exiting else .looping }
  | .exit =>
    if s.pending then { s.fenceKept .exit with main := .exitFencing }
    else { s with main := .returned }
  | .exitDone => { s with fenceMu := none, main := .returned }

def next : ElectionStep → Election
  | .cycle k a => s.nextCycle d k a
  | .notice o a => s.nextNotice d o a
  | .main a => s.nextMain d a
  | .sigterm => { s with ctx := { outer := true, group := true } }
  | .siblingFailure => { s with ctx := { s.ctx with group := true } }
  | .standbyPass => s

/-- The process as `Run` starts it. -/
def start : Election :=
  { pending := d.inheritedDataPlane
    custody := { kept := if d.inheritedDataPlane then [.inherited] else [] } }

/-- The state after an interleaving. -/
abbrev run (steps : List ElectionStep) : Election := replay (next d) (start d) steps

/-- Every step of the interleaving was possible when it was taken. -/
abbrev Runs (steps : List ElectionStep) : Prop := Guarded (next d) (Enabled d) (start d) steps

end Election

end WireguardGateway.Link

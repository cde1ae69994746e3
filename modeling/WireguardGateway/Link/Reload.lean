import WireguardGateway.Link.Conntrack
import WireguardGateway.Link.Digest
import WireguardGateway.Link.Lease

/-!
# The reload loop

`watchAndReload` (`internal/link/reconcile.go:24-124`), by which the holder of the Lease keeps the
node current. Each invocation loads the config, takes one snapshot of the endpoints and applies
both, unless their digests are those of the last invocation in which everything succeeded.

`Reload.step` is one invocation, with the outcome that says on which of its paths it returned.
Around it the environment is free: what the config file holds, how the informers fare and what the
other goroutine (`watchLocalForwards`) tells the watcher, before the invocation and between its
`setForwards` and its `snapshot`; how names resolve; which commands fail, through the runner; and
which calls to the API server fail.

Results, for every runner:
* **`step_ends`**: the paths of an invocation, with what each leaves;
* `loop_remembers`: the digests stand for the config and the snapshot of the last invocation that
  recorded them;
* `Prepared.plain`: the forwards of a snapshot come from validated configs;
* `reconciled_installs`: an invocation installs the ruleset of its config and its forwards or none,
  and one that records its digests installed it.

When the loop is woken, and the log lines, are left out.
-/

namespace WireguardGateway.Link

open Lib Lib.Plan
open Controller (RuntimeConfig LinkForward)

variable {σ : Type}

/-! ## The environment -/

/-- `preCheckFault`; no fault has the empty reason. -/
structure PreCheckFault where
  reason : String
  message : String
  deriving DecidableEq, Repr

/-- What `watchAndReload` and its `reconcile` are called with. -/
structure LoopConfig (σ : Type) where
  path : String
  nodeName : String
  lease : LeaseRef
  privKey : String
  identity : Option Controller.GatewayIdentity
  keptDataPlane : Bool
  preCheck : PreCheckFault
  sha : Sha256
  readSysctl : String → σ → SysctlRead

/-- What happens to the watcher outside the reload loop. -/
inductive WatchEvent where
  | informer (key : EndpointWatcherKey) (slices : List EndpointSlice) (synced : Bool)
  /-- `watchLocalForwards` reads the config file. -/
  | config (file : Except String String) (now : Int)

/-- One invocation of the loop's `apply`: what it meets. -/
structure Invocation where
  before : List WatchEvent
  file : Except String String
  /-- When `setForwards` runs. -/
  setAt : Int
  between : List WatchEvent
  /-- When `snapshot` runs. -/
  now : Int
  resolve : String → Except String String
  tempFile : Int64 → Except String String
  remove : String → Option String
  slotAttempts : Attempts
  faultAttempts : Attempts

namespace LoopConfig

variable (cfg : LoopConfig σ)

def load (file : Except String String) : Except String RuntimeConfig :=
  loadRuntimeConfigMatching cfg.path cfg.identity file

def env (i : Invocation) : ApplyEnv :=
  { nodeName := cfg.nodeName, privKey := cfg.privKey, resolve := i.resolve, tempFile := i.tempFile,
    remove := i.remove }

/-- One event of the watcher's life. -/
def watchEvent (w : EndpointWatcher) : WatchEvent → EndpointWatcher
  | .informer key slices synced => w.observe key slices synced
  | .config file now =>
    match cfg.load file with
    | .ok rc => w.setForwards rc.forwards now
    | .error _ => w

def watch (events : List WatchEvent) (w : EndpointWatcher) : EndpointWatcher :=
  events.foldl cfg.watchEvent w

end LoopConfig

/-! ## The loop -/

/-- `forwardNames`. -/
def forwardNames (forwards : List LinkForward) (pending : List String) : List String :=
  (forwards.filter (·.name ∉ pending)).map (·.name)

/-- The loop's variables and all it works on. -/
structure Reload (σ : Type) where
  lastConfigDigest : String
  lastRulesetDigest : String
  /-- None is the nil map. -/
  appliedForwards : Option (List String)
  /-- None in Cluster mode. -/
  watcher : Option EndpointWatcher
  process : Process σ
  lease : Lease

/-- What `newLeaderReconcile`'s function returns and leaves. -/
structure Reconciled (σ : Type) where
  process : Process σ
  lease : Lease
  /-- The results and the error of the apply, if the pre-check let it run. -/
  pass : Option (List SlotResult × Option String)
  err : Option String

/-- `newLeaderReconcile`. -/
def leaderReconcile (run : Runner Command σ) (cfg : LoopConfig σ) (i : Invocation)
    (rc : RuntimeConfig) (snap : Snapshot) (process : Process σ) (lease : Lease) : Reconciled σ :=
  if cfg.preCheck.reason ≠ "" then
    { process
      lease := (publishFault cfg.lease cfg.preCheck.reason cfg.preCheck.message i.faultAttempts
        lease).1
      pass := none
      err := some ("node pre-check fault " ++ cfg.preCheck.reason ++ ": " ++ cfg.preCheck.message) }
  else
    let ((dp, results, applyErr), host) :=
      linkApply run process.dp rc (cfg.env i) snap.resolved process.host
    let lease := (publishSlotState cfg.lease results i.slotAttempts lease).1
    let (reason, message) := leaderFault cfg.nodeName applyErr snap.unsatisfied
    let (lease, publishErr) := publishFault cfg.lease reason message i.faultAttempts lease
    { process := { dp, host }
      lease
      pass := some (results, applyErr)
      err := match applyErr, publishErr with
        | none, some e => some ("publish lease fault " ++ quote reason ++ ": " ++ e)
        | _, _ => applyErr }

/-- The invocation records its digests: no error, and no slot down. -/
def Reconciled.records (r : Reconciled σ) : Bool :=
  match r.err, r.pass with
  | none, some (results, _) => results.all (·.applied)
  | _, _ => false

/-- On which path an invocation returned. -/
inductive Outcome (σ : Type) where
  | notLoaded (cause : String)
  | waitingSync (rc : RuntimeConfig) (snap : Snapshot)
  | unchanged (rc : RuntimeConfig) (snap : Snapshot)
  | waitingEndpoint (rc : RuntimeConfig) (snap : Snapshot)
  | reconciled (rc : RuntimeConfig) (snap : Snapshot) (r : Reconciled σ)

namespace Reload

variable (run : Runner Command σ) (cfg : LoopConfig σ) (s : Reload σ)

/-- The forwards the guard on pending ones consults. -/
def guarded (rc : RuntimeConfig) : List String :=
  s.appliedForwards.getD (if cfg.keptDataPlane then forwardNames rc.forwards [] else [])

/-- The invocation up to its snapshot. -/
def prepare (i : Invocation) (rc : RuntimeConfig) : Reload σ × Snapshot :=
  let s := { s with
    process := { s.process with
      host := (reassertSlotSysctls run cfg.readSysctl rc s.process.host).2 }
    appliedForwards := some (s.guarded cfg rc) }
  match s.watcher with
  | none => (s, .empty)
  | some w =>
    let w := cfg.watch i.between (w.setForwards rc.forwards i.setAt)
    ({ s with watcher := some w }, w.snapshot i.now)

/-- The digest of the ruleset a snapshot renders to. -/
def rulesetDig (rc : RuntimeConfig) (snap : Snapshot) : String :=
  rulesetDigest cfg.sha (renderNftables rc snap.resolved cfg.nodeName).text snap.unsatisfied

def changed (rc : RuntimeConfig) (snap : Snapshot) : Bool :=
  configDigest cfg.sha rc ≠ s.lastConfigDigest ||
    (s.watcher.isSome && rulesetDig cfg rc snap ≠ s.lastRulesetDigest)

/-- What an invocation that reached `reconcile` leaves. -/
def finish (rc : RuntimeConfig) (snap : Snapshot) (r : Reconciled σ) : Reload σ :=
  let s := { s with process := r.process, lease := r.lease }
  if r.records then
    { s with
      lastConfigDigest := configDigest cfg.sha rc
      lastRulesetDigest := if s.watcher.isSome then rulesetDig cfg rc snap else s.lastRulesetDigest
      appliedForwards := some (forwardNames rc.forwards snap.pending) }
  else s

/-- The rest of an invocation, after its snapshot. -/
def decide (i : Invocation) (rc : RuntimeConfig) (snap : Snapshot) : Reload σ × Outcome σ :=
  if snap.pending.any (· ∈ s.appliedForwards.getD []) then (s, .waitingSync rc snap)
  else if !s.changed cfg rc snap then (s, .unchanged rc snap)
  else if rc.wireguard.peers.any (·.endpoint = "") then (s, .waitingEndpoint rc snap)
  else
    let r := leaderReconcile run cfg i rc snap s.process s.lease
    (s.finish cfg rc snap r, .reconciled rc snap r)

/-- What happens to the watcher before an invocation. -/
def observe (i : Invocation) : Reload σ := { s with watcher := s.watcher.map (cfg.watch i.before) }

/-- The invocation, once it has loaded the config. -/
def loaded (i : Invocation) (rc : RuntimeConfig) : Reload σ × Outcome σ :=
  let (s, snap) := s.prepare run cfg i rc
  s.decide run cfg i rc snap

/-- One invocation of `apply`. -/
def step (i : Invocation) : Reload σ × Outcome σ :=
  let s := s.observe cfg i
  match cfg.load i.file with
  | .error cause => (s, .notLoaded cause)
  | .ok rc => s.loaded run cfg i rc

end Reload

/-- An invocation as it happened. -/
structure Step (σ : Type) where
  invocation : Invocation
  before : Reload σ
  after : Reload σ
  outcome : Outcome σ

namespace Reload

variable (run : Runner Command σ) (cfg : LoopConfig σ)

/-- The state after a sequence of invocations. -/
def loop (s : Reload σ) (is : List Invocation) : Reload σ :=
  is.foldl (fun s i => (s.step run cfg i).1) s

/-- An invocation in a state. -/
def taken (s : Reload σ) (i : Invocation) : Step σ :=
  { invocation := i, before := s, after := (s.step run cfg i).1, outcome := (s.step run cfg i).2 }

/-- The invocations of a run, as they happened. -/
def steps (s : Reload σ) : List Invocation → List (Step σ)
  | [] => []
  | i :: is => taken run cfg s i :: steps (s.step run cfg i).1 is

variable {run cfg}

theorem loop_singleton (s : Reload σ) (i : Invocation) :
    s.loop run cfg [i] = (s.step run cfg i).1 := rfl

theorem loop_snoc (s : Reload σ) (is : List Invocation) (i : Invocation) :
    s.loop run cfg (is ++ [i]) = ((s.loop run cfg is).step run cfg i).1 := by
  unfold loop
  rw [List.foldl_append]
  rfl

theorem steps_snoc (is : List Invocation) (i : Invocation) : ∀ s : Reload σ,
    s.steps run cfg (is ++ [i]) = s.steps run cfg is ++
      [taken run cfg (s.loop run cfg is) i] := by
  induction is with
  | nil => exact fun _ => rfl
  | cons j is ih =>
    intro s
    rw [List.cons_append, steps, steps, ih, List.cons_append]
    rfl

/-- **The run rule**: what holds at the start and is kept by every invocation, given the invocations
before it, holds after every run. -/
theorem loop_induction {P : List (Step σ) → Reload σ → Prop} {s : Reload σ} (hstart : P [] s)
    (hstep : ∀ past s i, P past s → P (past ++ [taken run cfg s i]) (s.step run cfg i).1)
    (is : List Invocation) : P (s.steps run cfg is) (s.loop run cfg is) := by
  induction is using List.reverseRecOn with
  | nil => exact hstart
  | append_singleton is i ih =>
    rw [steps_snoc, loop_snoc]
    exact hstep _ _ i ih

/-- Every invocation of a run was taken in a state of a run. -/
theorem exists_of_mem_steps {s : Reload σ} {is : List Invocation} {st : Step σ}
    (h : st ∈ s.steps run cfg is) :
    ∃ js, st = taken run cfg (s.loop run cfg js) st.invocation := by
  induction is using List.reverseRecOn with
  | nil => cases h
  | append_singleton is i ih =>
    rw [steps_snoc] at h
    rcases List.mem_append.mp h with h | h
    · exact ih h
    · rw [List.mem_singleton.mp h]
      exact ⟨is, rfl⟩

end Reload

/-! ## What an invocation does -/

section

variable {run : Runner Command σ} {cfg : LoopConfig σ} {s p : Reload σ} {i : Invocation}
  {rc : RuntimeConfig} {snap : Snapshot}

/-- What an invocation finds at its snapshot. -/
structure Prepared (run : Runner Command σ) (cfg : LoopConfig σ) (s : Reload σ) (i : Invocation)
    (rc : RuntimeConfig) (p : Reload σ) (snap : Snapshot) : Prop where
  load : cfg.load i.file = .ok rc
  configDigest : p.lastConfigDigest = s.lastConfigDigest
  rulesetDigest : p.lastRulesetDigest = s.lastRulesetDigest
  guarded : p.appliedForwards = some (s.guarded cfg rc)
  lease : p.lease = s.lease
  dp : p.process.dp = s.process.dp
  host : p.process.host = (reassertSlotSysctls run cfg.readSysctl rc s.process.host).2
  watcher : p.watcher = s.watcher.map fun w =>
    cfg.watch i.between ((cfg.watch i.before w).setForwards rc.forwards i.setAt)
  snapshot : snap = (p.watcher.map (·.snapshot i.now)).getD .empty

/-- How an invocation ends, by the path it took. -/
inductive StepEnd (run : Runner Command σ) (cfg : LoopConfig σ) (s : Reload σ) (i : Invocation) :
    Reload σ → Outcome σ → Prop
  | notLoaded {cause : String} (hload : cfg.load i.file = .error cause) :
      StepEnd run cfg s i (s.observe cfg i) (.notLoaded cause)
  | waitingSync {rc : RuntimeConfig} {p : Reload σ} {snap : Snapshot}
      (hp : Prepared run cfg s i rc p snap) {name : String} (hpending : name ∈ snap.pending)
      (hguarded : name ∈ s.guarded cfg rc) : StepEnd run cfg s i p (.waitingSync rc snap)
  | unchanged {rc : RuntimeConfig} {p : Reload σ} {snap : Snapshot}
      (hp : Prepared run cfg s i rc p snap)
      (hconfig : Link.configDigest cfg.sha rc = s.lastConfigDigest)
      (hruleset : s.watcher.isSome → Reload.rulesetDig cfg rc snap = s.lastRulesetDigest) :
      StepEnd run cfg s i p (.unchanged rc snap)
  | waitingEndpoint {rc : RuntimeConfig} {p : Reload σ} {snap : Snapshot}
      (hp : Prepared run cfg s i rc p snap) : StepEnd run cfg s i p (.waitingEndpoint rc snap)
  | reconciled {rc : RuntimeConfig} {p : Reload σ} {snap : Snapshot}
      (hp : Prepared run cfg s i rc p snap)
      (hguard : ∀ name ∈ snap.pending, name ∉ s.guarded cfg rc) :
      StepEnd run cfg s i
        (p.finish cfg rc snap (leaderReconcile run cfg i rc snap p.process p.lease))
        (.reconciled rc snap (leaderReconcile run cfg i rc snap p.process p.lease))

theorem prepare_prepared (hload : cfg.load i.file = .ok rc) :
    Prepared run cfg s i rc ((s.observe cfg i).prepare run cfg i rc).1
      ((s.observe cfg i).prepare run cfg i rc).2 := by
  have hobserve : (s.observe cfg i).watcher = s.watcher.map (cfg.watch i.before) := rfl
  unfold Reload.prepare
  cases hw : s.watcher with
  | none =>
    rw [hw] at hobserve
    simp only [hobserve, Option.map_none]
    exact ⟨hload, rfl, rfl, rfl, rfl, rfl, rfl, by rw [hw]; rfl, rfl⟩
  | some w =>
    rw [hw] at hobserve
    simp only [hobserve, Option.map_some]
    exact ⟨hload, rfl, rfl, rfl, rfl, rfl, rfl, by rw [hw]; rfl, rfl⟩

theorem Prepared.watching (hp : Prepared run cfg s i rc p snap) :
    p.watcher.isSome = s.watcher.isSome := by
  rw [hp.watcher, Option.isSome_map]

/-- The paths after the snapshot. -/
theorem decide_ends (hp : Prepared run cfg s i rc p snap) :
    StepEnd run cfg s i (p.decide run cfg i rc snap).1 (p.decide run cfg i rc snap).2 := by
  unfold Reload.decide
  rw [hp.guarded, Option.getD_some]
  split_ifs with hpending hchanged hendpoint
  · obtain ⟨name, hname, hguarded⟩ := List.any_eq_true.mp hpending
    exact .waitingSync hp hname (of_decide_eq_true hguarded)
  · simp only [Reload.changed, Bool.not_eq_true', Bool.or_eq_false_iff, decide_eq_false_iff_not,
      not_not, Bool.and_eq_false_imp, hp.watching, hp.configDigest, hp.rulesetDigest] at hchanged
    exact .unchanged hp hchanged.1 hchanged.2
  · exact .waitingEndpoint hp
  · refine .reconciled hp fun name hname hguarded => hpending ?_
    exact List.any_eq_true.mpr ⟨name, hname, decide_eq_true hguarded⟩

/-- **An invocation takes one of its paths.** -/
theorem step_ends (run : Runner Command σ) (cfg : LoopConfig σ) (s : Reload σ) (i : Invocation) :
    StepEnd run cfg s i (s.step run cfg i).1 (s.step run cfg i).2 := by
  unfold Reload.step
  cases hload : cfg.load i.file with
  | error cause => exact .notLoaded hload
  | ok rc => exact decide_ends (prepare_prepared hload)

theorem step_of_load (hload : cfg.load i.file = .ok rc) :
    s.step run cfg i = (s.observe cfg i).loaded run cfg i rc := by
  unfold Reload.step
  rw [hload]

/-- A step seen by its outcome: the one path that has it. -/
theorem unchanged_step (h : (s.step run cfg i).2 = .unchanged rc snap) :
    Prepared run cfg s i rc (s.step run cfg i).1 snap ∧
      Link.configDigest cfg.sha rc = s.lastConfigDigest ∧
      (s.watcher.isSome → Reload.rulesetDig cfg rc snap = s.lastRulesetDigest) := by
  have hend := step_ends run cfg s i
  generalize (s.step run cfg i).1 = after at hend
  rw [h] at hend
  cases hend with
  | unchanged hp hconfig hruleset => exact ⟨hp, hconfig, hruleset⟩

theorem reconciled_step {r : Reconciled σ} (h : (s.step run cfg i).2 = .reconciled rc snap r) :
    ∃ p, Prepared run cfg s i rc p snap ∧ (∀ name ∈ snap.pending, name ∉ s.guarded cfg rc) ∧
      r = leaderReconcile run cfg i rc snap p.process p.lease ∧
      (s.step run cfg i).1 = p.finish cfg rc snap r := by
  have hend := step_ends run cfg s i
  generalize (s.step run cfg i).1 = after at hend
  rw [h] at hend
  cases hend with
  | reconciled hp hguard => exact ⟨_, hp, hguard, rfl, rfl⟩

/-- An invocation that did not reconcile leaves the Lease. -/
theorem step_lease (h : ∀ rc snap r, (s.step run cfg i).2 ≠ .reconciled rc snap r) :
    (s.step run cfg i).1.lease = s.lease := by
  have hend := step_ends run cfg s i
  generalize (s.step run cfg i).1 = after, (s.step run cfg i).2 = outcome at hend h
  cases hend with
  | notLoaded hload => rfl
  | waitingSync hp hpending hguarded | unchanged hp hconfig hruleset
  | waitingEndpoint hp => exact hp.lease
  | reconciled hp hguard => exact absurd rfl (h _ _ _)

theorem Reconciled.records_iff {r : Reconciled σ} :
    r.records = true ↔ r.err = none ∧ ∃ pass, r.pass = some pass ∧
      pass.1.all (·.applied) = true := by
  unfold Reconciled.records
  cases r.err with
  | some e => simp
  | none =>
    cases r.pass with
    | none | some pass => simp

end

/-! ## The watcher -/

section

variable {cfg : LoopConfig σ}

/-- The protocols of a watcher's forwards were validated. -/
def EndpointWatcher.Sound (w : EndpointWatcher) : Prop :=
  ∀ f ∈ w.forwards, f.protocol = "tcp" ∨ f.protocol = "udp"

variable {file : Except String String} {rc : RuntimeConfig}

theorem load_valid (h : cfg.load file = .ok rc) :
    rc.identity = cfg.identity ∧ ∃ raw, validate raw = .ok rc :=
  loadRuntimeConfigMatching_ok h

theorem isLocal_of_load (h : cfg.load file = .ok rc) : isLocal rc = cfg.identity.isSome := by
  rw [isLocal, (load_valid h).1]

theorem sound_setForwards (h : cfg.load file = .ok rc) (w : EndpointWatcher) (now : Int) :
    (w.setForwards rc.forwards now).Sound := by
  obtain ⟨-, raw, hvalid⟩ := load_valid h
  intro f hf
  rw [EndpointWatcher.setForwards_forwards] at hf
  exact ((validate_forwards hvalid).1 f hf).1

theorem sound_watch {w : EndpointWatcher} (hw : w.Sound) (events : List WatchEvent) :
    (cfg.watch events w).Sound := by
  induction events generalizing w with
  | nil => exact hw
  | cons ev events ih =>
    refine ih ?_
    cases ev with
    | informer key slices synced =>
      show (w.observe key slices synced).Sound
      unfold EndpointWatcher.Sound
      rw [EndpointWatcher.observe_forwards]
      exact hw
    | config file now =>
      show (match cfg.load file with
        | .ok rc => w.setForwards rc.forwards now
        | .error _ => w).Sound
      cases hload : cfg.load file with
      | error cause => exact hw
      | ok rc => exact sound_setForwards hload w now

/-- A resolved forward of a snapshot has a validated protocol and an address for its target. -/
theorem plain_of_snapshot {w : EndpointWatcher} (hw : w.Sound) {now : Int} :
    ∀ f ∈ (w.snapshot now).resolved, Plain f := by
  intro f hf
  obtain ⟨g, hg, -, -, hprotocol, htarget⟩ := EndpointWatcher.snapshot_resolved hf
  exact ⟨hprotocol ▸ hw g hg, fun hmem => not_addrChar_space (addrChar_of_parseIP htarget _ hmem)⟩

/-- The loop's watcher: a Local process has one, and its forwards are those of accepted configs. -/
structure Reload.Watching (cfg : LoopConfig σ) (s : Reload σ) : Prop where
  mode : s.watcher.isSome = cfg.identity.isSome
  sound : ∀ w, s.watcher = some w → w.Sound

/-- The watcher a process starts with. -/
def LoopConfig.watcherAt (cfg : LoopConfig σ) (rc : RuntimeConfig) (now : Int) :
    Option EndpointWatcher :=
  if isLocal rc then some (EndpointWatcher.new cfg.nodeName rc.forwards now) else none

/-- A leadership cycle begins: the loop remembers nothing, and the watcher of the process, started
with some accepted config, has seen any events since. -/
structure Reload.Started (cfg : LoopConfig σ) (s : Reload σ) : Prop where
  configDigest : s.lastConfigDigest = ""
  rulesetDigest : s.lastRulesetDigest = ""
  applied : s.appliedForwards = none
  watcher : ∃ file rc now events, cfg.load file = .ok rc ∧
    s.watcher = (cfg.watcherAt rc now).map (cfg.watch events)

theorem Reload.Started.watching {s : Reload σ} (h : s.Started cfg) : s.Watching cfg := by
  obtain ⟨file, rc, now, events, hload, hwatcher⟩ := h.watcher
  unfold LoopConfig.watcherAt at hwatcher
  constructor
  · rw [hwatcher, Option.isSome_map, ← isLocal_of_load hload]
    cases isLocal rc <;> rfl
  · intro w hw
    rw [hw] at hwatcher
    split_ifs at hwatcher
    · cases hwatcher
      exact sound_watch (sound_setForwards hload _ now) events
    · cases hwatcher

variable {run : Runner Command σ} {s p : Reload σ} {i : Invocation} {rc : RuntimeConfig}
  {snap : Snapshot}

theorem Prepared.watchingOn (hp : Prepared run cfg s i rc p snap) (hs : s.Watching cfg) :
    p.Watching cfg := by
  refine ⟨hp.watching.trans hs.mode, fun w hw => ?_⟩
  rw [hp.watcher] at hw
  obtain ⟨w', -, rfl⟩ := Option.map_eq_some_iff.mp hw
  exact sound_watch (sound_setForwards hp.load _ _) _

/-- **The forwards of a snapshot** come from validated configs. -/
theorem Prepared.plain (hp : Prepared run cfg s i rc p snap) (hs : s.Watching cfg) :
    ∀ f ∈ snap.resolved, Plain f := by
  rw [hp.snapshot]
  cases hw : p.watcher with
  | none => exact fun f hf => absurd hf List.not_mem_nil
  | some w => exact plain_of_snapshot ((hp.watchingOn hs).sound w hw)

theorem finish_watcher {r : Reconciled σ} : (p.finish cfg rc snap r).watcher = p.watcher := by
  unfold Reload.finish
  simp only
  split_ifs <;> rfl

theorem step_watching (hs : s.Watching cfg) : (s.step run cfg i).1.Watching cfg := by
  have hend := step_ends run cfg s i
  generalize (s.step run cfg i).1 = after, (s.step run cfg i).2 = outcome at hend
  cases hend with
  | notLoaded hload =>
    refine ⟨(Option.isSome_map ..).trans hs.mode, fun w hw => ?_⟩
    obtain ⟨w', hw', rfl⟩ := Option.map_eq_some_iff.mp hw
    exact sound_watch (hs.sound w' hw') _
  | waitingSync hp hpending hguarded | unchanged hp hconfig hruleset
  | waitingEndpoint hp => exact hp.watchingOn hs
  | reconciled hp hguard =>
    have hp' := hp.watchingOn hs
    exact ⟨by rw [finish_watcher]; exact hp'.mode, by rw [finish_watcher]; exact hp'.sound⟩

theorem loop_watching (hs : s.Watching cfg) (is : List Invocation) :
    (s.loop run cfg is).Watching cfg :=
  Reload.loop_induction (P := fun _ s => s.Watching cfg) hs (fun _ _ _ h => step_watching h) is

end

/-! ## What the digests stand for -/

section

variable {run : Runner Command σ} {cfg : LoopConfig σ}

/-- The invocation recorded its digests. -/
def Step.records (st : Step σ) : Bool :=
  match st.outcome with
  | .reconciled _ _ r => r.records
  | _ => false

/-- The last invocation of a kind. -/
def lastOf (kind : Step σ → Bool) (past : List (Step σ)) : Option (Step σ) :=
  (past.filter kind).getLast?

theorem lastOf_snoc (kind : Step σ → Bool) (past : List (Step σ)) (st : Step σ) :
    lastOf kind (past ++ [st]) = if kind st then some st else lastOf kind past := by
  unfold lastOf
  rw [List.filter_append]
  cases h : kind st with
  | true | false => simp [h]

/-- The last invocation that recorded its digests. -/
def lastRecorded : List (Step σ) → Option (Step σ) := lastOf Step.records

/-- The digests of the loop are those of the step that recorded last, and so is its set of applied
forwards. -/
def Remembers (cfg : LoopConfig σ) (s : Reload σ) : Option (Step σ) → Prop
  | none => s.lastConfigDigest = ""
  | some st => ∃ rc snap r, st.outcome = .reconciled rc snap r ∧
      s.lastConfigDigest = configDigest cfg.sha rc ∧
      (s.watcher.isSome → s.lastRulesetDigest = Reload.rulesetDig cfg rc snap)

variable {s : Reload σ} {i : Invocation}

theorem Remembers.of_eq {p : Reload σ} {last : Option (Step σ)} (h : Remembers cfg s last)
    (hconfig : p.lastConfigDigest = s.lastConfigDigest)
    (hruleset : p.lastRulesetDigest = s.lastRulesetDigest)
    (hwatcher : p.watcher.isSome = s.watcher.isSome) : Remembers cfg p last := by
  cases last with
  | none => exact hconfig.trans h
  | some st =>
    obtain ⟨rc, snap, r, hr, hc, hd⟩ := h
    refine ⟨rc, snap, r, hr, hconfig.trans hc, fun hw => ?_⟩
    rw [hwatcher] at hw
    exact hruleset.trans (hd hw)

theorem Prepared.remembers {p : Reload σ} {rc : RuntimeConfig} {snap : Snapshot}
    {last : Option (Step σ)} (hp : Prepared run cfg s i rc p snap) (h : Remembers cfg s last) :
    Remembers cfg p last :=
  h.of_eq hp.configDigest hp.rulesetDigest hp.watching

theorem step_remembers {past : List (Step σ)} (h : Remembers cfg s (lastRecorded past)) :
    Remembers cfg (s.step run cfg i).1 (lastRecorded (past ++ [Reload.taken run cfg s i])) := by
  have hend := step_ends run cfg s i
  rw [lastRecorded, lastOf_snoc]
  unfold Step.records Reload.taken
  simp only
  generalize (s.step run cfg i).1 = after, (s.step run cfg i).2 = outcome at hend
  cases hend with
  | notLoaded hload => exact h.of_eq rfl rfl (Option.isSome_map ..)
  | waitingSync hp hpending hguarded | unchanged hp hconfig hruleset
  | waitingEndpoint hp => exact hp.remembers h
  | @reconciled rc p snap hp hguard =>
    by_cases hrecords : (leaderReconcile run cfg i rc snap p.process p.lease).records = true
    · simp only [Reload.finish, if_pos hrecords]
      exact ⟨rc, snap, _, rfl, rfl, fun hw => if_pos hw⟩
    · simp only [Reload.finish, if_neg hrecords]
      exact (hp.remembers h).of_eq rfl rfl rfl

/-- **What the loop's digests stand for**: the config and the snapshot of the last invocation that
recorded them. -/
theorem loop_remembers (hs : s.Started cfg) (is : List Invocation) :
    Remembers cfg (s.loop run cfg is) (lastRecorded (s.steps run cfg is)) :=
  Reload.loop_induction (P := fun past s => Remembers cfg s (lastRecorded past)) hs.configDigest
    (fun _ _ _ h => step_remembers h) is

/-- Nothing can be unchanged before an invocation recorded. -/
theorem exists_lastRecorded (hs : s.Started cfg) {is : List Invocation} {rc : RuntimeConfig}
    {snap : Snapshot} (h : ((s.loop run cfg is).step run cfg i).2 = .unchanged rc snap) :
    ∃ st, lastRecorded (s.steps run cfg is) = some st := by
  have hremembers : Remembers cfg (s.loop run cfg is) (lastRecorded (s.steps run cfg is)) :=
    loop_remembers hs is
  cases hlast : lastRecorded (s.steps run cfg is) with
  | none =>
    rw [hlast] at hremembers
    exact absurd ((unchanged_step h).2.1.trans hremembers) (cfg.sha.ne_empty _)
  | some st => exact ⟨st, rfl⟩

/-- The last invocation that recorded was taken in a state of a run. -/
theorem lastRecorded_taken {is : List Invocation} {st : Step σ}
    (h : lastRecorded (s.steps run cfg is) = some st) :
    st.records = true ∧ ∃ js, st = Reload.taken run cfg (s.loop run cfg js) st.invocation := by
  have hmem : st ∈ (s.steps run cfg is).filter Step.records := List.mem_of_getLast? h
  obtain ⟨hst, hrecords⟩ := List.mem_filter.mp hmem
  exact ⟨hrecords, Reload.exists_of_mem_steps hst⟩

end

/-! ## What an invocation installs -/

/-- The rulesets a log installed, in order. -/
def rulesets (log : List (Event Command)) : List Ruleset := log.filterMap installed?

theorem rulesets_append (xs ys : List (Event Command)) :
    rulesets (xs ++ ys) = rulesets xs ++ rulesets ys := List.filterMap_append

variable {evs : List (Event Command)}

theorem rulesets_eq_nil (h : ∀ ev ∈ evs, installed? ev = none) :
    rulesets evs = [] := List.filterMap_eq_nil_iff.mpr h

theorem rulesets_quiet (h : ∀ ev ∈ evs, Quiet ev.command) :
    rulesets evs = [] := rulesets_eq_nil fun ev hev => installed?_quiet (h ev hev)

/-- **A pass installs** the ruleset of its config and forwards, or it fails. -/
theorem PassEnd.rulesets {rc : RuntimeConfig} {env : ApplyEnv} {previous : List ResolvedForward}
    {previousAddress : String} {localForwards : List ResolvedForward} {err : Option String}
    (h : PassEnd rc env previous previousAddress localForwards err evs) :
    (err ≠ none ∧ Link.rulesets evs = []) ∨
      ∃ resolved, resolvedForwards rc env localForwards = .ok resolved ∧
        Link.rulesets evs = [renderNftables rc resolved env.nodeName] := by
  cases h with
  | early hquiet => exact .inl ⟨Option.some_ne_none _, rulesets_quiet hquiet⟩
  | refused hquiet =>
    refine .inl ⟨Option.some_ne_none _, ?_⟩
    rw [rulesets_append, rulesets_quiet hquiet]
    rfl
  | installed hquiet hresolved hflush hhairpin _ =>
    refine .inr ⟨_, hresolved, ?_⟩
    rw [rulesets_append, rulesets_quiet hquiet]
    have hrest := rulesets_eq_nil (deletions_install_nothing hflush hhairpin)
    simp only [Link.rulesets, List.filterMap_cons, installed?_nft, List.nil_append] at hrest ⊢
    rw [hrest]

theorem reassertSlot_quiet {run : Runner Command σ} {read : String → σ → SysctlRead}
    {iface : String} (sysctls : List (String × Int64)) :
    EmitsOnly run Quiet (reassertSlot run read iface sysctls) := by
  induction sysctls with
  | nil => exact .pure _
  | cons s rest ih =>
    refine EmitsOnly.get.bind fun host => ?_
    cases read (slotSysctlPath iface s.1) host with
    | absent => exact .pure _
    | failed => exact ih
    | value found =>
      show EmitsOnly run Quiet (if _ then _ else _)
      split_ifs
      · exact ih
      · exact (EmitsOnly.command (quiet_sysctl iface s)).bind fun _ => ih

theorem reassertSlotSysctls_quiet {run : Runner Command σ} {read : String → σ → SysctlRead}
    {rc : RuntimeConfig} : EmitsOnly run Quiet (reassertSlotSysctls run read rc) := by
  unfold reassertSlotSysctls
  cases rc.identity with
  | none => exact .pure _
  | some identity =>
    simp only
    induction rc.wireguard.peers with
    | nil => exact .pure _
    | cons p peers ih => exact (reassertSlot_quiet slotSysctls).bind fun _ => ih

section

variable {τ : Type} {run : Runner Command τ} {cfg : LoopConfig (Logged Command τ)}
  {s p : Reload (Logged Command τ)} {i : Invocation} {rc : RuntimeConfig} {snap : Snapshot}

/-- The log of everything the process ran. -/
def Reload.log (s : Reload (Logged Command τ)) : List (Event Command) := s.process.host.log

/-- What a step installed. -/
def Installs (before after : Reload (Logged Command τ)) (new : List Ruleset) : Prop :=
  rulesets after.log = rulesets before.log ++ new

theorem Prepared.rulesets (hp : Prepared run.logged cfg s i rc p snap) :
    Link.rulesets p.log = Link.rulesets s.log := by
  have hreassert : EmitsOnly run.logged Quiet (reassertSlotSysctls run.logged cfg.readSysctl rc) :=
    reassertSlotSysctls_quiet
  obtain ⟨evs, htrace, hquiet⟩ := hreassert s.process.host
  have hlog : p.log = s.log ++ evs := by
    unfold Reload.log
    rw [hp.host]
    exact htrace.log
  rw [hlog, rulesets_append, rulesets_quiet hquiet, List.append_nil]

theorem leaderReconcile_rulesets {process : Process (Logged Command τ)} {lease : Lease}
    {r : Reconciled (Logged Command τ)}
    (hr : r = leaderReconcile run.logged cfg i rc snap process lease) :
    (r.records = false ∧ rulesets r.process.host.log = rulesets process.host.log) ∨
      ∃ resolved, resolvedForwards rc (cfg.env i) snap.resolved = .ok resolved ∧
        rulesets r.process.host.log =
          rulesets process.host.log ++ [renderNftables rc resolved cfg.nodeName] := by
  unfold leaderReconcile at hr
  split_ifs at hr with hcheck
  · rw [hr]
    exact .inl ⟨rfl, rfl⟩
  · have hemits : Emits run.logged
        (linkApply run.logged process.dp rc (cfg.env i) snap.resolved)
        (ApplyPassEnd process.dp rc (cfg.env i) snap.resolved) := linkApply_ends
    obtain ⟨evs, htrace, hend⟩ := hemits process.host
    have hlog := htrace.log
    have hrulesets := hend.ends.rulesets
    generalize linkApply run.logged process.dp rc (cfg.env i) snap.resolved process.host = out
      at hr hlog hrulesets
    obtain ⟨⟨dp, results, applyErr⟩, host⟩ := out
    have hhost : r.process.host.log = process.host.log ++ evs := by
      rw [hr]
      exact hlog
    rw [hhost, rulesets_append]
    rcases hrulesets with ⟨herr, hnone⟩ | ⟨resolved, hresolved, hone⟩
    · refine .inl ⟨?_, by rw [hnone, List.append_nil]⟩
      obtain ⟨e, he⟩ := Option.ne_none_iff_exists'.mp herr
      simp only at he
      rw [hr, he]
      rfl
    · exact .inr ⟨resolved, hresolved, by rw [hone]; rfl⟩

theorem finish_process {r : Reconciled σ} {p : Reload σ} {cfg : LoopConfig σ} :
    (p.finish cfg rc snap r).process = r.process := by
  unfold Reload.finish
  simp only
  split_ifs <;> rfl

/-- **What an invocation that reconciled installed**; one that recorded installed its ruleset. -/
theorem reconciled_installs {r : Reconciled (Logged Command τ)}
    (h : (s.step run.logged cfg i).2 = .reconciled rc snap r) :
    (r.records = false ∧ Installs s (s.step run.logged cfg i).1 []) ∨
      ∃ resolved, resolvedForwards rc (cfg.env i) snap.resolved = .ok resolved ∧
        Installs s (s.step run.logged cfg i).1 [renderNftables rc resolved cfg.nodeName] := by
  obtain ⟨p, hp, -, hr, hafter⟩ := reconciled_step h
  unfold Installs Reload.log
  rw [hafter, finish_process]
  have hbefore : rulesets p.process.host.log = rulesets s.process.host.log := hp.rulesets
  rw [← hbefore, List.append_nil]
  exact leaderReconcile_rulesets hr

end

/-! ## Cluster mode

Without a watcher an invocation goes by the digest of the config alone. -/

section

variable {run : Runner Command σ} {cfg : LoopConfig σ} {s : Reload σ} {i : Invocation}
  {rc : RuntimeConfig}

theorem prepare_cluster (hw : s.watcher = none) (hidentity : rc.identity = none) :
    (s.observe cfg i).prepare run cfg i rc =
      ({ s with appliedForwards := some (s.guarded cfg rc) }, .empty) := by
  have hobserve : s.observe cfg i = s := by
    unfold Reload.observe
    rw [hw, Option.map_none, ← hw]
  rw [hobserve]
  unfold Reload.prepare reassertSlotSysctls
  simp only [hw, hidentity]
  rfl

theorem step_cluster_unchanged (hload : cfg.load i.file = .ok rc) (hw : s.watcher = none)
    (hidentity : rc.identity = none) (hdigest : configDigest cfg.sha rc = s.lastConfigDigest) :
    s.step run cfg i =
      ({ s with appliedForwards := some (s.guarded cfg rc) }, .unchanged rc .empty) := by
  rw [step_of_load hload, Reload.loaded, prepare_cluster hw hidentity]
  simp [Reload.decide, Reload.changed, Snapshot.empty, hw, hdigest]

/-- What an invocation over a changed config leaves. -/
theorem step_cluster_changed (hload : cfg.load i.file = .ok rc) (hw : s.watcher = none)
    (hidentity : rc.identity = none) (hdigest : configDigest cfg.sha rc ≠ s.lastConfigDigest)
    (hpeers : rc.wireguard.peers.any (·.endpoint = "") = false) {r : Reconciled σ}
    (hr : leaderReconcile run cfg i rc .empty s.process s.lease = r) :
    ∃ after, s.step run cfg i = (after, .reconciled rc .empty r) ∧ after.watcher = none ∧
      after.process = r.process ∧ after.lease = r.lease ∧
      after.lastConfigDigest =
        if r.records then configDigest cfg.sha rc else s.lastConfigDigest := by
  refine ⟨Reload.finish cfg { s with appliedForwards := some (s.guarded cfg rc) } rc .empty r, ?_,
    finish_watcher.trans hw, finish_process, ?_, ?_⟩
  · rw [step_of_load hload, Reload.loaded, prepare_cluster hw hidentity]
    simp [Reload.decide, Reload.changed, Snapshot.empty, hdigest, hpeers, ← hr]
  · unfold Reload.finish
    simp only
    split_ifs <;> rfl
  · unfold Reload.finish
    simp only
    split_ifs <;> rfl

end

end WireguardGateway.Link

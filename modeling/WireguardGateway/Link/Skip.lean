import WireguardGateway.Link.Flows
import WireguardGateway.Link.Reload

/-!
# The node behind the reload loop

Two readings of the log of a reload loop against what the loop decided (`reconcile.go:34-108`). The
loop keeps digests and names of the last invocation in which **everything** succeeded, while `nft`
also installs the rulesets of invocations that fail later or leave a slot down.

Results, for every runner, every sequence of invocations and every environment of them:
* **`skipped_current_iff`**: at an invocation that found nothing changed, the ruleset on the node is
  the one the config renders to iff none other was installed since the digests were recorded; in
  Cluster mode the Services must also resolve as they did then, since no digest covers them.
  `skipped_stale` has a run for either;
* **`pending_kept`**: as long as the names that the guard on pending forwards consults cover what
  the node has rules for, every invocation keeps the rules of the pending forwards;
  `editedForward_lost` is a run where they do not.
-/

namespace WireguardGateway.Link

open Lib Lib.Plan
open Controller (RuntimeConfig LinkForward)

variable {τ : Type} {run : Runner Command τ} {cfg : LoopConfig (Logged Command τ)}
  {s : Reload (Logged Command τ)}

/-! ## Nothing changed -/

/-- The text of the ruleset installed last. -/
def rulesetText (log : List (Event Command)) : Option String := (rulesets log).getLast?.map (·.text)

/-- The ruleset installed last is the one the config renders to, with the forwards as they resolve
at the invocation. -/
def Current (cfg : LoopConfig (Logged Command τ)) (i : Invocation) (rc : RuntimeConfig)
    (snap : Snapshot) (log : List (Event Command)) : Prop :=
  ∀ resolved, resolvedForwards rc (cfg.env i) snap.resolved = .ok resolved →
    rulesetText log = some (renderNftables rc resolved cfg.nodeName).text

variable {rc : RuntimeConfig} {snap : Snapshot} {i : Invocation}
  {r : Reconciled Scripted}

theorem resolvedForwards_local (hlocal : isLocal rc) (env : ApplyEnv)
    (localForwards : List ResolvedForward) :
    resolvedForwards rc env localForwards = .ok localForwards := by
  unfold resolvedForwards
  rw [if_pos hlocal]

theorem resolvedForwards_cluster (hlocal : ¬ isLocal rc) (env : ApplyEnv)
    (fs gs : List ResolvedForward) : resolvedForwards rc env fs = resolvedForwards rc env gs := by
  unfold resolvedForwards
  rw [if_neg hlocal, if_neg hlocal]

/-- What the invocation that recorded last had installed. -/
theorem lastRecorded_installed {is : List Invocation} {st : Step (Logged Command τ)}
    (h : lastRecorded (s.steps run.logged cfg is) = some st) {r : Reconciled (Logged Command τ)}
    (hr : st.outcome = .reconciled rc snap r) :
    ∃ resolved, resolvedForwards rc (cfg.env st.invocation) snap.resolved = .ok resolved ∧
      rulesetText st.after.log = some (renderNftables rc resolved cfg.nodeName).text := by
  obtain ⟨hrecords, js, hst⟩ := lastRecorded_taken h
  have houtcome : ((s.loop run.logged cfg js).step run.logged cfg st.invocation).2 =
      .reconciled rc snap r := by
    rw [hst] at hr
    exact hr
  have hafter : st.after = ((s.loop run.logged cfg js).step run.logged cfg st.invocation).1 :=
    congrArg Step.after hst
  rw [Step.records, hr] at hrecords
  rcases reconciled_installs houtcome with ⟨hnot, -⟩ | ⟨resolved, hresolved, hinstalls⟩
  · simp only at hrecords
    rw [hnot] at hrecords
    cases hrecords
  · refine ⟨resolved, hresolved, ?_⟩
    rw [hafter, rulesetText, hinstalls, List.getLast?_concat]
    rfl

/-- The snapshot of the invocation that recorded last has forwards of validated configs. -/
theorem lastRecorded_plain (hs : s.Started cfg) {is : List Invocation}
    {st : Step (Logged Command τ)} (h : lastRecorded (s.steps run.logged cfg is) = some st)
    {r : Reconciled (Logged Command τ)} (hr : st.outcome = .reconciled rc snap r) :
    ∀ f ∈ snap.resolved, Plain f := by
  obtain ⟨-, js, hst⟩ := lastRecorded_taken h
  rw [hst] at hr
  obtain ⟨p, hp, -⟩ := reconciled_step hr
  exact hp.plain (loop_watching hs.watching js)

/-- **A skipped reload.** At an invocation that returned because nothing changed, an earlier one had
recorded the digests. In Local mode the node's ruleset is current iff it is still that invocation's;
in Cluster mode, while it is, it is current iff the Services resolve to the same ruleset as then. -/
theorem skipped_current_iff (run : Runner Command τ) (cfg : LoopConfig (Logged Command τ))
    (s : Reload (Logged Command τ)) (hs : s.Started cfg) (is : List Invocation) (i : Invocation)
    (rc : RuntimeConfig) (snap : Snapshot)
    (h : ((s.loop run.logged cfg is).step run.logged cfg i).2 = .unchanged rc snap) :
    ∃ st, lastRecorded (s.steps run.logged cfg is) = some st ∧
      (isLocal rc →
        (Current cfg i rc snap ((s.loop run.logged cfg is).step run.logged cfg i).1.log ↔
          rulesetText ((s.loop run.logged cfg is).step run.logged cfg i).1.log =
            rulesetText st.after.log)) ∧
      (¬ isLocal rc →
        rulesetText ((s.loop run.logged cfg is).step run.logged cfg i).1.log =
            rulesetText st.after.log →
        (Current cfg i rc snap ((s.loop run.logged cfg is).step run.logged cfg i).1.log ↔
          ∀ now then_, resolvedForwards rc (cfg.env i) [] = .ok now →
            resolvedForwards rc (cfg.env st.invocation) [] = .ok then_ →
              (renderNftables rc now cfg.nodeName).text =
                (renderNftables rc then_ cfg.nodeName).text)) := by
  obtain ⟨st, hlast⟩ := exists_lastRecorded hs h
  obtain ⟨hp, hconfig, hruleset⟩ := unchanged_step h
  have hremembers : Remembers cfg (s.loop run.logged cfg is)
      (lastRecorded (s.steps run.logged cfg is)) := loop_remembers hs is
  have hwatching : (s.loop run.logged cfg is).Watching cfg := loop_watching hs.watching is
  generalize ((s.loop run.logged cfg is).step run.logged cfg i).1 = after at hp ⊢
  rw [hlast] at hremembers
  obtain ⟨rc', snap', r, hr, hrc, hsnap⟩ := hremembers
  obtain rfl : rc = rc' := configDigest_inj (hconfig.trans hrc)
  obtain ⟨resolved, hresolved, htext⟩ := lastRecorded_installed hlast hr
  refine ⟨st, hlast, fun hlocal => ?_, fun hcluster hsame => ?_⟩
  · -- equal digests: the two snapshots render to one text
    have hwatcher : (s.loop run.logged cfg is).watcher.isSome := by
      rw [hwatching.mode, ← isLocal_of_load hp.load]
      exact hlocal
    obtain ⟨-, raw, hvalid⟩ := load_valid hp.load
    obtain ⟨hequal, -⟩ := rulesetDigest_inj hvalid hlocal (hp.plain hwatching)
      (lastRecorded_plain hs hlast hr) ((hruleset hwatcher).trans (hsnap hwatcher))
    obtain rfl : snap'.resolved = resolved := by
      rw [resolvedForwards_local hlocal] at hresolved
      exact Except.ok.inj hresolved
    rw [htext, ← hequal]
    unfold Current
    rw [resolvedForwards_local hlocal]
    constructor
    · exact fun hcurrent => hcurrent snap.resolved rfl
    · rintro hcurrent _ ⟨⟩
      exact hcurrent
  · unfold Current
    rw [hsame, htext, resolvedForwards_cluster hcluster (cfg.env i) snap.resolved []]
    rw [resolvedForwards_cluster hcluster _ snap'.resolved []] at hresolved
    constructor
    · intro hcurrent now then_ hnow hthen
      rw [hresolved] at hthen
      cases hthen
      exact (Option.some.inj (hcurrent now hnow)).symm
    · intro hequal now hnow
      rw [hequal now resolved hnow hresolved]

theorem not_current {log : List (Event Command)} {resolved : List ResolvedForward}
    (hresolved : resolvedForwards rc (cfg.env i) snap.resolved = .ok resolved)
    (htext : rulesetText log ≠ some (renderNftables rc resolved cfg.nodeName).text) :
    ¬ Current cfg i rc snap log := fun hcurrent => htext (hcurrent resolved hresolved)

/-- A stand-in for sha256. -/
def markedSha : Sha256 where
  hex data := "#" ++ data
  injective _ _ h := by simpa using h
  ne_empty data h := by
    have hlist := congrArg String.toList h
    simp at hlist

def sampleLoop (identity : Option Controller.GatewayIdentity) :
    LoopConfig Scripted where
  path := "/etc/gateway/config.json"
  nodeName := "node-a"
  lease := { namespace_ := "gateways", name := "gateway", self := "link-a" }
  privKey := "key"
  identity := identity
  keptDataPlane := false
  preCheck := { reason := "", message := "" }
  sha := markedSha
  readSysctl := fun _ _ => .absent

/-- The API server answers every call of a publish. -/
def answered : Attempts :=
  ⟨List.replicate 5 { renewals := [], get := none, update := .stored }, rfl⟩

/-- An invocation that finds the config. -/
def reading (rc : RuntimeConfig) : Invocation where
  before := []
  file := .ok rc.toJson.marshal
  setAt := 0
  between := []
  now := 0
  resolve := fun host => .ok host
  tempFile := fun _ => .ok "/tmp/gateway-wg.conf"
  remove := fun _ => none
  slotAttempts := answered
  faultAttempts := answered

/-- The loop begins, with commands that fail as scripted. -/
def beginning (rc : RuntimeConfig) (script : List (Option String)) :
    Reload Scripted where
  lastConfigDigest := ""
  lastRulesetDigest := ""
  appliedForwards := none
  watcher := (sampleLoop rc.identity).watcherAt rc 0
  process := Process.start rc [] script
  lease := { holder := some "link-a", annotations := ∅ }

theorem load_marshal {σ : Type} {cfg : LoopConfig σ} (hidentity : rc.identity = cfg.identity)
    (hvalid : validate rc = .ok rc) :
    cfg.load (.ok rc.toJson.marshal) = .ok rc := by
  unfold LoopConfig.load loadRuntimeConfigMatching loadRuntimeConfig
  simp only [Json.unmarshal_marshal, Option.bind_some, RuntimeConfig.ofJson_toJson, hvalid]
  rw [if_neg (by simp [isLocal, hidentity]), if_neg (not_not.mpr hidentity)]

/-- A Cluster config the loop applies. -/
structure Applicable (rc : RuntimeConfig) : Prop where
  valid : validate rc = .ok rc
  cluster : rc.identity = none
  endpoints : rc.wireguard.peers.any (·.endpoint = "") = false

/-- What the apply of a Cluster config over a state comes to. -/
def reconcileOver (rc : RuntimeConfig) (process : Process Scripted)
    (lease : Lease) : Reconciled Scripted :=
  leaderReconcile scripted.logged (sampleLoop none) (reading rc) rc .empty process lease

/-- A loop that applied a config and recorded it. -/
structure Holding (rc : RuntimeConfig) (r : Reconciled Scripted)
    (s : Reload Scripted) : Prop where
  watcher : s.watcher = none
  process : s.process = r.process
  lease : s.lease = r.lease
  digest : s.lastConfigDigest = configDigest (sampleLoop none).sha rc

theorem first_holding (hrc : Applicable rc) {script : List (Option String)}
    (hr : reconcileOver rc (Process.start rc [] script) (beginning rc script).lease = r)
    (hrecords : r.records = true) :
    Holding rc r ((beginning rc script).loop scripted.logged (sampleLoop none) [reading rc]) := by
  have hw : (beginning rc script).watcher = none := by
    simp [beginning, LoopConfig.watcherAt, isLocal, hrc.cluster]
  have hload : (sampleLoop none).load (reading rc).file = .ok rc :=
    load_marshal hrc.cluster hrc.valid
  obtain ⟨after, hstep, hwatcher, hprocess, hlease, hdigest⟩ :=
    step_cluster_changed hload hw hrc.cluster ((sampleLoop none).sha.ne_empty _) hrc.endpoints hr
  have hafter : (beginning rc script).loop scripted.logged (sampleLoop none) [reading rc] = after :=
    congrArg Prod.fst hstep
  rw [hafter]
  rw [if_pos hrecords] at hdigest
  exact ⟨hwatcher, hprocess, hlease, hdigest⟩

/-- An edit that was not recorded leaves the digest of the config before it. -/
theorem Holding.edited {a b : RuntimeConfig}
    {r' : Reconciled Scripted}
    {s : Reload Scripted} (h : Holding a r s) (hb : Applicable b)
    (hne : b ≠ a) (hr : reconcileOver b r.process r.lease = r') (hrecords : r'.records = false) :
    Holding a r' (s.step scripted.logged (sampleLoop none) (reading b)).1 := by
  have hdigest : configDigest (sampleLoop none).sha b ≠ s.lastConfigDigest := by
    rw [h.digest]
    exact fun heq => hne (configDigest_inj heq)
  rw [← h.process, ← h.lease] at hr
  have hload : (sampleLoop none).load (reading b).file = .ok b := load_marshal hb.cluster hb.valid
  obtain ⟨after, hstep, hwatcher, hprocess, hlease, hafter⟩ :=
    step_cluster_changed hload h.watcher hb.cluster hdigest hb.endpoints hr
  rw [hstep]
  rw [if_neg (by rw [hrecords]; exact Bool.false_ne_true)] at hafter
  exact ⟨hwatcher, hprocess, hlease, hafter.trans h.digest⟩

/-- The next invocation over the recorded config finds nothing changed. -/
theorem Holding.unchanged {s : Reload Scripted} (h : Holding rc r s)
    (hrc : Applicable rc) (hi : i.file = .ok rc.toJson.marshal) :
    (s.step scripted.logged (sampleLoop none) i).2 = .unchanged rc .empty ∧
      (s.step scripted.logged (sampleLoop none) i).1.log = r.process.host.log ∧
      (s.step scripted.logged (sampleLoop none) i).1.lease = r.lease := by
  have hload : (sampleLoop none).load i.file = .ok rc := by
    rw [hi]
    exact load_marshal hrc.cluster hrc.valid
  have hlog : s.log = r.process.host.log := by
    unfold Reload.log
    rw [h.process]
  rw [step_cluster_unchanged hload h.watcher hrc.cluster h.digest.symm]
  exact ⟨rfl, hlog, h.lease⟩

theorem clusterConfig_applicable :
    Applicable (clusterConfig "10.96.0.1") ∧ Applicable (clusterConfig "10.96.0.2") :=
  ⟨⟨by decide +kernel, rfl, rfl⟩, ⟨by decide +kernel, rfl, rfl⟩⟩

/-- The loop begins over the config, and finds it unchanged. -/
abbrev begun : Reload Scripted :=
  beginning (clusterConfig "10.96.0.1") []

abbrev rereading : Invocation := reading (clusterConfig "10.96.0.1")

/-- The second of two applies fails at its one deletion, behind its ruleset. -/
def failingEdit : List (Option String) := List.replicate 10 none ++ [some "Operation failed"]

/-- The config is applied. -/
def firstApply (script : List (Option String)) :
    Reconciled Scripted :=
  reconcileOver (clusterConfig "10.96.0.1") (Process.start (clusterConfig "10.96.0.1") [] script)
    (beginning (clusterConfig "10.96.0.1") script).lease

/-- The edited config is applied after it. -/
def editApply : Reconciled Scripted :=
  reconcileOver (clusterConfig "10.96.0.2") (firstApply failingEdit).process
    (firstApply failingEdit).lease

theorem editApply_fails :
    (firstApply failingEdit).records = true ∧ editApply.records = false := by
  decide +kernel

/-- The loop after the failed edit. -/
def failed : Reload Scripted :=
  (beginning (clusterConfig "10.96.0.1") failingEdit).loop scripted.logged (sampleLoop none)
    [rereading, reading (clusterConfig "10.96.0.2")]

theorem failed_holding : Holding (clusterConfig "10.96.0.1") editApply failed := by
  have hfirst := first_holding clusterConfig_applicable.1 rfl editApply_fails.1
  have hedited := hfirst.edited clusterConfig_applicable.2 (by decide +kernel) rfl editApply_fails.2
  rw [← Reload.loop_snoc] at hedited
  exact hedited

/-- The loop after one apply. -/
def recordedOnce : Reload Scripted :=
  begun.loop scripted.logged (sampleLoop none)
    [rereading]

theorem recordedOnce_holding :
    Holding (clusterConfig "10.96.0.1") (firstApply []) recordedOnce :=
  first_holding clusterConfig_applicable.1 rfl (by decide +kernel)

/-- The forward's Service has another address than when the config was applied. -/
def reresolved : Invocation :=
  { rereading with resolve := fun _ => .ok "10.96.0.9" }

/-- Both invocations return as unchanged over a ruleset that is not the config's: one that reverts
an edit which failed behind its ruleset, and one after a Service's address changed. -/
theorem skipped_stale :
    ((failed.step scripted.logged (sampleLoop none) rereading).2 =
        .unchanged (clusterConfig "10.96.0.1") .empty ∧
      ¬ Current (sampleLoop none) rereading (clusterConfig "10.96.0.1")
        .empty (failed.step scripted.logged (sampleLoop none)
          rereading).1.log) ∧
    ((recordedOnce.step scripted.logged (sampleLoop none) reresolved).2 =
        .unchanged (clusterConfig "10.96.0.1") .empty ∧
      ¬ Current (sampleLoop none) reresolved (clusterConfig "10.96.0.1") .empty
        (recordedOnce.step scripted.logged (sampleLoop none) reresolved).1.log) := by
  have hreverted : rulesetText editApply.process.host.log ≠
      some (renderNftables (clusterConfig "10.96.0.1") [{ webForward with target := "10.96.0.1" }]
        (sampleLoop none).nodeName).text := by
    decide +kernel
  have hreresolved : rulesetText (firstApply []).process.host.log ≠
      some (renderNftables (clusterConfig "10.96.0.1") [{ webForward with target := "10.96.0.9" }]
        (sampleLoop none).nodeName).text := by
    decide +kernel
  obtain ⟨hunchanged, hlog, -⟩ := failed_holding.unchanged clusterConfig_applicable.1
    (i := rereading) rfl
  obtain ⟨hunchanged', hlog', -⟩ := recordedOnce_holding.unchanged clusterConfig_applicable.1
    (i := reresolved) rfl
  rw [hlog, hlog']
  exact ⟨⟨hunchanged, not_current (by decide +kernel) hreverted⟩,
    ⟨hunchanged', not_current (by decide +kernel) hreresolved⟩⟩

/-- The one step of that loop, which recorded. -/
def firstStep : Step Scripted :=
  Reload.taken scripted.logged (sampleLoop none) begun rereading

theorem recordedOnce_steps :
    begun.steps scripted.logged (sampleLoop none) [rereading] = [firstStep] := by
  simp only [Reload.steps, firstStep]

theorem firstStep_after : firstStep.after = recordedOnce := by
  rw [recordedOnce, Reload.loop_singleton, firstStep, Reload.taken]

theorem begun_started : begun.Started (sampleLoop none) :=
  ⟨rfl, rfl, rfl, .ok _, _, 0, [], load_marshal rfl clusterConfig_applicable.1.valid,
    Option.map_id'.symm⟩

/-- Two invocations over one config and one address: the second is skipped, and what is on the
node is the config's. -/
theorem skipped_current_iff_second :
    (recordedOnce.step scripted.logged (sampleLoop none) rereading).2 =
        .unchanged (clusterConfig "10.96.0.1") .empty ∧
      Current (sampleLoop none) rereading (clusterConfig "10.96.0.1") .empty
        (recordedOnce.step scripted.logged (sampleLoop none) rereading).1.log := by
  obtain ⟨hunchanged, hlog, -⟩ := recordedOnce_holding.unchanged clusterConfig_applicable.1
    (i := rereading) rfl
  obtain ⟨st, hst, -, hcluster⟩ :=
    skipped_current_iff scripted (sampleLoop none) begun begun_started
    [rereading] rereading (clusterConfig "10.96.0.1") .empty hunchanged
  rw [lastRecorded, recordedOnce_steps] at hst
  obtain rfl := List.mem_singleton.mp (List.mem_filter.mp (List.mem_of_getLast? hst)).1
  have hsame : (recordedOnce.step scripted.logged (sampleLoop none) rereading).1.log =
      firstStep.after.log := by
    rw [hlog, firstStep_after, Reload.log, recordedOnce_holding.process]
  refine ⟨hunchanged, (hcluster (by decide) (congrArg rulesetText hsame)).mpr ?_⟩
  intro now then_ hnow hthen
  cases hnow.symm.trans hthen
  rfl

/-! ## Pending forwards -/

/-- The ruleset on the node: the last one installed, or the one the data plane came with. -/
def onNode (inherited : Option Ruleset) (log : List (Event Command)) : Option Ruleset :=
  (rulesets log).getLast?.or inherited

/-- The ruleset has rules for the forward name. -/
def Ruleset.Programs (r : Ruleset) (name : String) : Prop := name ∈ r.forwards.map (·.name)

instance (r : Ruleset) (name : String) : Decidable (r.Programs name) :=
  inferInstanceAs (Decidable (_ ∈ _))

/-- The forwards that the snapshot of an invocation reports as pending. -/
def Outcome.pending {σ : Type} : Outcome σ → List String
  | .notLoaded _ => []
  | .waitingSync _ snap | .unchanged _ snap | .waitingEndpoint _ snap | .reconciled _ snap _ =>
    snap.pending

/-- The names that the guard consults, `appliedForwards` or its seed, cover what the node has rules
for. -/
def Covers (cfg : LoopConfig (Logged Command τ)) (inherited : Option Ruleset)
    (s : Reload (Logged Command τ)) (rc : RuntimeConfig) : Prop :=
  ∀ old ∈ onNode inherited s.log, ∀ name, old.Programs name → name ∈ s.guarded cfg rc

/-- After the invocation the node has rules for every pending forward it had rules for before. -/
def KeepsPending (inherited : Option Ruleset) (st : Step (Logged Command τ)) : Prop :=
  ∀ name ∈ st.outcome.pending, ∀ old ∈ onNode inherited st.before.log, old.Programs name →
    ∃ new ∈ onNode inherited st.after.log, new.Programs name

theorem Prepared.onNode {p : Reload (Logged Command τ)} (hp : Prepared run.logged cfg s i rc p snap)
    (inherited : Option Ruleset) :
    Link.onNode inherited p.log = Link.onNode inherited s.log := by
  rw [Link.onNode, hp.rulesets, Link.onNode]

/-- **One invocation.** One that installs a ruleset found no pending name in the guard's set, and
one that does not leaves what is on the node. -/
theorem keepsPending_taken {inherited : Option Ruleset}
    (hcovers : ∀ rc, cfg.load i.file = .ok rc → Covers cfg inherited s rc) :
    KeepsPending inherited (Reload.taken run.logged cfg s i) := by
  intro name hname old hold hprograms
  simp only [Reload.taken] at hname hold ⊢
  have hend := step_ends run.logged cfg s i
  generalize (s.step run.logged cfg i).1 = after, (s.step run.logged cfg i).2 = outcome
    at hend hname
  cases hend with
  | notLoaded hload => cases hname
  | waitingSync hp | unchanged hp | waitingEndpoint hp =>
    exact ⟨old, by rwa [hp.onNode], hprograms⟩
  | reconciled hp hguard =>
    exact absurd (hcovers _ hp.load old hold name hprograms) (hguard name hname)

/-- **A pending forward keeps its rules**, at every invocation of every run in which the guard's
names cover what the node has rules for before each invocation. -/
theorem pending_kept (run : Runner Command τ) (cfg : LoopConfig (Logged Command τ))
    (s : Reload (Logged Command τ)) (inherited : Option Ruleset) (is : List Invocation)
    (hcovers : ∀ st ∈ s.steps run.logged cfg is, ∀ rc, cfg.load st.invocation.file = .ok rc →
      Covers cfg inherited st.before rc) :
    ∀ st ∈ s.steps run.logged cfg is, KeepsPending inherited st := by
  intro st hst
  obtain ⟨js, htaken⟩ := Reload.exists_of_mem_steps hst
  have hst' := hcovers st hst
  rw [htaken] at hst' ⊢
  exact keepsPending_taken hst'

/-- A Local config with one forward, to a Service of the name. -/
def webConfig (serviceName : String) : RuntimeConfig :=
  { memberConfig 7 with
    forwards := [{ name := "web", publicPort := 443, protocol := "tcp", service := "",
                   targetPort := 0, namespace_ := "default", serviceName,
                   servicePortName := "https" }] }

/-- The Service's endpoints arrive, then the loop runs. -/
def withEndpoint : Invocation :=
  { reading (webConfig "web") with
    before := [.informer { namespace_ := "default", serviceName := "web" }
      [{ addressType := .ipv4
         endpoints := [{ nodeName := some "node-a", ready := some true, addresses := ["10.1.2.3"] }]
         ports := [{ name := some "https", port := some 8443 }] }] true] }

def webLoop : LoopConfig Scripted :=
  sampleLoop (some (newGatewayIdentity 7))

theorem webConfig_loads :
    webLoop.load (reading (webConfig "web")).file = .ok (webConfig "web") ∧
      webLoop.load (reading (webConfig "web-v2")).file = .ok (webConfig "web-v2") :=
  ⟨load_marshal rfl (by decide +kernel), load_marshal rfl (by decide +kernel)⟩

/-- The loop after the forward's rules were installed beside a slot that stayed down. -/
def slotDown : Reload Scripted :=
  (((beginning (webConfig "web") [none, some "Operation not permitted"]).observe webLoop
    withEndpoint).loaded scripted.logged webLoop withEndpoint (webConfig "web")).1

/-- The next invocation, which finds the forward moved to another Service. -/
def editing : Reload Scripted ×
    Outcome Scripted :=
  (slotDown.observe webLoop (reading (webConfig "web-v2"))).loaded scripted.logged webLoop
    (reading (webConfig "web-v2")) (webConfig "web-v2")

theorem slotDown_eq :
    (beginning (webConfig "web") [none, some "Operation not permitted"]).loop scripted.logged
      webLoop [withEndpoint] = slotDown := by
  have hload : webLoop.load withEndpoint.file = .ok (webConfig "web") := webConfig_loads.1
  rw [Reload.loop_singleton, step_of_load hload, slotDown]

theorem editing_eq :
    slotDown.step scripted.logged webLoop (reading (webConfig "web-v2")) = editing :=
  step_of_load webConfig_loads.2

/-- **A pending forward loses its rules**: they were installed beside a slot that stayed down, so
the loop does not remember them when the forward moves to a Service it has not heard of yet. -/
theorem editedForward_lost :
    ¬ KeepsPending none (Reload.taken scripted.logged webLoop
      ((beginning (webConfig "web") [none, some "Operation not permitted"]).loop scripted.logged
        webLoop [withEndpoint]) (reading (webConfig "web-v2"))) := by
  intro hkeeps
  simp only [KeepsPending, Reload.taken, slotDown_eq, editing_eq] at hkeeps
  have hafter : onNode none editing.1.log =
      some (renderNftables (webConfig "web-v2") [] "node-a") := by
    decide +kernel
  obtain ⟨new, hnew, hprograms⟩ := hkeeps "web" (by decide +kernel)
    (renderNftables (webConfig "web") [webForward] "node-a") (by decide +kernel) (by decide +kernel)
  rw [hafter] at hnew
  cases hnew
  exact absurd hprograms (by decide +kernel)

/-- The loop after the forward's rules were installed, and the slot with them. -/
@[irreducible] def webApplied : Reload Scripted :=
  (((beginning (webConfig "web") []).observe webLoop withEndpoint).loaded scripted.logged webLoop
    withEndpoint (webConfig "web")).1

/-- The forward moves to another Service, and the loop waits for it. -/
theorem pending_kept_waiting :
    ∃ st ∈ (beginning (webConfig "web") []).steps scripted.logged webLoop
        [withEndpoint, reading (webConfig "web-v2")],
      "web" ∈ st.outcome.pending ∧ (∃ old ∈ onNode none st.before.log, old.Programs "web") ∧
        ∃ new ∈ onNode none st.after.log, new.Programs "web" := by
  have hload : webLoop.load withEndpoint.file = .ok (webConfig "web") := webConfig_loads.1
  have hsteps : (beginning (webConfig "web") []).steps scripted.logged webLoop
      [withEndpoint, reading (webConfig "web-v2")] =
      [Reload.taken scripted.logged webLoop (beginning (webConfig "web") []) withEndpoint,
        Reload.taken scripted.logged webLoop webApplied (reading (webConfig "web-v2"))] := by
    simp only [Reload.steps, step_of_load hload, webApplied]
  have hclean : onNode none (beginning (webConfig "web") []).log = none := by decide +kernel
  have hnode : onNode none webApplied.log =
      some (renderNftables (webConfig "web") [webForward] "node-a") := by decide +kernel
  have hguarded : (renderNftables (webConfig "web") [webForward] "node-a").forwards.map (·.name) =
      webApplied.guarded webLoop (webConfig "web-v2") := by decide +kernel
  have hprograms : (renderNftables (webConfig "web") [webForward] "node-a").Programs "web" := by
    decide +kernel
  have hkept := pending_kept scripted webLoop (beginning (webConfig "web") []) none
    [withEndpoint, reading (webConfig "web-v2")]
  rw [hsteps] at hkept ⊢
  simp only [Reload.taken, step_of_load webConfig_loads.2] at hkept ⊢
  generalize hlast : Reload.loaded scripted.logged webLoop _ (reading (webConfig "web-v2")) _ = last
    at hkept ⊢
  have hpending : "web" ∈ last.2.pending := by
    rw [← hlast]
    decide +kernel
  refine ⟨_, List.mem_cons_of_mem _ List.mem_cons_self, hpending, ⟨_, hnode, hprograms⟩,
    hkept ?_ _ (List.mem_cons_of_mem _ List.mem_cons_self) "web" hpending _ hnode hprograms⟩
  refine List.forall_mem_cons.mpr ⟨fun rc _ old hold => ?_,
    List.forall_mem_singleton.mpr fun rc hrc old hold => ?_⟩
  · exact absurd (hclean.symm.trans hold) (Option.some_ne_none old).symm
  obtain rfl := Option.some.inj (hnode.symm.trans hold)
  obtain rfl := Except.ok.inj (webConfig_loads.2.symm.trans hrc)
  exact fun name hname => hguarded ▸ hname

end WireguardGateway.Link

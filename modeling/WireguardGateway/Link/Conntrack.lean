import WireguardGateway.Link.PassLog

/-!
# Conntrack deletions over a process

A flow that was translated by a rule stays in conntrack after the rule is gone, and a flow that was
tracked before a rule was installed bypasses it. The link deletes both kinds, but decides which by
the forwards and the address of the last pass that returned **no error** (`dataplane.go:58-80`),
while `nft` also installs rulesets in passes that fail later.

Two readings of the log of everything a process ran:
* `flowsOf t log` follows a forward tuple: `live` while the current ruleset programs it, `stale`
  from its replacement until a deletion of the tuple completes;
* `hairpinOn h log` follows a hairpin rule: `fresh` from the installation that began its present
  uninterrupted stay until a deletion for its address, protocol and port completes.

Results, for every sequence of passes over every runner:
* **`flushed_iff`**: after a pass without an error no tuple is stale iff every tuple that was live
  or stale before it is remembered or current; `lostTuple_stale` is a run where that fails;
* **`hairpins_settled_iff`**: after such a pass with a public address none of its hairpins is fresh
  iff every hairpin the remembered address and forwards make it skip was settled before;
  `readdedPort_fresh` is a run where that fails.
-/

namespace WireguardGateway.Link

open Lib Lib.Plan
open Controller (RuntimeConfig)

variable {σ : Type}

/-! ## Reading the log -/

/-- The ruleset an event installed. -/
def installed? (ev : Event Command) : Option Ruleset :=
  match ev.command.input, ev.error with
  | .ruleset r, none => some r
  | _, _ => none

/-- The event is the deletion `c`, completed or without flows to delete. -/
def deletes (c : Command) (ev : Event Command) : Bool :=
  ev.command = c ∧ tolerateStep ev.command ev.error = none

variable {ev : Event Command} {t : ForwardTuple}

theorem deletes_iff {c : Command} :
    deletes c ev ↔ ev.command = c ∧ tolerateStep ev.command ev.error = none := by
  simp [deletes]

/-- What is left of a forward tuple's flows. -/
inductive Flows where
  /-- No ruleset programmed the tuple, or its flows were deleted after the last one that did. -/
  | clean
  /-- The ruleset installed last programs the tuple. -/
  | live
  /-- The last ruleset that programmed the tuple was replaced, and no deletion completed since. -/
  | stale
  deriving DecidableEq, Repr

def Flows.step (t : ForwardTuple) (s : Flows) (ev : Event Command) : Flows :=
  match installed? ev with
  | some r => if t ∈ r.forwards.map tupleOf then .live else if s = .live then .stale else s
  | none => if s = .stale ∧ deletes (flushCommand t) ev then .clean else s

def flowsOf (t : ForwardTuple) (log : List (Event Command)) : Flows :=
  log.foldl (Flows.step t) .clean

/-- How long a hairpin rule has been installed. -/
inductive Stay where
  /-- The ruleset installed last has no such rule. -/
  | absent
  /-- No deletion has completed since the installation that began the rule's present stay. -/
  | fresh
  /-- A deletion completed during the rule's present stay. -/
  | settled
  deriving DecidableEq, Repr

/-- The ruleset carries the hairpin rule. -/
def Ruleset.carries (r : Ruleset) (h : Hairpin) : Bool :=
  r.publicAddress ≠ "" ∧ h ∈ r.forwards.map (hairpinOf r.publicAddress)

def Stay.step (h : Hairpin) (s : Stay) (ev : Event Command) : Stay :=
  match installed? ev with
  | some r => if r.carries h then (if s = .absent then .fresh else s) else .absent
  | none => if s = .fresh ∧ deletes (hairpinFlushCommand h) ev then .settled else s

def hairpinOn (h : Hairpin) (log : List (Event Command)) : Stay :=
  log.foldl (Stay.step h) .absent

/-! ## Events that install nothing -/

theorem installed?_nft (r : Ruleset) : installed? ⟨nftCommand r, none⟩ = some r := rfl

theorem installed?_quiet (h : Quiet ev.command) : installed? ev = none := by
  unfold installed?
  split
  · rename_i r hinput herror
    exact absurd hinput (h.1 r)
  · rfl

theorem deletes_quiet (h : Quiet ev.command) {c : Command} (hc : c.name = "conntrack") :
    deletes c ev = false := by
  rw [Bool.eq_false_iff]
  intro hdeletes
  obtain ⟨rfl, -⟩ := deletes_iff.mp hdeletes
  exact h.2 hc

theorem installed?_flush {e : Option String} :
    installed? ⟨flushCommand t, e⟩ = none := rfl

theorem installed?_hairpinFlush {h : Hairpin} {e : Option String} :
    installed? ⟨hairpinFlushCommand h, e⟩ = none := rfl

theorem hairpinFlushCommand_inj {h k : Hairpin}
    (heq : hairpinFlushCommand h = hairpinFlushCommand k) : h = k := by
  cases h with
  | mk address protocol port =>
    cases k with
    | mk address' protocol' port' =>
      have hargs := congrArg Command.args heq
      simp only [hairpinFlushCommand, List.cons.injEq, and_true, true_and] at hargs
      obtain ⟨rfl, rfl, hport⟩ := hargs
      rw [decimal_inj hport]

/-- The two kinds of deletion have different arguments. -/
theorem flushCommand_ne_hairpin (t : ForwardTuple) (h : Hairpin) :
    flushCommand t ≠ hairpinFlushCommand h := by
  intro heq
  have hlength := congrArg (fun c => c.args.length) heq
  simp [flushCommand, hairpinFlushCommand, conntrackFlushArgs] at hlength

/-- A stretch of events of which only the deletion `c` matters. -/
theorem foldl_deletes {S : Type} [DecidableEq S] {step : S → Event Command → S} {c : Command}
    {a b : S} (hab : a ≠ b) {evs : List (Event Command)}
    (hstep : ∀ ev ∈ evs, ∀ s, step s ev = if s = a ∧ deletes c ev then b else s) (s : S) :
    evs.foldl step s = if s = a ∧ ∃ ev ∈ evs, deletes c ev then b else s := by
  induction evs generalizing s with
  | nil => simp
  | cons ev evs ih =>
    rw [List.foldl_cons, ih fun ev hev => hstep ev (List.mem_cons_of_mem _ hev),
      hstep ev List.mem_cons_self]
    by_cases hs : s = a
    · by_cases hd : deletes c ev <;> simp [hs, hd, Ne.symm hab]
    · simp [hs]

theorem foldl_flows {evs : List (Event Command)} (hnone : ∀ ev ∈ evs, installed? ev = none)
    (s : Flows) :
    evs.foldl (Flows.step t) s =
      if s = .stale ∧ ∃ ev ∈ evs, deletes (flushCommand t) ev then .clean else s :=
  foldl_deletes (by decide) (fun ev hev s => by rw [Flows.step, hnone ev hev]) s

theorem foldl_stay {h : Hairpin} {evs : List (Event Command)}
    (hnone : ∀ ev ∈ evs, installed? ev = none) (s : Stay) :
    evs.foldl (Stay.step h) s =
      if s = .fresh ∧ ∃ ev ∈ evs, deletes (hairpinFlushCommand h) ev then .settled else s :=
  foldl_deletes (by decide) (fun ev hev s => by rw [Stay.step, hnone ev hev]) s

/-- A tuple that no installed ruleset programs has no flows. -/
theorem flowsOf_unprogrammed {log : List (Event Command)}
    (h : ∀ ev ∈ log, ∀ r ∈ installed? ev, t ∉ r.forwards.map tupleOf) : flowsOf t log = .clean := by
  refine List.foldlRecOn (motive := (· = Flows.clean)) log _ rfl fun s hs ev hev => ?_
  subst hs
  unfold Flows.step
  cases hr : installed? ev with
  | none => simp
  | some r => simp [h ev hev r hr]

/-! ## One pass -/

section

variable {rc : RuntimeConfig} {env : ApplyEnv} {previous : List ResolvedForward}
  {previousAddress : String} {localForwards : List ResolvedForward}

/-- The tuples a pass programs. -/
def currentTuples (rc : RuntimeConfig) (env : ApplyEnv) (localForwards : List ResolvedForward) :
    List ForwardTuple :=
  match resolvedForwards rc env localForwards with
  | .ok resolved => resolved.map tupleOf
  | .error _ => []

variable {flush hairpin : List (Event Command)} {resolved : List ResolvedForward}

theorem deletions_install_nothing
    (hflush : ∀ ev ∈ flush, ev.command ∈ conntrackFlushCommands previous resolved)
    (hhairpin : ∀ ev ∈ hairpin, ev.command ∈ hairpinPlan rc previousAddress previous resolved) :
    ∀ ev ∈ flush ++ hairpin, installed? ev = none := by
  rintro ⟨c, e⟩ hev
  rcases List.mem_append.mp hev with hev | hev
  · obtain ⟨t, -, -, rfl⟩ := mem_conntrackFlushCommands.mp (hflush _ hev)
    exact installed?_flush
  · have hc := hhairpin _ hev
    unfold hairpinPlan at hc
    split_ifs at hc
    · obtain ⟨-, f, -, -, rfl⟩ := mem_hairpinConntrackCommands.mp hc
      exact installed?_hairpinFlush
    · cases hc

/-- In a completed pass a tuple is deleted iff it is remembered and not current. -/
theorem deletes_tuple_iff (hflush : Completed (conntrackFlushCommands previous resolved) flush)
    (hhairpin : ∀ ev ∈ hairpin, ev.command ∈ hairpinPlan rc previousAddress previous resolved)
    (t : ForwardTuple) :
    (∃ ev ∈ flush ++ hairpin, deletes (flushCommand t) ev) ↔
      t ∈ previous.map tupleOf ∧ t ∉ resolved.map tupleOf := by
  constructor
  · rintro ⟨ev, hev, hdeletes⟩
    obtain ⟨hcommand, -⟩ := deletes_iff.mp hdeletes
    rcases List.mem_append.mp hev with hev | hev
    · obtain ⟨u, hu, hcurrent, hflushed⟩ :=
        mem_conntrackFlushCommands.mp (hflush.mem ev hev)
      rw [conntrackFlushArgs_inj (congrArg Command.args (hcommand.symm.trans hflushed))]
      exact ⟨hu, hcurrent⟩
    · have hc := hhairpin ev hev
      unfold hairpinPlan at hc
      split_ifs at hc
      · obtain ⟨-, f, -, -, hpin⟩ := mem_hairpinConntrackCommands.mp hc
        exact absurd (hcommand.symm.trans hpin) (flushCommand_ne_hairpin _ _)
      · cases hc
  · rintro ⟨hprevious, hcurrent⟩
    have hmem : flushCommand t ∈ conntrackFlushCommands previous resolved :=
      mem_conntrackFlushCommands.mpr ⟨t, hprevious, hcurrent, rfl⟩
    rw [← hflush.1] at hmem
    obtain ⟨ev, hev, hcommand⟩ := List.mem_map.mp hmem
    exact ⟨ev, List.mem_append_left _ hev, deletes_iff.mpr ⟨hcommand, hflush.2 ev hev⟩⟩

/-- A tuple after a pass without an error. -/
theorem flowsOf_success {log evs : List (Event Command)}
    (h : PassEnd rc env previous previousAddress localForwards none evs) (t : ForwardTuple) :
    flowsOf t (log ++ evs) ≠ .stale ↔
      (flowsOf t log ≠ .clean →
        t ∈ previous.map tupleOf ∨ t ∈ currentTuples rc env localForwards) := by
  generalize hnone : (none : Option String) = err at h
  cases h with
  | early | refused => cases hnone
  | @installed quiet flush hairpin resolved err hquiet hresolved hflush hhairpin hdone =>
    obtain ⟨hflushed, -⟩ := hdone hnone.symm
    have hcurrent : currentTuples rc env localForwards = resolved.map tupleOf := by
      simp [currentTuples, hresolved]
    have hquietNone : ∀ ev ∈ quiet, installed? ev = none := fun ev hev =>
      installed?_quiet (hquiet ev hev)
    have hquietKeeps : ¬ ∃ ev ∈ quiet, deletes (flushCommand t) ev := by
      rintro ⟨ev, hev, hdeletes⟩
      rw [deletes_quiet (hquiet ev hev) rfl] at hdeletes
      cases hdeletes
    have hprogrammed : t ∈ (renderNftables rc resolved env.nodeName).forwards.map tupleOf ↔
        t ∈ resolved.map tupleOf := by
      simp
    -- the log is folded piece by piece: the quiet commands, the ruleset, the deletions
    unfold flowsOf
    rw [List.foldl_append, List.foldl_append, foldl_flows hquietNone,
      if_neg (by simp [hquietKeeps]),
      List.foldl_cons, foldl_flows (deletions_install_nothing hflush hhairpin), hcurrent]
    simp only [deletes_tuple_iff hflushed hhairpin, Flows.step, installed?_nft, hprogrammed]
    by_cases ht : t ∈ resolved.map tupleOf
    · simp [ht]
    · cases log.foldl (Flows.step t) .clean with
      | clean | live | stale => simp [ht]

/-- In a completed pass a current hairpin is deleted iff it was not installed before. -/
theorem deletes_hairpin_iff (hlocal : isLocal rc) (haddress : rc.publicAddress ≠ "")
    (hflush : ∀ ev ∈ flush, ev.command ∈ conntrackFlushCommands previous resolved)
    (hhairpin : Completed (hairpinPlan rc previousAddress previous resolved) hairpin)
    {f : ResolvedForward} (hf : f ∈ resolved) :
    (∃ ev ∈ flush ++ hairpin,
        deletes (hairpinFlushCommand (hairpinOf rc.publicAddress f)) ev) ↔
      hairpinOf rc.publicAddress f ∉
        hairpinInstalled rc.publicAddress previousAddress previous := by
  have hplan : hairpinPlan rc previousAddress previous resolved =
      hairpinConntrackCommands rc.publicAddress previousAddress previous resolved := by
    simp [hairpinPlan, hlocal]
  constructor
  · rintro ⟨ev, hev, hdeletes⟩
    obtain ⟨hcommand, -⟩ := deletes_iff.mp hdeletes
    rcases List.mem_append.mp hev with hev | hev
    · obtain ⟨t, -, -, hflushed⟩ := mem_conntrackFlushCommands.mp (hflush ev hev)
      exact absurd (hflushed.symm.trans hcommand) (flushCommand_ne_hairpin _ _)
    · obtain ⟨-, g, -, hnew, hpin⟩ :=
        mem_hairpinConntrackCommands.mp (hplan ▸ hhairpin.mem ev hev)
      rw [hairpinFlushCommand_inj (hcommand.symm.trans hpin)]
      exact hnew
  · intro hnew
    have hmem : hairpinFlushCommand (hairpinOf rc.publicAddress f) ∈
        hairpinPlan rc previousAddress previous resolved :=
      hplan ▸ mem_hairpinConntrackCommands.mpr ⟨haddress, f, hf, hnew, rfl⟩
    rw [← hhairpin.1] at hmem
    obtain ⟨ev, hev, hcommand⟩ := List.mem_map.mp hmem
    exact ⟨ev, List.mem_append_right _ hev, deletes_iff.mpr ⟨hcommand, hhairpin.2 ev hev⟩⟩

/-- A current hairpin after a Local pass without an error. -/
theorem hairpinOn_success (hlocal : isLocal rc) (haddress : rc.publicAddress ≠ "")
    {log evs : List (Event Command)}
    (h : PassEnd rc env previous previousAddress localForwards none evs) {f : ResolvedForward}
    (hf : f ∈ localForwards) :
    hairpinOn (hairpinOf rc.publicAddress f) (log ++ evs) ≠ .fresh ↔
      (hairpinOf rc.publicAddress f ∈
          hairpinInstalled rc.publicAddress previousAddress previous →
        hairpinOn (hairpinOf rc.publicAddress f) log = .settled) := by
  generalize hnone : (none : Option String) = err at h
  cases h with
  | early | refused => cases hnone
  | @installed quiet flush hairpin resolved err hquiet hresolved hflush hhairpin hdone =>
    obtain ⟨-, hpinned⟩ := hdone hnone.symm
    obtain rfl : localForwards = resolved := by
      simpa [resolvedForwards, hlocal] using hresolved
    have hquietNone : ∀ ev ∈ quiet, installed? ev = none := fun ev hev =>
      installed?_quiet (hquiet ev hev)
    have hquietKeeps :
        ¬ ∃ ev ∈ quiet, deletes (hairpinFlushCommand (hairpinOf rc.publicAddress f)) ev := by
      rintro ⟨ev, hev, hdeletes⟩
      rw [deletes_quiet (hquiet ev hev) rfl] at hdeletes
      cases hdeletes
    have hcarries : (renderNftables rc localForwards env.nodeName).carries
        (hairpinOf rc.publicAddress f) = true := by
      simp only [Ruleset.carries, renderNftables_publicAddress hlocal, renderNftables_forwards]
      simpa [haddress] using ⟨f, hf, rfl⟩
    unfold hairpinOn
    rw [List.foldl_append, List.foldl_append, foldl_stay hquietNone, if_neg (by simp [hquietKeeps]),
      List.foldl_cons, foldl_stay (deletions_install_nothing hflush hhairpin)]
    simp only [deletes_hairpin_iff hlocal haddress hflush hpinned hf, Stay.step, installed?_nft,
      hcarries, if_true]
    by_cases hnew : hairpinOf rc.publicAddress f ∈
        hairpinInstalled rc.publicAddress previousAddress previous
    · cases log.foldl (Stay.step (hairpinOf rc.publicAddress f)) .absent with
      | absent | fresh | settled => simp [hnew]
    · cases log.foldl (Stay.step (hairpinOf rc.publicAddress f)) .absent with
      | absent | fresh | settled => simp [hnew]

end

/-! ## Processes -/

/-- The input of an `applyPass`. -/
structure Pass where
  rc : RuntimeConfig
  env : ApplyEnv
  localForwards : List ResolvedForward

def Pass.call (x : Pass) : Call := .applyPass x.rc x.env x.localForwards

/-- A process that has run nothing yet, on a node with these link names. -/
def Process.start (rc : RuntimeConfig) (names : List String) (host : σ) :
    Process (Logged Command σ) :=
  { dp := startDataPlane rc names, host := { host, log := [] } }

theorem Process.call_applyPass (run : Runner Command σ) (p : Process (Logged Command σ))
    (x : Pass) :
    ∃ evs out, ApplyPassEnd p.dp x.rc x.env x.localForwards out evs ∧
      (p.call run.logged x.call).1.host.log = p.host.log ++ evs ∧
      (p.call run.logged x.call).1.dp = out.1 ∧ (p.call run.logged x.call).2 = out.2.2 := by
  have hemits : Emits run.logged (linkApply run.logged p.dp x.rc x.env x.localForwards) _ :=
    linkApply_ends
  obtain ⟨evs, htrace, hend⟩ := hemits p.host
  exact ⟨evs, _, hend, htrace.log, rfl, rfl⟩

/-- **Which runs flush completely.** In every process and after every pass of it that returns no
error, no tuple is left stale iff every tuple whose flows were not accounted for before the pass is
remembered from the last pass without an error or programmed by this one. -/
theorem flushed_iff (run : Runner Command σ) (rc₀ : RuntimeConfig) (names : List String) (host : σ)
    (passes : List Pass) (x : Pass) :
    let p := (Process.start rc₀ names host).run run.logged (passes.map Pass.call)
    (p.call run.logged x.call).2 = none →
    ((∀ t, flowsOf t (p.call run.logged x.call).1.host.log ≠ .stale) ↔
      ∀ t, flowsOf t p.host.log ≠ .clean →
        t ∈ p.dp.forwards.map tupleOf ∨ t ∈ currentTuples x.rc x.env x.localForwards) := by
  intro p hok
  obtain ⟨evs, out, hend, hlog, -, herr⟩ := Process.call_applyPass run p x
  have hpass : PassEnd x.rc x.env p.dp.forwards p.dp.publicAddress x.localForwards none evs := by
    rw [← hok, herr]
    exact hend.ends
  rw [hlog]
  exact forall_congr' (flowsOf_success hpass)

/-! ### A tuple nobody deletes -/

/-- A runner that follows a script: the next outcome, and success once the script is used up. -/
def scripted : Runner Command (List (Option String)) := fun _ script =>
  (script.head?.join, script.tail)

/-- The host of a scripted run, with the log of its commands. -/
abbrev Scripted : Type := Logged Command (List (Option String))

/-- A Cluster config with one forward to `service`. -/
def clusterConfig (service : String) : RuntimeConfig where
  trafficPolicy := "Cluster"
  identity := none
  healthPort := 0
  podSelector := []
  responders := []
  responderPort := 0
  responderTarget := ""
  publicAddress := ""
  wireguard := { address := "10.99.0.2/32", listenPort := 0, mtu := 1380, peers := [] }
  forwards := [{ name := "web", publicPort := 443, protocol := "tcp", service, targetPort := 8443,
                 namespace_ := "", serviceName := "", servicePortName := "" }]

def sampleEnv : ApplyEnv where
  nodeName := "node-a"
  privKey := "key"
  resolve := fun host => .ok host
  tempFile := fun _ => .ok "/tmp/gateway-wg.conf"
  remove := fun _ => none

/-- A pass whose forward resolves to `address`. -/
def clusterPass (address : String) : Pass :=
  { rc := clusterConfig address, env := sampleEnv, localForwards := [] }

/-- Two passes, of which the second fails at its one deletion, after its ruleset was installed. -/
def lostTupleRun : Process Scripted :=
  (Process.start (clusterConfig "10.96.0.1") []
      (List.replicate 10 none ++ [some "Operation failed"])).run
    scripted.logged ([clusterPass "10.96.0.1", clusterPass "10.96.0.2"].map Pass.call)

/-- The next pass returns no error and deletes the first target's flows, not the second's. -/
theorem lostTuple_stale :
    (lostTupleRun.call scripted.logged (clusterPass "10.96.0.3").call).2 = none ∧
      flowsOf { protocol := "tcp", publicPort := 443, target := "10.96.0.2", targetPort := 8443 }
        (lostTupleRun.call scripted.logged (clusterPass "10.96.0.3").call).1.host.log =
          .stale := by
  decide +kernel

/-- The first pass of a process. -/
def firstPassRun : Process Scripted :=
  (Process.start (clusterConfig "10.96.0.1") [] []).run scripted.logged
    ([clusterPass "10.96.0.1"].map Pass.call)

/-- The second one deletes the flows of the tuple it replaces. -/
theorem flushed_iff_replaced :
    let t : ForwardTuple :=
      { protocol := "tcp", publicPort := 443, target := "10.96.0.1", targetPort := 8443 }
    let q := firstPassRun.call scripted.logged (clusterPass "10.96.0.2").call
    flowsOf t firstPassRun.host.log = .live ∧ flowsOf t q.1.host.log = .clean ∧ q.2 = none ∧
      ∀ t, flowsOf t q.1.host.log ≠ .stale := by
  have hok : (firstPassRun.call scripted.logged (clusterPass "10.96.0.2").call).2 = none := by
    decide +kernel
  have hprogrammed : ∀ ev ∈ firstPassRun.host.log, ∀ r ∈ installed? ev,
      ∀ u ∈ r.forwards.map tupleOf, u ∈ firstPassRun.dp.forwards.map tupleOf := by decide +kernel
  refine ⟨by decide +kernel, by decide +kernel, hok,
    (flushed_iff scripted _ [] [] [clusterPass "10.96.0.1"] (clusterPass "10.96.0.2") hok).mpr
      fun t ht => .inl ?_⟩
  by_contra hnot
  exact ht (flowsOf_unprogrammed fun ev hev r hr hmem => hnot (hprogrammed ev hev r hr t hmem))

/-- A call of the cycle's leader: a Local pass, or the start of a cycle. -/
inductive LeaderCall where
  | pass (x : Pass) (hlocal : isLocal x.rc)
  | startLeading

def LeaderCall.call : LeaderCall → Call
  | .pass x _ => x.call
  | .startLeading => .startLeading

/-- **Which runs settle the hairpins.** In every process and after every Local pass of it that
returns no error with a public address, none of its hairpins is fresh iff each of those that the
remembered address and forwards make the pass skip was settled before it. -/
theorem hairpins_settled_iff (run : Runner Command σ) (rc₀ : RuntimeConfig) (names : List String)
    (host : σ) (calls : List LeaderCall) (x : Pass) (hlocal : isLocal x.rc)
    (haddress : x.rc.publicAddress ≠ "") :
    let p := (Process.start rc₀ names host).run run.logged (calls.map LeaderCall.call)
    (p.call run.logged x.call).2 = none →
    ((∀ f ∈ x.localForwards, hairpinOn (hairpinOf x.rc.publicAddress f)
        (p.call run.logged x.call).1.host.log ≠ .fresh) ↔
      ∀ f ∈ x.localForwards, hairpinOf x.rc.publicAddress f ∈
          hairpinInstalled x.rc.publicAddress p.dp.publicAddress p.dp.forwards →
        hairpinOn (hairpinOf x.rc.publicAddress f) p.host.log = .settled) := by
  intro p hok
  obtain ⟨evs, out, hend, hlog, -, herr⟩ := Process.call_applyPass run p x
  have hpass : PassEnd x.rc x.env p.dp.forwards p.dp.publicAddress x.localForwards none evs := by
    rw [← hok, herr]
    exact hend.ends
  rw [hlog]
  exact forall₂_congr fun f hf => hairpinOn_success hlocal haddress hpass hf

/-! ### A port that comes back -/

/-- A Local config behind a public address, before any member has joined. -/
def localConfig (publicAddress : String) : RuntimeConfig where
  trafficPolicy := "Local"
  identity := some (newGatewayIdentity 7)
  healthPort := 27007
  podSelector := [("app.kubernetes.io/component", "link")]
  responders := []
  responderPort := 0
  responderTarget := ""
  publicAddress := publicAddress
  wireguard := { address := "10.99.0.2/32", listenPort := 0, mtu := 1380, peers := [] }
  forwards := []

def localPass (forwards : List ResolvedForward) : Pass :=
  { rc := localConfig "203.0.113.5", env := sampleEnv, localForwards := forwards }

def webForward : ResolvedForward :=
  { name := "web", publicPort := 443, protocol := "tcp", target := "10.1.2.3", targetPort := 8443 }

/-- A pass with the port, and one without it that fails after its ruleset was installed. -/
def readdedPortRun : Process Scripted :=
  (Process.start (localConfig "203.0.113.5") [] [none, none, none, some "Operation failed"]).run
    scripted.logged [(localPass [webForward]).call, (localPass []).call]

/-- The next pass installs the port's hairpin anew and deletes nothing. -/
theorem readdedPort_fresh :
    (readdedPortRun.call scripted.logged (localPass [webForward]).call).2 = none ∧
      hairpinOn (hairpinOf "203.0.113.5" webForward)
        (readdedPortRun.call scripted.logged (localPass [webForward]).call).1.host.log =
          .fresh := by
  decide +kernel

theorem hairpins_settled_iff_first :
    ((Process.start (localConfig "203.0.113.5") [] []).call scripted.logged
        (localPass [webForward]).call).2 = none ∧
      ∀ f ∈ [webForward], hairpinOn (hairpinOf "203.0.113.5" f)
        ((Process.start (localConfig "203.0.113.5") [] []).call scripted.logged
          (localPass [webForward]).call).1.host.log ≠ .fresh := by
  have hok : ((Process.start (localConfig "203.0.113.5") [] []).call scripted.logged
      (localPass [webForward]).call).2 = none := by decide +kernel
  refine ⟨hok, (hairpins_settled_iff scripted _ [] [] [] (localPass [webForward]) rfl
    (by decide) hok).mpr ?_⟩
  decide +kernel

end WireguardGateway.Link

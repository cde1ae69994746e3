import WireguardGateway.Link.DataPlane

/-!
# What a pass runs

The commands of an `applyPass`, in order and with their outcomes, over any runner whatsoever. A pass
ends before the ruleset was installed, with the ruleset refused, or with it installed and then some
or all of the conntrack deletions done; it returns no error only in the last case, with every
deletion done.

Results:
* **`linkApply_ends`**: the events of a pass and what the replica remembers after it (`PassEnd`);
* `quiet_*`: no other command of the passes installs a ruleset or deletes conntrack entries.
-/

namespace WireguardGateway.Link

open Lib Lib.Plan
open Controller (RuntimeConfig LinkPeer)

variable {σ : Type} {run : Runner Command σ}

/-! ## Commands that leave rulesets and flows alone -/

/-- The command neither installs a ruleset nor deletes conntrack entries. -/
def Quiet (c : Command) : Prop := (∀ r, c.input ≠ .ruleset r) ∧ c.name ≠ "conntrack"

theorem quiet_ip (args : List String) : Quiet (ip args) :=
  ⟨fun _ h => (nomatch h), by simp [ip]⟩

theorem quiet_syncconf (iface : String) (file : Option WGFile) :
    Quiet (syncconfCommand iface file) := by
  cases file with
  | none | some f => exact ⟨fun _ h => (nomatch h), by simp [syncconfCommand]⟩

theorem quiet_sysctl (iface : String) (s : String × Int64) : Quiet (slotSysctlCommand iface s) :=
  ⟨fun _ h => (nomatch h), by simp [slotSysctlCommand]⟩

variable {rc : RuntimeConfig} {localForwards : List ResolvedForward} {d : DataPlane}
  {env : ApplyEnv}

theorem quiet_ifaceCommands {iface : String} {exist : Bool} {file : Option WGFile} :
    ∀ c ∈ ifaceCommands rc iface exist file, Quiet c := by
  intro c hc
  unfold ifaceCommands at hc
  rcases List.mem_append.mp hc with hc | hc
  · split_ifs at hc
    · cases hc
    · rw [List.mem_singleton.mp hc]
      exact quiet_ip _
  · simp only [List.mem_cons, List.not_mem_nil, or_false] at hc
    rcases hc with rfl | rfl | rfl
    · exact quiet_syncconf _ _
    · exact quiet_ip _
    · exact quiet_ip _

theorem quiet_localRouteCommands {id : SlotIdentity} {targets : List String} :
    ∀ c ∈ localRouteCommands id targets, Quiet c := by
  intro c hc
  simp only [localRouteCommands, List.mem_append, List.mem_cons, List.mem_map, List.not_mem_nil,
    or_false] at hc
  rcases hc with ((rfl | rfl) | ⟨target, -, rfl⟩) | rfl
  · exact quiet_ip _
  · exact quiet_ip _
  · exact quiet_ip _
  · exact ⟨fun _ h => (nomatch h), by simp [ruleAddCommand, ip]⟩

theorem quiet_buildApplyCommands {files : List (Int64 × WGFile)} {exist : List (Int64 × Bool)} :
    ∀ sp ∈ buildApplyCommands rc files exist localForwards, ∀ c ∈ sp.cmds, Quiet c := by
  intro sp hsp c hc
  unfold buildApplyCommands at hsp
  cases hi : rc.identity with
  | none =>
    rw [hi] at hsp
    rw [List.mem_singleton.mp hsp] at hc
    exact quiet_ifaceCommands c hc
  | some identity =>
    rw [hi] at hsp
    obtain ⟨p, -, rfl⟩ := List.mem_map.mp hsp
    simp only [slotCommands, List.mem_append, List.mem_map] at hc
    rcases hc with (hc | ⟨s, -, rfl⟩) | hc
    · exact quiet_ifaceCommands c hc
    · exact quiet_sysctl _ _
    · exact quiet_localRouteCommands c hc

theorem quiet_slotTeardownSteps {gatewayID slot : Int64} :
    ∀ c ∈ slotTeardownSteps gatewayID slot, Quiet c := by
  intro c hc
  simp only [slotTeardownSteps, List.mem_cons, List.not_mem_nil, or_false] at hc
  rcases hc with rfl | rfl | rfl
  · exact quiet_ip _
  · exact quiet_ip _
  · exact quiet_ip _

/-! ## The commands of a pass's parts -/

section

variable {Q : Command → Prop}

theorem ifaceExists_only {iface : String} (h : Q (linkShowCommand iface)) :
    EmitsOnly run Q (ifaceExists run iface) := by
  refine (EmitsOnly.command h).bind fun e => ?_
  cases e with
  | none => exact .pure _
  | some e =>
    show EmitsOnly run Q (if _ then _ else _)
    split_ifs
    · exact .pure _
    · exact .pure _

theorem probeSlots_only {gatewayID : Int64} {peers : List LinkPeer}
    (h : ∀ p ∈ peers, Q (linkShowCommand (newSlotIdentity gatewayID p.slot).interface)) :
    EmitsOnly run Q (probeSlots run gatewayID peers) := by
  induction peers with
  | nil => exact .pure _
  | cons p peers ih =>
    refine (ifaceExists_only (h p List.mem_cons_self)).bind fun exist => ?_
    cases exist with
    | error e => exact .pure _
    | ok exist =>
      refine (ih fun q hq => h q (List.mem_cons_of_mem _ hq)).bind fun rest => ?_
      cases rest with
      | error e | ok rest => exact .pure _

theorem applySlots_only {plans : List SlotPlan} (h : ∀ sp ∈ plans, ∀ c ∈ sp.cmds, Q c) :
    EmitsOnly run Q (applySlots run plans) := by
  induction plans with
  | nil => exact .pure _
  | cons sp plans ih =>
    refine (EmitsOnly.runUntil (h sp List.mem_cons_self)).bind fun e => ?_
    exact (ih fun sp hsp => h sp (List.mem_cons_of_mem _ hsp)).bind fun _ => .pure _

theorem teardownLoop_only {gatewayID : Int64} {keep held : List Int64}
    (h : ∀ slot ∈ held, slot ∉ keep → ∀ c ∈ slotTeardownSteps gatewayID slot, Q c) :
    ∀ slots, EmitsOnly run Q (teardownLoop run gatewayID keep held slots) := by
  induction held with
  | nil => intro slots; exact .pure _
  | cons slot held ih =>
    intro slots
    have hrest := ih fun s hs => h s (List.mem_cons_of_mem _ hs)
    rw [teardownLoop]
    split_ifs with hkeep
    · exact hrest slots
    · refine (EmitsOnly.runEach (h slot List.mem_cons_self hkeep)).bind fun errs => ?_
      cases joinErrors errs with
      | none => exact hrest _
      | some err => exact (hrest _).bind fun _ => .pure _

end

/-- A teardown changes nothing but the slots in the data plane. -/
theorem teardownSlots_emits {keep : List Int64} :
    Emits run (teardownSlots run d keep) fun out evs =>
      (∀ ev ∈ evs, Quiet ev.command) ∧ ∃ slots, out.1 = { d with slots := slots } := by
  refine Emits.bind (teardownLoop_only (fun _ _ _ => quiet_slotTeardownSteps) d.slots) fun out =>
    .pure fun xs hxs => ?_
  rw [List.append_nil]
  exact ⟨hxs, out.1, rfl⟩

/-! ## The ends of a pass -/

/-- Every deletion of the plan was run, and completed or found no flows. -/
def Completed (plan : List Command) (evs : List (Event Command)) : Prop :=
  evs.map (·.command) = plan ∧ ∀ ev ∈ evs, tolerateStep ev.command ev.error = none

/-- The hairpin deletions of a pass, of which a Cluster pass has none. -/
def hairpinPlan (rc : RuntimeConfig) (previousAddress : String)
    (previous resolved : List ResolvedForward) : List Command :=
  if isLocal rc then hairpinConntrackCommands rc.publicAddress previousAddress previous resolved
  else []

section

variable (rc : RuntimeConfig) (env : ApplyEnv) (previous : List ResolvedForward)
  (previousAddress : String) (localForwards : List ResolvedForward)

/-- How a pass over the remembered `previous` and `previousAddress` ends: its error and its
events. -/
inductive PassEnd : Option String → List (Event Command) → Prop
  | early {evs : List (Event Command)} {err : String} (hquiet : ∀ ev ∈ evs, Quiet ev.command) :
      PassEnd (some err) evs
  | refused {evs : List (Event Command)} {resolved : List ResolvedForward} {e err : String}
      (hquiet : ∀ ev ∈ evs, Quiet ev.command) :
      PassEnd (some err)
        (evs ++ [⟨nftCommand (renderNftables rc resolved env.nodeName), some e⟩])
  | installed {evs flush hairpin : List (Event Command)} {resolved : List ResolvedForward}
      {err : Option String} (hquiet : ∀ ev ∈ evs, Quiet ev.command)
      (hresolved : resolvedForwards rc env localForwards = .ok resolved)
      (hflush : ∀ ev ∈ flush, ev.command ∈ conntrackFlushCommands previous resolved)
      (hhairpin : ∀ ev ∈ hairpin,
        ev.command ∈ hairpinPlan rc previousAddress previous resolved)
      (hdone : err = none → Completed (conntrackFlushCommands previous resolved) flush ∧
        Completed (hairpinPlan rc previousAddress previous resolved) hairpin) :
      PassEnd err
        (evs ++ ⟨nftCommand (renderNftables rc resolved env.nodeName), none⟩ :: (flush ++ hairpin))

variable {rc env previous previousAddress localForwards} {resolved : List ResolvedForward}
  {err : Option String} {evs : List (Event Command)} {files : List (Int64 × WGFile)}

/-- A pass that found an error afterwards. -/
theorem PassEnd.failed (h : PassEnd rc env previous previousAddress localForwards err evs)
    (err' : String) :
    PassEnd rc env previous previousAddress localForwards (some err') evs := by
  cases h with
  | early hquiet => exact .early hquiet
  | refused hquiet => exact .refused hquiet
  | installed hquiet hresolved hflush hhairpin _ =>
    exact .installed hquiet hresolved hflush hhairpin fun h => (nomatch h)

theorem PassEnd.quiet_append {xs : List (Event Command)} (hxs : ∀ ev ∈ xs, Quiet ev.command)
    (h : PassEnd rc env previous previousAddress localForwards err evs) :
    PassEnd rc env previous previousAddress localForwards err (xs ++ evs) := by
  cases h with
  | early hquiet => exact .early (List.forall_mem_append.mpr ⟨hxs, hquiet⟩)
  | refused hquiet =>
    rw [← List.append_assoc]
    exact .refused (List.forall_mem_append.mpr ⟨hxs, hquiet⟩)
  | installed hquiet hresolved hflush hhairpin hdone =>
    rw [← List.append_assoc]
    exact .installed (List.forall_mem_append.mpr ⟨hxs, hquiet⟩) hresolved hflush hhairpin hdone

/-- The pass from its nft step on. -/
theorem PassEnd.fromInstall {flush hairpin : List (Event Command)}
    (hresolved : resolvedForwards rc env localForwards = .ok resolved)
    (hflush : ∀ ev ∈ flush, ev.command ∈ conntrackFlushCommands previous resolved)
    (hhairpin : ∀ ev ∈ hairpin, ev.command ∈ hairpinPlan rc previousAddress previous resolved)
    (hdone : err = none → Completed (conntrackFlushCommands previous resolved) flush ∧
      Completed (hairpinPlan rc previousAddress previous resolved) hairpin) :
    PassEnd rc env previous previousAddress localForwards err
      ([⟨nftCommand (renderNftables rc resolved env.nodeName), none⟩] ++ (flush ++ hairpin)) := by
  have hnone : ∀ ev ∈ ([] : List (Event Command)), Quiet ev.command :=
    fun _ hev => absurd hev List.not_mem_nil
  have hend : PassEnd rc env previous previousAddress localForwards err
      ([] ++ ⟨nftCommand (renderNftables rc resolved env.nodeName), none⟩ :: (flush ++ hairpin)) :=
    .installed hnone hresolved hflush hhairpin hdone
  exact hend

/-- What is required of an outcome and the events it came with. -/
def Ends (rc : RuntimeConfig) (env : ApplyEnv) (previous : List ResolvedForward)
    (previousAddress : String) (localForwards : List ResolvedForward) (out : ApplyOutcome)
    (evs : List (Event Command)) : Prop :=
  PassEnd rc env previous previousAddress localForwards out.err evs ∧
    (out.err = none → resolvedForwards rc env localForwards = .ok out.applied)

theorem installRuleset_emits (ruleset : Ruleset) :
    Emits run (installRuleset run ruleset) fun out evs =>
      (out = none ∧ evs = [⟨nftCommand ruleset, none⟩]) ∨
      (∃ err e, out = some err ∧ evs = [⟨nftCommand ruleset, some e⟩]) := by
  refine Emits.command.bind fun e => .pure fun xs hxs => ?_
  subst hxs
  cases e with
  | none => exact .inl ⟨rfl, rfl⟩
  | some e => exact .inr ⟨_, e, by simp [tolerateStep, nftCommand]; rfl, rfl⟩

/-- A deletion loop: a part of the plan, and all of it if the loop returned no error. -/
theorem deletions_emit (what : Command → String) (plan : List Command) :
    Emits run (Plan.runUntil (runStepFor what run) plan) fun out evs =>
      (∀ ev ∈ evs, ev.command ∈ plan) ∧ (out = none → Completed plan evs) := by
  refine (Emits.runUntil plan).weaken fun out evs hevs => ⟨hevs.mem, fun hout => ?_⟩
  obtain ⟨hcommands, htolerated⟩ := hevs.complete hout
  exact ⟨hcommands, fun ev hev => Option.map_eq_none_iff.mp (htolerated ev hev)⟩

theorem completed_nil : Completed [] [] := ⟨rfl, fun _ hev => absurd hev List.not_mem_nil⟩

theorem Completed.mem {plan : List Command} (h : Completed plan evs) :
    ∀ ev ∈ evs, ev.command ∈ plan := by
  intro ev hev
  rw [← h.1]
  exact List.mem_map_of_mem hev

/-- An nft step that failed. -/
theorem ends_refused {err : String} {applied : List ResolvedForward} {results : List SlotResult}
    {xs : List (Event Command)}
    (hxs : (some err = none ∧ xs = [⟨nftCommand (renderNftables rc resolved env.nodeName), none⟩]) ∨
      ∃ err' e, some err = some err' ∧
        xs = [⟨nftCommand (renderNftables rc resolved env.nodeName), some e⟩]) :
    Ends rc env previous previousAddress localForwards
      { results, applied, err := some err } (xs ++ []) := by
  refine ⟨?_, fun h => (nomatch h)⟩
  rcases hxs with ⟨h, -⟩ | ⟨err', e, -, rfl⟩
  · cases h
  · have hend : PassEnd rc env previous previousAddress localForwards (some err)
        ([] ++ [⟨nftCommand (renderNftables rc resolved env.nodeName), some e⟩]) :=
      .refused fun _ hev => absurd hev List.not_mem_nil
    exact hend

/-- What follows the slots of a Local pass. -/
theorem finishLocal_emits {identity : Controller.GatewayIdentity}
    (hidentity : rc.identity = some identity) (results : List SlotResult)
    (hresolved : resolvedForwards rc env localForwards = .ok resolved) :
    Emits run (finishLocal run rc (renderNftables rc resolved env.nodeName) previous
      previousAddress resolved results) (Ends rc env previous previousAddress localForwards) := by
  have hplan : hairpinConntrackCommands rc.publicAddress previousAddress previous resolved =
      hairpinPlan rc previousAddress previous resolved := by
    simp [hairpinPlan, isLocal, hidentity]
  refine (installRuleset_emits _).bind fun out => ?_
  cases out with
  | some err => exact .pure fun xs hxs => ends_refused hxs
  | none =>
    refine (deletions_emit _ _).bind fun out => ?_
    cases out with
    | some err =>
      refine .pure fun ys hys xs hxs => ⟨?_, fun h => (nomatch h)⟩
      obtain ⟨-, rfl⟩ := hxs.resolve_right fun ⟨_, _, h, _⟩ => (nomatch h)
      exact .fromInstall hresolved hys.1 (fun _ hev => absurd hev List.not_mem_nil)
        fun h => (nomatch h)
    | none =>
      refine (deletions_emit _ _).bind fun out => ?_
      rw [hplan]
      cases out with
      | some err =>
        refine .pure fun zs hzs ys hys xs hxs => ⟨?_, fun h => (nomatch h)⟩
        obtain ⟨-, rfl⟩ := hxs.resolve_right fun ⟨_, _, h, _⟩ => (nomatch h)
        rw [List.append_nil]
        exact .fromInstall hresolved hys.1 hzs.1 fun h => (nomatch h)
      | none =>
        refine .pure fun zs hzs ys hys xs hxs => ⟨?_, fun _ => hresolved⟩
        obtain ⟨-, rfl⟩ := hxs.resolve_right fun ⟨_, _, h, _⟩ => (nomatch h)
        rw [List.append_nil]
        exact .fromInstall hresolved hys.1 hzs.1 fun _ => ⟨hys.2 rfl, hzs.2 rfl⟩

theorem applyLocal_emits {identity : Controller.GatewayIdentity}
    (hidentity : rc.identity = some identity)
    (hresolved : resolvedForwards rc env localForwards = .ok resolved) :
    Emits run (applyLocal run rc identity files (renderNftables rc resolved env.nodeName)
      previous previousAddress resolved) (Ends rc env previous previousAddress localForwards) := by
  refine Emits.bind (probeSlots_only fun _ _ => quiet_ip _) fun exist => ?_
  cases exist with
  | error e =>
    refine .pure fun xs hxs => ⟨?_, fun h => (nomatch h)⟩
    rw [List.append_nil]
    exact .early hxs
  | ok exist =>
    refine Emits.bind (applySlots_only quiet_buildApplyCommands) fun results => ?_
    refine (finishLocal_emits hidentity results hresolved).weaken ?_
    intro out evs hevs ys hys xs hxs
    exact ⟨(hevs.1.quiet_append hys).quiet_append hxs, hevs.2⟩

theorem applyCluster_emits (previousAddress : String) (hidentity : rc.identity = none)
    (hresolved : resolvedForwards rc env localForwards = .ok resolved) :
    Emits run (applyCluster run rc files (renderNftables rc resolved env.nodeName)
      previous resolved) (Ends rc env previous previousAddress localForwards) := by
  have hplan : hairpinPlan rc previousAddress previous resolved = [] := by
    simp [hairpinPlan, isLocal, hidentity]
  refine Emits.bind (ifaceExists_only (quiet_ip _)) fun exist => ?_
  cases exist with
  | error e =>
    refine .pure fun xs hxs => ⟨?_, fun h => (nomatch h)⟩
    rw [List.append_nil]
    exact .early hxs
  | ok exist =>
    have hquiet : ∀ c ∈ (buildApplyCommands rc files [(0, exist)] []).flatMap (·.cmds),
      Quiet c := by
      intro c hc
      obtain ⟨sp, hsp, hc⟩ := List.mem_flatMap.mp hc
      exact quiet_buildApplyCommands sp hsp c hc
    refine Emits.bind (EmitsOnly.runUntil hquiet) fun out => ?_
    cases out with
    | some err =>
      refine .pure fun ys hys xs hxs => ⟨?_, fun h => (nomatch h)⟩
      rw [List.append_nil]
      exact (PassEnd.early hys).quiet_append hxs
    | none =>
      refine (installRuleset_emits _).bind fun out => ?_
      cases out with
      | some err =>
        refine .pure fun zs hzs ys hys xs hxs => ?_
        obtain ⟨hend, happlied⟩ : Ends rc env previous previousAddress localForwards
          { results := [], applied := [], err := some err } (zs ++ []) := ends_refused hzs
        exact ⟨(hend.quiet_append hys).quiet_append hxs, happlied⟩
      | none =>
        refine (deletions_emit _ _).bind fun out => ?_
        cases out with
        | some err =>
          refine .pure fun fl hfl zs hzs ys hys xs hxs => ⟨?_, fun h => (nomatch h)⟩
          obtain ⟨-, rfl⟩ := hzs.resolve_right fun ⟨_, _, h, _⟩ => (nomatch h)
          have hend : PassEnd rc env previous previousAddress localForwards (some err) _ :=
            .fromInstall hresolved hfl.1 (fun _ hev => absurd hev List.not_mem_nil)
              fun h => (nomatch h)
          exact (hend.quiet_append hys).quiet_append hxs
        | none =>
          refine .pure fun fl hfl zs hzs ys hys xs hxs => ⟨?_, fun _ => hresolved⟩
          obtain ⟨-, rfl⟩ := hzs.resolve_right fun ⟨_, _, h, _⟩ => (nomatch h)
          have hend : PassEnd rc env previous previousAddress localForwards none _ :=
            .fromInstall hresolved hfl.1 (fun _ hev => absurd hev List.not_mem_nil)
              fun _ => ⟨hfl.2 rfl, hplan ▸ completed_nil⟩
          exact (hend.quiet_append hys).quiet_append hxs

theorem removeFiles_ends {remove : String → Option String} {out : ApplyOutcome}
    (h : Ends rc env previous previousAddress localForwards out evs) :
    Ends rc env previous previousAddress localForwards (removeFiles remove files out) evs := by
  unfold removeFiles
  split
  · exact ⟨h.1.failed _, fun h' => (nomatch h')⟩
  · exact h

theorem applyConfig_emits : Emits run
    (applyConfig run rc env previous previousAddress localForwards)
    (Ends rc env previous previousAddress localForwards) := by
  have hearly : ∀ err : String,
      Ends rc env previous previousAddress localForwards
        { results := [], applied := [], err := some err } [] := fun err =>
    ⟨.early fun _ hev => absurd hev List.not_mem_nil, fun h => (nomatch h)⟩
  unfold applyConfig
  cases writeWGConfs env.tempFile (wgConfs rc env.privKey) with
  | error e => exact .pure (hearly e)
  | ok files =>
    cases hresolved : resolvedForwards rc env localForwards with
    | error e => exact .pure (hearly e)
    | ok resolved =>
      simp only
      cases hidentity : rc.identity with
      | some identity =>
        refine (applyLocal_emits hidentity hresolved).bind fun out => .pure fun xs hxs => ?_
        rw [List.append_nil]
        exact removeFiles_ends hxs
      | none =>
        refine (applyCluster_emits previousAddress hidentity hresolved).bind fun out =>
          .pure fun xs hxs => ?_
        rw [List.append_nil]
        exact removeFiles_ends hxs

end

/-! ## The data plane's pass -/

/-- What an `applyPass` leaves in the data plane and in the log. -/
structure ApplyPassEnd (d : DataPlane) (rc : RuntimeConfig) (env : ApplyEnv)
    (localForwards : List ResolvedForward) (out : DataPlane × List SlotResult × Option String)
    (evs : List (Event Command)) : Prop where
  ends : PassEnd rc env d.forwards d.publicAddress localForwards out.2.2 evs
  success : out.2.2 = none → resolvedForwards rc env localForwards = .ok out.1.forwards ∧
    out.1.publicAddress = rc.publicAddress
  failure : out.2.2 ≠ none → out.1.forwards = d.forwards ∧ out.1.publicAddress = d.publicAddress

theorem remember_end {out : ApplyOutcome} {evs : List (Event Command)} {slots : GoMap Int64 Bool}
    {results : List SlotResult} (h : Ends rc env d.forwards d.publicAddress localForwards out evs) :
    ApplyPassEnd d rc env localForwards
      ({ d.remember rc out with slots := slots }, results, out.err) evs := by
  refine ⟨h.1, ?_, ?_⟩
  · intro (hnone : out.err = none)
    unfold DataPlane.remember
    rw [hnone]
    exact ⟨h.2 hnone, rfl⟩
  · intro (hsome : out.err ≠ none)
    obtain ⟨err, herr⟩ := Option.ne_none_iff_exists'.mp hsome
    unfold DataPlane.remember
    rw [herr]
    exact ⟨rfl, rfl⟩

/-- The teardown before an apply adds quiet events and leaves what is remembered. -/
theorem ApplyPassEnd.after {d' : DataPlane} {out : DataPlane × List SlotResult × Option String}
    {xs evs : List (Event Command)} (h : ApplyPassEnd d' rc env localForwards out evs)
    (hforwards : d'.forwards = d.forwards) (haddress : d'.publicAddress = d.publicAddress)
    (hxs : ∀ ev ∈ xs, Quiet ev.command) :
    ApplyPassEnd d rc env localForwards out (xs ++ evs) := by
  refine ⟨?_, h.success, ?_⟩
  · rw [← hforwards, ← haddress]
    exact h.ends.quiet_append hxs
  · rw [← hforwards, ← haddress]
    exact h.failure

/-- **The events of a pass**, and what it remembers. -/
theorem linkApply_ends :
    Emits run (linkApply run d rc env localForwards) (ApplyPassEnd d rc env localForwards) := by
  unfold linkApply applyPass
  split_ifs with hlocal
  · refine applyConfig_emits.bind fun out => .pure fun xs hxs => ?_
    rw [List.append_nil]
    exact remember_end hxs
  · refine teardownSlots_emits.bind fun (d', departed) => ?_
    refine applyConfig_emits.bind fun out => .pure fun ys hys xs hxs => ?_
    obtain ⟨hquiet, slots, hd'⟩ := hxs
    simp only at hd'
    subst hd'
    rw [List.append_nil]
    exact (remember_end hys).after rfl rfl hquiet

end WireguardGateway.Link

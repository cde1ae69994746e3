import WireguardGateway.Controller.Members

/-!
# The period of the address refresh

A pass asks `List` for the details of every recorded name when `gcpAddressRefreshDue` says so. The
time it compares with is written after **every** successful call of `List`, whether or not that call
asked for a refresh, so a success that refreshed nothing postpones the next refresh by a whole
interval.

Results, over every run of passes of one Gateway and every schedule of successes and failures:
* `traced_run`: every call asks for a refresh exactly when the last success is an interval ago;
* `Traced.burstInv`: so the last refresh is the first success of the current *burst*, the successes
  that each came less than an interval after the one before;
* **`refresh_on_time_iff`**: a call keeps the period exactly when the burst before it is
  shorter than the interval;
* `busy_never_refreshes`: successes that keep coming less than an interval
  apart never refresh again.
-/

namespace WireguardGateway.Controller

open Lib Gcp

/-! ## Runs -/

/-- One pass of `reconcileMembers`. -/
structure MembersPass where
  env : MembersEnv
  region : String
  replicas : Int32
  migName : String

def MembersPass.step (cfg : Config) (g : Gateway) (s : State) (p : MembersPass) : State :=
  (reconcileMembers cfg g p.env p.region p.replicas p.migName s).2

def runMembers (cfg : Config) (g : Gateway) (s : State) (ps : List MembersPass) : State :=
  replay (MembersPass.step cfg g) s ps

/-- The memory of a process that has just started. -/
def Memory.empty : Memory := { refreshed := ∅, calls := [] }

/-! ## Schedules -/

/-- When the last successful call was made. -/
def lastSuccess (cs : List ListCall) : Option Int := (cs.filter (·.ok)).getLast?.map (·.at_)

/-- When the last successful call that asked for a refresh was made. -/
def lastRefresh (cs : List ListCall) : Option Int :=
  (cs.filter fun c => c.ok && c.refresh).getLast?.map (·.at_)

/-- At least an interval has passed since `last`, if there was one. -/
def elapsed (interval : Int) (last : Option Int) (now : Int) : Bool :=
  last.all fun t => interval ≤ now - t

/-- Successful calls, each less than an interval after the one before: the first and the last. -/
structure Burst where
  start : Int
  last : Int
  deriving DecidableEq, Repr

/-- The burst after one more call. -/
def Burst.extend (interval : Int) (b : Option Burst) (c : ListCall) : Option Burst :=
  if c.ok then
    if elapsed interval (b.map (·.last)) c.at_ then some { start := c.at_, last := c.at_ }
    else b.map fun b => { b with last := c.at_ }
  else b

/-- The burst a trace of calls ends in. It depends on when calls were made and which succeeded. -/
def burst (interval : Int) (cs : List ListCall) : Option Burst :=
  cs.foldl (Burst.extend interval) none

/-! ## The trace of a run -/

/-- Every call of the trace asked for a refresh exactly when the last success was an interval
ago. -/
abbrev Traced (interval : Int) (cs : List ListCall) : Prop :=
  Guarded (fun pre c => pre ++ [c])
    (fun pre c => c.refresh = elapsed interval (lastSuccess pre) c.at_) [] cs

variable {cfg : Config} {g : Gateway} {interval : Int} {pre cs : List ListCall} {c : ListCall}

theorem replay_snoc (xs ys : List ListCall) :
    replay (fun pre c => pre ++ [c]) xs ys = xs ++ ys := by
  induction ys generalizing xs with
  | nil => simp
  | cons y ys ih => rw [replay_cons, ih, List.append_assoc, List.singleton_append]

theorem lastSuccess_snoc (pre : List ListCall) (c : ListCall) :
    lastSuccess (pre ++ [c]) = if c.ok then some c.at_ else lastSuccess pre := by
  cases hc : c.ok <;> simp [lastSuccess, List.filter_append, hc]

theorem lastRefresh_snoc (pre : List ListCall) (c : ListCall) :
    lastRefresh (pre ++ [c]) = if c.ok && c.refresh then some c.at_ else lastRefresh pre := by
  cases hc : c.ok && c.refresh <;> simp [lastRefresh, List.filter_append, hc]

theorem burst_snoc (interval : Int) (pre : List ListCall) (c : ListCall) :
    burst interval (pre ++ [c]) = Burst.extend interval (burst interval pre) c := by
  simp [burst]

theorem gcpAddressRefreshDue_eq (refreshed : GoMap String Int) (key : String) (now : Int) :
    gcpAddressRefreshDue refreshed key now interval =
      elapsed interval (refreshed.lookup key) now := by
  unfold gcpAddressRefreshDue elapsed
  cases refreshed.lookup key <;> rfl

/-- The time in memory is that of the last success, and every call went by it. -/
structure RefreshInv (cfg : Config) (g : Gateway) (μ : Memory) : Prop where
  last : μ.refreshed.lookup (gatewayRefreshKey g) = lastSuccess μ.calls
  traced : Traced cfg.gcpAddressRefreshInterval μ.calls

theorem RefreshInv.empty : RefreshInv cfg g .empty where
  last := rfl
  traced := .nil _

theorem RefreshInv.step {s : State} (h : RefreshInv cfg g s.memory) (p : MembersPass) :
    RefreshInv cfg g (p.step cfg g s).memory := by
  have hcall := reconcileMembers_called cfg g p.env p.region p.replicas p.migName s
  rw [gcpAddressRefreshDue_eq, show s.gcpAddressRefreshed = s.memory.refreshed from rfl, h.last]
    at hcall
  obtain hsame | ⟨names, ok, hcall⟩ := hcall
  · rw [MembersPass.step, hsame]
    exact h
  · rw [MembersPass.step, hcall]
    constructor
    · rw [Memory.call, lastSuccess_snoc]
      cases ok
      · exact h.last
      · simp
    · refine h.traced.append (.single ?_)
      rw [replay_snoc, List.nil_append]

theorem refreshInv_run : ∀ (ps : List MembersPass) {s : State}, RefreshInv cfg g s.memory →
    RefreshInv cfg g (runMembers cfg g s ps).memory
  | [], _, h => h
  | p :: ps, _, h => refreshInv_run ps (h.step p)

/-- **What every call of a run goes by.** -/
theorem traced_run {s : State} (hs : s.memory = .empty) (ps : List MembersPass) :
    Traced cfg.gcpAddressRefreshInterval (runMembers cfg g s ps).listCalls :=
  (refreshInv_run ps (hs ▸ RefreshInv.empty)).traced

/-! ## Bursts -/

/-- The burst of a trace knows its last success and its last refresh. -/
def BurstInv (interval : Int) (cs : List ListCall) : Prop :=
  lastSuccess cs = (burst interval cs).map (·.last) ∧
    lastRefresh cs = (burst interval cs).map (·.start)

theorem BurstInv.snoc (h : BurstInv interval pre)
    (hc : c.refresh = elapsed interval (lastSuccess pre) c.at_) :
    BurstInv interval (pre ++ [c]) := by
  rw [h.1] at hc
  unfold BurstInv
  rw [lastSuccess_snoc, lastRefresh_snoc, burst_snoc, Burst.extend, ← hc, h.1, h.2]
  cases hok : c.ok with
  | false => simp
  | true =>
    cases hr : c.refresh with
    | true => simp
    | false =>
      -- no refresh was due, so there was a success before
      cases hb : burst interval pre with
      | none => simp [hb, elapsed, hr] at hc
      | some b => simp

theorem Traced.burstInv (h : Traced interval cs) (hpre : pre <+: cs) : BurstInv interval pre := by
  have := h.invariant (I := BurstInv interval) (fun _ _ hI hc => hI.snoc hc) ⟨rfl, rfl⟩ hpre
  rwa [replay_snoc, List.nil_append] at this

theorem ListCall.asks_all_iff : (∀ n ∈ c.names, n ∈ c.refreshNames) ↔ c.names = [] ∨ c.refresh := by
  unfold ListCall.refreshNames
  cases c.refresh with
  | false => simp [List.eq_nil_iff_forall_not_mem]
  | true => simp

/-- **The period of the refresh.** A call keeps it exactly when it has no name to refresh, or the
burst of successes before it, if it goes on, is still shorter than the interval. -/
theorem refresh_on_time_iff {s : State} (hs : s.memory = .empty) (ps : List MembersPass)
    {post : List ListCall} (hcalls : (runMembers cfg g s ps).listCalls = pre ++ c :: post) :
    (elapsed cfg.gcpAddressRefreshInterval (lastRefresh pre) c.at_ →
        ∀ n ∈ c.names, n ∈ c.refreshNames) ↔
      c.names = [] ∨ ∀ b ∈ burst cfg.gcpAddressRefreshInterval pre,
        c.at_ - b.last < cfg.gcpAddressRefreshInterval →
          c.at_ - b.start < cfg.gcpAddressRefreshInterval := by
  have htrace : Traced cfg.gcpAddressRefreshInterval (runMembers cfg g s ps).listCalls :=
    traced_run hs ps
  rw [hcalls] at htrace
  obtain ⟨hlast, hrefresh⟩ := htrace.burstInv (List.prefix_append pre _)
  have hc := htrace.at
  rw [replay_snoc, List.nil_append, hlast] at hc
  rw [ListCall.asks_all_iff, hrefresh, hc]
  cases burst cfg.gcpAddressRefreshInterval pre with
  | none => simp [elapsed]
  | some b =>
    simp only [elapsed, Option.map_some, Option.all_some, decide_eq_true_eq, Option.mem_def,
      Option.some.injEq, forall_eq']
    by_cases hn : c.names = []
    · simp [hn]
    · simp only [hn, false_or]
      omega

/-- Successes that keep coming less than an interval apart never refresh again, however long the
last refresh is ago. -/
theorem busy_never_refreshes {s : State} (hs : s.memory = .empty) (ps : List MembersPass)
    {post : List ListCall} (hcalls : (runMembers cfg g s ps).listCalls = pre ++ post)
    (hpre : lastSuccess pre ≠ none) (hok : ∀ c ∈ post, c.ok)
    (hbusy : ∀ us c vs, post = us ++ c :: vs →
      ∀ t ∈ lastSuccess (pre ++ us), c.at_ - t < cfg.gcpAddressRefreshInterval) :
    ∀ c ∈ post, c.refresh = false := by
  have htrace : Traced cfg.gcpAddressRefreshInterval (runMembers cfg g s ps).listCalls :=
    traced_run hs ps
  rw [hcalls] at htrace
  intro c hc
  obtain ⟨us, vs, rfl⟩ := List.mem_iff_append.mp hc
  rw [← List.append_assoc] at htrace
  have hrefresh := htrace.at
  rw [replay_snoc, List.nil_append] at hrefresh
  -- there is a success before `c`: that of `pre`, or the one just before it
  have hsome : lastSuccess (pre ++ us) ≠ none := by
    rcases List.eq_nil_or_concat us with rfl | ⟨us', c', rfl⟩
    · rwa [List.append_nil]
    · rw [List.concat_eq_append, ← List.append_assoc, lastSuccess_snoc, if_pos (hok c' (by simp))]
      exact Option.some_ne_none _
  obtain ⟨t, ht⟩ := Option.ne_none_iff_exists'.mp hsome
  have hlt := hbusy us c vs rfl t ht
  rw [hrefresh, ht]
  simp only [elapsed, Option.all_some, decide_eq_false_iff_not]
  omega

/-! ## A schedule that postpones the refresh -/

/-- A minute in nanoseconds. -/
def minute : Int := 60 * 10 ^ 9

def tenMinutes : Config := { gcpAddressRefreshInterval := 10 * minute, gcpCredentialsSecret := "" }

/-- A pass at `now` that lists `a` with its address. -/
def listsA (now : Int) : MembersPass where
  env :=
    { now := now
      namesRead := .live
      recordRead := fun _ => .live
      client := .ok { managedInstances := .ok [instanceAs "a" .none (some 1)]
                      getInstance := fun _ _ _ => .ok (addressed 1 "203.0.113.1") }
      waitExists := none
      waitSize := none
      sizeRead := none
      keys := .ok "link"
      pass := .calm .live }
  region := "r"
  replicas := 1
  migName := "m"

/-- A fleet with a record of `a`, in a process that has just started. -/
def recordedA : State where
  records := Round.step fleet emptyWorld (seesA (.calm .live) .none)
  composite := none
  linkConfigMap := none
  members := []
  gcpAddressRefreshed := ∅
  linkDirty := false
  listCalls := []

/-- Passes at minutes 0 and 10: the second one refreshes. -/
theorem refresh_on_time_iff_quietRun :
    recordedA.memory = .empty ∧
    (runMembers tenMinutes fleet recordedA [listsA 0, listsA (10 * minute)]).listCalls =
      [⟨0, ["a"], true, true⟩] ++ ⟨10 * minute, ["a"], true, true⟩ :: [] ∧
    "a" ∈ (ListCall.mk (10 * minute) ["a"] true true).refreshNames := by
  have hcalls : (runMembers tenMinutes fleet recordedA
      [listsA 0, listsA (10 * minute)]).listCalls =
      [⟨0, ["a"], true, true⟩] ++ ⟨10 * minute, ["a"], true, true⟩ :: [] := by
    decide +kernel
  refine ⟨rfl, hcalls, ?_⟩
  refine (refresh_on_time_iff rfl _ hcalls).mpr (.inr ?_) (by decide) "a" (by decide)
  rintro b hb hlast
  cases hb
  exact absurd hlast (by decide)

/-- Passes at minutes 0, 6 and 10 under an interval of ten minutes: the last refresh is ten minutes
ago, and the third pass asks for none, since the second one, which refreshed nothing, succeeded. -/
theorem busyRun_postpones :
    ((runMembers tenMinutes fleet recordedA
        [listsA 0, listsA (6 * minute), listsA (10 * minute)]).listCalls =
      [⟨0, ["a"], true, true⟩, ⟨6 * minute, ["a"], false, true⟩,
        ⟨10 * minute, ["a"], false, true⟩]) ∧
    elapsed tenMinutes.gcpAddressRefreshInterval
      (lastRefresh [⟨0, ["a"], true, true⟩, ⟨6 * minute, ["a"], false, true⟩]) (10 * minute) ∧
    "a" ∉ (ListCall.mk (10 * minute) ["a"] false true).refreshNames := by
  refine ⟨?_, ?_, ?_⟩
  · decide +kernel
  · decide
  · decide

end WireguardGateway.Controller

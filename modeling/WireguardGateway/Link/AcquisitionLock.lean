import WireguardGateway.Lib.Journal
import WireguardGateway.Lib.Threads

/-!
# Leaving an election

`acquisitionLock` (`internal/link/election.go:151-245`) wraps the Lease lock of one election cycle.
It records whether the cycle acquired the Lease, and refuses a write that would acquire it once the
cycle leaves. A write that would acquire is counted while its call is under way, so that `leave` can
wait for it; the check that decides whether a write is one of those takes no mutex.

The model has any number of threads that call `Create` and `Update` one call after another, and any
number of calls of `leave`, each cut at every access to shared state: the fields of the lock, the
channel `acquired`, the wait group, and the call of the wrapped lock. A critical section of `mu` is
one step. A request that a call has sent is on its way to the API server, which takes it while the
call waits, after the call gave up on it, or never. An interleaving is a list of such steps, each of
them possible when it is taken.

Results:
* **`leave_final`**: once a `leave` has returned true, whether the cycle acquired is settled, and a
  write that names this replica is sent, or is taken while its call waits for it, only if the cycle
  had acquired before; and in every interleaving no write that starts after the acquisition is
  refused;
* `strayWrite_acquires`: the server takes a write of this replica whose call failed, after `leave`
  returned true and behind the fence.

The contexts, the timer of `leave` (it may expire at any time) and the rest of the records are left
out.
-/

namespace WireguardGateway.Link

open Function Lib

/-! ## The lock and the calls on it -/

/-- `acquisitionLock`: `acquired` is closed or not, `inFlight` is the counter of the wait group. -/
structure AcquisitionLock where
  acquired : Bool := false
  leaving : Bool := false
  inFlight : Nat := 0
  deriving DecidableEq, Repr

/-- Where a thread is in a `Create` or an `Update`. -/
inductive WritePhase
  | idle
  | begun
  /-- `begin` found the Lease not acquired and is about to take `mu`. -/
  | locking
  /-- `begin` returned `errCycleLeaving`. -/
  | refused
  | admitted
  /-- The call of the wrapped lock sent its request. -/
  | sent
  | answered (ok : Bool)
  | observed
  | returned
  deriving DecidableEq, Repr

/-- The present or last `Create` or `Update` of a thread: the holder its record names, and whether
`begin` counted it. -/
structure LockWrite where
  phase : WritePhase := .idle
  holder : String := ""
  counted : Bool := false
  deriving DecidableEq, Repr

/-- Where a call of `leave` is: `drained` means that its goroutine came back from
`inFlight.Wait` and closed `waited`. -/
inductive LeavePhase
  | idle
  | waiting
  | drained
  | returned (finished : Bool)
  deriving DecidableEq, Repr

/-- The lock with the calls on it: threads that write named by `ι`, calls of
`leave` named by `κ`. -/
structure LockState (ι κ : Type) where
  lock : AcquisitionLock := {}
  writes : ι → LockWrite := fun _ => {}
  leaves : κ → LeavePhase := fun _ => .idle

/-- The thread is in no call. -/
def WritePhase.resting : WritePhase → Bool
  | .idle | .refused | .returned => true
  | _ => false

/-- The steps of the calls. -/
inductive LockStep (ι κ : Type)
  | start (i : ι) (holder : String)
  /-- The check of `begin` that takes no mutex. -/
  | check (i : ι)
  /-- The critical section of `begin`. -/
  | enter (i : ι)
  | send (i : ι)
  /-- The wrapped lock returns: an error also if it sent no request. -/
  | answer (i : ι) (ok : Bool)
  | observe (i : ι)
  | done (i : ι)
  /-- The critical section of `leave`. -/
  | leave (j : κ)
  | drain (j : κ)
  | finish (j : κ)
  | timeout (j : κ)
  deriving DecidableEq, Repr

variable {ι κ : Type}

/-- The thread whose write a step moves. -/
def LockStep.thread : LockStep ι κ → Option ι
  | .start i _ | .check i | .enter i | .send i | .answer i _ | .observe i | .done i => some i
  | .leave _ | .drain _ | .finish _ | .timeout _ => none

/-- When a step is possible. -/
def LockState.Enabled (s : LockState ι κ) : LockStep ι κ → Prop
  | .start i _ => (s.writes i).phase.resting = true
  | .check i => (s.writes i).phase = .begun
  | .enter i => (s.writes i).phase = .locking
  | .send i => (s.writes i).phase = .admitted
  | .answer i ok => (s.writes i).phase = .sent ∨ ((s.writes i).phase = .admitted ∧ ok = false)
  | .observe i => ∃ ok, (s.writes i).phase = .answered ok
  | .done i => (s.writes i).phase = .observed
  | .leave j => s.leaves j = .idle
  | .drain j => s.leaves j = .waiting ∧ s.lock.inFlight = 0
  | .finish j => s.leaves j = .drained
  | .timeout j => s.leaves j = .waiting ∨ s.leaves j = .drained

section

variable [DecidableEq ι] [DecidableEq κ]

/-- The call of thread `i` moves on. -/
def LockState.move (s : LockState ι κ) (i : ι) (phase : WritePhase) : LockState ι κ :=
  { s with writes := update s.writes i { s.writes i with phase := phase } }

/-- `begin` without the mutex: `isAcquired()`, then the comparison of the holder. -/
def LockState.check (identity : String) (s : LockState ι κ) (i : ι) : LockState ι κ :=
  if s.lock.acquired = true ∨ (s.writes i).holder ≠ identity then s.move i .admitted
  else s.move i .locking

/-- `begin` under `mu`. -/
def LockState.enter (s : LockState ι κ) (i : ι) : LockState ι κ :=
  if s.lock.leaving = true then s.move i .refused
  else
    { s with
      lock := { s.lock with inFlight := s.lock.inFlight + 1 }
      writes := update s.writes i { s.writes i with phase := .admitted, counted := true } }

/-- `observe`. -/
def LockState.observe (identity : String) (s : LockState ι κ) (i : ι) : LockState ι κ :=
  if (s.writes i).phase = .answered true ∧ (s.writes i).holder = identity then
    { s.move i .observed with lock := { s.lock with acquired := true } }
  else s.move i .observed

/-- The deferred `done`: `inFlight.Done` for a counted write, nothing for another. -/
def LockState.done (s : LockState ι κ) (i : ι) : LockState ι κ :=
  if (s.writes i).counted = true then
    { s with
      lock := { s.lock with inFlight := s.lock.inFlight - 1 }
      writes := update s.writes i { s.writes i with phase := .returned, counted := false } }
  else s.move i .returned

/-- What a step does. -/
def LockState.next (identity : String) (s : LockState ι κ) : LockStep ι κ → LockState ι κ
  | .start i holder => { s with writes := update s.writes i { phase := .begun, holder := holder } }
  | .check i => s.check identity i
  | .enter i => s.enter i
  | .send i => s.move i .sent
  | .answer i ok => s.move i (.answered ok)
  | .observe i => s.observe identity i
  | .done i => s.done i
  | .leave j =>
    { s with lock := { s.lock with leaving := true }, leaves := update s.leaves j .waiting }
  | .drain j => { s with leaves := update s.leaves j .drained }
  | .finish j => { s with leaves := update s.leaves j (.returned true) }
  | .timeout j => { s with leaves := update s.leaves j (.returned false) }

end

/-! ## Requests on their way -/

/-- The lock with the requests of its calls: `flight` says which threads wait for a request that the
API server has not taken yet, `strays` whom the others name, of calls that have returned. -/
structure LockApi (ι κ : Type) where
  calls : LockState ι κ := {}
  flight : ι → Bool := fun _ => false
  strays : List String := []

/-- The steps of the calls and of the API server. -/
inductive ApiStep (ι κ : Type)
  | call (a : LockStep ι κ)
  /-- The server takes the request of a call that waits for it. -/
  | take (i : ι)
  /-- The server takes a request whose call has returned. -/
  | takeStray (holder : String)
  deriving DecidableEq, Repr

/-- A call succeeds only after the server has taken its request. -/
def LockApi.answers (s : LockApi ι κ) : LockStep ι κ → Bool
  | .answer i true => !s.flight i
  | _ => true

/-- When a step is possible. -/
def LockApi.Enabled (s : LockApi ι κ) : ApiStep ι κ → Prop
  | .call a => s.calls.Enabled a ∧ s.answers a = true
  | .take i => s.flight i = true
  | .takeStray holder => holder ∈ s.strays

section

variable [DecidableEq ι] [DecidableEq κ]

/-- What a step of a call does to its request. A call that returns leaves
behind what was not taken. -/
def LockApi.post (s : LockApi ι κ) : LockStep ι κ → LockApi ι κ
  | .send i => { s with flight := update s.flight i true }
  | .answer i _ =>
    if s.flight i then
      { s with flight := update s.flight i false, strays := (s.calls.writes i).holder :: s.strays }
    else s
  | _ => s

/-- What a step does. -/
def LockApi.next (identity : String) (s : LockApi ι κ) : ApiStep ι κ → LockApi ι κ
  | .call a => { s.post a with calls := s.calls.next identity a }
  | .take i => { s with flight := update s.flight i false }
  | .takeStray holder => { s with strays := s.strays.erase holder }

/-- The state after an interleaving. -/
abbrev LockApi.run (identity : String) (steps : List (ApiStep ι κ)) : LockApi ι κ :=
  replay (LockApi.next identity) {} steps

/-- Every step of the interleaving was possible when it was taken. -/
abbrev LockApi.Runs (identity : String) (steps : List (ApiStep ι κ)) : Prop :=
  Guarded (LockApi.next identity) LockApi.Enabled {} steps

end

/-- Whom the write names that a step hands to the wrapped lock, or that the API server takes. -/
def LockApi.names (s : LockApi ι κ) : ApiStep ι κ → Option String
  | .call (.send i) | .take i => some (s.calls.writes i).holder
  | .takeStray holder => some holder
  | .call _ => none

/-- The step is not that of a server that takes a request after its call has returned. -/
def ApiStep.Prompt (a : ApiStep ι κ) : Prop := ∀ holder, a ≠ .takeStray holder

/-! ## What holds in every interleaving -/

/-- The write passed `begin` and has not called `done` yet. -/
def WritePhase.inside : WritePhase → Bool
  | .admitted | .sent | .answered _ | .observed => true
  | _ => false

theorem WritePhase.not_inside {phase : WritePhase} (h : phase.resting = true) :
    phase.inside = false := by
  cases phase <;> first | rfl | cases h

/-- The write is under way or over, and the check of `begin` did not send it to the mutex. -/
def WritePhase.free : WritePhase → Bool
  | .idle | .locking | .refused => false
  | _ => true

/-- A write that is counted has passed `begin`; and one that passed and names this replica is
counted, unless the cycle has acquired. -/
structure LockWrite.Sound (identity : String) (acquired : Bool) (w : LockWrite) : Prop where
  inside : w.counted = true → w.phase.inside = true
  covered : w.phase.inside = true → w.holder = identity → w.counted = true ∨ acquired = true

theorem LockWrite.Sound.acquire {identity : String} {acquired : Bool} {w : LockWrite}
    (h : w.Sound identity acquired) : w.Sound identity true :=
  ⟨h.inside, fun _ _ => .inr rfl⟩

theorem LockWrite.Sound.uncounted {identity : String} {acquired : Bool} {w : LockWrite}
    (h : w.Sound identity acquired) (hphase : w.phase.inside = false) : w.counted = false := by
  cases hcounted : w.counted with
  | false => rfl
  | true => rw [h.inside hcounted] at hphase; cases hphase

/-- The call of `leave` has set the flag. -/
def LeavePhase.left : LeavePhase → Bool
  | .idle | .returned false => false
  | _ => true

/-- The wait of the call of `leave` is over. -/
def LeavePhase.waited : LeavePhase → Bool
  | .drained | .returned true => true
  | _ => false

/-- The counter is the number of counted writes; a `leave` under way means that the flag is set; and
where the wait was over once, no counted write is left, because none came after the flag. -/
structure LockState.Sound (identity : String) (s : LockState ι κ) : Prop where
  tally : Tally (fun w : LockWrite => w.counted = true) s.writes s.lock.inFlight
  writes : ∀ i, (s.writes i).Sound identity s.lock.acquired
  left : ∀ j, (s.leaves j).left = true → s.lock.leaving = true
  waited : ∀ j, (s.leaves j).waited = true → s.lock.inFlight = 0

namespace LockState

variable {identity : String} {s : LockState ι κ}

theorem Sound.initial : ({} : LockState ι κ).Sound identity where
  tally := .none fun _ => by simp
  writes _ := ⟨by simp, by simp [WritePhase.inside]⟩
  left _ h := by simp [LeavePhase.left] at h
  waited _ h := by simp [LeavePhase.waited] at h

theorem Sound.acquire (h : s.Sound identity) :
    { s with lock := { s.lock with acquired := true } }.Sound identity where
  tally := h.tally
  writes i := (h.writes i).acquire
  left := h.left
  waited := h.waited

variable {i : ι} {a : LockStep ι κ}

/-- Once a wait is over, a write past `begin` that names this replica belongs to
a cycle that acquired. -/
theorem Sound.acquired_of_waited (h : s.Sound identity) {j : κ} (hj : (s.leaves j).waited = true)
    (hinside : (s.writes i).phase.inside = true) (hholder : (s.writes i).holder = identity) :
    s.lock.acquired = true := by
  have htally := h.tally
  rw [h.waited j hj] at htally
  exact ((h.writes i).covered hinside hholder).resolve_left (htally.zero i)

variable [DecidableEq ι]

/-- A step of a write that neither enters nor leaves the count. -/
theorem Sound.rewrite (h : s.Sound identity) {w : LockWrite}
    (hcounted : w.counted = (s.writes i).counted) (hw : w.Sound identity s.lock.acquired) :
    { s with writes := update s.writes i w }.Sound identity where
  tally := h.tally.keep (by rw [hcounted])
  writes := forall_update_iff _ (fun _ w => LockWrite.Sound identity s.lock.acquired w) |>.mpr
    ⟨hw, fun i' _ => h.writes i'⟩
  left := h.left
  waited := h.waited

theorem Sound.move (h : s.Sound identity) {phase : WritePhase}
    (hinside : phase.inside = (s.writes i).phase.inside) : (s.move i phase).Sound identity :=
  h.rewrite rfl ⟨fun hc => hinside ▸ (h.writes i).inside hc,
    fun hin => (h.writes i).covered (hinside ▸ hin)⟩

theorem Sound.check (h : s.Sound identity) (hi : (s.writes i).phase = .begun) :
    (s.check identity i).Sound identity := by
  unfold LockState.check
  split_ifs with hcond
  · refine h.rewrite rfl ⟨fun _ => rfl, fun _ hholder => .inr ?_⟩
    exact hcond.resolve_right (not_not_intro hholder)
  · exact h.move (by rw [hi]; rfl)

theorem Sound.enter (h : s.Sound identity) (hi : (s.writes i).phase = .locking) :
    (s.enter i).Sound identity := by
  have hout : (s.writes i).counted = false := (h.writes i).uncounted (by rw [hi]; rfl)
  unfold LockState.enter
  split_ifs with hleaving
  · exact h.move (by rw [hi]; rfl)
  · refine ⟨h.tally.enter (by simp [hout]) rfl, ?_, h.left, fun j hj => ?_⟩
    · exact forall_update_iff _ (fun _ w => LockWrite.Sound identity s.lock.acquired w) |>.mpr
        ⟨⟨fun _ => rfl, fun _ _ => .inl rfl⟩, fun i' _ => h.writes i'⟩
    · have hleft : (s.leaves j).left = true := by
        cases hphase : s.leaves j with
        | idle => rw [hphase] at hj; cases hj
        | waiting | drained => rfl
        | returned finished => rw [hphase] at hj; cases finished <;> first | rfl | cases hj
      exact absurd (h.left j hleft) hleaving

theorem Sound.observe (h : s.Sound identity) {ok : Bool} (hi : (s.writes i).phase = .answered ok) :
    (s.observe identity i).Sound identity := by
  have hmoved : (s.move i .observed).Sound identity := h.move (by rw [hi]; rfl)
  unfold LockState.observe
  split_ifs
  · exact hmoved.acquire
  · exact hmoved

theorem Sound.done (h : s.Sound identity) (i : ι) : (s.done i).Sound identity := by
  unfold LockState.done
  split_ifs with hcounted
  · refine ⟨h.tally.leave hcounted (by simp), ?_, h.left, fun j hj => ?_⟩
    · exact forall_update_iff _ (fun _ w => LockWrite.Sound identity s.lock.acquired w) |>.mpr
        ⟨⟨fun hc => (nomatch hc), fun hin => (nomatch hin)⟩, fun i' _ => h.writes i'⟩
    · simp [h.waited j hj]
  · refine h.rewrite rfl ⟨fun hc => absurd hc hcounted, fun hin => (nomatch hin)⟩

variable [DecidableEq κ]

omit [DecidableEq ι] in
/-- A step of a `leave` under a flag that is set. -/
theorem Sound.releave (h : s.Sound identity) {j : κ} {phase : LeavePhase}
    (hleft : phase.left = true → s.lock.leaving = true)
    (hwaited : phase.waited = true → s.lock.inFlight = 0) :
    { s with leaves := update s.leaves j phase }.Sound identity where
  tally := h.tally
  writes := h.writes
  left := forall_update_iff _ (fun _ p => LeavePhase.left p = true → s.lock.leaving = true) |>.mpr
    ⟨hleft, fun j' _ => h.left j'⟩
  waited := forall_update_iff _ (fun _ p => LeavePhase.waited p = true → s.lock.inFlight = 0) |>.mpr
    ⟨hwaited, fun j' _ => h.waited j'⟩

theorem Sound.leave (h : s.Sound identity) (j : κ) :
    (s.next identity (.leave j) : LockState ι κ).Sound identity := by
  have hflag : { s with lock := { s.lock with leaving := true } }.Sound identity :=
    ⟨h.tally, h.writes, fun _ _ => rfl, h.waited⟩
  exact hflag.releave (fun _ => rfl) (fun hw => (nomatch hw))

/-- **One step.** -/
theorem Sound.step (h : s.Sound identity) (ha : s.Enabled a) :
    (s.next identity a).Sound identity := by
  cases a with
  | start i holder =>
    refine h.rewrite ((h.writes i).uncounted (WritePhase.not_inside ha)).symm ⟨?_, ?_⟩
    · exact fun hc => (nomatch hc)
    · exact fun hin => (nomatch hin)
  | check i => exact h.check ha
  | enter i => exact h.enter ha
  | send i =>
    have hi : (s.writes i).phase = .admitted := ha
    exact h.move (by rw [hi]; rfl)
  | answer i ok =>
    refine h.move ?_
    rcases ha with hi | ⟨hi, -⟩ <;> rw [hi] <;> rfl
  | observe i =>
    obtain ⟨ok, hi⟩ := ha
    exact h.observe hi
  | done i => exact h.done i
  | leave j => exact h.leave j
  | drain j =>
    obtain ⟨hj, hzero⟩ := ha
    exact h.releave (fun _ => h.left j (by rw [hj]; rfl)) (fun _ => hzero)
  | finish j =>
    have hj : s.leaves j = .drained := ha
    exact h.releave (fun _ => h.left j (by rw [hj]; rfl)) (fun _ => h.waited j (by rw [hj]; rfl))
  | timeout j => exact h.releave (fun hl => (nomatch hl)) (fun hw => (nomatch hw))

/-- A step of a write changes that write and the lock. -/
theorem next_of_thread (s : LockState ι κ) (identity : String) (hi : a.thread = some i) :
    ∃ lock w, s.next identity a = { s with lock := lock, writes := update s.writes i w } := by
  cases a <;> cases hi
  case check => simp only [next, LockState.check]; split_ifs <;> exact ⟨_, _, rfl⟩
  case enter => simp only [next, LockState.enter]; split_ifs <;> exact ⟨_, _, rfl⟩
  case observe => simp only [next, LockState.observe]; split_ifs <;> exact ⟨_, _, rfl⟩
  case done => simp only [next, LockState.done]; split_ifs <;> exact ⟨_, _, rfl⟩
  all_goals exact ⟨_, _, rfl⟩

theorem next_writes_other (hi : a.thread ≠ some i) :
    (s.next identity a).writes i = s.writes i := by
  cases hthread : a.thread with
  | none => cases a <;> first | rfl | cases hthread
  | some i' =>
    obtain ⟨lock, w, hnext⟩ := next_of_thread s identity hthread
    rw [hnext]
    exact update_of_ne (fun heq => hi (by rw [hthread, heq])) _ _

/-! ### After a `leave` -/

/-- The lock after a step: a flag once set stays set, and only `observe` closes `acquired`. -/
theorem next_acquired (s : LockState ι κ) (a : LockStep ι κ) :
    (s.next identity a).lock.acquired = s.lock.acquired ∨
      ∃ i, a = .observe i ∧ (s.writes i).phase = .answered true ∧ (s.writes i).holder = identity ∧
        (s.next identity a).lock.acquired = true := by
  cases a with
  | observe i =>
    simp only [next, LockState.observe]
    split_ifs with hi
    · exact .inr ⟨i, rfl, hi.1, hi.2, rfl⟩
    · exact .inl rfl
  | check i => simp only [next, LockState.check]; split_ifs <;> exact .inl rfl
  | enter i => simp only [next, LockState.enter]; split_ifs <;> exact .inl rfl
  | done i => simp only [next, LockState.done]; split_ifs <;> exact .inl rfl
  | _ => exact .inl rfl

theorem next_acquired_of (h : s.lock.acquired = true) (a : LockStep ι κ) :
    (s.next identity a).lock.acquired = true := by
  rcases next_acquired s a with hkept | ⟨_, _, _, _, hset⟩
  · rw [hkept, h]
  · exact hset

/-- A call of `leave` that has returned stays where it is. -/
theorem next_leaves_returned {j : κ} {b : Bool} (hj : s.leaves j = .returned b) (ha : s.Enabled a) :
    (s.next identity a).leaves j = .returned b := by
  have hother : ∀ {j' : κ} {phase : LeavePhase}, s.leaves j' ≠ .returned b →
      update s.leaves j' phase j = .returned b := by
    intro j' phase hne
    rw [update_of_ne (fun heq : j = j' => hne (heq ▸ hj)), hj]
  cases hthread : a.thread with
  | some i =>
    obtain ⟨lock, w, hnext⟩ := next_of_thread s identity hthread
    rw [hnext]
    exact hj
  | none =>
    cases a with
    | leave j' => exact hother (by simp [show s.leaves j' = .idle from ha])
    | drain j' => exact hother (by simp [ha.1])
    | finish j' => exact hother (by simp [show s.leaves j' = .drained from ha])
    | timeout j' => exact hother (by rcases ha with hj' | hj' <;> simp [hj'])
    | _ => cases hthread

/-- **One step after a `leave` that finished**: whether the cycle acquired does not change. -/
theorem Sound.next_left (h : s.Sound identity) {j : κ} (hj : s.leaves j = .returned true)
    (a : LockStep ι κ) : (s.next identity a).lock.acquired = s.lock.acquired := by
  rcases next_acquired s a with hkept | ⟨i, rfl, hphase, hholder, hset⟩
  · exact hkept
  · rw [hset, h.acquired_of_waited (by rw [hj]; rfl) (by rw [hphase]; rfl) hholder]

/-! ### Writes under way -/

/-- **One step after the acquisition**: a write under way is not sent to the
mutex, so not refused. -/
theorem next_phase_free (hacq : s.lock.acquired = true) (hi : (s.writes i).phase.free = true)
    (ha : s.Enabled a) :
    ((s.next identity a).writes i).phase.free = true := by
  by_cases hthread : a.thread = some i
  · cases a with
    | enter i =>
      cases hthread
      rw [show (s.writes i).phase = .locking from ha] at hi
      cases hi
    | check i =>
      cases hthread
      simp [next, LockState.check, LockState.move, hacq, WritePhase.free]
    | observe i =>
      cases hthread
      simp only [next, LockState.observe]
      split_ifs <;> simp [LockState.move, WritePhase.free]
    | done i =>
      cases hthread
      simp only [next, LockState.done]
      split_ifs <;> simp [LockState.move, WritePhase.free]
    | start | send | answer =>
      cases hthread
      simp [next, LockState.move, WritePhase.free]
    | _ => cases hthread
  · rw [next_writes_other hthread]
    exact hi

/-- A write that waits for its request does so until it is answered. -/
theorem next_phase_sent (hi : (s.writes i).phase = .sent) (ha : s.Enabled a)
    (hanswer : ∀ ok, a ≠ .answer i ok) :
    ((s.next identity a).writes i).phase = .sent := by
  rw [next_writes_other fun hthread => ?_, hi]
  cases a with
  | answer i ok =>
    cases hthread
    exact hanswer ok rfl
  | observe i =>
    cases hthread
    obtain ⟨ok, hok⟩ := ha
    rw [hi] at hok
    cases hok
  | start | check | enter | send | done =>
    cases hthread
    simp only [Enabled, hi] at ha
    cases ha
  | _ => cases hthread

end LockState

/-! ### With the requests -/

namespace LockApi

variable {identity : String} {s : LockApi ι κ}

/-- The lock is sound, and a request is on its way for a call that waits for it. -/
def Sound (identity : String) (s : LockApi ι κ) : Prop :=
  s.calls.Sound identity ∧ ∀ i, s.flight i = true → (s.calls.writes i).phase = .sent

/-- A write that is sent, or taken while its call waits, is past `begin`. -/
theorem Sound.inside_of_names (h : s.Sound identity) {a : ApiStep ι κ} (ha : s.Enabled a)
    (hprompt : a.Prompt) {holder : String} (hnames : s.names a = some holder) :
    ∃ i, (s.calls.writes i).phase.inside = true ∧ (s.calls.writes i).holder = holder := by
  cases a with
  | takeStray holder => exact absurd rfl (hprompt holder)
  | take i => exact ⟨i, by rw [h.2 i ha]; rfl, Option.some.inj hnames⟩
  | call a =>
    cases a with
    | send i =>
      have hi : (s.calls.writes i).phase = .admitted := ha.1
      exact ⟨i, by rw [hi]; rfl, Option.some.inj hnames⟩
    | _ => cases hnames

variable [DecidableEq ι] [DecidableEq κ]

theorem Sound.step (h : s.Sound identity) {a : ApiStep ι κ} (ha : s.Enabled a) :
    (s.next identity a).Sound identity := by
  obtain ⟨hcalls, hflight⟩ := h
  cases a with
  | take i =>
    refine ⟨hcalls, fun i' hi' => hflight i' ?_⟩
    by_cases heq : i' = i
    · subst heq
      simp [next] at hi'
    · simpa [next, heq] using hi'
  | takeStray => exact ⟨hcalls, hflight⟩
  | call a =>
    refine ⟨hcalls.step ha.1, fun i hi => ?_⟩
    by_cases hsend : a = .send i
    · subst hsend
      simp [next, LockState.next, LockState.move]
    by_cases hanswer : ∃ ok, a = .answer i ok
    · obtain ⟨ok, rfl⟩ := hanswer
      simp only [next, post] at hi
      split_ifs at hi with hf
      · simp at hi
      · exact absurd hi hf
    · refine LockState.next_phase_sent (hflight i ?_) ha.1 fun ok hok => hanswer ⟨ok, hok⟩
      cases a with
      | send i' => simpa [next, post, show i ≠ i' from fun heq => hsend (by rw [heq])] using hi
      | answer i' ok =>
        have hne : i ≠ i' := fun heq => hanswer ⟨ok, by rw [heq]⟩
        simp only [next, post] at hi
        split_ifs at hi
        · simpa [hne] using hi
        · exact hi
      | _ => exact hi

variable {steps : List (ApiStep ι κ)}

theorem Sound.of_runs (h : Runs identity steps) :
    (run identity steps).Sound identity :=
  h.invariant (fun _ _ hs ha => hs.step ha) ⟨.initial, fun _ hi => (nomatch hi)⟩
    (List.prefix_refl steps)

/-- Every state after a `leave` that finished. -/
theorem Sound.run_left (h : s.Sound identity) {j : κ} (hj : s.calls.leaves j = .returned true)
    (hruns : Guarded (next identity) Enabled s steps) {us : List (ApiStep ι κ)}
    (hus : us <+: steps) :
    (replay (next identity) s us).Sound identity ∧
      (replay (next identity) s us).calls.leaves j = .returned true ∧
      (replay (next identity) s us).calls.lock.acquired = s.calls.lock.acquired := by
  refine hruns.invariant (I := fun t => t.Sound identity ∧ t.calls.leaves j = .returned true ∧
    t.calls.lock.acquired = s.calls.lock.acquired) ?_ ⟨h, hj, rfl⟩ hus
  rintro t a ⟨ht, htj, hacq⟩ ha
  refine ⟨ht.step ha, ?_⟩
  cases a with
  | call a =>
    exact ⟨LockState.next_leaves_returned htj ha.1, (ht.1.next_left htj a).trans hacq⟩
  | take | takeStray => exact ⟨htj, hacq⟩

/-- Every state after a write started that came after the acquisition. -/
theorem run_phase_free (hacq : s.calls.lock.acquired = true) {i : ι}
    (hi : (s.calls.writes i).phase.free = true) (hruns : Guarded (next identity) Enabled s steps)
    {us : List (ApiStep ι κ)} (hus : us <+: steps) :
    ((replay (next identity) s us).calls.writes i).phase.free = true := by
  refine (hruns.invariant (I := fun t => t.calls.lock.acquired = true ∧
    (t.calls.writes i).phase.free = true) ?_ ⟨hacq, hi⟩ hus).2
  rintro t a ⟨htacq, hti⟩ ha
  cases a with
  | call a =>
    exact ⟨LockState.next_acquired_of htacq a, LockState.next_phase_free htacq hti ha.1⟩
  | take | takeStray => exact ⟨htacq, hti⟩

end LockApi

/-! ## Leaving is final -/

variable [DecidableEq ι] [DecidableEq κ]

/-- **Leaving an election is final**, but for writes that were given up on. In every interleaving:
after a `leave` that returned true the value of `isAcquired` stays, and a write that names this
replica and is sent, or is taken by the API server while its call waits for it, is one of a cycle
that had acquired by then; and a write that starts after the acquisition is never refused. -/
theorem leave_final (identity : String) {steps : List (ApiStep ι κ)}
    (hruns : LockApi.Runs identity steps) :
    (∀ (before after : List (ApiStep ι κ)) (j : κ), steps = before ++ after →
      (LockApi.run identity before).calls.leaves j = .returned true →
      (∀ us, us <+: after → (LockApi.run identity (before ++ us)).calls.lock.acquired =
        (LockApi.run identity before).calls.lock.acquired) ∧
      (∀ us a vs, after = us ++ a :: vs → a.Prompt →
        (LockApi.run identity (before ++ us)).names a = some identity →
        (LockApi.run identity before).calls.lock.acquired = true)) ∧
    (∀ (before after : List (ApiStep ι κ)) (i : ι) (holder : String),
      steps = before ++ .call (.start i holder) :: after →
      (LockApi.run identity before).calls.lock.acquired = true →
      ∀ us, us <+: after → ((LockApi.run identity
        (before ++ .call (.start i holder) :: us)).calls.writes i).phase ≠ .refused) := by
  constructor
  · rintro before after j rfl hj
    have hsound := LockApi.Sound.of_runs hruns.left
    constructor
    · intro us hus
      rw [LockApi.run, replay_append]
      exact (hsound.run_left hj hruns.suffix hus).2.2
    · rintro us a vs rfl hprompt hnames
      obtain ⟨hs, hsj, hacq⟩ := hsound.run_left hj hruns.suffix (List.prefix_append us _)
      rw [LockApi.run, replay_append] at hnames
      obtain ⟨i, hinside, hholder⟩ := hs.inside_of_names hruns.suffix.at hprompt hnames
      rw [← hacq]
      exact hs.1.acquired_of_waited (by rw [hsj]; rfl) hinside hholder
  · rintro before after i holder rfl hacq us hus hrefused
    have hfree := LockApi.run_phase_free (s := (LockApi.run identity before).next identity
      (.call (.start i holder))) (i :=
        i) hacq (by simp [LockApi.next, LockState.next, WritePhase.free])
      (guarded_cons.mp hruns.suffix).2 hus
    rw [LockApi.run, replay_append, replay_cons] at hrefused
    rw [hrefused] at hfree
    cases hfree

instance LockState.decideEnabled (s : LockState ι κ) : (a : LockStep ι κ) → Decidable (s.Enabled a)
  | .start _ _ | .check _ | .enter _ | .send _ | .done _ => inferInstanceAs (Decidable (_ = _))
  | .leave _ | .finish _ => inferInstanceAs (Decidable (_ = _))
  | .answer _ _ | .timeout _ => inferInstanceAs (Decidable (_ ∨ _))
  | .drain _ => inferInstanceAs (Decidable (_ ∧ _))
  | .observe i =>
    match h : (s.writes i).phase with
    | .answered ok => .isTrue ⟨ok, h⟩
    | .idle | .begun | .locking | .refused | .admitted | .sent | .observed | .returned =>
      .isFalse fun ⟨_, hok⟩ => by rw [h] at hok; cases hok

instance LockApi.decideEnabled (s : LockApi ι κ) : (a : ApiStep ι κ) → Decidable (s.Enabled a)
  | .call _ => inferInstanceAs (Decidable (_ ∧ _))
  | .take _ => inferInstanceAs (Decidable (_ = _))
  | .takeStray _ => inferInstanceAs (Decidable (_ ∈ _))

/-- The acquire write of `link-0` is under way when the cycle leaves. -/
def leavingSteps : List (ApiStep (Fin 3) Unit) :=
  [.call (.start 0 "link-0"), .call (.check 0), .call (.enter 0), .call (.start 1 "link-0"),
    .call (.check 1), .call (.leave ()), .call (.send 0), .call (.enter 1), .take 0,
    .call (.answer 0 true), .call (.observe 0), .call (.done 0), .call (.drain ()),
    .call (.finish ())]

/-- It acquires, and the cycle renews. -/
def refreshingSteps : List (ApiStep (Fin 3) Unit) :=
  [.call (.start 2 "link-0"), .call (.check 2), .call (.send 2), .take 2]

theorem leave_final_acquired :
    (LockApi.run "link-0" leavingSteps).calls.leaves () = .returned true ∧
      (LockApi.run "link-0" (leavingSteps ++ refreshingSteps)).calls.lock.acquired = true := by
  have hleft : (LockApi.run "link-0" leavingSteps).calls.leaves () = .returned true := by decide
  obtain ⟨hstays, hwrites⟩ := (leave_final "link-0"
    (by decide : LockApi.Runs "link-0" (leavingSteps ++ refreshingSteps))).1 _ _ () rfl hleft
  have hacq := hwrites (refreshingSteps.take 3) (.take 2) [] rfl (fun _ h => nomatch h) (by decide)
  exact ⟨hleft, (hstays _ (List.prefix_refl _)).trans hacq⟩

/-- The call of the acquire write fails, and its request stays on its way. -/
def strayingSteps : List (ApiStep Unit Unit) :=
  [.call (.start () "link-0"), .call (.check ()), .call (.enter ()), .call (.send ()),
    .call (.answer () false), .call (.observe ()), .call (.done ()), .call (.leave ()),
    .call (.drain ()), .call (.finish ())]

/-- **A write behind the fence**: after `leave` returned true for a cycle that has not acquired, the
API server takes a write that names this replica. -/
theorem strayWrite_acquires :
    LockApi.Runs "link-0" (strayingSteps ++ [.takeStray "link-0"]) ∧
      (LockApi.run "link-0" strayingSteps).calls.leaves () = .returned true ∧
      (LockApi.run "link-0" strayingSteps).calls.lock.acquired = false ∧
      (LockApi.run "link-0" strayingSteps).names (.takeStray "link-0") = some "link-0" := by
  decide

end WireguardGateway.Link

import WireguardGateway.Link.DataPlane
import WireguardGateway.Link.Fencing

/-!
# Evidence that another replica took over

A data plane that fail-static kept is torn down on evidence that another replica holds the Lease: by
the fence of the pending flag, and in Local mode by `standbyPass`. The evidence is a holder that
some read of the Lease found, handed to a callback `OnNewLeader` that nobody joins, or to a poll of
the entry gate; and a flag of the data plane that sticks until the next term begins. Neither says
which term it belongs to.

A callback may therefore act on a holder that was read before the replica's own term began: it runs
when that term has ended and its data plane is kept (`lateCallback_tears`).

Results:
* **`torn_down_since`**: in every interleaving in which no such callback is left when a term begins,
  a kept data plane is torn down only after a read of the Lease made since its term began named
  another replica's pod, and on that read;
* **`lateCallback_tears`**: an interleaving in which it is torn down on a read from before the term.

The fence at the end of the process tears a kept data plane down whatever was read; it
is not one of these steps.
-/

namespace WireguardGateway.Link

open Function Lib
open Controller (RuntimeConfig)

/-- The observation has been made and has not been dealt with. -/
def NoticePhase.underway : NoticePhase → Bool
  | .dispatched | .observing | .loading | .locking | .fencing => true
  | _ => false

/-- `observeHolder` has reported the observation. -/
def NoticePhase.reported : NoticePhase → Bool
  | .loading | .locking | .fencing => true
  | _ => false

/-- The evidence names another replica's pod. -/
def Evidence.Sound (d : ElectionDeps) (e : Evidence) : Prop :=
  Election.isOtherHolder d e.holder e.node = true

namespace Election

variable {d : ElectionDeps} {s s' : Election} {k : Nat}

/-- The observation names another replica. -/
def NamesOther (d : ElectionDeps) (n : Notice) : Prop := n.holder ≠ "" ∧ n.holder ≠ d.podName

/-- The condition on an interleaving: when a term claims, every observation that names another
replica and is still under way was made since the term began. -/
def Punctual (d : ElectionDeps) (s : Election) : ElectionStep → Prop
  | .cycle _ (.callback .claim) =>
    ∀ o, (s.notices o).phase.underway = true → NamesOther d (s.notices o) →
      (s.notices o).term = s.terms
  | _ => True

/-- The step tears a kept data plane down on evidence: `standbyPass`, or the
fence of the pending flag. -/
def TearsDown (s : Election) : ElectionStep → Prop
  | .standbyPass => s.leader = false ∧ s.otherHolder = true
  | .notice _ .fence => s.pending = true
  | _ => False

instance (s : Election) : (a : ElectionStep) → Decidable (s.TearsDown a)
  | .standbyPass => inferInstanceAs (Decidable (_ = _ ∧ _ = _))
  | .notice _ .fence => inferInstanceAs (Decidable (_ = _))
  | .notice _ (.dispatch _ _) | .notice _ .note | .notice _ (.observe _) | .notice _ .load
  | .notice _ .fenceDone | .cycle _ _ | .main _ | .sigterm | .siblingFailure => .isFalse not_false

/-- The term whose data plane the step tears down: the last one that started to lead, or the last
one that claimed, and so set the flag. -/
def keptTerm (s : Election) : ElectionStep → Nat
  | .standbyPass => s.led
  | _ => s.claimed

/-- The evidence the step acts on: what was reported last, and so set the flag; or what the callback
or poll that fences has reported itself. -/
def ActsOn (s : Election) (e : Evidence) : ElectionStep → Prop
  | .standbyPass => s.evidence.head? = some e
  | .notice o .fence => e = (s.notices o).evidence e.node
  | _ => False

/-- Observations under way are of the term that claimed last, or later; and so
is what was reported. -/
structure Timely (d : ElectionDeps) (s : Election) : Prop where
  led : s.led ≤ s.claimed
  claimed : s.claimed ≤ s.terms
  underway : ∀ o, (s.notices o).phase.underway = true → NamesOther d (s.notices o) →
    s.claimed ≤ (s.notices o).term
  reported : ∀ o, (s.notices o).phase.reported = true → NamesOther d (s.notices o) ∧
    ∃ e ∈ s.evidence, e = (s.notices o).evidence e.node ∧ e.Sound d
  otherHolder : s.otherHolder = true →
    ∃ e, s.evidence.head? = some e ∧ s.led ≤ e.term ∧ e.Sound d

theorem Timely.initial : (start d).Timely d where
  led := le_rfl
  claimed := le_rfl
  underway _ h := (nomatch h)
  reported _ h := (nomatch h)
  otherHolder h := (nomatch h)

theorem namesOther_of_isOtherHolder {n : Notice} {node : Option String}
    (h : isOtherHolder d n.holder node = true) : NamesOther d n := by
  simp only [isOtherHolder, Bool.and_eq_true, bne_iff_ne] at h
  exact h.1

/-- A step of a cycle touches no observation; what it does to the books on terms and evidence. -/
theorem effect_evidence (s : Election) (k : Nat) {a : CycleStep} (hclaim : a ≠ .callback .claim)
    (hstart : a ≠ .callback .startLeading) :
    (s.effect k a).evidence = s.evidence ∧ (s.effect k a).otherHolder = s.otherHolder ∧
      (s.effect k a).led = s.led ∧ (s.effect k a).claimed = s.claimed ∧
      s.terms ≤ (s.effect k a).terms := by
  cases a with
  | callback a =>
    cases a <;> first
      | exact absurd rfl hclaim
      | exact absurd rfl hstart
      | exact ⟨rfl, rfl, rfl, rfl, le_rfl⟩
      | (simp only [effect]; split_ifs <;> exact ⟨rfl, rfl, rfl, rfl, le_rfl⟩)
  | ender e a =>
    cases a <;> first
      | exact ⟨rfl, rfl, rfl, rfl, le_rfl⟩
      | (simp only [effect]; split_ifs <;> exact ⟨rfl, rfl, rfl, rfl, le_rfl⟩)
  | elector a =>
    cases a <;> first
      | exact ⟨rfl, rfl, rfl, rfl, le_rfl⟩
      | exact ⟨rfl, rfl, rfl, rfl, Nat.le_succ _⟩
  | lock a => exact ⟨rfl, rfl, rfl, rfl, le_rfl⟩

/-- The observations and the evidence are the same, and no term claimed. -/
theorem Timely.frame (h : s.Timely d) (hnotices : s'.notices = s.notices)
    (hevidence : s'.evidence = s.evidence) (hother : s'.otherHolder = s.otherHolder)
    (hled : s'.led = s.led) (hclaimed : s'.claimed = s.claimed) (hterms : s.terms ≤ s'.terms) :
    s'.Timely d where
  led := by rw [hled, hclaimed]; exact h.led
  claimed := by rw [hclaimed]; exact h.claimed.trans hterms
  underway := by rw [hnotices, hclaimed]; exact h.underway
  reported := by rw [hnotices, hevidence]; exact h.reported
  otherHolder := by rw [hother, hevidence, hled]; exact h.otherHolder

theorem Timely.cycle (h : s.Timely d) {a : CycleStep} (hpunctual : Punctual d s (.cycle k a)) :
    (s.nextCycle d k a).Timely d := by
  by_cases hclaim : a = .callback .claim
  · subst hclaim
    exact ⟨h.led.trans h.claimed, le_rfl, fun o ho hn => (hpunctual o ho hn).ge, h.reported,
      h.otherHolder⟩
  by_cases hstart : a = .callback .startLeading
  · subst hstart
    exact ⟨le_rfl, h.claimed, h.underway, h.reported, fun hother => (nomatch hother)⟩
  obtain ⟨hevidence, hother, hled, hclaimed, hterms⟩ := effect_evidence s k hclaim hstart
  exact h.frame (nextCycle_notices s k a) hevidence hother hled hclaimed hterms

variable {o : Observer}

/-- One observation moves on, to a phase in which it has nothing more to report than before. -/
theorem Timely.setNotice (h : s.Timely d) {n : Notice}
    (hunderway : n.phase.underway = true → NamesOther d n → s.claimed ≤ n.term)
    (hreported : n.phase.reported = true → NamesOther d n ∧
      ∃ e ∈ s.evidence, e = n.evidence e.node ∧ e.Sound d) : (s.setNotice o n).Timely d where
  led := h.led
  claimed := h.claimed
  underway := forall_update_iff _ (fun _ n => (Notice.phase n).underway = true →
      NamesOther d n → s.claimed ≤ n.term) |>.mpr
    ⟨hunderway, fun o' _ => h.underway o'⟩
  reported := forall_update_iff _ (fun _ n => (Notice.phase n).reported = true →
      NamesOther d n ∧ ∃ e ∈ s.evidence, e = n.evidence e.node ∧ e.Sound d) |>.mpr
    ⟨hreported, fun o' _ => h.reported o'⟩
  otherHolder := h.otherHolder

/-- The same observation in another phase. -/
theorem Timely.moveNotice (h : s.Timely d) {p : NoticePhase}
    (hunderway : p.underway = true → (s.notices o).phase.underway = true)
    (hreported : p.reported = true → (s.notices o).phase.reported = true) :
    (s.moveNotice o p).Timely d :=
  h.setNotice (fun hp hn => h.underway o (hunderway hp) hn) fun hp => h.reported o (hreported hp)

theorem Timely.dropNotice (h : s.Timely d) (o : Observer) : (s.dropNotice o).Timely d := by
  unfold Election.dropNotice
  split_ifs
  · exact h.moveNotice (fun hp => (nomatch hp)) fun hp => (nomatch hp)
  · exact h.moveNotice (fun hp => (nomatch hp)) fun hp => (nomatch hp)

/-- `observeHolder` reports: the holder was read since the last term that claimed. -/
theorem Timely.observe (h : s.Timely d) (hp : (s.notices o).phase = .observing)
    (node : Option String) : (s.nextNotice d o (.observe node)).Timely d := by
  simp only [nextNotice]
  split_ifs with hother
  · have hnames := namesOther_of_isOtherHolder hother
    have hterm := h.underway o (by rw [hp]; rfl) hnames
    have hmem : ∀ {P : Evidence → Prop}, (∃ e ∈ s.evidence, P e) →
        ∃ e ∈ (s.notices o).evidence node :: s.evidence, P e :=
      Exists.imp fun _ h => ⟨List.mem_cons_of_mem _ h.1, h.2⟩
    refine ⟨h.led, h.claimed, ?_, ?_, fun _ => ⟨_, rfl, h.led.trans hterm, hother⟩⟩
    · exact forall_update_iff _ (fun _ n => (Notice.phase n).underway = true →
        NamesOther d n → s.claimed ≤ n.term) |>.mpr ⟨fun _ _ => hterm, fun o' _ => h.underway o'⟩
    · have hself : NamesOther d { s.notices o with phase := .loading } ∧
          ∃ e ∈ (s.notices o).evidence node :: s.evidence,
            e = (s.notices o).evidence e.node ∧ e.Sound d :=
        ⟨hnames, _, List.mem_cons_self, rfl, hother⟩
      exact forall_update_iff _ (fun _ n => (Notice.phase n).reported = true →
        NamesOther d n ∧ ∃ e ∈ (s.notices o).evidence node :: s.evidence,
          e = n.evidence e.node ∧ e.Sound d) |>.mpr
        ⟨fun _ => hself, fun o' _ ho' => (h.reported o' ho').imp_right hmem⟩
  · exact h.dropNotice o

theorem Timely.notice (h : s.Timely d) {a : NoticeStep} (ha : s.EnabledNotice o a) :
    (s.nextNotice d o a).Timely d := by
  cases a with
  | dispatch k holder => exact h.setNotice (fun _ _ => h.claimed) fun hp => (nomatch hp)
  | note =>
    have hp : (s.notices o).phase = .dispatched := ha
    have hmoved : (s.moveNotice o .observing).Timely d :=
      h.moveNotice (fun _ => by rw [hp]; rfl) fun hr => (nomatch hr)
    simp only [nextNotice]
    split_ifs
    · exact hmoved.frame rfl rfl rfl rfl rfl le_rfl
    · exact hmoved
  | observe node => exact h.observe ha node
  | load =>
    have hp : (s.notices o).phase = .loading := ha
    simp only [nextNotice]
    split_ifs
    · exact h.moveNotice (fun _ => by rw [hp]; rfl) fun _ => by rw [hp]; rfl
    · exact h.dropNotice o
  | fence =>
    have hp : (s.notices o).phase = .locking := ha.1
    simp only [nextNotice]
    split_ifs
    · have hmoved : (s.moveNotice o .fencing).Timely d :=
        h.moveNotice (fun _ => by rw [hp]; rfl) fun _ => by rw [hp]; rfl
      exact hmoved.frame rfl rfl rfl rfl rfl le_rfl
    · exact h.dropNotice o
  | fenceDone => exact (h.dropNotice o).frame rfl rfl rfl rfl rfl le_rfl

theorem Timely.mainStep (h : s.Timely d) {a : MainStep} (ha : s.EnabledMain a) :
    (s.nextMain d a).Timely d := by
  cases a with
  | poll =>
    simp only [nextMain]
    split_ifs
    · exact h.moveNotice (fun hp => by cases hp) fun hp => by cases hp
    · exact h
  | read holder =>
    cases holder with
    | none => exact h.moveNotice (fun hp => by cases hp) fun hp => by cases hp
    | some holder => exact h.setNotice (fun _ _ => h.claimed) fun hp => by cases hp
  | exit =>
    simp only [nextMain]
    split_ifs <;> exact h.frame rfl rfl rfl rfl rfl le_rfl
  | _ => exact h.frame rfl rfl rfl rfl rfl le_rfl

/-- **One step.** -/
theorem Timely.step (h : s.Timely d) {a : ElectionStep} (ha : s.Enabled d a)
    (hpunctual : Punctual d s a) : (s.next d a).Timely d := by
  cases a with
  | cycle k a => exact h.cycle hpunctual
  | notice o a => exact h.notice ha
  | main a => exact h.mainStep ha
  | sigterm | siblingFailure => exact h.frame rfl rfl rfl rfl rfl le_rfl
  | standbyPass => exact h

/-- **Every state of an interleaving that meets the condition.** -/
theorem Timely.of_runs {steps : List ElectionStep} (h : Runs d steps)
    (hpunctual : Guarded (next d) (Punctual d) (start d) steps) : (run d steps).Timely d :=
  (h.and hpunctual).invariant (fun _ _ hs ha => hs.step ha.1 ha.2) .initial (List.prefix_refl steps)

/-- Where a kept data plane is torn down, it is on evidence of its term. -/
theorem Timely.evidence_of_tearsDown (h : s.Timely d) {a : ElectionStep} (ha : s.Enabled d a)
    (htears : s.TearsDown a) :
    ∃ e ∈ s.evidence, s.ActsOn e a ∧ s.keptTerm a ≤ e.term ∧ e.Sound d := by
  cases a with
  | standbyPass =>
    obtain ⟨e, he, hterm, hsound⟩ := h.otherHolder htears.2
    exact ⟨e, List.mem_of_head? he, he, hterm, hsound⟩
  | notice o a =>
    cases a with
    | fence =>
      have hp : (s.notices o).phase = .locking := ha.1
      obtain ⟨hnames, e, he, hof, hsound⟩ := h.reported o (by rw [hp]; rfl)
      refine ⟨e, he, hof, ?_, hsound⟩
      rw [hof]
      exact h.underway o (by rw [hp]; rfl) hnames
    | _ => cases htears
  | _ => cases htears

end Election

/-- **Evidence is of the term.** In every interleaving in which no observation from before a term is
left when the term claims: a kept data plane is torn down only after a read of the Lease made since
its term began named another replica's pod as holder, and it is this read that is acted on. -/
theorem torn_down_since (d : ElectionDeps) {us vs : List ElectionStep} {a : ElectionStep}
    (hruns : Election.Runs d (us ++ a :: vs))
    (hpunctual : Guarded (Election.next d) (Election.Punctual d) (Election.start d) (us ++ a :: vs))
    (htears : (Election.run d us).TearsDown a) :
    ∃ e ∈ (Election.run d us).evidence, (Election.run d us).ActsOn e a ∧
      (Election.run d us).keptTerm a ≤ e.term ∧ Election.isOtherHolder d e.holder e.node = true :=
  (Election.Timely.of_runs hruns.left hpunctual.left).evidence_of_tearsDown hruns.at htears

/-- Only claims are under the condition. -/
theorem Election.punctual_of_no_claim {d : ElectionDeps} {s : Election} {steps : List ElectionStep}
    (h : ∀ a ∈ steps, ∀ k, a ≠ .cycle k (.callback .claim)) :
    Guarded (Election.next d) (Election.Punctual d) s steps := by
  induction steps generalizing s with
  | nil => exact .nil s
  | cons a steps ih =>
    refine .cons ?_ (ih fun b hb => h b (List.mem_cons_of_mem _ hb))
    unfold Election.Punctual
    split
    · exact absurd rfl (h _ List.mem_cons_self _)
    · trivial

/-- A replica in Local mode on a clean node. -/
def localDeps : ElectionDeps :=
  { podName := "link-0", nodeName := "node-a", watching := true, inheritedDataPlane := false }

/-- It contends, and wins its first term; `observed` happens before. -/
def winningSteps (observed : List ElectionStep) : List ElectionStep :=
  [.main .check, .main .poll, .main .contend, .main .create, .main .launch] ++ observed ++
    (([.start () "link-0", .check (), .enter (), .send (), .answer () true, .observe (), .done ()]
      : List (LockStep Unit Ender)).map fun l => .cycle 0 (.lock l)) ++
    [.cycle 0 (.elector .win)]

/-- The rest of the term, which ends without explanation; `observed` happens while it lasts. -/
def endingSteps (observed : List ElectionStep) : List ElectionStep :=
  leadingSteps.tail ++ observed ++ keepingSteps.take 13

/-- An elector finds `link-1` in the Lease, and the callback for it is dispatched. -/
def observing : List ElectionStep := [.notice (.callback 0) (.dispatch 0 "link-1")]

/-- The callback runs up to its fence. -/
def noticeSteps : List ElectionStep :=
  [.notice (.callback 0) .note, .notice (.callback 0) (.observe (some "node-b")),
    .notice (.callback 0) .load]

/-- A term with what is observed before it and in it, up to the fence of the callback. -/
def termSteps (before during : List ElectionStep) : List ElectionStep :=
  winningSteps before ++ .cycle 0 (.callback .claim) :: (endingSteps during ++ noticeSteps)

/-- `link-1` is found in the term itself: the callback tears the kept data plane
down on that evidence. -/
theorem torn_down_since_observed :
    ∃ e ∈ (Election.run localDeps (termSteps [] observing)).evidence,
      (Election.run localDeps (termSteps [] observing)).ActsOn e (.notice (.callback 0) .fence) ∧
      1 ≤ e.term ∧ Election.isOtherHolder localDeps e.holder e.node = true := by
  have hruns : Election.Runs localDeps (termSteps [] observing ++
    [.notice (.callback 0) .fence]) := by
    decide +kernel
  have hpunctual : Guarded (Election.next localDeps) (Election.Punctual localDeps)
      (Election.start localDeps) (termSteps [] observing ++ [.notice (.callback 0) .fence]) := by
    rw [termSteps, List.append_assoc, List.cons_append]
    refine (Election.punctual_of_no_claim (by simp [winningSteps])).append (.cons ?_
      (Election.punctual_of_no_claim ?_))
    · intro o ho
      rw [show (replay (Election.next localDeps) (Election.start localDeps)
        (winningSteps [])).notices = fun _ => {} from rfl] at ho
      cases ho
    · simp [endingSteps, leadingSteps, keepingSteps, observing, noticeSteps]
  exact torn_down_since localDeps hruns hpunctual (by decide +kernel)

/-- A callback for a holder that was read before the term runs after it: the kept data plane is torn
down, by the fence of the pending flag and by `standbyPass`, and no read of the Lease since the term
began has named another replica. -/
theorem lateCallback_tears :
    Election.Runs localDeps (termSteps observing [] ++ [.notice (.callback 0) .fence]) ∧
      (Election.run localDeps (termSteps observing [])).TearsDown (.notice (.callback 0) .fence) ∧
      (Election.run localDeps (termSteps observing [])).TearsDown .standbyPass ∧
      (Election.run localDeps (termSteps observing [])).led = 1 ∧
      (Election.run localDeps (termSteps observing [])).claimed = 1 ∧
      ∀ e ∈ (Election.run localDeps (termSteps observing [])).evidence, e.term = 0 := by
  decide +kernel

end WireguardGateway.Link

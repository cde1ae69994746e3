import Mathlib.Data.Finset.Max
import Mathlib.Data.Prod.Lex
import Mathlib.Data.String.Basic
import WireguardGateway.Lib.Clock
import WireguardGateway.Link.Scores

/-!
# Who may contend for the Lease, and who hands it off

The decisions of `internal/link/election.go:541-752` on the election's view, and the two loops
that take them tick after tick. A node is *fully eligible* when it is live and could serve every
forward. A fully eligible node contends at once; a less fit one only if no live node is fitter,
and after the hold, during which the Lease was free. A leader that is not fully eligible hands
off: at once if it serves nothing and another live node something, otherwise when a fully eligible
peer was there for the hold.

The loops of the source over `live` run in the order of a Go map, which is any order: a `Traversal`.

Results:
* **`decisions_consistent`**: on one view no node both enters and hands off; who is admitted; and
  nothing depends on the traversals;
* **`holds_continuous`**: the two loops act on a hold only after a window of ticks in
  which its condition lasted.

Log lines are left out.
-/

namespace WireguardGateway.Link

open Lib

/-! ## The decisions -/

/-- An order in which a loop over a Go map meets its keys. -/
abbrev Traversal (keys : Finset String) : Type :=
  { order : List String // order.Nodup ∧ ∀ n, n ∈ order ↔ n ∈ keys }

/-- The traversals of the loops of one decision. -/
structure Traversals (keys : Finset String) where
  eligible : Traversal keys
  best : Traversal keys

/-- The node is live and could serve every forward. -/
def FullyEligible (node : String) (v : ElectionView) : Prop :=
  node ∈ v.live ∧ v.scores node = v.forwardCount

instance (node : String) (v : ElectionView) : Decidable (FullyEligible node v) :=
  inferInstanceAs (Decidable (_ ∧ _))

/-- `hasFullyEligiblePeer`. -/
def hasFullyEligiblePeer (node : String) (v : ElectionView) (order : Traversal v.live) : Bool :=
  order.1.any fun peer => peer ≠ node ∧ v.scores peer = v.forwardCount

/-- The body of the loop for the best node, with its name and score. -/
def betterOf (node : String) (v : ElectionView) (best : String × Int) (peer : String) :
    String × Int :=
  if peer = node then best
  else if v.scores peer > best.2 ∨ (v.scores peer = best.2 ∧ peer < best.1) then
    (peer, v.scores peer)
  else best

/-- The node with the best score, and of these the one with the lowest name. -/
def bestNode (node : String) (v : ElectionView) (order : Traversal v.live) : String :=
  (order.1.foldl (betterOf node v) (node, v.scores node)).1

/-- `entryDecision`; none is the zero time. -/
def entryDecision (node : String) (v : ElectionView) (orders : Traversals v.live)
    (noEligiblePeerSince noHolderSince : Option Int) (now : Int) (hold : Int64) : Bool :=
  if FullyEligible node v then true
  else if hasFullyEligiblePeer node v orders.eligible then false
  else
    match noEligiblePeerSince, noHolderSince with
    | some a, some b =>
      if bestNode node v orders.best ≠ node then false
      else hold.toInt ≤ elapsed now (if b > a then b else a)
    | _, _ => false

/-- `handoffDecision`; its first loop is over `orders.best`. -/
def handoffDecision (node : String) (v : ElectionView) (orders : Traversals v.live)
    (eligiblePeerSince : Option Int) (now : Int) (hold : Int64) : Bool :=
  if FullyEligible node v then false
  else if v.scores node = 0 then orders.best.1.any fun peer => peer ≠ node ∧ v.scores peer > 0
  else if !hasFullyEligiblePeer node v orders.eligible then false
  else
    match eligiblePeerSince with
    | some since => hold.toInt ≤ elapsed now since
    | none => false

/-! ## The decisions without their loops -/

section

variable {node : String} {v : ElectionView}

variable {order : Traversal v.live} {hold : Int64} {orders : Traversals v.live}

theorem hasFullyEligiblePeer_iff :
    hasFullyEligiblePeer node v order = true ↔ ∃ peer, peer ≠ node ∧ FullyEligible peer v := by
  unfold hasFullyEligiblePeer FullyEligible
  simp only [List.any_eq_true, decide_eq_true_eq, order.2.2]
  constructor
  · rintro ⟨peer, hlive, hne, hscore⟩
    exact ⟨peer, hne, hlive, hscore⟩
  · rintro ⟨peer, hne, hlive, hscore⟩
    exact ⟨peer, hlive, hne, hscore⟩

/-- For a node that is not fully eligible itself. -/
theorem hasFullyEligiblePeer_of_not (hnot : ¬ FullyEligible node v) :
    hasFullyEligiblePeer node v order = true ↔ ∃ peer, FullyEligible peer v := by
  rw [hasFullyEligiblePeer_iff]
  refine exists_congr fun peer => ⟨fun h => h.2, fun h => ⟨?_, h⟩⟩
  rintro rfl
  exact hnot h

/-- How fit a node is: its score, and then how low its name is. -/
def fitness (v : ElectionView) (n : String) : Int ×ₗ Stringᵒᵈ :=
  toLex (v.scores n, OrderDual.toDual n)

theorem fitness_lt {m n : String} :
    fitness v m < fitness v n ↔ v.scores n > v.scores m ∨ (v.scores n = v.scores m ∧ n < m) := by
  unfold fitness
  rw [Prod.Lex.toLex_lt_toLex]
  simp only [OrderDual.toDual_lt_toDual, gt_iff_lt, eq_comm]

theorem fitness_le {m n : String} :
    fitness v m ≤ fitness v n ↔ v.scores m < v.scores n ∨ (v.scores m = v.scores n ∧ n ≤ m) := by
  unfold fitness
  rw [Prod.Lex.toLex_le_toLex]
  simp only [OrderDual.toDual_le_toDual]

theorem fitness_inj {m n : String} (h : fitness v m = fitness v n) : m = n := by
  have hpair : (v.scores m, OrderDual.toDual m) = (v.scores n, OrderDual.toDual n) := toLex_inj.mp h
  exact OrderDual.toDual_inj.mp (Prod.mk.inj hpair).2

/-- The loop keeps a fittest node of those it met. -/
theorem foldl_betterOf (order : List String) (b : String) :
    ∃ best, order.foldl (betterOf node v) (b, v.scores b) = (best, v.scores best) ∧
      (best = b ∨ best ∈ order) ∧ fitness v b ≤ fitness v best ∧
      ∀ n ∈ order, n ≠ node → fitness v n ≤ fitness v best := by
  induction order generalizing b with
  | nil => exact ⟨b, rfl, .inl rfl, le_refl _, fun n hn => absurd hn List.not_mem_nil⟩
  | cons peer order ih =>
    rw [List.foldl_cons]
    unfold betterOf
    simp only
    by_cases hnode : peer = node
    · rw [if_pos hnode]
      obtain ⟨best, hfold, hmem, hb, hall⟩ := ih b
      refine ⟨best, hfold, hmem.imp_right (List.mem_cons_of_mem peer), hb, ?_⟩
      intro n hn hne
      rcases List.mem_cons.mp hn with rfl | hn
      · exact absurd hnode hne
      · exact hall n hn hne
    · rw [if_neg hnode]
      by_cases hbetter : v.scores peer > v.scores b ∨ v.scores peer = v.scores b ∧ peer < b
      · rw [if_pos hbetter]
        obtain ⟨best, hfold, hmem, hb, hall⟩ := ih peer
        refine ⟨best, hfold, ?_, (fitness_lt.mpr hbetter).le.trans hb, ?_⟩
        · rcases hmem with rfl | hmem
          · exact .inr List.mem_cons_self
          · exact .inr (List.mem_cons_of_mem peer hmem)
        · intro n hn hne
          rcases List.mem_cons.mp hn with rfl | hn
          · exact hb
          · exact hall n hn hne
      · rw [if_neg hbetter]
        obtain ⟨best, hfold, hmem, hb, hall⟩ := ih b
        refine ⟨best, hfold, hmem.imp_right (List.mem_cons_of_mem peer), hb, ?_⟩
        intro n hn hne
        rcases List.mem_cons.mp hn with rfl | hn
        · exact (not_lt.mp fun hlt => hbetter (fitness_lt.mp hlt)).trans hb
        · exact hall n hn hne

/-- **The loop for the best node** ends at the node itself iff no live node is fitter. -/
theorem bestNode_eq_iff :
    bestNode node v order = node ↔ ∀ n ∈ v.live, fitness v n ≤ fitness v node := by
  obtain ⟨best, hfold, hmem, hnode, hall⟩ : ∃ best, order.1.foldl (betterOf node v)
      (node, v.scores node) = (best, v.scores best) ∧ (best = node ∨ best ∈ order.1) ∧
      fitness v node ≤ fitness v best ∧
      ∀ n ∈ order.1, n ≠ node → fitness v n ≤ fitness v best := foldl_betterOf order.1 node
  have hbest : bestNode node v order = best := congrArg Prod.fst hfold
  rw [hbest]
  constructor
  · rintro rfl n hn
    by_cases hne : n = best
    · rw [hne]
    · exact hall n ((order.2.2 n).mpr hn) hne
  · intro hfittest
    rcases hmem with rfl | hmem
    · rfl
    · exact fitness_inj ((hfittest best ((order.2.2 best).mp hmem)).antisymm hnode)

/-- **When a node is admitted.** -/
theorem entryDecision_iff {noEligiblePeerSince noHolderSince : Option Int} {now : Int} :
    entryDecision node v orders noEligiblePeerSince noHolderSince now hold = true ↔
      FullyEligible node v ∨ (¬ ∃ peer, FullyEligible peer v) ∧
        (∀ n ∈ v.live, fitness v n ≤ fitness v node) ∧
        ∃ a b, noEligiblePeerSince = some a ∧ noHolderSince = some b ∧
          hold.toInt ≤ elapsed now (if b > a then b else a) := by
  unfold entryDecision
  by_cases hfull : FullyEligible node v
  · rw [if_pos hfull]
    exact ⟨fun _ => .inl hfull, fun _ => rfl⟩
  · rw [if_neg hfull]
    have hpeers : hasFullyEligiblePeer node v orders.eligible = true ↔
        ∃ peer, FullyEligible peer v := hasFullyEligiblePeer_of_not hfull
    by_cases hpeer : ∃ peer, FullyEligible peer v
    · rw [if_pos (hpeers.mpr hpeer)]
      exact ⟨fun h => (nomatch h), fun h => absurd hpeer (h.resolve_left hfull).1⟩
    · rw [if_neg fun h => hpeer (hpeers.mp h)]
      have hbest : bestNode node v orders.best = node ↔
        ∀ n ∈ v.live, fitness v n ≤ fitness v node :=
        bestNode_eq_iff
      simp only [hfull, false_or, hpeer, not_false_eq_true, true_and, ← hbest]
      cases noEligiblePeerSince with
      | none => simp
      | some a =>
        cases noHolderSince with
        | none => simp
        | some b =>
          by_cases hnode : bestNode node v orders.best = node <;> simp [hnode]

/-- **When a leader hands off.** -/
theorem handoffDecision_iff {eligiblePeerSince : Option Int} {now : Int} :
    handoffDecision node v orders eligiblePeerSince now hold = true ↔
      ¬ FullyEligible node v ∧
        (v.scores node = 0 ∧ (∃ peer ∈ v.live, peer ≠ node ∧ v.scores peer > 0) ∨
          v.scores node ≠ 0 ∧ (∃ peer, FullyEligible peer v) ∧
            ∃ since, eligiblePeerSince = some since ∧ hold.toInt ≤ elapsed now since) := by
  unfold handoffDecision
  by_cases hfull : FullyEligible node v
  · rw [if_pos hfull]
    exact ⟨fun h => (nomatch h), fun h => absurd hfull h.1⟩
  · rw [if_neg hfull]
    have hpeers : hasFullyEligiblePeer node v orders.eligible = true ↔
        ∃ peer, FullyEligible peer v := hasFullyEligiblePeer_of_not hfull
    by_cases hzero : v.scores node = 0
    · rw [if_pos hzero]
      simp [hfull, hzero, orders.best.2.2]
    · rw [if_neg hzero]
      by_cases hpeer : ∃ peer, FullyEligible peer v
      · rw [hpeers.mpr hpeer]
        cases eligiblePeerSince with
        | none => simp [hzero]
        | some since => simp [hfull, hzero, hpeer]
      · rw [Bool.eq_false_iff.mpr fun h => hpeer (hpeers.mp h)]
        simp [hzero, hpeer]

theorem not_handoff_of_entry {orders' : Traversals v.live}
    {noEligiblePeerSince noHolderSince eligiblePeerSince : Option Int} {now now' : Int}
    (hentry : entryDecision node v orders noEligiblePeerSince noHolderSince now hold = true) :
    ¬ handoffDecision node v orders' eligiblePeerSince now' hold = true := by
  intro hhandoff
  obtain ⟨hnot, hcause⟩ := handoffDecision_iff.mp hhandoff
  obtain ⟨hnone, hfittest, -⟩ := (entryDecision_iff.mp hentry).resolve_left hnot
  rcases hcause with ⟨hzero, peer, hlive, -, hpositive⟩ | ⟨-, hpeer, -⟩
  · -- a node that serves nothing is not the fittest beside one that serves something
    have hle := fitness_le.mp (hfittest peer hlive)
    omega
  · exact hnone hpeer

end

/-- **Entry and handoff are consistent.** On every view, for every hold, whatever the clocks show
and in whatever order the maps are walked: no node is admitted and hands off; beside a fully
eligible node only fully eligible ones are admitted; and where there is none, once both clocks have
run for the hold, of the live nodes the one with the best score, and of these the lowest name. -/
theorem decisions_consistent (v : ElectionView) (hold : Int64) :
    (∀ node orders orders' peerSince holderSince since now now',
      ¬ (entryDecision node v orders peerSince holderSince now hold = true ∧
        handoffDecision node v orders' since now' hold = true)) ∧
    ((∃ n, FullyEligible n v) → ∀ node ∈ v.live, ∀ orders peerSince holderSince now,
      (entryDecision node v orders peerSince holderSince now hold = true ↔
        v.scores node = v.forwardCount)) ∧
    ((¬ ∃ n, FullyEligible n v) → v.live.Nonempty → ∃ winner ∈ v.live,
      (∀ n ∈ v.live, v.scores n < v.scores winner ∨
        (v.scores n = v.scores winner ∧ winner ≤ n)) ∧
      ∀ node ∈ v.live, ∀ orders peerSince holderSince now, hold.toInt ≤ now - peerSince →
        hold.toInt ≤ now - holderSince →
        (entryDecision node v orders (some peerSince) (some holderSince) now hold = true ↔
          node = winner)) ∧
    ((∀ node orders orders' peerSince holderSince now,
      entryDecision node v orders peerSince holderSince now hold =
        entryDecision node v orders' peerSince holderSince now hold) ∧
      ∀ node orders orders' since now, handoffDecision node v orders since now hold =
        handoffDecision node v orders' since now hold) := by
  refine ⟨?_, ?_, ?_, ?_, ?_⟩
  · rintro node orders orders' peerSince holderSince since now now' ⟨hentry, hhandoff⟩
    exact not_handoff_of_entry hentry hhandoff
  · intro hsome node hnode orders peerSince holderSince now
    rw [entryDecision_iff]
    constructor
    · rintro (hfull | ⟨hnone, -⟩)
      · exact hfull.2
      · exact absurd hsome hnone
    · exact fun hscore => .inl ⟨hnode, hscore⟩
  · intro hnone hlive
    obtain ⟨winner, hwinner, hfittest⟩ := v.live.exists_max_image (fitness v) hlive
    refine ⟨winner, hwinner, fun n hn => fitness_le.mp (hfittest n hn), ?_⟩
    intro node hnode orders peerSince holderSince now hpeer hholder
    rw [entryDecision_iff]
    constructor
    · rintro (hfull | ⟨-, hbest, -⟩)
      · exact absurd ⟨node, hfull⟩ hnone
      · exact fitness_inj ((hfittest node hnode).antisymm (hbest winner hwinner))
    · rintro rfl
      refine .inr ⟨hnone, hfittest, peerSince, holderSince, rfl, rfl, le_elapsed ?_⟩
      split_ifs
      · exact hholder
      · exact hpeer
  · intro node orders orders' peerSince holderSince now
    rw [Bool.eq_iff_iff, entryDecision_iff, entryDecision_iff]
  · intro node orders orders' since now
    rw [Bool.eq_iff_iff, handoffDecision_iff, handoffDecision_iff]

/-! ## The loops -/

/-- One turn of either loop: the view it reads, how its loops walk the maps, what it learns of the
Lease, and the instants of its calls of `time.Now`. -/
structure Tick where
  view : ElectionView
  orders : Traversals view.live
  again : Traversal view.live
  leaseAvailable : Bool
  decidedAt : Int
  peerAt : Int
  leaseAt : Int

namespace Tick

/-- `decisionDeferred`. -/
def deferred (t : Tick) : Bool := t.view.pending ≠ []

/-- The view has a fully eligible node besides this one. -/
def peered (node : String) (t : Tick) : Bool := hasFullyEligiblePeer node t.view t.again

/-- No fully eligible peer, and the Lease is free. -/
def vacant (node : String) (t : Tick) : Bool := !t.peered node && t.leaseAvailable

/-- The instants of a tick are in order. -/
def Ordered (t : Tick) : Prop := t.decidedAt ≤ t.peerAt ∧ t.peerAt ≤ t.leaseAt

instance (t : Tick) : Decidable t.Ordered := inferInstanceAs (Decidable (_ ∧ _))

end Tick

/-- Time does not go back, within a tick and from tick to tick. -/
def NonDecreasing (ticks : List Tick) : Prop :=
  (∀ t ∈ ticks, t.Ordered) ∧ ticks.Pairwise fun t u => t.leaseAt ≤ u.decidedAt

/-- What a turn of a loop comes to. -/
inductive Turn (κ : Type) where
  | ends
  | continues (clocks : κ)
  deriving DecidableEq, Repr

/-- The clocks of a loop that has not ended. -/
def turns {κ : Type} (turn : κ → Tick → Turn κ) : κ → List Tick → Option κ
  | clocks, [] => some clocks
  | clocks, t :: ticks =>
    match turn clocks t with
    | .ends => none
    | .continues clocks => turns turn clocks ticks

theorem turns_snoc {κ : Type} {turn : κ → Tick → Turn κ} (ticks : List Tick) (t : Tick) :
    ∀ clocks, turns turn clocks (ticks ++ [t]) =
      (turns turn clocks ticks).bind fun clocks =>
        match turn clocks t with
        | .ends => none
        | .continues clocks => some clocks := by
  induction ticks with
  | nil =>
    intro clocks
    rw [List.nil_append, turns, turns, Option.bind_some]
    cases turn clocks t <;> rfl
  | cons u ticks ih =>
    intro clocks
    rw [List.cons_append, turns, turns]
    cases turn clocks u with
    | ends => rfl
    | continues clocks => exact ih clocks

/-- The clocks of `waitForEntryEligible`. -/
structure EntryClocks where
  noEligiblePeerSince : Option Int
  noHolderSince : Option Int
  deriving DecidableEq, Repr

/-- A turn of `waitForEntryEligible`; it ends when the node is admitted. -/
def entryTurn (node : String) (hold : Int64) (clocks : EntryClocks) (t : Tick) : Turn EntryClocks :=
  if t.deferred then .continues clocks
  else if entryDecision node t.view t.orders clocks.noEligiblePeerSince clocks.noHolderSince
      t.decidedAt hold then .ends
  else if t.peered node then .continues { noEligiblePeerSince := none, noHolderSince := none }
  else
    .continues
      { noEligiblePeerSince := clocks.noEligiblePeerSince.or (some t.peerAt)
        noHolderSince :=
          if !t.leaseAvailable then none else clocks.noHolderSince.or (some t.leaseAt) }

/-- A turn of `monitorHandoff`; it ends when the leader hands off. -/
def handoffTurn (node : String) (hold : Int64) (eligiblePeerSince : Option Int) (t : Tick) :
    Turn (Option Int) :=
  if t.deferred then .continues eligiblePeerSince
  else if handoffDecision node t.view t.orders eligiblePeerSince t.decidedAt hold then .ends
  else if t.peered node then .continues (eligiblePeerSince.or (some t.peerAt))
  else .continues none

def waitForEntryEligible (node : String) (hold : Int64) (ticks : List Tick) : Option EntryClocks :=
  turns (entryTurn node hold) { noEligiblePeerSince := none, noHolderSince := none } ticks

def monitorHandoff (node : String) (hold : Int64) (ticks : List Tick) : Option (Option Int) :=
  turns (handoffTurn node hold) none ticks

section

variable {node : String} {hold : Int64} {ticks : List Tick}

/-- **What the entry loop's clocks show.** -/
theorem waitForEntryEligible_clocks {clocks : EntryClocks}
    (h : waitForEntryEligible node hold ticks = some clocks) :
    clocks.noEligiblePeerSince =
        clockAfter Tick.deferred (fun t => !t.peered node) Tick.peerAt ticks ∧
      clocks.noHolderSince = clockAfter Tick.deferred (Tick.vacant node) Tick.leaseAt ticks := by
  induction ticks using List.reverseRecOn generalizing clocks with
  | nil =>
    cases h
    exact ⟨rfl, rfl⟩
  | append_singleton ticks t ih =>
    rw [waitForEntryEligible, turns_snoc] at h
    obtain ⟨before, hbefore, hturn⟩ := Option.bind_eq_some_iff.mp h
    obtain ⟨hpeer, hholder⟩ := ih hbefore
    rw [clockAfter_snoc, clockAfter_snoc, ← hpeer, ← hholder]
    unfold entryTurn at hturn
    unfold clockStep Tick.vacant
    by_cases hdeferred : t.deferred = true
    · simp only [if_pos hdeferred, Option.some.injEq] at hturn
      rw [if_pos hdeferred, if_pos hdeferred, hturn]
      exact ⟨rfl, rfl⟩
    · rw [if_neg hdeferred] at hturn
      rw [if_neg hdeferred, if_neg hdeferred]
      split_ifs at hturn with hdecision hpeered hlease
      · cases hturn
        simp [hpeered]
      · cases hturn
        simpa [hpeered] using hlease
      · cases hturn
        simpa [hpeered] using hlease

/-- **What the handoff monitor's clock shows.** -/
theorem monitorHandoff_clock {clock : Option Int}
    (h : monitorHandoff node hold ticks = some clock) :
    clock = clockAfter Tick.deferred (Tick.peered node) Tick.peerAt ticks := by
  induction ticks using List.reverseRecOn generalizing clock with
  | nil =>
    cases h
    rfl
  | append_singleton ticks t ih =>
    rw [monitorHandoff, turns_snoc] at h
    obtain ⟨before, hbefore, hturn⟩ := Option.bind_eq_some_iff.mp h
    have hclock := ih hbefore
    rw [clockAfter_snoc, ← hclock]
    unfold handoffTurn at hturn
    unfold clockStep
    by_cases hdeferred : t.deferred = true
    · simp only [if_pos hdeferred, Option.some.injEq] at hturn
      rw [if_pos hdeferred, hturn]
    · rw [if_neg hdeferred] at hturn
      rw [if_neg hdeferred]
      split_ifs at hturn with hdecision hpeered
      · cases hturn
        rw [if_pos hpeered]
      · cases hturn
        rw [if_neg hpeered]

end

/-- **Hold windows are continuous.** Over every trace of ticks whose times do not go back: a
node that is not fully eligible is admitted only at a tick without a fully eligible peer, at
least the hold after an earlier tick since which every tick that was not deferred saw no fully
eligible peer and a free Lease; a leader with a score is sent off only at least the hold after
an earlier tick since which every such tick saw a fully eligible peer; and none is sent off
while it is fully eligible. -/
theorem holds_continuous (node : String) (hold : Int64) (ticks : List Tick) (t : Tick)
    (htime : NonDecreasing (ticks ++ [t])) :
    (∀ clocks, waitForEntryEligible node hold ticks = some clocks →
      entryTurn node hold clocks t = .ends → ¬ FullyEligible node t.view →
      (¬ ∃ peer, peer ≠ node ∧ FullyEligible peer t.view) ∧
        ∃ start, Window Tick.deferred (Tick.vacant node) ticks start ∧
          hold.toInt ≤ t.decidedAt - start.leaseAt) ∧
    (∀ clock, monitorHandoff node hold ticks = some clock →
      handoffTurn node hold clock t = .ends → t.view.scores node ≠ 0 →
        ∃ start, Window Tick.deferred (Tick.peered node) ticks start ∧
          hold.toInt ≤ t.decidedAt - start.peerAt) ∧
    (∀ clock, handoffTurn node hold clock t = .ends → ¬ FullyEligible node t.view) := by
  obtain ⟨hordered, hpairwise⟩ := htime
  have hbefore : ∀ u ∈ ticks, u.leaseAt ≤ t.decidedAt := by
    intro u hu
    exact (List.pairwise_append.mp hpairwise).2.2 u hu t (List.mem_singleton_self t)
  have hpast : ∀ u ∈ ticks, u.peerAt ≤ t.decidedAt := fun u hu =>
    (hordered u (List.mem_append_left _ hu)).2.trans (hbefore u hu)
  have hends : ∀ clock, handoffTurn node hold clock t = .ends →
      handoffDecision node t.view t.orders clock t.decidedAt hold = true := by
    intro clock hturn
    unfold handoffTurn at hturn
    split_ifs at hturn with hdeferred hdecision
    exact hdecision
  refine ⟨?_, ?_, ?_⟩
  · intro clocks hclocks hturn hnot
    have hdecision : entryDecision node t.view t.orders clocks.noEligiblePeerSince
        clocks.noHolderSince t.decidedAt hold = true := by
      unfold entryTurn at hturn
      split_ifs at hturn with hdeferred hdecision
      exact hdecision
    obtain ⟨hnone, -, a, b, ha, hb, hhold⟩ := (entryDecision_iff.mp hdecision).resolve_left hnot
    obtain ⟨hpeer, hholder⟩ := waitForEntryEligible_clocks hclocks
    obtain ⟨first, rfl, hfirst⟩ := clock_window (hpeer.symm.trans ha)
    obtain ⟨start, rfl, hwindow⟩ := clock_window (hholder.symm.trans hb)
    refine ⟨fun ⟨peer, _, hpeer⟩ => hnone ⟨peer, hpeer⟩, start, hwindow, ?_⟩
    have hpeerAt : first.peerAt ≤ t.decidedAt := hpast first hfirst.mem
    have hleaseAt : start.leaseAt ≤ t.decidedAt := hbefore start hwindow.mem
    -- the later of the two clocks has run for the hold
    split_ifs at hhold
    · exact le_of_le_elapsed hleaseAt hhold
    · have hfirstHold := le_of_le_elapsed hpeerAt hhold
      omega
  · intro clock hclock hturn hscore
    obtain ⟨-, hcause⟩ := handoffDecision_iff.mp (hends clock hturn)
    obtain ⟨-, -, since, hsince, hhold⟩ := hcause.resolve_left fun h => hscore h.1
    obtain ⟨start, rfl, hwindow⟩ := clock_window ((monitorHandoff_clock hclock).symm.trans hsince)
    exact ⟨start, hwindow, le_of_le_elapsed (hpast start hwindow.mem) hhold⟩
  · intro clock hturn
    exact (handoffDecision_iff.mp (hends clock hturn)).1

/-- The only live node serves one forward of two. -/
def halfFit : ElectionView where
  forwardCount := 2
  pending := []
  live := {"node-a"}
  scores _ := 1

def onlyNode : Traversal halfFit.live := ⟨["node-a"], by simp [halfFit]⟩

/-- A tick at which the Lease is free. -/
def freeTick (now : Int) : Tick where
  view := halfFit
  orders := { eligible := onlyNode, best := onlyNode }
  again := onlyNode
  leaseAvailable := true
  decidedAt := now
  peerAt := now
  leaseAt := now

theorem holds_continuous_alone :
    NonDecreasing ([freeTick 0] ++ [freeTick 30]) ∧
      ∃ start, Window Tick.deferred (Tick.vacant "node-a") [freeTick 0] start ∧
        (30 : Int64).toInt ≤ (freeTick 30).decidedAt - start.leaseAt := by
  have htime : NonDecreasing ([freeTick 0] ++ [freeTick 30]) := by
    simp [NonDecreasing, Tick.Ordered, freeTick]
  refine ⟨htime, ?_⟩
  obtain ⟨-, hwindow⟩ := (holds_continuous "node-a" 30 [freeTick 0] (freeTick 30) htime).1
    { noEligiblePeerSince := some 0, noHolderSince := some 0 } (by decide +kernel)
    (by decide +kernel) (by decide +kernel)
  exact hwindow

/-- Two live nodes serve one forward of two each. -/
def evenFit : ElectionView := { halfFit with live := {"node-a", "node-b"} }

def evenOrders : Traversals evenFit.live where
  eligible := ⟨["node-a", "node-b"], by simp [evenFit]⟩
  best := ⟨["node-b", "node-a"], by simp [evenFit, or_comm]⟩

/-- Of two nodes with the same score the one with the lower name is admitted. -/
theorem decisions_consistent_even :
    (¬ ∃ n, FullyEligible n evenFit) ∧
      entryDecision "node-a" evenFit evenOrders (some 0) (some 0) 30 30 = true ∧
      ¬ entryDecision "node-b" evenFit evenOrders (some 0) (some 0) 30 30 = true := by
  have hnone : ¬ ∃ n, FullyEligible n evenFit := by
    rintro ⟨n, -, hscore⟩
    cases hscore
  have ha : "node-a" ∈ evenFit.live := by simp [evenFit]
  have hb : "node-b" ∈ evenFit.live := by simp [evenFit]
  obtain ⟨-, -, hwinner, -⟩ := decisions_consistent evenFit 30
  obtain ⟨winner, hlive, hbest, hadmits⟩ := hwinner hnone ⟨"node-a", ha⟩
  have hlow : winner ≤ "node-a" := ((hbest "node-a" ha).resolve_left (lt_irrefl 1)).2
  obtain rfl : winner = "node-a" := by
    rcases Finset.mem_insert.mp hlive with rfl | hother
    · rfl
    · cases Finset.mem_singleton.mp hother
      exact absurd hlow (by decide)
  refine ⟨hnone, (hadmits _ ha evenOrders 0 0 30 (by decide) (by decide)).mpr rfl, fun hentry => ?_⟩
  exact absurd ((hadmits _ hb evenOrders 0 0 30 (by decide) (by decide)).mp hentry) (by decide)

end WireguardGateway.Link

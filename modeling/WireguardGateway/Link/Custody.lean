import Mathlib.Data.List.Nodup
import Mathlib.Logic.Function.Basic

/-!
# Who answers for a data plane

The books that an election keeps on data planes, in the terms of its own purpose and not of
its goroutines. A plane is the one an earlier process left on the node, or that of a
leadership cycle. It is answered for by the cycle, or it is *kept*. A cycle that begins claims
whatever is kept; it ends by a fence for all it has, or by handing all of it over; and a fence
may also be run for what is kept.

Every fence that begins is entered in the books, also one that finds nothing left to fence.

Results: `Custody.Sound` is kept by the four operations where they are due, and in a sound ledger
* `Sound.fences_once`: a cycle has one fence at most, every fence is for some plane, and no plane is
  fenced twice;
* `Sound.held_once`: a plane that was not fenced is in exactly one place.
-/

namespace WireguardGateway.Link

open Function

/-- A data plane: the one an earlier process left, or the one of a cycle. -/
inductive Plane
  | inherited
  | own (k : Nat)
  deriving DecidableEq, Repr

/-- Who may answer for a data plane: what the pending flag stands for, or a cycle. -/
inductive Owner
  | pending
  | cycle (k : Nat)
  deriving DecidableEq, Repr

/-- Who answers for which data plane, and the fences that were begun: whose
each was, and for what. -/
structure Custody where
  kept : List Plane := []
  cycles : Nat → List Plane := fun _ => []
  fences : List (Owner × List Plane) := []

namespace Custody

section

variable (u : Custody)

/-- The cycle takes over what is kept, and starts its own. -/
def claim (k : Nat) : Custody :=
  { u with kept := [], cycles := update u.cycles k (.own k :: u.kept) }

/-- The cycle hands over what it has. -/
def keep (k : Nat) : Custody :=
  { u with kept := u.cycles k ++ u.kept, cycles := update u.cycles k [] }

/-- A fence of the cycle begins, for what the cycle has. -/
def fence (k : Nat) : Custody :=
  { u with cycles := update u.cycles k [], fences := (.cycle k, u.cycles k) :: u.fences }

/-- A fence for what is kept begins. -/
def fenceKept : Custody := { u with kept := [], fences := (.pending, u.kept) :: u.fences }

/-- The planes that a fence was begun for, as often as one was. -/
def fenced : List Plane := u.fences.flatMap Prod.snd

/-- How many fences an owner began. -/
def fencesBy (o : Owner) : Nat := (u.fences.map Prod.fst).count o

end

/-- The plane is somewhere in the books. -/
def Holds (u : Custody) (p : Plane) : Prop :=
  p ∈ u.kept ∨ (∃ k, p ∈ u.cycles k) ∨ p ∈ u.fenced

/-- The flag is set while something is kept. A cycle has its plane, and what it claimed, from its
claim until it is `ended` by a fence or a handover. Nothing is in two places, and nothing gets lost.
A cycle that is not ended has begun no fence, and no fence was for nothing. -/
structure Sound (inherited pending : Bool) (claimed ended : Nat → Bool) (u : Custody) : Prop where
  flag : pending = true ↔ u.kept ≠ []
  cycles : ∀ k, u.cycles k ≠ [] ↔ claimed k = true ∧ ended k = false
  nodup : ∀ k, (u.cycles k ++ (u.kept ++ u.fenced)).Nodup
  fresh : ∀ k, claimed k = false → ¬ u.Holds (.own k)
  inherited : inherited = true → u.Holds .inherited
  own : ∀ k, claimed k = true → u.Holds (.own k)
  once : ∀ k, u.fencesBy (.cycle k) ≤ (ended k).toNat
  aimed : ∀ f ∈ u.fences, f.2 ≠ []

variable {inherited pending : Bool} {claimed ended : Nat → Bool} {u : Custody} {k : Nat} {p : Plane}

theorem Sound.initial :
    Sound inherited inherited (fun _ => false) (fun _ => false)
      { kept := if inherited then [.inherited] else [] } := by
  cases inherited <;> constructor <;> simp [Holds, fenced, fencesBy]

/-! ### Nothing is lost or made up -/

theorem holds_claim (hnone : ∀ j, u.cycles j = []) :
    (u.claim k).Holds p ↔ p = .own k ∨ u.Holds p := by
  constructor
  · rintro (hkept | ⟨j, hj⟩ | hf)
    · cases hkept
    · by_cases hjk : j = k
      · subst hjk
        simp only [Custody.claim, update_self, List.mem_cons] at hj
        exact hj.imp_right .inl
      · rw [show (u.claim k).cycles j = u.cycles j from update_of_ne hjk _ _, hnone] at hj
        cases hj
    · exact .inr (.inr (.inr hf))
  · rintro (rfl | hkept | ⟨j, hj⟩ | hf)
    · exact .inr (.inl ⟨k, by simp [Custody.claim]⟩)
    · exact .inr (.inl ⟨k, by simp [Custody.claim, hkept]⟩)
    · rw [hnone] at hj
      cases hj
    · exact .inr (.inr hf)

/-- Emptying the cycle `k` leaves the others what they have. -/
theorem exists_mem_update : (∃ j, p ∈ u.cycles j) ↔ p ∈ u.cycles k ∨
    ∃ j, p ∈ update u.cycles k [] j := by
  constructor
  · rintro ⟨j, hj⟩
    by_cases hjk : j = k
    · exact .inl (hjk ▸ hj)
    · exact .inr ⟨j, by rwa [update_of_ne hjk]⟩
  · rintro (hk | ⟨j, hj⟩)
    · exact ⟨k, hk⟩
    · by_cases hjk : j = k
      · subst hjk
        simp at hj
      · exact ⟨j, by rwa [update_of_ne hjk] at hj⟩

theorem holds_keep : (u.keep k).Holds p ↔ u.Holds p := by
  simp only [Holds, Custody.keep, List.mem_append, exists_mem_update (u := u) (k := k)]
  tauto

theorem holds_fence : (u.fence k).Holds p ↔ u.Holds p := by
  simp only [Holds, fenced, Custody.fence, List.flatMap_cons, List.mem_append,
    exists_mem_update (u := u) (k := k)]
  tauto

theorem holds_fenceKept : u.fenceKept.Holds p ↔ u.Holds p := by
  simp only [Holds, fenced, Custody.fenceKept, List.flatMap_cons, List.mem_append, List.not_mem_nil]
  tauto

/-! ### The four operations -/

/-- A cycle that has not claimed has nothing. -/
theorem Sound.nothing (h : u.Sound inherited pending claimed ended) (hk : claimed k = false) :
    u.cycles k = [] :=
  not_ne_iff.mp fun hne => by
    rw [((h.cycles k).mp hne).1] at hk
    cases hk

theorem Sound.claim (h : u.Sound inherited pending claimed ended)
    (halone : ∀ j, j ≠ k → u.cycles j = []) (hclaimed : claimed k = false)
    (hended : ended k = false) :
    (u.claim k).Sound inherited false (update claimed k true) ended := by
  have hnone : ∀ j, u.cycles j = [] := fun j => by
    by_cases hjk : j = k
    · exact hjk ▸ h.nothing hclaimed
    · exact halone j hjk
  have hrest : (u.kept ++ u.fenced).Nodup := by simpa [hnone] using h.nodup k
  refine ⟨by simp [Custody.claim], fun j => ?_, fun j => ?_, fun j hj => ?_, fun hi => ?_,
    fun j hj => ?_, h.once, h.aimed⟩
  · by_cases hjk : j = k
    · subst hjk
      simp [Custody.claim, hended]
    · simpa [Custody.claim, hjk] using h.cycles j
  · by_cases hjk : j = k
    · subst hjk
      have hfresh : Plane.own j ∉ u.kept ++ u.fenced := fun hmem =>
        h.fresh j hclaimed ((List.mem_append.mp hmem).imp_right .inr)
      simpa [Custody.claim, fenced] using List.nodup_cons.mpr ⟨hfresh, hrest⟩
    · simpa [Custody.claim, fenced, hjk, hnone] using (List.nodup_append.mp hrest).2.1
  · by_cases hjk : j = k
    · subst hjk
      simp at hj
    · rw [update_of_ne hjk] at hj
      rw [holds_claim hnone]
      simpa [hjk] using h.fresh j hj
  · exact (holds_claim hnone).mpr (.inr (h.inherited hi))
  · rw [holds_claim hnone]
    by_cases hjk : j = k
    · exact .inl (by rw [hjk])
    · rw [update_of_ne hjk] at hj
      exact .inr (h.own j hj)

/-- The cycle `k`, the only one with something, gives all of it away. -/
theorem Sound.release (h : u.Sound inherited pending claimed ended)
    (halone : ∀ j, j ≠ k → u.cycles j = []) {pending' : Bool} {v : Custody}
    (hflag : pending' = true ↔ v.kept ≠ []) (hcycles : v.cycles = update u.cycles k [])
    (hperm : (v.kept ++ v.fenced).Perm (u.cycles k ++ (u.kept ++ u.fenced)))
    (hholds : ∀ p, v.Holds p ↔ u.Holds p)
    (honce : ∀ j, v.fencesBy (.cycle j) ≤ (update ended k true j).toNat)
    (haimed : ∀ f ∈ v.fences, f.2 ≠ []) :
    v.Sound inherited pending' claimed (update ended k true) := by
  have hnone : ∀ j, v.cycles j = [] := fun j => by
    by_cases hjk : j = k
    · rw [hcycles, hjk, update_self]
    · rw [hcycles, update_of_ne hjk, halone j hjk]
  refine ⟨hflag, fun j => ?_, fun j => ?_, fun j hj => ?_, fun hi => ?_,
    fun j hj => ?_, honce, haimed⟩
  · by_cases hjk : j = k
    · subst hjk
      simp [hcycles]
    · simpa [hcycles, hjk] using h.cycles j
  · rw [hnone, List.nil_append, hperm.nodup_iff]
    exact h.nodup k
  · rw [hholds]
    exact h.fresh j hj
  · rw [hholds]
    exact h.inherited hi
  · rw [hholds]
    exact h.own j hj

theorem Sound.keep (h : u.Sound inherited pending claimed ended)
    (halone : ∀ j, j ≠ k → u.cycles j = []) (hclaimed : claimed k = true)
    (hended : ended k = false) :
    (u.keep k).Sound inherited true claimed (update ended k true) := by
  have hsome : u.cycles k ≠ [] := (h.cycles k).mpr ⟨hclaimed, hended⟩
  refine h.release halone (by simp [Custody.keep, hsome]) rfl ?_ (fun _ => holds_keep) (fun j => ?_)
    h.aimed
  · rw [show (u.keep k).kept = u.cycles k ++ u.kept from rfl, List.append_assoc]
    exact .refl _
  · by_cases hjk : j = k
    · rw [hjk, update_self]
      exact Nat.le_trans (h.once k) (Bool.toNat_le _)
    · rw [update_of_ne hjk]
      exact h.once j

theorem fencesBy_fence (j : Nat) : (u.fence k).fencesBy (.cycle j) =
    u.fencesBy (.cycle j) + if j = k then 1 else 0 := by
  simp [fencesBy, Custody.fence, List.count_cons, eq_comm (a := j)]

theorem Sound.fence (h : u.Sound inherited pending claimed ended)
    (halone : ∀ j, j ≠ k → u.cycles j = []) (hclaimed : claimed k = true)
    (hended : ended k = false) :
    (u.fence k).Sound inherited pending claimed (update ended k true) := by
  have hsome : u.cycles k ≠ [] := (h.cycles k).mpr ⟨hclaimed, hended⟩
  refine h.release halone h.flag rfl ?_ (fun _ => holds_fence) (fun j => ?_)
    (List.forall_mem_cons.mpr ⟨hsome, h.aimed⟩)
  · show (u.kept ++ (u.cycles k ++ u.fenced)).Perm (u.cycles k ++ (u.kept ++ u.fenced))
    rw [← List.append_assoc, ← List.append_assoc]
    exact List.perm_append_comm.append_right _
  · -- the flag was not set, so this fence is the cycle's first
    rw [fencesBy_fence]
    have hj := h.once j
    by_cases hjk : j = k
    · subst hjk
      simpa [hended] using hj
    · simpa [hjk] using hj

theorem Sound.fenceKept (h : u.Sound inherited pending claimed ended) (hpending : pending = true) :
    u.fenceKept.Sound inherited false claimed ended where
  flag := by simp [Custody.fenceKept]
  cycles := h.cycles
  nodup := h.nodup
  fresh k hk := by rw [holds_fenceKept]; exact h.fresh k hk
  inherited hi := by rw [holds_fenceKept]; exact h.inherited hi
  own k hk := by rw [holds_fenceKept]; exact h.own k hk
  once k := by simpa [fencesBy, Custody.fenceKept, List.count_cons] using h.once k
  aimed := List.forall_mem_cons.mpr ⟨h.flag.mp hpending, h.aimed⟩

/-! ### Sound books -/

theorem Sound.fences_once (h : u.Sound inherited pending claimed ended) :
    (∀ k, u.fencesBy (.cycle k) ≤ 1) ∧ (∀ f ∈ u.fences, f.2 ≠ []) ∧ ∀ p, u.fenced.count p ≤ 1 := by
  have hnodup := (List.nodup_append.mp (List.nodup_append.mp (h.nodup 0)).2.1).2.1
  exact ⟨fun k => Nat.le_trans (h.once k) (Bool.toNat_le _), h.aimed,
    List.nodup_iff_count_le_one.mp hnodup⟩

/-- Where a plane that was not fenced is, and where it is not. -/
theorem Sound.held_once (h : u.Sound inherited pending claimed ended) (hp : u.Holds p)
    (hfenced : p ∉ u.fenced) :
    (p ∈ u.kept ∧ ∀ k, p ∉ u.cycles k) ∨ (p ∉ u.kept ∧ ∃ k, p ∈ u.cycles k) := by
  have hdisjoint : p ∈ u.kept → ∀ k, p ∉ u.cycles k := fun hkept k hk =>
    (List.nodup_append.mp (h.nodup k)).2.2 p hk p (List.mem_append_left _ hkept) rfl
  rcases hp with hkept | ⟨k, hk⟩ | hf
  · exact .inl ⟨hkept, hdisjoint hkept⟩
  · exact .inr ⟨fun hkept => hdisjoint hkept k hk, k, hk⟩
  · exact absurd hf hfenced

end Custody

end WireguardGateway.Link

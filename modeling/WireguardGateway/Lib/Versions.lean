import Mathlib.Logic.Basic

/-!
# Optimistic concurrency: a store of one object with versions

A store that keeps one object, gives every value it stores a version of its own, and accepts an
update only if the update names the version it would replace. Clients work on copies, which they may
have edited since; what a client can rely on is a relation `R` between its copy and the stored value
*as long as the version is still the stored one* (`Known`).

Results:
* `Known.put`, `Known.delete`: no write of anybody takes that knowledge away, since
  versions are not reused;
* `Known.current`, `Known.stored`: a read and an own accepted write give it;
* **`Known.accepted`**: an update that is accepted was made from a copy that stands in `R`
  to the value it replaces.
-/

namespace WireguardGateway.Lib

variable {α : Type}

/-- A value with the version under which it was stored. -/
structure Versioned (α : Type) where
  version : Nat
  value : α
  deriving DecidableEq

/-- The store: the object, if there is one, and the version that was given out last. -/
structure VersionedStore (α : Type) where
  current : Option (Versioned α) := none
  last : Nat := 0

namespace VersionedStore

def put (s : VersionedStore α) (value : α) : VersionedStore α :=
  { current := some { version := s.last + 1, value := value }, last := s.last + 1 }

def delete (s : VersionedStore α) : VersionedStore α := { s with current := none }

/-- Whether a write is accepted: one that names no version is to create the object. -/
def accepts (s : VersionedStore α) : Option Nat → Bool
  | none => s.current.isNone
  | some version => s.current.any fun c => c.version == version

/-- No stored version is still to be given out. -/
def Valid (s : VersionedStore α) : Prop := ∀ c, s.current = some c → c.version ≤ s.last

/-- The copy `x` stands in `R` to the stored value, if its version is the stored one. -/
structure Known (R : α → α → Prop) (s : VersionedStore α) (x : Versioned α) : Prop where
  given : x.version ≤ s.last
  agrees : ∀ c, s.current = some c → c.version = x.version → R x.value c.value

variable {R : α → α → Prop} {s : VersionedStore α} {x : Versioned α}

theorem Valid.put (value : α) : (s.put value).Valid := by
  rintro c ⟨⟩
  exact Nat.le_refl _

theorem Valid.delete : s.delete.Valid := by
  rintro c ⟨⟩

theorem Known.put (h : Known R s x) (value : α) : Known R (s.put value) x where
  given := Nat.le_succ_of_le h.given
  agrees := by
    rintro c ⟨⟩ hversion
    -- the new version was never given out before
    exact absurd hversion (Nat.ne_of_gt (Nat.lt_succ_of_le h.given))

theorem Known.delete (h : Known R s x) : Known R s.delete x where
  given := h.given
  agrees := by rintro c ⟨⟩

theorem Known.current (hs : s.Valid) (hrefl : ∀ a, R a a) (hx : s.current = some x) :
    Known R s x where
  given := hs x hx
  agrees := by
    intro c hc _
    cases Option.some.inj (hx.symm.trans hc)
    exact hrefl _

theorem Known.stored (hrefl : ∀ a, R a a) (value : α) :
    Known R (s.put value) { version := s.last + 1, value := value } :=
  Known.current (Valid.put value) hrefl rfl

/-- The client edits its copy. -/
theorem Known.edit (h : Known R s x) {value : α} (hedit : ∀ a, R x.value a → R value a) :
    Known R s { version := x.version, value := value } where
  given := h.given
  agrees c hc hversion := hedit _ (h.agrees c hc hversion)

/-- **An accepted update was made from a copy that agrees with what it replaces.** -/
theorem Known.accepted (h : Known R s x) (hacc : s.accepts (some x.version) = true) :
    ∃ c, s.current = some c ∧ c.version = x.version ∧ R x.value c.value := by
  cases hc : s.current with
  | none => simp [accepts, hc] at hacc
  | some c =>
    have hversion : c.version = x.version := by simpa [accepts, hc] using hacc
    exact ⟨c, rfl, hversion, h.agrees c hc hversion⟩

end VersionedStore

end WireguardGateway.Lib

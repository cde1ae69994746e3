import WireguardGateway.Lib.GoMap
import WireguardGateway.Lib.Versions

/-!
# Named objects with versions

A store of named objects in which every value is stored under a version of its own, as an API server
keeps them. `history` has every value that was ever stored, which is what a client with a cache may
still hold; an update that names the version it was made from is accepted only while that version is
the stored one.

Result: **`Objects.Sound.coherent`**, kept by every write: a value somebody holds under the version
that is stored *is* the stored value.
-/

namespace WireguardGateway.Lib

variable {α : Type}

structure Objects (α : Type) where
  current : GoMap String (Versioned α)
  last : Nat
  history : List (String × Versioned α)

namespace Objects

/-- Nothing was ever stored. -/
def empty : Objects α := { current := ∅, last := 0, history := [] }

def get (s : Objects α) (name : String) : Option (Versioned α) := s.current.lookup name

def store (s : Objects α) (name : String) (value : α) : Objects α where
  current := s.current.insert name { version := s.last + 1, value }
  last := s.last + 1
  history := (name, { version := s.last + 1, value }) :: s.history

def erase (s : Objects α) (name : String) : Objects α :=
  { s with current := s.current.erase name }

section

variable {s : Objects α} {name k : String} {value : α}

@[simp] theorem get_store_self :
    (s.store name value).get name = some { version := s.last + 1, value } := AList.lookup_insert _

theorem get_store_ne (h : k ≠ name) : (s.store name value).get k = s.get k :=
  AList.lookup_insert_ne h

@[simp] theorem get_erase_self : (s.erase name).get name = none := AList.lookup_erase _ _

theorem get_erase_ne (h : k ≠ name) : (s.erase name).get k = s.get k := AList.lookup_erase_ne h

/-- After a write under `name`, an object is the new one or one of before. -/
theorem get_store_cases {v : Versioned α} (h : (s.store name value).get k = some v) :
    (k = name ∧ v = { version := s.last + 1, value }) ∨ (k ≠ name ∧ s.get k = some v) := by
  by_cases hk : k = name
  · subst hk
    rw [get_store_self] at h
    exact .inl ⟨rfl, (Option.some.inj h).symm⟩
  · rw [get_store_ne hk] at h
    exact .inr ⟨hk, h⟩

theorem get_of_get_erase {v : Versioned α} (h : (s.erase name).get k = some v) :
    k ≠ name ∧ s.get k = some v := by
  by_cases hk : k = name
  · subst hk
    rw [get_erase_self] at h
    cases h
  · rw [get_erase_ne hk] at h
    exact ⟨hk, h⟩

/-- Versions identify values. -/
structure Sound (s : Objects α) : Prop where
  stored : ∀ k v, s.get k = some v → (k, v) ∈ s.history
  coherent : ∀ k v w, (k, v) ∈ s.history → s.get k = some w → w.version = v.version → w = v
  bounded : ∀ k v, (k, v) ∈ s.history → v.version ≤ s.last

theorem sound_empty : (empty : Objects α).Sound :=
  ⟨fun _ _ h => (nomatch h), fun _ _ _ h => (nomatch h), fun _ _ h => (nomatch h)⟩

theorem Sound.store (h : s.Sound) (name : String) (value : α) : (s.store name value).Sound where
  stored k v hv := by
    obtain ⟨rfl, rfl⟩ | ⟨-, hv⟩ := get_store_cases hv
    · exact List.mem_cons_self
    · exact List.mem_cons_of_mem _ (h.stored k v hv)
  coherent k v w hv hw heq := by
    obtain hnew | hold := List.mem_cons.mp hv
    · cases hnew
      rw [get_store_self] at hw
      exact (Option.some.inj hw).symm
    · obtain ⟨rfl, rfl⟩ | ⟨-, hw⟩ := get_store_cases hw
      · -- the new version is larger than any that was given out
        have := h.bounded k v hold
        simp only at heq
        omega
      · exact h.coherent k v w hold hw heq
  bounded k v hv := by
    obtain hv | hv := List.mem_cons.mp hv
    · cases hv
      exact Nat.le_refl _
    · exact Nat.le_succ_of_le (h.bounded k v hv)

theorem Sound.erase (h : s.Sound) (name : String) : (s.erase name).Sound where
  stored k v hv := h.stored k v (get_of_get_erase hv).2
  coherent k v w hv hw := h.coherent k v w hv (get_of_get_erase hw).2
  bounded := h.bounded

end

end Objects

end WireguardGateway.Lib

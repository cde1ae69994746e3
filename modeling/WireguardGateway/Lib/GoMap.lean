import Mathlib.Data.List.AList

/-!
# Go maps

A Go map is an association list without duplicate keys; the order of its entries means nothing.

Results:
* **`GoMap.lookup_foldl_insert`**: filling a map from a list keeps the last entry of each key;
* `GoMap.lookup_mapValues`, `GoMap.mapValues_insert`, `GoMap.mapValues_erase`: a function of the
  values commutes with every operation on the map.
-/

namespace WireguardGateway.Lib

/-- A Go map, up to the order of its entries. -/
abbrev GoMap (K V : Type) : Type := AList (fun _ : K => V)

/-- A map filled in a loop holds the last value of each key. -/
theorem GoMap.lookup_foldl_insert {K V α : Type} [DecidableEq K] (key : α → K) (val : α → V)
    (n : K) : ∀ (l : List α) (m : GoMap K V),
      (l.foldl (fun m a => m.insert (key a) (val a)) m).lookup n =
        ((l.reverse.find? fun a => key a = n).map val).or (m.lookup n)
  | [], m => by simp
  | a :: l, m => by
    rw [List.foldl_cons, lookup_foldl_insert key val n l, List.reverse_cons, List.find?_append]
    cases l.reverse.find? fun a => key a = n with
    | some b => simp
    | none =>
      by_cases ha : key a = n
      · subst ha
        simp
      · simp [ha, AList.lookup_insert_ne (Ne.symm ha)]

/-- The keys of a map filled in a loop are those of the list. -/
theorem GoMap.lookup_foldl_insert_isSome {K V α : Type} [DecidableEq K] {key : α → K} {val : α → V}
    {n : K} {l : List α} :
    ((l.foldl (fun m a => m.insert (key a) (val a)) (∅ : GoMap K V)).lookup n).isSome ↔
      ∃ a ∈ l, key a = n := by
  rw [lookup_foldl_insert]
  simp

/-! ## Functions of the values -/

section

variable {K V W : Type}

/-- The map with `f` applied to every value. -/
def GoMap.mapValues (f : V → W) (m : GoMap K V) : GoMap K W where
  entries := m.entries.map fun x => ⟨x.1, f x.2⟩
  nodupKeys := by
    have hkeys : (m.entries.map fun x => (⟨x.1, f x.2⟩ : (_ : K) × W)).keys = m.entries.keys := by
      simp [List.keys, Function.comp_def]
    rw [List.NodupKeys, hkeys]
    exact m.nodupKeys

variable [DecidableEq K] (f : V → W)

theorem GoMap.lookup_mapValues (m : GoMap K V) (k : K) :
    (m.mapValues f).lookup k = (m.lookup k).map f := by
  have hentries : ∀ l : List ((_ : K) × V),
      (l.map fun x => (⟨x.1, f x.2⟩ : (_ : K) × W)).dlookup k = (l.dlookup k).map f := by
    intro l
    induction l with
    | nil => rfl
    | cons x xs ih =>
      obtain ⟨k', v⟩ := x
      by_cases hk : k = k'
      · subst hk
        simp [List.dlookup_cons_eq]
      · rw [List.map_cons, List.dlookup_cons_ne _ (⟨k', f v⟩ : (_ : K) × W) hk,
          List.dlookup_cons_ne _ (⟨k', v⟩ : (_ : K) × V) hk, ih]
  exact hentries m.entries

theorem GoMap.mapValues_erase (m : GoMap K V) (k : K) :
    mapValues f (m.erase k) = (m.mapValues f).erase k := by
  refine AList.ext ?_
  change (m.entries.kerase k).map _ = (m.entries.map _).kerase k
  simp only [List.kerase, List.eraseP_map]
  rfl

theorem GoMap.mapValues_insert (m : GoMap K V) (k : K) (v : V) :
    mapValues f (m.insert k v) = (m.mapValues f).insert k (f v) := by
  refine AList.ext ?_
  simp only [mapValues, AList.insert, List.kinsert, List.kerase, List.map_cons, List.eraseP_map]
  rfl

end

end WireguardGateway.Lib

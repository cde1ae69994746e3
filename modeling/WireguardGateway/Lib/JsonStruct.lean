import WireguardGateway.Lib.Json

/-!
# Go structs as JSON objects

How `json.Marshal` and `json.Unmarshal` treat the fields of a struct: an `omitempty` field with the
zero value is not written, and a field that is missing or `null` is read as the zero value. A field
name is matched exactly (Go also takes one that differs in letter case, which `Marshal` never
writes), and the last of several fields of one name counts. Slices and maps are lists, in which a
`nil` slice and an empty one are the same.

Results: `orZero_int`, `orZero_str`, `orZero_arr`, `orZero_stringMap`, one per kind of value, say
that decoding reads back what encoding wrote; `decode_field`, `decode_omitStr`, `decode_omitInt` and
`decode_omitMap` say the same for the fields of a struct.
-/

namespace WireguardGateway.Lib

namespace Json

/-- An encoded `int`. -/
def ofInt64 (n : Int64) : Json := .int n.toInt

def ofStringMap (m : List (String × String)) : Json := .obj (m.map fun kv => (kv.1, .str kv.2))

/-- A field under `omitempty`. -/
def omitEmpty (empty : Bool) (name : String) (v : Json) : List (String × Json) :=
  if empty then [] else [(name, v)]

/-! ## Decoding -/

/-- An `int`; a number out of its range is an error. -/
def asInt : Json → Option Int64
  | .int n => if Int64.minValue.toInt ≤ n ∧ n ≤ Int64.maxValue.toInt then some (.ofInt n) else none
  | _ => none

def asString : Json → Option String
  | .str s => some s
  | _ => none

def asObject : Json → Option (List (String × Json))
  | .obj fields => some fields
  | _ => none

/-- A `null` leaves the zero value in place. -/
def orZero {α : Type} (zero : α) (decode : Json → Option α) : Json → Option α
  | .null => some zero
  | v => decode v

def asList {α : Type} (zero : α) (decode : Json → Option α) : Json → Option (List α)
  | .arr elems => elems.mapM (orZero zero decode)
  | _ => none

def asStringMap : Json → Option (List (String × String))
  | .obj fields => fields.mapM fun f => (orZero "" asString f.2).map (f.1, ·)
  | _ => none

def field? (fields : List (String × Json)) (name : String) : Option Json :=
  (fields.reverse.find? (·.1 = name)).map (·.2)

/-- The field `name` of a struct. -/
def decode {α : Type} (fields : List (String × Json)) (name : String) (zero : α)
    (decode : Json → Option α) : Option α :=
  match field? fields name with
  | none => some zero
  | some v => orZero zero decode v

/-! ## Decoding reads back what encoding wrote -/

theorem asInt_int64 (n : Int64) : asInt (ofInt64 n) = some n := by
  have hl := Int64.le_toInt n
  have hu := Int64.toInt_lt n
  rw [ofInt64, asInt, if_pos, Int64.ofInt_toInt]
  rw [Int64.toInt_minValue, Int64.toInt_maxValue]
  omega

@[simp] theorem orZero_int (n : Int64) : orZero 0 asInt (ofInt64 n) = some n := asInt_int64 n

@[simp] theorem orZero_str (s : String) : orZero "" asString (.str s) = some s := rfl

section

variable {α : Type} {zero : α} {dec : Json → Option α}

theorem mapM_orZero (enc : α → Json) (hnull : ∀ a, enc a ≠ .null)
    (h : ∀ a, dec (enc a) = some a) :
    ∀ as : List α, (as.map enc).mapM (orZero zero dec) = some as
  | [] => rfl
  | a :: as => by
    have ha : orZero zero dec (enc a) = some a := by
      rw [orZero, h]
      exact hnull a
    rw [List.map_cons, List.mapM_cons, ha, mapM_orZero enc hnull h as]
    rfl

/-- A list is read back when its elements are. -/
theorem orZero_arr (enc : α → Json) (hnull : ∀ a, enc a ≠ .null)
    (h : ∀ a, dec (enc a) = some a) (as : List α) :
    orZero [] (asList zero dec) (.arr (as.map enc)) = some as :=
  mapM_orZero enc hnull h as

@[simp] theorem orZero_stringMap :
    ∀ m : List (String × String), orZero [] asStringMap (ofStringMap m) = some m
  | [] => rfl
  | (k, v) :: m => by
    have ih := orZero_stringMap m
    simp only [orZero, asStringMap, ofStringMap, List.map_cons, List.mapM_cons] at ih ⊢
    rw [ih]
    rfl

/-! The field lemmas take a struct apart: a field is the first match from the end. -/

@[simp] theorem field?_nil (name : String) : field? [] name = none := rfl

@[simp] theorem field?_append (xs ys : List (String × Json)) (name : String) :
    field? (xs ++ ys) name = (field? ys name).or (field? xs name) := by
  simp only [field?, List.reverse_append, List.find?_append]
  cases List.find? _ ys.reverse <;> rfl

@[simp] theorem field?_cons (k : String) (v : Json) (fields : List (String × Json))
    (name : String) : field? ((k, v) :: fields) name =
      (field? fields name).or (if k = name then some v else none) := by
  rw [← List.singleton_append, field?_append]
  congr 1
  by_cases h : k = name <;> simp [field?, h]

@[simp] theorem field?_omitEmpty (empty : Bool) (k : String) (v : Json) (name : String) :
    field? (omitEmpty empty k v) name = if empty = false ∧ k = name then some v else none := by
  cases empty
  · simp [omitEmpty, field?_cons]
  · simp [omitEmpty]

variable {fields : List (String × Json)} {name : String}

theorem decode_field {a : α} {v : Json} (hfield : field? fields name = some v)
    (hdec : orZero zero dec v = some a) :
    decode fields name zero dec = some a := by
  rw [decode, hfield]
  exact hdec

theorem decode_omitStr {s : String}
    (hfield : field? fields name = if s = "" then none else some (.str s)) :
    decode fields name "" asString = some s := by
  rw [decode, hfield]
  by_cases h : s = "" <;> simp [h]

theorem decode_omitInt {n : Int64}
    (hfield : field? fields name = if n = 0 then none else some (.ofInt64 n)) :
    decode fields name 0 asInt = some n := by
  rw [decode, hfield]
  by_cases h : n = 0 <;> simp [h]

theorem decode_omitMap {m : List (String × String)}
    (hfield : field? fields name = if m = [] then none else some (.ofStringMap m)) :
    decode fields name [] asStringMap = some m := by
  rw [decode, hfield]
  by_cases h : m = [] <;> simp [h]

end

end Json

end WireguardGateway.Lib

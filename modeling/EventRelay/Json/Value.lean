/-
# JSON values

A number is an integer of at most 64 bits, signed or unsigned, or a double; a
reader never mixes the two.  `Fields.insert` keeps the fields of an object in
increasing order of their keys, one field a key: the last value given for a key
stays.
-/

import EventRelay.Binary64.Basic

namespace EventRelay
namespace Json

/-- A number as a reader keeps it. -/
inductive Number where
  | integer (value : Int)
  | double (value : Binary64)
  deriving DecidableEq, Repr

/-- A JSON value. -/
inductive Value where
  | null
  | bool (value : Bool)
  | number (value : Number)
  | string (value : String)
  | array (items : List Value)
  | object (fields : List (String × Value))
  deriving Repr, Inhabited

namespace Value

/-- An integer value. -/
def int (i : Int) : Value := .number (.integer i)

/-- A value, or `null` for none. -/
def orNull : Option Value → Value
  | some v => v
  | none => .null

/-- The field of an object, `none` for other values and for absent fields. -/
def field? (v : Value) (key : String) : Option Value :=
  match v with
  | .object fields => fields.lookup key
  | _ => none

end Value

namespace Fields

/-- Sets the value of a key, keeping keys in increasing order. -/
def insert (key : String) (value : Value) : List (String × Value) → List (String × Value)
  | [] => [(key, value)]
  | (k, v) :: rest =>
    if key = k then (key, value) :: rest
    else if key < k then (key, value) :: (k, v) :: rest
    else (k, v) :: insert key value rest

/-- The fields of a list of assignments, later ones winning. -/
def ofAssignments (assignments : List (String × Value)) : List (String × Value) :=
  assignments.foldl (fun fields a => insert a.1 a.2 fields) []

theorem mem_insert_self (key : String) (value : Value) (fields : List (String × Value)) :
    (key, value) ∈ insert key value fields := by
  induction fields with
  | nil => simp [insert]
  | cons f rest ih =>
    obtain ⟨k, v⟩ := f
    simp only [insert]
    split
    · simp
    · split <;> simp [ih]

/-- **The last value given for a key is the one found.** -/
theorem lookup_insert_self (key : String) (value : Value) (fields : List (String × Value)) :
    (insert key value fields).lookup key = some value := by
  induction fields with
  | nil => simp [insert]
  | cons f rest ih =>
    obtain ⟨k, v⟩ := f
    simp only [insert]
    split
    · simp
    · split
      · simp
      · rename_i hne _
        have : (key == k) = false := by simpa using hne
        simp [List.lookup_cons, this, ih]

theorem lookup_insert_of_ne {key other : String} (h : other ≠ key) (value : Value)
    (fields : List (String × Value)) :
    (insert key value fields).lookup other = fields.lookup other := by
  have hb : (other == key) = false := by simpa using h
  induction fields with
  | nil => simp [insert, h]
  | cons f rest ih =>
    obtain ⟨k, v⟩ := f
    simp only [insert]
    split
    · rename_i hk
      subst hk
      simp [List.lookup_cons, hb]
    · split
      · simp [List.lookup_cons, hb]
      · simp only [List.lookup_cons, ih]

end Fields

end Json
end EventRelay

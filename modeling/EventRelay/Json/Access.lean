/-
# Reading the fields of objects

Loose reading, for texts that people write: a field that is missing, `null` or of another
kind than the one asked for is not there, and a reader goes on with a default, which is
`0`, the empty text, `false` or nothing at all.  What comes over the wire is read by
`Decode`, which refuses such texts.
-/

import EventRelay.Json.Value

namespace EventRelay
namespace Json
namespace Value

/-- A field that is there and is not `null`. -/
def given? (v : Value) (key : String) : Option Value :=
  match v.field? key with
  | some .null | none => none
  | some w => some w

/-- A text, if the value is one. -/
def string? : Value → Option String
  | .string s => some s
  | _ => none

/-- An integer, if the value is one. -/
def integer? : Value → Option Int
  | .number (.integer i) => some i
  | _ => none

/-- A truth value, if the value is one. -/
def bool? : Value → Option Bool
  | .bool b => some b
  | _ => none

/-- The items of a list, none for other values. -/
def toItems : Value → List Value
  | .array items => items
  | _ => []

/-- The fields of an object that are texts. -/
def texts : Value → List (String × String)
  | .object fields => fields.filterMap fun (k, v) => v.string?.map fun s => (k, s)
  | _ => []

/-- A field that is a text. -/
def text? (v : Value) (key : String) : Option String := (v.given? key).bind string?

/-- A field that is an integer. -/
def int? (v : Value) (key : String) : Option Int := (v.given? key).bind integer?

/-- A field that is a natural number; negative ones count as zero. -/
def nat? (v : Value) (key : String) : Option Nat := (v.int? key).map Int.toNat

/-- The text of a field, or the empty one. -/
def textAt (v : Value) (key : String) : String := (v.text? key).getD ""

/-- The integer of a field, or zero. -/
def intAt (v : Value) (key : String) : Int := (v.int? key).getD 0

/-- The natural number of a field, or zero. -/
def natAt (v : Value) (key : String) : Nat := (v.nat? key).getD 0

/-- Whether a field is true. -/
def flagAt (v : Value) (key : String) : Bool := ((v.given? key).bind bool?).getD false

/-- The items of a field. -/
def itemsAt (v : Value) (key : String) : List Value := ((v.given? key).map toItems).getD []

/-- The value of a field, or an object without fields. -/
def partAt (v : Value) (key : String) : Value := (v.given? key).getD (.object [])

/-- **A `null` is as good as no field.** -/
theorem given?_eq_none_iff {v : Value} {key : String} :
    v.given? key = none ↔ v.field? key = none ∨ v.field? key = some .null := by
  unfold given?
  split <;> simp_all

end Value
end Json
end EventRelay

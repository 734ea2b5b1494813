/-
# Decoding JSON text into domain values

A decoder takes a `Raw` and refuses it with the first fault in text order.  Two kinds of
fault are told apart: a fault of syntax, and content of the wrong kind, for which the path
from the root to the offending value is kept.

A record is given as an object with its fields in any order, further fields being passed
over, or as a list of its fields in the order of declaration.  `Shape.slots` checks every
field where it stands in the text, and only then reports a field that is missing.
-/

import EventRelay.Json.Printer
import EventRelay.Json.Raw
import EventRelay.Text.Quoted

namespace EventRelay
namespace Json

/-- One step from a container to a part of it. -/
inductive PathStep where
  | field (name : String)
  | item (index : Nat)
  deriving DecidableEq, Repr

/-- Why a text is refused. -/
inductive Refusal where
  | malformed (fault : SyntaxError)
  | content (path : List PathStep) (message : String)
  deriving DecidableEq, Repr

/-- The result of a decoder. -/
abbrev Decoded (α : Type) := Except Refusal α

namespace Refusal

/-- The wording without any place. -/
def message : Refusal → String
  | malformed fault => fault.reason.message
  | content _ message => message

/-- The same fault, seen from the container one step up. -/
def within (step : PathStep) : Refusal → Refusal
  | malformed fault => malformed fault
  | content path message => content (step :: path) message

end Refusal

/-- A path as text: field names joined by points, positions in brackets. -/
def pathText : List PathStep → String
  | [] => ""
  | .item i :: rest => "[" ++ toString i ++ "]" ++ pathText rest
  | [.field name] => name
  | .field name :: .item i :: rest => name ++ "[" ++ toString i ++ "]" ++ pathText rest
  | .field name :: .field other :: rest => name ++ "." ++ pathText (.field other :: rest)

/-- Content that a decoder refuses. -/
def refuse {α : Type} (message : String) : Decoded α := .error (.content [] message)

namespace Raw

/-- What stands in a text, in the words of a refusal. -/
def describe : Raw → Decoded String
  | .null => .ok "null"
  | .bool b => .ok ("boolean `" ++ (if b then "true" else "false") ++ "`")
  | .number (.ok (.integer i)) => .ok ("integer `" ++ toString i ++ "`")
  | .number (.ok (.double x)) => .ok ("floating point `" ++ x.text ++ "`")
  | .number (.error fault) => .error (.malformed fault)
  | .string (.ok s) => .ok ("string " ++ Text.quoted s)
  | .string (.error fault) => .error (.malformed fault)
  | .array _ _ => .ok "sequence"
  | .object _ _ => .ok "map"
  | .broken fault => .error (.malformed fault)

/-- A value of another kind than the one expected. -/
def mismatch {α : Type} (raw : Raw) (expected : String) : Decoded α := do
  let found ← raw.describe
  refuse ("invalid type: " ++ found ++ ", expected " ++ expected)

end Raw

namespace Decode

/-- Any value, nested at most `depth` deep. -/
def value (depth : Nat) (raw : Raw) : Decoded Value :=
  (raw.toValue depth).mapError .malformed

/-- A truth value. -/
def bool : Raw → Decoded Bool
  | .bool b => .ok b
  | raw => raw.mismatch "a boolean"

/-- A string; `expected` is what a refusal calls it. -/
def string (expected : String) : Raw → Decoded String
  | .string (.ok s) => .ok s
  | raw => raw.mismatch expected

/-- An integer from `low` to `high`; `expected` is what a refusal calls it. -/
def integer (expected : String) (low high : Int) : Raw → Decoded Int
  | .number (.ok (.integer i)) =>
    if low ≤ i ∧ i ≤ high then .ok i
    else refuse ("invalid value: integer `" ++ toString i ++ "`, expected " ++ expected)
  | raw => raw.mismatch expected

/-- The least signed word. -/
def minInt64 : Int := -0x8000000000000000

/-- The greatest signed word. -/
def maxInt64 : Int := 0x7fffffffffffffff

/-- A signed word. -/
def int64 (raw : Raw) : Decoded Int := integer "i64" minInt64 maxInt64 raw

/-- An unsigned half word. -/
def nat32 (raw : Raw) : Decoded Nat := (integer "u32" 0 0xffffffff raw).map Int.toNat

/-- Items that each satisfy a decoder, counted from `index`. -/
def items {α : Type} (item : Raw → Decoded α) : (index : Nat) → List Raw → Decoded (List α)
  | _, [] => .ok []
  | index, raw :: rest => do
    let a ← (item raw).mapError (Refusal.within (.item index))
    let as ← items item (index + 1) rest
    return a :: as

/-- A list of values of one kind. -/
def list {α : Type} (item : Raw → Decoded α) : Raw → Decoded (List α)
  | .array _ raws => items item 0 raws
  | raw => raw.mismatch "a sequence"

/-- A value or `null`. -/
def nullable {α : Type} (decoder : Raw → Decoded α) : Raw → Decoded (Option α)
  | .null => .ok none
  | raw => (decoder raw).map some

/-- Names as a refusal lists them. -/
def oneOf : List String → String
  | [] => "there are no variants"
  | [a] => "expected `" ++ a ++ "`"
  | [a, b] => "expected `" ++ a ++ "` or `" ++ b ++ "`"
  | names => "expected one of " ++ ", ".intercalate (names.map fun n => "`" ++ n ++ "`")

/-- The choice with a given name. -/
def named {α : Type} (choices : List (String × α)) (name : String) : Decoded α :=
  match choices.lookup name with
  | some a => .ok a
  | none => refuse ("unknown variant `" ++ name ++ "`, " ++ oneOf (choices.map Prod.fst))

/-- A choice by name: a string, or an object whose one field has the name and the value `null`. -/
def choice {α : Type} (choices : List (String × α)) : Raw → Decoded α
  | .string (.ok name) => named choices name
  | .object _ [(.ok name, payload)] => do
    let a ← named choices name
    match payload with
    | .null => return a
    | other => other.mismatch "unit"
  | .object _ [(.error fault, _)] => .error (.malformed fault)
  | .object _ _ => refuse "invalid value: map, expected map with a single key"
  | raw => raw.mismatch "string or map"

end Decode

/-- One field of a record. -/
structure FieldRule where
  name : String
  /-- Whether an object is refused without the field. -/
  neededByName : Bool
  /-- Whether a list that ends before the field is refused. -/
  neededByPlace : Bool
  /-- What a value of the field has to pass. -/
  check : Raw → Decoded Unit

namespace FieldRule

/-- A field that has to be there. -/
def need {α : Type} (name : String) (decoder : Raw → Decoded α) : FieldRule :=
  ⟨name, true, true, fun raw => (decoder raw).map fun _ => ()⟩

/-- A field that an object may leave out, but a list may not. -/
def optional {α : Type} (name : String) (decoder : Raw → Decoded α) : FieldRule :=
  ⟨name, false, true, fun raw => (decoder raw).map fun _ => ()⟩

/-- A field that may be left out. -/
def default {α : Type} (name : String) (decoder : Raw → Decoded α) : FieldRule :=
  ⟨name, false, false, fun raw => (decoder raw).map fun _ => ()⟩

end FieldRule

/-- A record: its name and its fields in the order of declaration. -/
structure Shape where
  title : String
  rules : List FieldRule

namespace Shape

/-- What has been found for each field so far. -/
abbrev Slots := List (FieldRule × Option Raw)

/-- Puts a field of the text where it belongs; fields without rule are passed over. -/
def put (key : String) (raw : Raw) : Slots → Decoded Slots
  | [] =>
    match raw.skipFault? with
    | some fault => .error (.malformed fault)
    | none => .ok []
  | (rule, found) :: rest =>
    if rule.name = key then
      match found with
      | some _ => refuse ("duplicate field `" ++ key ++ "`")
      | none => do
        (rule.check raw).mapError (Refusal.within (.field key))
        return (rule, some raw) :: rest
    else (put key raw rest).map ((rule, found) :: ·)

/-- Puts all fields of an object where they belong, in text order. -/
def putAll : List (RawKey × Raw) → Slots → Decoded Slots
  | [], slots => .ok slots
  | (.error fault, _) :: _, _ => .error (.malformed fault)
  | (.ok key, raw) :: rest, slots => do putAll rest (← put key raw slots)

/-- The first field that a record cannot do without and that is not there. -/
def firstMissing? : Slots → Option String
  | [] => none
  | (rule, none) :: rest => if rule.neededByName then some rule.name else firstMissing? rest
  | (_, some _) :: rest => firstMissing? rest

/-- The wording for a list of too few fields. -/
def tooShort (s : Shape) (count : Nat) : String :=
  "invalid length " ++ toString count ++ ", expected struct " ++ s.title ++ " with " ++
    toString s.rules.length ++ (if s.rules.length = 1 then " element" else " elements")

/-- Puts the items of a list into the fields one after another, counted from `index`. -/
def fill (s : Shape) : (index : Nat) → List FieldRule → List Raw → Decoded Slots
  | _, [], _ => .ok []
  | index, rule :: rules, [] =>
    if rule.neededByPlace then refuse (s.tooShort index)
    else return (rule, none) :: (← fill s (index + 1) rules [])
  | index, rule :: rules, raw :: rest => do
    (rule.check raw).mapError (Refusal.within (.item index))
    return (rule, some raw) :: (← fill s (index + 1) rules rest)

/-- What a list holds beyond the fields of a record. -/
def overflow (count : Nat) (left : Nat) : List Raw → Decoded Unit
  | [] => .ok ()
  | .broken fault :: _ => .error (.malformed fault)
  | _ :: _ =>
    if left = 0 then
      refuse ("invalid length " ++ toString count ++ ", expected fewer elements in array")
    else .error (.malformed ⟨.trailingCharacters, 0⟩)

/-- What the text gives for each field of a record. -/
def slots (s : Shape) : Raw → Decoded (List (Option Raw))
  | .object _ members => do
    let slots ← putAll members (s.rules.map fun rule => (rule, none))
    match firstMissing? slots with
    | some name => refuse ("missing field `" ++ name ++ "`")
    | none => return slots.map Prod.snd
  | .array left items => do
    let slots ← fill s 0 s.rules items
    overflow items.length left (items.drop s.rules.length)
    return slots.map Prod.snd
  | raw => raw.mismatch ("struct " ++ s.title)

end Shape
end Json
end EventRelay

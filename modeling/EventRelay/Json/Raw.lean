/-
# JSON text as it stands

`Raw` is a JSON text before anything is asked of it: fields in their order, repeated
fields included, and faults left in place.  A decoder walks it in text order, so of two
faults the one that comes first is reported, be it a fault of syntax or of content.

Three faults belong to a leaf and count only when the leaf is read: a number too large,
a surrogate without its partner, and a container nested too deep.  Every other fault of
syntax ends the text at a `broken` node.
-/

import EventRelay.Json.Value

namespace EventRelay
namespace Json

/-- What is wrong with a text. -/
inductive SyntaxReason where
  | eofInValue
  | eofInList
  | eofInObject
  | eofInString
  | expectedValue
  | expectedIdent
  | expectedColon
  | expectedListCommaOrEnd
  | expectedObjectCommaOrEnd
  | keyMustBeString
  | trailingComma
  | trailingCharacters
  | invalidNumber
  | numberOutOfRange
  | invalidEscape
  | controlCharacter
  | loneSurrogate
  | unfinishedSurrogate
  | tooDeep
  deriving DecidableEq, Repr

namespace SyntaxReason

/-- The wording of a fault. -/
def message : SyntaxReason → String
  | eofInValue => "EOF while parsing a value"
  | eofInList => "EOF while parsing a list"
  | eofInObject => "EOF while parsing an object"
  | eofInString => "EOF while parsing a string"
  | expectedValue => "expected value"
  | expectedIdent => "expected ident"
  | expectedColon => "expected `:`"
  | expectedListCommaOrEnd => "expected `,` or `]`"
  | expectedObjectCommaOrEnd => "expected `,` or `\x7d`"
  | keyMustBeString => "key must be a string"
  | trailingComma => "trailing comma"
  | trailingCharacters => "trailing characters"
  | invalidNumber => "invalid number"
  | numberOutOfRange => "number out of range"
  | invalidEscape => "invalid escape"
  | controlCharacter => "control character (\\u0000-\\u001F) found while parsing a string"
  | loneSurrogate => "lone leading surrogate in hex escape"
  | unfinishedSurrogate => "unexpected end of hex escape"
  | tooDeep => "recursion limit exceeded"

end SyntaxReason

/-- A fault of syntax, and how many bytes of the text are left where it is reported. -/
structure SyntaxError where
  reason : SyntaxReason
  left : Nat
  deriving DecidableEq, Repr

/-- JSON text as it stands. -/
inductive Raw where
  | null
  | bool (value : Bool)
  | number (value : Except SyntaxError Number)
  | string (value : Except SyntaxError String)
  /-- A list, with the bytes left at its bracket. -/
  | array (left : Nat) (items : List Raw)
  /-- An object, with the bytes left at its brace. -/
  | object (left : Nat) (members : List (Except SyntaxError String × Raw))
  /-- The text ends here. -/
  | broken (fault : SyntaxError)

/-- A key that has been read, or the fault met in its place. -/
abbrev RawKey := Except SyntaxError String

namespace Raw

mutual

/-- A value as faultless text. -/
def ofValue : Value → Raw
  | .null => .null
  | .bool b => .bool b
  | .number n => .number (.ok n)
  | .string s => .string (.ok s)
  | .array items => .array 0 (ofItems items)
  | .object fields => .object 0 (ofFields fields)

/-- The items of a list as faultless text. -/
def ofItems : List Value → List Raw
  | [] => []
  | v :: rest => ofValue v :: ofItems rest

/-- The fields of an object as faultless text. -/
def ofFields : List (String × Value) → List (RawKey × Raw)
  | [] => []
  | (k, v) :: rest => (.ok k, ofValue v) :: ofFields rest

end

/-- How deep the containers of a text may nest. -/
def maxDepth : Nat := 127

mutual

/-- The value of a text whose containers nest at most `depth` deep. -/
def toValue (depth : Nat) : Raw → Except SyntaxError Value
  | .null => .ok .null
  | .bool b => .ok (.bool b)
  | .number n => n.map .number
  | .string s => s.map .string
  | .array left items =>
    match depth with
    | 0 => .error ⟨.tooDeep, left⟩
    | depth + 1 => (itemValues depth items).map .array
  | .object left members =>
    match depth with
    | 0 => .error ⟨.tooDeep, left⟩
    | depth + 1 => (fieldValues depth members).map (.object ∘ Fields.ofAssignments)
  | .broken fault => .error fault

/-- The values of the items of a list. -/
def itemValues (depth : Nat) : List Raw → Except SyntaxError (List Value)
  | [] => .ok []
  | r :: rest => do
    let v ← toValue depth r
    let vs ← itemValues depth rest
    return v :: vs

/-- The assignments of an object, in text order. -/
def fieldValues (depth : Nat) : List (RawKey × Raw) → Except SyntaxError (List (String × Value))
  | [] => .ok []
  | (k, r) :: rest => do
    let key ← k
    let v ← toValue depth r
    let fs ← fieldValues depth rest
    return (key, v) :: fs

end

mutual

/-- The first fault that stays when a text is passed over unread: leaves are not looked into. -/
def skipFault? : Raw → Option SyntaxError
  | .array _ items => skipItems? items
  | .object _ members => skipMembers? members
  | .broken fault => some fault
  | _ => none

/-- The first such fault among items. -/
def skipItems? : List Raw → Option SyntaxError
  | [] => none
  | r :: rest => (skipFault? r).or (skipItems? rest)

/-- The first such fault among fields. -/
def skipMembers? : List (RawKey × Raw) → Option SyntaxError
  | [] => none
  | (_, r) :: rest => (skipFault? r).or (skipMembers? rest)

end

end Raw
end Json
end EventRelay

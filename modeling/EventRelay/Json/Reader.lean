/-
# Reading JSON text

`Raw.read` reads one value from the front of a text and gives it with what is left of
the text; nothing is left when the value is broken.  `Value.parse` reads a whole text.

A fault is placed either behind the character that was read or, where a character was
only looked at, one byte further, and never beyond the end of the text.  `Place` turns
the bytes left into a line and a column, both counted from one, columns in bytes.
-/

import EventRelay.Json.Raw
import EventRelay.Json.Literal
import EventRelay.Text.Hex

namespace EventRelay
namespace Json

/-- The bytes of a text. -/
def byteCount (cs : List Char) : Nat := cs.foldl (fun n c => n + c.utf8Size) 0

/-- A fault behind what has been read. -/
def faultAt (reason : SyntaxReason) (rest : List Char) : SyntaxError := ⟨reason, byteCount rest⟩

/-- A fault at a character that has only been looked at. -/
def faultPeeked (reason : SyntaxReason) (rest : List Char) : SyntaxError :=
  ⟨reason, byteCount rest - 1⟩

/-- The four characters that may stand between tokens. -/
def isSpace (c : Char) : Bool := c == ' ' || c == '\n' || c == '\t' || c == '\r'

/-- A text from its first token on. -/
def skipSpace (cs : List Char) : List Char := cs.dropWhile isSpace

namespace Scan

/-- Four hexadecimal digits after a backslash and `u`. -/
def hexEscape (cs : List Char) : Except SyntaxError (Nat × List Char) :=
  if byteCount (cs.take 4) < 4 then .error ⟨.eofInString, 0⟩
  else
    match Text.hexNumber? (cs.take 4) with
    | some n => .ok (n, cs.drop 4)
    | none => .error ⟨.invalidEscape, byteCount cs - 4⟩

/-- A string under way: characters read (last first), a leading surrogate that still waits for
its partner, and the first surrogate fault. -/
structure Progress where
  read : List Char
  lead : Option Nat
  fault : Option SyntaxError

/-- One more character of the string, after which a waiting surrogate has no partner; `lone` makes
that fault of the text that is left. -/
def Progress.push (p : Progress) (c : Char) (lone : List Char → SyntaxError) (left : List Char) :
    Progress :=
  match p.lead with
  | some _ => ⟨p.read, none, p.fault.or (some (lone left))⟩
  | none => { p with read := c :: p.read }

/-- One more escaped UTF-16 unit; `rest` is the text behind it. -/
def Progress.unit (p : Progress) (u : Nat) (rest : List Char) : Progress :=
  let isLead := 0xD800 ≤ u && u ≤ 0xDBFF
  let isTail := 0xDC00 ≤ u && u ≤ 0xDFFF
  match p.lead with
  | some l =>
    if isTail then
      ⟨Char.ofNat (0x10000 + (l - 0xD800) * 0x400 + (u - 0xDC00)) :: p.read, none, p.fault⟩
    else ⟨p.read, none, p.fault.or (some (faultAt .loneSurrogate rest))⟩
  | none =>
    if isLead then { p with lead := some u }
    else if isTail then { p with fault := p.fault.or (some (faultAt .loneSurrogate rest)) }
    else { p with read := Char.ofNat u :: p.read }

/-- The character that a short escape stands for. -/
def shortEscape? (c : Char) : Option Char :=
  if c = '"' then some '"'
  else if c = '\\' then some '\\'
  else if c = '/' then some '/'
  else if c = 'b' then some '\x08'
  else if c = 'f' then some '\x0c'
  else if c = 'n' then some '\n'
  else if c = 'r' then some '\r'
  else if c = 't' then some '\t'
  else none

/-- A string from behind its opening quote to behind its closing quote. -/
def string : (fuel : Nat) → Progress → List Char →
    Except SyntaxError (Except SyntaxError String × List Char)
  | 0, _, _ => .error ⟨.eofInString, 0⟩
  | _ + 1, _, [] => .error ⟨.eofInString, 0⟩
  | fuel + 1, p, c :: rest =>
    if c = '"' then
      let p := if p.lead.isSome then p.push c (faultAt .unfinishedSurrogate) rest else p
      match p.fault with
      | some fault => .ok (.error fault, rest)
      | none => .ok (.ok (String.ofList p.read.reverse), rest)
    else if c = '\\' then
      match rest with
      | [] => .error ⟨.eofInString, 0⟩
      | e :: rest' =>
        if e = 'u' then do
          let (u, after) ← hexEscape rest'
          string fuel (p.unit u after) after
        else
          match shortEscape? e with
          | none => .error (faultAt .invalidEscape rest')
          | some d =>
            string fuel (p.push d (faultAt .unfinishedSurrogate) rest') rest'
    else if c.toNat < 0x20 then .error (faultAt .controlCharacter rest)
    else string fuel (p.push c (faultPeeked .unfinishedSurrogate) (c :: rest)) rest

/-- The string that starts behind an opening quote. -/
def stringBody (cs : List Char) : Except SyntaxError (Except SyntaxError String × List Char) :=
  string (cs.length + 1) ⟨[], none, none⟩ cs

/-- A run of digits as values, and what follows it. -/
def digitRun (cs : List Char) : List Nat × List Char :=
  ((cs.takeWhile Char.isDigit).map fun c => c.toNat - 48, cs.dropWhile Char.isDigit)

/-- The whole part of a number. -/
def wholePart (cs : List Char) : Except SyntaxError (List Nat × List Char) :=
  match cs with
  | [] => .error ⟨.eofInValue, 0⟩
  | c :: rest =>
    if c = '0' then
      match rest with
      | d :: _ => if d.isDigit then .error (faultPeeked .invalidNumber rest) else .ok ([0], rest)
      | [] => .ok ([0], rest)
    else if c.isDigit then .ok (digitRun cs)
    else .error (faultAt .invalidNumber rest)

/-- The digits after a point, if a point is next. -/
def decimalPart (cs : List Char) : Except SyntaxError (Option (List Nat) × List Char) :=
  match cs with
  | '.' :: rest =>
    match digitRun rest with
    | ([], []) => .error (faultPeeked .eofInValue rest)
    | ([], _) => .error (faultPeeked .invalidNumber rest)
    | (ds, after) => .ok (some ds, after)
  | _ => .ok (none, cs)

/-- An exponent, if one is next. -/
def exponentPart (cs : List Char) : Except SyntaxError (Option (Bool × List Nat) × List Char) :=
  match cs with
  | e :: rest =>
    if e = 'e' || e = 'E' then
      let minus := rest.head? == some '-'
      let body := if minus || rest.head? == some '+' then rest.drop 1 else rest
      match digitRun body, body with
      | ([], _), [] => .error ⟨.eofInValue, 0⟩
      | ([], _), _ :: after => .error (faultAt .invalidNumber after)
      | (ds, after), _ => .ok (some (minus, ds), after)
    else .ok (none, cs)
  | [] => .ok (none, cs)

/-- A number from its first character on. -/
def number (cs : List Char) : Except SyntaxError (Except SyntaxError Number × List Char) := do
  let negative := cs.head? == some '-'
  let (whole, rest) ← wholePart (if negative then cs.drop 1 else cs)
  let (decimals, rest) ← decimalPart rest
  let (exponent, rest) ← exponentPart rest
  let value :=
    match Literal.number? ⟨negative, whole, decimals, exponent⟩ with
    | some n => .ok n
    | none => .error (faultAt .numberOutOfRange rest)
  return (value, rest)

/-- A fixed word behind its first letter. -/
def word (value : Raw) : (letters : List Char) → List Char → Raw × Option (List Char)
  | [], rest => (value, some rest)
  | _ :: _, [] => (.broken ⟨.eofInValue, 0⟩, none)
  | l :: letters, c :: rest =>
    if c = l then word value letters rest else (.broken (faultAt .expectedIdent rest), none)

end Scan

namespace Raw

/-- A broken text: nothing of it is left. -/
def stop {α : Type} (f : Raw → α) (fault : SyntaxError) : α × Option (List Char) :=
  (f (.broken fault), none)

/-- An object whose text ends where a key was due. -/
def stopMembers (fault : SyntaxError) : List (RawKey × Raw) × Option (List Char) :=
  ([(.error fault, .broken fault)], none)

mutual

/-- One value from the front of a text. -/
def readValue : (fuel : Nat) → List Char → Raw × Option (List Char)
  | 0, _ => stop id ⟨.eofInValue, 0⟩
  | fuel + 1, text =>
    match skipSpace text with
    | [] => stop id ⟨.eofInValue, 0⟩
    | c :: rest =>
      if c = 'n' then Scan.word .null ['u', 'l', 'l'] rest
      else if c = 't' then Scan.word (.bool true) ['r', 'u', 'e'] rest
      else if c = 'f' then Scan.word (.bool false) ['a', 'l', 's', 'e'] rest
      else if c = '-' || c.isDigit then
        match Scan.number (c :: rest) with
        | .ok (n, after) => (.number n, some after)
        | .error fault => stop id fault
      else if c = '"' then
        match Scan.stringBody rest with
        | .ok (s, after) => (.string s, some after)
        | .error fault => stop id fault
      else if c = '[' then
        let (items, after) := readItems fuel true rest
        (.array (byteCount (c :: rest) - 1) items, after)
      else if c = '\x7b' then
        let (members, after) := readMembers fuel true rest
        (.object (byteCount (c :: rest) - 1) members, after)
      else stop id (faultPeeked .expectedValue (c :: rest))

/-- The items of a list, from behind its bracket or behind an item. -/
def readItems : (fuel : Nat) → (first : Bool) → List Char → List Raw × Option (List Char)
  | 0, _, _ => stop (fun r => [r]) ⟨.eofInList, 0⟩
  | fuel + 1, first, text =>
    match skipSpace text with
    | [] => stop (fun r => [r]) ⟨.eofInList, 0⟩
    | c :: rest =>
      if c = ']' then ([], some rest)
      else if first then readItem fuel (c :: rest)
      else if c = ',' then
        match skipSpace rest with
        | [] => stop (fun r => [r]) ⟨.eofInValue, 0⟩
        | d :: after =>
          if d = ']' then stop (fun r => [r]) (faultPeeked .trailingComma (d :: after))
          else readItem fuel (d :: after)
      else stop (fun r => [r]) (faultPeeked .expectedListCommaOrEnd (c :: rest))

/-- An item of a list and the items after it. -/
def readItem : (fuel : Nat) → List Char → List Raw × Option (List Char)
  | 0, _ => stop (fun r => [r]) ⟨.eofInList, 0⟩
  | fuel + 1, text =>
    match readValue fuel text with
    | (item, none) => ([item], none)
    | (item, some rest) =>
      let (items, after) := readItems fuel false rest
      (item :: items, after)

/-- The fields of an object, from behind its brace or behind a field. -/
def readMembers : (fuel : Nat) → (first : Bool) → List Char →
    List (RawKey × Raw) × Option (List Char)
  | 0, _, _ => stopMembers ⟨.eofInObject, 0⟩
  | fuel + 1, first, text =>
    match skipSpace text with
    | [] => stopMembers ⟨.eofInObject, 0⟩
    | c :: rest =>
      if c = '\x7d' then ([], some rest)
      else if first then
        if c = '"' then readMember fuel rest
        else stopMembers (faultPeeked .keyMustBeString (c :: rest))
      else if c = ',' then
        match skipSpace rest with
        | [] => stopMembers ⟨.eofInValue, 0⟩
        | d :: after =>
          if d = '"' then readMember fuel after
          else if d = '\x7d' then stopMembers (faultPeeked .trailingComma (d :: after))
          else stopMembers (faultPeeked .keyMustBeString (d :: after))
      else stopMembers (faultPeeked .expectedObjectCommaOrEnd (c :: rest))

/-- A field from behind the opening quote of its key, and the fields after it. -/
def readMember : (fuel : Nat) → List Char → List (RawKey × Raw) × Option (List Char)
  | 0, _ => stopMembers ⟨.eofInObject, 0⟩
  | fuel + 1, text =>
    match Scan.stringBody text with
    | .error fault => stopMembers fault
    | .ok (key, rest) =>
      match skipSpace rest with
      | [] => ([(key, .broken ⟨.eofInObject, 0⟩)], none)
      | c :: after =>
        if c = ':' then
          match readValue fuel after with
          | (value, none) => ([(key, value)], none)
          | (value, some rest) =>
            let (members, after) := readMembers fuel false rest
            ((key, value) :: members, after)
        else ([(key, .broken (faultPeeked .expectedColon (c :: after)))], none)

end

/-- One value from the front of a text, with what is left of the text. -/
def read (text : List Char) : Raw × Option (List Char) := readValue (4 * text.length + 4) text

end Raw

/-- Line and column of a place in a text. -/
structure Place where
  line : Nat
  column : Nat
  deriving DecidableEq, Repr

/-- The place `index` bytes into a text. -/
def Place.atByte (text : List Char) (index : Nat) : Place :=
  let go := text.foldl (fun (acc : Nat × Nat × Nat) c =>
    let (at_, line, start) := acc
    if at_ < index && c = '\n' then (at_ + c.utf8Size, line + 1, at_ + 1)
    else (at_ + c.utf8Size, line, start)) (0, 1, 0)
  ⟨go.2.1, index - go.2.2⟩

/-- A fault of syntax with its place, as a reader of the text is told. -/
def SyntaxError.messageIn (fault : SyntaxError) (text : String) : String :=
  let place := Place.atByte text.toList (text.utf8ByteSize - fault.left)
  fault.reason.message ++ " at line " ++ toString place.line ++ " column " ++ toString place.column

namespace Value

/-- The value of a whole text. -/
def parse (text : String) : Except SyntaxError Value := do
  let (raw, rest) := Raw.read text.toList
  let value ← raw.toValue Raw.maxDepth
  match skipSpace (rest.getD []) with
  | [] => return value
  | extra => .error (faultPeeked .trailingCharacters extra)

end Value
end Json
end EventRelay

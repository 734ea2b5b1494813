/-
# Writing JSON text

Compact text: no space between tokens, fields in the order they are kept.  Inside
quotes a double quote, a backslash and the control characters below `U+0020` are
escaped and every other character stands for itself.  `asciiOnly` afterwards writes
each character above `U+007F` as one or two escaped UTF-16 units; in JSON text such
characters stand inside quotes only, so the value stays the same.
-/

import EventRelay.Binary64.Shortest
import EventRelay.Json.Value
import EventRelay.Text.Hex

namespace EventRelay
namespace Json

namespace Number

/-- The text of a number. -/
def text : Number → String
  | .integer i => toString i
  | .double x => x.text

end Number

/-- One character inside quotes. -/
def escapeChar (c : Char) : List Char :=
  if c = '"' then ['\\', '"']
  else if c = '\\' then ['\\', '\\']
  else if c = '\x08' then ['\\', 'b']
  else if c = '\x0c' then ['\\', 'f']
  else if c = '\n' then ['\\', 'n']
  else if c = '\r' then ['\\', 'r']
  else if c = '\t' then ['\\', 't']
  else if c.toNat < 0x20 then ['\\', 'u'] ++ Text.hexFixed 4 c.toNat
  else [c]

/-- A string between quotes. -/
def quote (s : String) : String := String.ofList ('"' :: s.toList.flatMap escapeChar ++ ['"'])

/-- The escaped UTF-16 units of a character. -/
def escapeUnits (c : Char) : List Char :=
  let unit (n : Nat) : List Char := ['\\', 'u'] ++ Text.hexFixed 4 n
  if c.toNat < 0x10000 then unit c.toNat
  else unit (0xD800 + (c.toNat - 0x10000) / 0x400) ++ unit (0xDC00 + (c.toNat - 0x10000) % 0x400)

/-- A JSON text in ASCII characters. -/
def asciiOnly (text : String) : String :=
  String.ofList (text.toList.flatMap fun c => if c.toNat < 0x80 then [c] else escapeUnits c)

namespace Value

mutual

/-- The compact text of a value. -/
def text : Value → String
  | .null => "null"
  | .bool b => if b then "true" else "false"
  | .number n => n.text
  | .string s => quote s
  | .array items => "[" ++ itemsText items ++ "]"
  | .object fields => "\x7b" ++ fieldsText fields ++ "\x7d"

/-- The items of a list, with commas between them. -/
def itemsText : List Value → String
  | [] => ""
  | [v] => text v
  | v :: rest => text v ++ "," ++ itemsText rest

/-- The fields of an object, with commas between them. -/
def fieldsText : List (String × Value) → String
  | [] => ""
  | [(k, v)] => quote k ++ ":" ++ text v
  | (k, v) :: rest => quote k ++ ":" ++ text v ++ "," ++ fieldsText rest

end

end Value
end Json
end EventRelay

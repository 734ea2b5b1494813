/-
# Quoted text for messages

A text between double quotes as a message shows it:

| character | written as |
| --- | --- |
| double quote, backslash | a backslash before it |
| NUL, tab, line feed, carriage return | `\0`, `\t`, `\n`, `\r` |
| no visible form, or attaches to its neighbour | `\u{…}`, the code point in hexadecimal |
| any other | itself |
-/

import EventRelay.Text.Hex
import EventRelay.Text.Shown

namespace EventRelay
namespace Text

/-- How one character stands inside quotes. -/
def quoteChar (c : Char) : List Char :=
  if c = '"' then ['\\', '"']
  else if c = '\\' then ['\\', '\\']
  else if c = '\x00' then ['\\', '0']
  else if c = '\t' then ['\\', 't']
  else if c = '\n' then ['\\', 'n']
  else if c = '\r' then ['\\', 'r']
  else if isExtending c || !isShown c then
    ['\\', 'u', '\x7b'] ++ hexText c.toNat ++ ['\x7d']
  else [c]

/-- A text between double quotes. -/
def quoted (s : String) : String :=
  String.ofList ('"' :: s.toList.flatMap quoteChar ++ ['"'])

end Text
end EventRelay

/-
# Identities

A client is known by a `SessionId`: the epoch of the server process that granted it and
the id of its source within that process.  The text of a session id is the epoch in
eight hexadecimal digits, a point, and the source as a UUID.

Reading is wider than writing.  Blanks around the id are dropped, the epoch may have any
number of digits of either case and a plus sign, and the UUID any of its forms; of two
faults the one in the source is reported.
-/

import EventRelay.Fault
import EventRelay.Text.Blank
import EventRelay.Uuid

namespace EventRelay

/-- The identity of one server process. -/
structure Epoch where
  val : Nat
  lt : val < 1 <<< 32
  deriving DecidableEq

/-- The identity of one event source within a server process. -/
structure SourceId where
  uuid : Uuid
  deriving DecidableEq

/-- The identity of one client's session. -/
structure SessionId where
  epoch : Epoch
  source : SourceId
  deriving DecidableEq

namespace Epoch

/-- An epoch in eight hexadecimal digits. -/
def text (e : Epoch) : String := String.ofList (Text.hexFixed 8 e.val)

/-- An epoch of the low half word of a number. -/
def ofNat (n : Nat) : Epoch := ⟨n % 1 <<< 32, Nat.mod_lt _ (by decide)⟩

/-- Reads hexadecimal digits after an optional plus sign. -/
def parse? (s : String) : Option Epoch := do
  let cs := s.toList
  let n ← Text.hexNumber? (if cs.head? = some '+' then cs.drop 1 else cs)
  if h : n < 1 <<< 32 then some ⟨n, h⟩ else none

/-- Reads an epoch or refuses the text. -/
def parse (s : String) : Outcome Epoch :=
  match parse? s with
  | some e => .ok e
  | none => .error (.invalidInput ("malformed server epoch: " ++ s))

end Epoch

namespace SourceId

/-- A source as a UUID. -/
def text (s : SourceId) : String := s.uuid.text

end SourceId

namespace SessionId

/-- The text of a session id. -/
def text (id : SessionId) : String := id.epoch.text ++ "." ++ id.source.text

/-- What stands before and after the first point of a text. -/
def splitAtPoint? (cs : List Char) : Option (List Char × List Char) :=
  match cs.dropWhile (· ≠ '.') with
  | [] => none
  | _ :: rest => some (cs.takeWhile (· ≠ '.'), rest)

/-- Reads a session id or refuses the text. -/
def parse (s : String) : Outcome SessionId :=
  match splitAtPoint? (Text.trimChars s.toList) with
  | none => .error (.invalidInput ("malformed session id: " ++ s))
  | some (epoch, source) =>
    match Uuid.parse? (String.ofList source) with
    | none => .error (.invalidInput ("malformed source id: " ++ String.ofList source))
    | some uuid => do
      let epoch ← Epoch.parse (String.ofList epoch)
      return ⟨epoch, ⟨uuid⟩⟩

end SessionId
end EventRelay

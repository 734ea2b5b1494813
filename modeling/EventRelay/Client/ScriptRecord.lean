/-
# Scripts as records

A script is written as an object with a list of cues for each kind of call.  A cue is an
object with a delay in milliseconds, if there is one, and a failure or a value; a cue
with neither gives the answer that a call gets by default.  A delay of zero is none.
-/

import EventRelay.Client.Script
import EventRelay.FaultRecord

namespace EventRelay

open Json

namespace Cue

/-- The cue of a record. -/
def ofRecord {α : Type} (read : Value → Option α) (v : Value) : Cue α where
  delay := ((v.nat? "delay_ms").filter (0 < ·)).map .ofMillis
  answer :=
    match v.given? "err" with
    | some description => .error (.ofDescription description)
    | none => .ok ((v.given? "ok").bind read)

end Cue

namespace Script

/-- An event, written as a list of its number, its type and its payload. -/
def readEvent : Value → Option Event
  | .array [.number (.integer sequence), .string t, payload] =>
    (TypeId.ofString t).toOption.map fun typeId =>
      { sequence, eventId := .ofTime 0 0, typeId, occurredAt := .unixEpoch, payload }
  | _ => none

/-- A batch, written as an object with events and a cursor. -/
def readBatch (v : Value) : Batch :=
  ⟨(v.itemsAt "events").filterMap readEvent, v.intAt "cursor"⟩

/-- The script of a record; `pollsEndEmpty` says what polls without a cue get. -/
def ofRecord (v : Value) (pollsEndEmpty : Bool) : Script :=
  let cues {α : Type} (key : String) (read : Value → Option α) : List (Cue α) :=
    (v.itemsAt key).map (Cue.ofRecord read)
  { openSession := cues "new_session" fun v => v.integer?.map Int.toNat
    closeSession := cues "invalidate" fun _ => some ()
    subscribe := cues "add" Value.bool?
    unsubscribe := cues "remove" Value.bool?
    poll := cues "poll" fun v => some (readBatch v)
    publish := cues "publish" Value.integer?
    probe := cues "probe" fun _ => some ()
    pollsEndEmpty }

end Script
end EventRelay

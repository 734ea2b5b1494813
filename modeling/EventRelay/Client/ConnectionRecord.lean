/-
# Connections as records

What becomes of a connection can be followed from the outside: reports are described by
what happened, and decisions are written down with the state they lead to.
-/

import EventRelay.Client.Connection
import EventRelay.Config.Record
import EventRelay.Wire

namespace EventRelay

open Json

namespace Report

/-- The report that a description is of; `none` for one that is no report. -/
def ofDescription? (v : Value) : Option Report :=
  let kind := FailureKind.ofName (v.textAt "kind")
  match v.textAt "o" with
  | "session_opened" => some sessionOpened
  | "session_failed" => some (sessionFailed kind)
  | "polled" => some polled
  | "poll_failed" => some (pollFailed kind)
  | "probe_ok" => some (probed (v.flagAt "has_session"))
  | "probe_failed" => some (probeFailed kind)
  | _ => none

end Report

namespace Decision

/-- The record of a decision. -/
def record (d : Decision) : Value :=
  .object
    [("state", .string d.state.name), ("notify", .orNull (d.notify.map Wire.write)),
      ("after_ms", .orNull (d.pause.map Duration.record)), ("command", .string d.errand.name)]

end Decision

namespace Connection

/-- Starts from the beginning or takes a report, as a description says. -/
def follow? (c : Connection) (v : Value) : Option (Connection × Decision) :=
  if v.textAt "o" = "start" then some c.start else (Report.ofDescription? v).map c.handle

end Connection
end EventRelay

/-
# Sessions as records
-/

import EventRelay.Json.Value
import EventRelay.Session.Registry

namespace EventRelay

open Json

namespace Session

/-- The record of a session's state, its types in increasing order. -/
def record (s : Session) : List (String × Value) :=
  [("last_sequence", .int s.lastSequence),
    ("subscriptions", .array (s.typeTexts.map .string)), ("invalidated", .bool s.invalidated)]

end Session

namespace Entry

/-- The record of a session in a registry. -/
def record (e : Entry) : Value :=
  .object (e.session.record ++ [("polling", .bool e.isPolling)])

end Entry
end EventRelay

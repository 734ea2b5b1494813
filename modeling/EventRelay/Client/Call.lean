/-
# What a client asks a server

Every call has the type of its reply; an answer is a reply or a failure.  A client sees
nothing of the server but these answers.

| call | reply |
| --- | --- |
| open a session | its id |
| close a session | nothing |
| subscribe, unsubscribe | whether the list of subscriptions changed |
| poll | a batch of events |
| publish | the number the event got |
| probe for a deployment | nothing |
-/

import EventRelay.Event
import EventRelay.Fingerprint

namespace EventRelay

/-- A call to a server. -/
inductive Call where
  /-- Opens a session in place of the one held. -/
  | openSession (current : Option SessionId)
  | closeSession (session : SessionId)
  | subscribe (session : SessionId) (typeId : TypeId)
  | unsubscribe (session : SessionId) (typeId : TypeId)
  | poll (session : SessionId)
  | publish (typeId : TypeId) (payload : Json.Value)
  | probe (fingerprint : Fingerprint)

namespace Call

/-- What a server replies to a call. -/
def Reply : Call → Type
  | openSession _ => SessionId
  | closeSession _ => Unit
  | subscribe _ _ => Bool
  | unsubscribe _ _ => Bool
  | poll _ => Batch
  | publish _ _ => Int
  | probe _ => Unit

/-- What a client hears of a call. -/
abbrev Answer (c : Call) : Type := Outcome c.Reply

end Call
end EventRelay

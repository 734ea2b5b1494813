/-
# Events and the messages about them

| message | content |
| --- | --- |
| `Event` | what the log keeps and a poll returns |
| `Batch` | the answer to a poll |
| `PublishRequest`, `PublishReceipt` | an event handed in, and the sequence it got |
| `SessionGrant` | the answer to a request for a session |
| `SubscriptionChange` | whether a list of subscriptions changed |
-/

import EventRelay.Identity
import EventRelay.Json.Value
import EventRelay.Timestamp
import EventRelay.TypeId

namespace EventRelay

/-- A published event. -/
structure Event where
  /-- The position in the log. -/
  sequence : Int
  /-- The id of this one event. -/
  eventId : Uuid
  /-- The kind that subscriptions are matched against. -/
  typeId : TypeId
  /-- When the event was published. -/
  occurredAt : Timestamp
  payload : Json.Value

/-- The answer to a poll: events in increasing order, and the position after it. -/
structure Batch where
  events : List Event
  cursor : Int

/-- An event to be published. -/
structure PublishRequest where
  typeId : TypeId
  payload : Json.Value

/-- The sequence a published event got. -/
structure PublishReceipt where
  sequence : Int
  deriving DecidableEq

/-- A granted session. -/
structure SessionGrant where
  sessionId : SessionId
  deriving DecidableEq

/-- Whether a list of subscriptions changed. -/
structure SubscriptionChange where
  changed : Bool
  deriving DecidableEq

/-- What happens to a session: it comes into being, and ends once. -/
inductive SessionEvent where
  | created (source : SourceId)
  | invalidated (source : SourceId)
  | expired (source : SourceId)
  deriving DecidableEq

namespace SessionEvent

/-- The session an event is about. -/
def source : SessionEvent → SourceId
  | created s | invalidated s | expired s => s

/-- The name of what happened. -/
def name : SessionEvent → String
  | created _ => "created"
  | invalidated _ => "invalidated"
  | expired _ => "expired"

/-- Whether the session has ended. -/
def isTerminal : SessionEvent → Bool
  | created _ => false
  | invalidated _ | expired _ => true

end SessionEvent

/-- A change of a client's connection, as its listeners are told. -/
structure ConnectionChange where
  inSession : Bool
  /-- Whether the session is a new one. -/
  isNew : Bool
  /-- Why the session was lost. -/
  cause : Option FailureKind
  deriving DecidableEq, Repr

namespace ConnectionChange

/-- A new session was opened. -/
def connectedNew : ConnectionChange := ⟨true, true, none⟩

/-- The session held goes on. -/
def resumed : ConnectionChange := ⟨true, false, none⟩

/-- The session was lost. -/
def disconnected (cause : FailureKind) : ConnectionChange := ⟨false, false, some cause⟩

end ConnectionChange

/-- The state of a client's connection. -/
inductive ConnectionState where
  | disconnected
  | inSession
  | awaitingResume
  | awaitingNewSession
  deriving DecidableEq, Repr

namespace ConnectionState

/-- The name of a state. -/
def name : ConnectionState → String
  | disconnected => "disconnected"
  | inSession => "in_session"
  | awaitingResume => "awaiting_resume"
  | awaitingNewSession => "awaiting_new_session"

/-- All states, in the order in which messages list them. -/
def all : List ConnectionState := [disconnected, inSession, awaitingResume, awaitingNewSession]

end ConnectionState
end EventRelay

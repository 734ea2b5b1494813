/-
# Requests from one wait to the next

A server answers many requests at once.  Wherever a request may have to wait, for the list
of sessions or for the turn of one, others may go on in between; from one such place to the
next it runs alone.  `Server.receive` runs a request up to its first `Pause` and
`Server.proceed` from one pause up to the next.

| pause | what follows it |
| --- | --- |
| `seeking` | the list is read; the request finds its session, or does not |
| `expiring` | a session that was found idle for too long is ended, if it still is so |
| `enlisting` | a new session is put on the list |
| `closing` | a session is ended |
| `sweeping` | the sessions that had been idle for too long are ended |
| `liningUp` | a poll queues up for the turn of its session |

A new session starts after the event that was the last one when it was made, not when it
was put on the list, and a sweep goes by the instant at which it was asked for.
-/

import EventRelay.Server.Poll

namespace EventRelay

/-- What a server is asked for. -/
inductive Server.Request where
  /-- A new session, of a source that nobody knows yet. -/
  | openSession (current : Option SessionId) (fresh : SourceId)
  | closeSession (current : Option SessionId)
  | subscribe (current : Option SessionId) (typeId : TypeId)
  | unsubscribe (current : Option SessionId) (typeId : TypeId)
  | lookup (current : Option SessionId)
  | poll (current : Option SessionId)
  | sweep
  deriving DecidableEq

/-- What a request gets that succeeds. -/
inductive Served where
  | session (id : SessionId)
  | done
  | changed (didChange : Bool)
  | batch (b : Batch)
  | swept (count : Nat)

/-- What a request wants of the session that it looks for. -/
inductive Aim where
  /-- To know whether the caller has a live one, before it gets a new one. -/
  | opening (fresh : SourceId)
  | subscribe (typeId : TypeId)
  | unsubscribe (typeId : TypeId)
  | lookup
  | poll
  deriving DecidableEq

/-- Where a request stands that may have to wait. -/
inductive Pause where
  | seeking (source : SourceId) (aim : Aim)
  | expiring (source : SourceId) (aim : Aim)
  | enlisting (e : Entry)
  | closing (source : SourceId)
  | sweeping (since : Nat)
  | liningUp (source : SourceId)

/-- Where a request stands after it has run. -/
inductive Standing where
  | paused (p : Pause)
  /-- It is a poll, and is among the server's polls. -/
  | inLine
  | answered (answer : Outcome Served)

namespace Server.Request

/-- The session that a request names. -/
def current : Request → Option SessionId
  | openSession current _ | closeSession current | subscribe current _ | unsubscribe current _
  | lookup current | poll current => current
  | sweep => none

/-- The source of the session that a request asks for. -/
def fresh? : Request → Option SourceId
  | openSession _ fresh => some fresh
  | closeSession _ | subscribe _ _ | unsubscribe _ _ | lookup _ | poll _ | sweep => none

/-- Whether a request names a source, as that of the session it has or of the one it asks for. -/
def mentions (r : Request) (s : SourceId) : Bool :=
  r.current.map SessionId.source == some s || r.fresh? == some s

end Server.Request

namespace Server

/-- A request looks for the session it names. -/
def seek (s : Server) (current : Option SessionId) (aim : Aim) : Standing :=
  match s.resolveNamed current with
  | .error fault => .answered (.error fault)
  | .ok source => .paused (.seeking source aim)

/-- A new session is made. -/
def makeSession (s : Server) (fresh : SourceId) : Standing :=
  .paused (.enlisting (.new s.now fresh s.log.cursor))

/-- Runs a request up to its first pause. -/
def receive (s : Server) : Request → Standing
  | .openSession none fresh => s.makeSession fresh
  | .openSession (some id) fresh =>
    match s.resolve id with
    | .error _ => s.makeSession fresh
    | .ok source => .paused (.seeking source (.opening fresh))
  | .closeSession none => .answered (.error .noActiveSession)
  | .closeSession (some id) =>
    match s.resolve id with
    | .error fault => .answered (.error fault)
    | .ok source => .paused (.closing source)
  | .subscribe current t => s.seek current (.subscribe t)
  | .unsubscribe current t => s.seek current (.unsubscribe t)
  | .lookup current => s.seek current .lookup
  | .poll current => s.seek current .poll
  | .sweep => .paused (.sweeping s.now)

/-- A request goes on whose session is not there. -/
def missed (s : Server) : Aim → Standing
  | .opening fresh => s.makeSession fresh
  | .subscribe _ | .unsubscribe _ | .lookup | .poll => .answered (.error .invalidSession)

/-- A request goes on whose session is there. -/
def found (s : Server) (source : SourceId) : Aim → Server × Standing
  | .opening _ => (s, .answered (.error .sessionActive))
  | .subscribe t =>
    let (r, added) := s.registry.addType source t
    (s.withRegistry r, .answered (.ok (.changed added)))
  | .unsubscribe t =>
    let (r, removed) := s.registry.removeType source t
    (s.withRegistry r, .answered (.ok (.changed removed)))
  | .lookup => (s, .answered (.ok .done))
  | .poll => (s, .paused (.liningUp source))

/-- A poll queues up with its ticket. -/
def lineUp (s : Server) (ticket : Nat) (source : SourceId) : Server :=
  { s with
    registry := s.registry.enqueue source ticket
    polls := s.polls ++ [(ticket, ⟨source, .queued⟩)] }

/-- Runs a request from a pause up to its next one. -/
def proceed (s : Server) (ticket : Nat) : Pause → Server × Standing
  | .seeking source aim =>
    match s.registry.glance s.now source with
    | (r, .absent) => (s.withRegistry r, s.missed aim)
    | (r, .idle) => (s.withRegistry r, .paused (.expiring source aim))
    | (r, .live) => (s.withRegistry r).found source aim
  | .expiring source aim => (s.withRegistry (s.registry.expire s.now source), s.missed aim)
  | .enlisting e =>
    (s.withRegistry (s.registry.enlist e), .answered (.ok (.session ⟨s.epoch, e.session.source⟩)))
  | .closing source =>
    match s.registry.invalidate source with
    | (r, true) => (s.withRegistry r, .answered (.ok .done))
    | (r, false) => (s.withRegistry r, .answered (.error .invalidSession))
  | .sweeping since =>
    let (r, n) := s.registry.sweep since
    (s.withRegistry r, .answered (.ok (.swept n)))
  | .liningUp source => (s.lineUp ticket source, .inLine)

end Server
end EventRelay

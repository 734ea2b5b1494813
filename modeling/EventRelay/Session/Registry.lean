/-
# The registry of sessions

Sessions are found by their source.  Every look-up of a live session starts its idle
time anew; a session that has been idle for the registry's `ttl` is ended when it is next
looked up, or by a sweep.  A sweep passes over sessions with a poll under way.

Whatever ends a session takes it off the list, marks it as ended and tells the listeners,
all at one instant.  An ended session is kept, for polls that are still under way on it.

A look-up reads the list first and then, for a session that has been idle for too long,
changes it; other requests may come in between, so `expire` asks again.

Polls of one session take turns: whoever wants a turn queues up with a ticket, and the
front of the queue has the turn.
-/

import EventRelay.Config.Defaults
import EventRelay.Duration
import EventRelay.Feed
import EventRelay.Session.Basic

namespace EventRelay

/-- A session in the registry. -/
structure Entry where
  session : Session
  /-- When the session was last used. -/
  lastAccess : Nat
  /-- Tickets of those who want the session's turn; the first one has it. -/
  queue : List Nat
  /-- Whether the session can be found. -/
  listed : Bool

namespace Entry

/-- A session that comes into being, after event `start`. -/
def new (now : Nat) (fresh : SourceId) (start : Int) : Entry :=
  ⟨Session.new fresh start, now, [], true⟩

/-- How long a session has been idle. -/
def idle (e : Entry) (now : Nat) : Nat := now - e.lastAccess

/-- Starts the idle time anew. -/
def touch (e : Entry) (now : Nat) : Entry := { e with lastAccess := now }

/-- Whether a poll has the turn. -/
def isPolling (e : Entry) : Bool := !e.queue.isEmpty

/-- Whether a ticket has the turn. -/
def holds (e : Entry) (ticket : Nat) : Bool := e.queue.head? == some ticket

/-- Ends a session. -/
def retire (e : Entry) : Entry := { e with session := e.session.invalidate, listed := false }

end Entry

/-- What the list of sessions says of one of them. -/
inductive Sighting where
  /-- It is not on the list. -/
  | absent
  /-- It has been idle for too long. -/
  | idle
  | live
  deriving DecidableEq, Repr

/-- The sessions of a server. -/
structure Registry where
  /-- How long a session may stay idle. -/
  ttl : Duration
  /-- Every session there has been, the oldest first. -/
  entries : List Entry
  feed : Feed SessionEvent

namespace Registry

/-- A registry without sessions. -/
def new (ttl : Duration) : Registry := ⟨ttl, [], .new Defaults.sessionEventCapacity⟩

/-- The session of a source, live or ended. -/
def entry? (r : Registry) (s : SourceId) : Option Entry :=
  r.entries.find? fun e => e.session.source = s

/-- The live session of a source. -/
def live? (r : Registry) (s : SourceId) : Option Entry :=
  (r.entry? s).filter Entry.listed

/-- How many sessions are live. -/
def count (r : Registry) : Nat := r.entries.countP Entry.listed

/-- Changes the session of a source. -/
def modify (r : Registry) (s : SourceId) (f : Entry → Entry) : Registry :=
  { r with entries := r.entries.map fun e => if e.session.source = s then f e else e }

/-- Changes the state of the session of a source. -/
def modifySession (r : Registry) (s : SourceId) (f : Session → Session) : Registry :=
  r.modify s fun e => { e with session := f e.session }

/-- Tells the listeners. -/
def tell (r : Registry) (e : SessionEvent) : Registry := { r with feed := r.feed.send e }

/-- Puts a session on the list. -/
def enlist (r : Registry) (e : Entry) : Registry :=
  { r with entries := r.entries ++ [e] }.tell (.created e.session.source)

/-- A new session that starts after event `start`. -/
def create (r : Registry) (now : Nat) (fresh : SourceId) (start : Int) : Registry :=
  r.enlist (.new now fresh start)

/-- Takes a live session off the list and marks it as ended; says whether it had no such mark. -/
def discard (r : Registry) (s : SourceId) : Registry × Bool :=
  match r.live? s with
  | none => (r, false)
  | some e => (r.modify s Entry.retire, !e.session.invalidated)

/-- Ends a session; the listeners are told unless it had ended before. -/
def retire (r : Registry) (s : SourceId) (event : SessionEvent) : Registry × Bool :=
  match r.discard s with
  | (r, true) => (r.tell event, true)
  | (r, false) => (r, false)

/-- Ends sessions that have expired; says how many had not ended before. -/
def retireAll (r : Registry) : List SourceId → Registry × Nat
  | [] => (r, 0)
  | s :: rest =>
    let (r, ended) := r.retire s (.expired s)
    let (r, count) := r.retireAll rest
    (r, if ended then count + 1 else count)

/-- Whether a session has been idle for too long. -/
def isStale (r : Registry) (now : Nat) (e : Entry) : Bool := r.ttl.nanos ≤ e.idle now

/-- Reads the list for a session, which starts the idle time of a live one anew. -/
def glance (r : Registry) (now : Nat) (s : SourceId) : Registry × Sighting :=
  match r.live? s with
  | none => (r, .absent)
  | some e => if r.isStale now e then (r, .idle) else (r.modify s (·.touch now), .live)

/-- Ends a live session, if it has been idle for too long. -/
def expire (r : Registry) (now : Nat) (s : SourceId) : Registry :=
  match r.live? s with
  | none => r
  | some e => if r.isStale now e then (r.retire s (.expired s)).1 else r

/-- Finds a live session and starts its idle time anew; one that has been idle for too long is
ended instead. -/
def lookup (r : Registry) (now : Nat) (s : SourceId) : Registry × Outcome Unit :=
  match r.glance now s with
  | (r, .absent) => (r, .error .invalidSession)
  | (r, .idle) => (r.expire now s, .error .invalidSession)
  | (r, .live) => (r, .ok ())

/-- Ends a session on request; says whether it was live. -/
def invalidate (r : Registry) (s : SourceId) : Registry × Bool := r.retire s (.invalidated s)

/-- Whether a sweep ends a session. -/
def isSweepable (r : Registry) (now : Nat) (e : Entry) : Bool :=
  e.listed && !e.isPolling && r.isStale now e

/-- The sessions that a sweep ends, the oldest first. -/
def sweepable (r : Registry) (now : Nat) : List SourceId :=
  (r.entries.filter (r.isSweepable now)).map fun e => e.session.source

/-- Ends all sessions that have been idle for too long and have no poll under way; says how
many. -/
def sweep (r : Registry) (now : Nat) : Registry × Nat := r.retireAll (r.sweepable now)

/-- The number of a session, counted from zero in the order of creation. -/
def numberOf (r : Registry) (s : SourceId) : Nat :=
  r.entries.findIdx fun e => e.session.source = s

/-- Whether the session of a source wants events of a type. -/
def wants (r : Registry) (s : SourceId) (t : TypeId) : Bool :=
  ((r.entry? s).map fun e => e.session.isSubscribed t).getD false

/-- Adds a type to a session; says whether it was new. -/
def addType (r : Registry) (s : SourceId) (t : TypeId) : Registry × Bool :=
  (r.modifySession s (·.subscribe t), !r.wants s t)

/-- Takes a type away from a session; says whether it was there. -/
def removeType (r : Registry) (s : SourceId) (t : TypeId) : Registry × Bool :=
  (r.modifySession s (·.unsubscribe t), r.wants s t)

/-- Adds a type to a live session; says whether it was new. -/
def subscribe (r : Registry) (now : Nat) (s : SourceId) (t : TypeId) : Registry × Outcome Bool :=
  match r.lookup now s with
  | (r, .error fault) => (r, .error fault)
  | (r, .ok ()) => let (r, added) := r.addType s t; (r, .ok added)

/-- Takes a type away from a live session; says whether it was there. -/
def unsubscribe (r : Registry) (now : Nat) (s : SourceId) (t : TypeId) :
    Registry × Outcome Bool :=
  match r.lookup now s with
  | (r, .error fault) => (r, .error fault)
  | (r, .ok ()) => let (r, removed) := r.removeType s t; (r, .ok removed)

/-- Queues up for the turn of a session. -/
def enqueue (r : Registry) (s : SourceId) (ticket : Nat) : Registry :=
  r.modify s fun e => { e with queue := e.queue ++ [ticket] }

/-- Leaves the queue of a session, and with it the turn. -/
def release (r : Registry) (s : SourceId) (ticket : Nat) : Registry :=
  r.modify s fun e => { e with queue := e.queue.filter (· ≠ ticket) }

/-- Whether a ticket has the turn of a session. -/
def holds (r : Registry) (s : SourceId) (ticket : Nat) : Bool :=
  ((r.entry? s).map (·.holds ticket)).getD false

end Registry
end EventRelay

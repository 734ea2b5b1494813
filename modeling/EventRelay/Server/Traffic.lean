/-
# A server and the requests under way

`Traffic` is a server with every request that it has not answered yet, each where it last
stopped, and `Traffic.step` lets one thing happen: a request arrives, goes on or is given
up, an event is published, or time passes.  Any order of such moves is a run; nobody has to
go on when they could, and time passes as it likes.

A run keeps notes.  They say in order what was asked, answered and published and, for every
poll, how its session stood when the poll got the turn and when its answer was decided.
Nothing that a server does depends on them, but for one thing: the source of a new session
is one that no note mentions.
-/

import EventRelay.Server.Request

namespace EventRelay

/-- Something that happened. -/
inductive Note where
  | arrived (ticket : Nat) (r : Server.Request)
  | published (e : Event)
  /-- A session was made, with `cursor` the last event. -/
  | opened (ticket : Nat) (source : SourceId) (cursor : Int)
  /-- A poll got the turn; `session` is how it found the session. -/
  | turned (ticket : Nat) (session : Session)
  /-- A poll that had the turn came to an end; `session` is how it found the session then. -/
  | polled (ticket : Nat) (session : Session) (answer : Outcome Batch)
  | answered (ticket : Nat) (answer : Outcome Served)
  | aborted (ticket : Nat)

/-- One thing that can happen next. -/
inductive Move where
  | arrive (r : Server.Request)
  | resume (ticket : Nat)
  | abort (ticket : Nat)
  | publish (stamp : Stamp) (typeId : TypeId) (payload : Json.Value)
  | pass (nanos : Nat)

/-- A server with the requests under way. -/
structure Traffic where
  server : Server
  /-- Requests between two of their pauses; polls that have lined up are with the server. -/
  paused : List (Nat × Pause)
  /-- The ticket of the next request. -/
  ticket : Nat
  /-- What has happened, and when, the first thing first. -/
  notes : List (Nat × Note)

namespace Note

/-- The event that a note says was published. -/
def event? : Note → Option Event
  | published e => some e
  | arrived _ _ | opened _ _ _ | turned _ _ | polled _ _ _ | answered _ _ | aborted _ => none

/-- Whether a note is of a request that names a source. -/
def mentions (n : Note) (s : SourceId) : Bool :=
  match n with
  | arrived _ r => r.mentions s
  | published _ | opened _ _ _ | turned _ _ | polled _ _ _ | answered _ _ | aborted _ => false

/-- The answer that a note says the request of a ticket got. -/
def answer? (ticket : Nat) : Note → Option (Outcome Served)
  | answered k answer => if k = ticket then some answer else none
  | arrived _ _ | published _ | opened _ _ _ | turned _ _ | polled _ _ _ | aborted _ => none

end Note

namespace Traffic

/-- A server that nobody has asked anything yet. -/
def new (config : ServerConfig) (epoch : Epoch) : Setup Traffic :=
  (Server.new config epoch).map fun server => ⟨server, [], 0, []⟩

/-- Takes notes. -/
def note (t : Traffic) (ns : List Note) : Traffic :=
  { t with notes := t.notes ++ ns.map fun n => (t.server.now, n) }

/-- Everything that was published, the oldest event first. -/
def published (t : Traffic) : List Event := t.notes.filterMap fun n => n.2.event?

/-- The answer that the request of a ticket got. -/
def answer? (t : Traffic) (ticket : Nat) : Option (Outcome Served) :=
  t.notes.findSome? fun n => n.2.answer? ticket

/-- Whether anybody has named a source. -/
def knows (t : Traffic) (s : SourceId) : Bool := t.notes.any fun n => n.2.mentions s

/-- Whether a request can arrive: the session it asks for is one that nobody knows. -/
def admits (t : Traffic) (r : Server.Request) : Bool :=
  match r.fresh? with
  | none => true
  | some fresh => !t.knows fresh && r.current.map SessionId.source != some fresh

/-- What there is to note of a request that stops: that it has made a session. -/
def stopNotes (t : Traffic) (ticket : Nat) : Pause → List Note
  | .enlisting e => [.opened ticket e.session.source t.server.log.cursor]
  | .seeking _ _ | .expiring _ _ | .closing _ | .sweeping _ | .liningUp _ => []

/-- Puts a request where it now stands. -/
def settle (t : Traffic) (ticket : Nat) : Standing → Traffic
  | .paused p => { t with paused := t.paused ++ [(ticket, p)] }.note (t.stopNotes ticket p)
  | .inLine => t
  | .answered answer => t.note [.answered ticket answer]

/-- Takes a request from where it stopped. -/
def take (t : Traffic) (ticket : Nat) : Traffic :=
  { t with paused := t.paused.filter (·.1 ≠ ticket) }

/-- A request arrives. -/
def arrive (t : Traffic) (r : Server.Request) : Traffic :=
  let t' := { t with ticket := t.ticket + 1 }.note [.arrived t.ticket r]
  t'.settle t.ticket (t.server.receive r)

/-- What there is to note of a poll that goes on, with its answer once there is one. -/
def pollNotes (s : Server) (ticket : Nat) (p : Poll) (answer : Option (Outcome Batch)) :
    List Note :=
  match s.registry.entry? p.source with
  | none => (answer.map fun a => .answered ticket (a.map .batch)).toList
  | some e =>
    (if p.phase = .queued ∧ e.holds ticket then [.turned ticket e.session] else []) ++
      match answer with
      | none => []
      | some a => [.polled ticket e.session a, .answered ticket (a.map .batch)]

/-- A request goes on. -/
def resume (t : Traffic) (ticket : Nat) : Option Traffic :=
  match t.paused.lookup ticket with
  | some p =>
    let (s, stage) := t.server.proceed ticket p
    some ({ t.take ticket with server := s }.settle ticket stage)
  | none =>
    (t.server.poll? ticket).map fun p =>
      let (s, answer) := t.server.advancePoll ticket
      { t with server := s }.note (pollNotes t.server ticket p answer)

/-- A request is given up. -/
def abort (t : Traffic) (ticket : Nat) : Option Traffic :=
  match t.paused.lookup ticket with
  | some _ => some ((t.take ticket).note [.aborted ticket])
  | none =>
    (t.server.poll? ticket).map fun _ =>
      { t with server := t.server.dropPoll ticket }.note [.aborted ticket]

/-- Lets one thing happen, if it can. -/
def step (t : Traffic) : Move → Option Traffic
  | .arrive r => if t.admits r then some (t.arrive r) else none
  | .resume ticket => t.resume ticket
  | .abort ticket => t.abort ticket
  | .publish stamp typeId payload =>
    some ({ t with server := t.server.publish stamp typeId payload }.note
      [.published (t.server.log.nextEvent stamp typeId payload)])
  | .pass nanos => some { t with server := { t.server with now := t.server.now + nanos } }

/-- Lets one thing happen after the other. -/
def run (t : Traffic) : List Move → Option Traffic
  | [] => some t
  | m :: ms => (t.step m).bind fun t' => t'.run ms

end Traffic
end EventRelay

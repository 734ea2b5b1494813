/-
# A server at work

A `Host` runs a server on a clock: it hands out fresh ids, lets polls go on whenever
something has changed for them, and sweeps on schedule.  Every answer to a poll stays
known with the instant at which it was given.

Polls that can go on at one instant do so in the order in which they arrived.
-/

import EventRelay.Server.Poll
import EventRelay.Session.Sweeper

namespace EventRelay

/-- A server on a clock. -/
structure Host where
  server : Server
  sweepers : Sweepers
  /-- Answers to polls: ticket, instant, and answer. -/
  answers : List (Nat × Nat × Outcome Batch)
  /-- The next ticket, and the next serial number of an id. -/
  ticket : Nat
  /-- The time of instant zero, in nanoseconds after the start of 1970. -/
  origin : Nat

namespace Host

/-- A host of a new server. -/
def new (config : ServerConfig) (epoch : Epoch) (origin : Nat) : Setup Host :=
  (Server.new config epoch).map fun server => ⟨server, [], [], 0, origin⟩

/-- The present time, in nanoseconds after the start of 1970. -/
def unixNow (h : Host) : Nat := h.origin + h.server.now

/-- An id that no other thing of this host has. -/
def freshUuid (h : Host) : Uuid := .ofTime (h.unixNow / 1000000) h.ticket

/-- What sets the next event apart. -/
def stamp (h : Host) : Stamp := ⟨h.freshUuid, .ofUnixNanos h.unixNow⟩

/-- The polls that go on, one after the other. -/
def advanceEach : List Nat → Host → Host
  | [], h => h
  | t :: rest, h =>
    match h.server.advancePoll t with
    | (s, none) => advanceEach rest { h with server := s }
    | (s, some answer) =>
      advanceEach rest { h with server := s, answers := h.answers ++ [(t, s.now, answer)] }

/-- Rounds of polls going on; after as many rounds as there are polls none can go on further. -/
def rounds : Nat → Host → Host
  | 0, h => h
  | n + 1, h => rounds n (advanceEach (h.server.polls.map Prod.fst) h)

/-- Lets every poll go on as far as it can at the present instant. -/
def advance (h : Host) : Host := rounds (h.server.polls.length + 1) h

/-- Sweeps as often as sweepers are due. -/
def sweepDue (h : Host) : Host :=
  { h with
    server := (List.replicate (h.sweepers.dueCount h.server.now) ()).foldl
      (fun s _ => s.sweep.1) h.server
    sweepers := h.sweepers.next h.server.now }

instance : Timeline Host where
  now h := h.server.now
  nextDue? h :=
    earlier? h.sweepers.nextDue? (earliest? (h.server.polls.filterMap fun p => Server.pollDue? p.2))
  settleAt t h := { h with server := { h.server with now := t } }.sweepDue.advance

/-- Opens a session. -/
def openSession (h : Host) (current : Option SessionId) : Host × Outcome SessionId :=
  let (s, answer) := h.server.openSession ⟨h.freshUuid⟩ current
  ({ h with server := s, ticket := h.ticket + 1 }, answer)

/-- Ends a session. -/
def closeSession (h : Host) (current : Option SessionId) : Host × Outcome Unit :=
  let (s, answer) := h.server.closeSession current
  ({ h with server := s }, answer)

/-- Adds a type to a session. -/
def subscribe (h : Host) (current : Option SessionId) (t : TypeId) : Host × Outcome Bool :=
  let (s, answer) := h.server.subscribe current t
  ({ h with server := s }, answer)

/-- Takes a type away from a session. -/
def unsubscribe (h : Host) (current : Option SessionId) (t : TypeId) : Host × Outcome Bool :=
  let (s, answer) := h.server.unsubscribe current t
  ({ h with server := s }, answer)

/-- Appends an event; says which number it got. -/
def publish (h : Host) (t : TypeId) (payload : Json.Value) : Host × Int :=
  let s := h.server.publish h.stamp t payload
  ({ h with server := s, ticket := h.ticket + 1 }, s.log.cursor)

/-- Appends events of one type; says which number the last event of the log then has. -/
def publishAll (h : Host) (t : TypeId) (payloads : List Json.Value) : Host × Int :=
  let h := payloads.foldl (fun h payload => (h.publish t payload).1) h
  (h, h.server.log.cursor)

/-- Looks a session up, which starts its idle time anew. -/
def lookup (h : Host) (current : Option SessionId) : Host × Outcome (Option Entry) :=
  match h.server.resolveNamed current with
  | .error fault => (h, .error fault)
  | .ok source =>
    let (r, answer) := h.server.registry.lookup h.server.now source
    ({ h with server := h.server.withRegistry r }, answer.map fun _ => r.entry? source)

/-- Ends the sessions that have been idle for too long; says how many. -/
def sweep (h : Host) : Host × Nat :=
  let (s, n) := h.server.sweep
  ({ h with server := s }, n)

/-- A poll arrives; its answer will be found under its ticket. -/
def poll (h : Host) (current : Option SessionId) : Host × Nat :=
  let ticket := h.ticket
  match h.server.beginPoll ticket current with
  | (s, .error fault) =>
    ({ h with
        server := s
        ticket := ticket + 1
        answers := h.answers ++ [(ticket, s.now, .error fault)] }, ticket)
  | (s, .ok ()) => ({ h with server := s, ticket := ticket + 1 }, ticket)

/-- A poll is given up. -/
def cancel (h : Host) (ticket : Nat) : Host :=
  { h with server := h.server.dropPoll ticket }

/-- The answer to a poll, and when it was given. -/
def answer? (h : Host) (ticket : Nat) : Option (Nat × Outcome Batch) := h.answers.lookup ticket

/-- Starts a sweeper; it is found under its number. -/
def startSweeper (h : Host) (interval : Duration) : Host × Nat :=
  ({ h with
      sweepers := h.sweepers ++ [(h.ticket, .start h.server.now interval)]
      ticket := h.ticket + 1 }, h.ticket)

/-- Stops a sweeper. -/
def stopSweeper (h : Host) (number : Nat) : Host × Outcome Unit :=
  let (ss, answer) := h.sweepers.stop number
  ({ h with sweepers := ss }, answer)

end Host
end EventRelay

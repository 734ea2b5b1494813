/-
# Clients linked to a server

A link joins clients to the server that stands at its other end.  While it is down, calls
are refused.  When it changes, because it goes down, comes up, or leads to a new server,
the calls that are out are lost: the clients are told so, and the server gives them up.

All calls but the poll are answered at once.
-/

import EventRelay.Client.Surroundings
import EventRelay.Server.Host

namespace EventRelay

/-- A server and the way to it. -/
structure Link where
  host : Host
  isUp : Bool
  /-- Polls that are out: the ticket at the server, and that of the task. -/
  polls : List (Nat × Nat)
  /-- Tasks whose calls were lost. -/
  lost : List Nat
  /-- Pauses: when each ends, and the ticket of its task. -/
  pauses : List (Nat × Nat)

namespace Link

/-- A link to a server. -/
def new (host : Host) : Link := ⟨host, true, [], [], []⟩

/-- The failure of a call while the link is down. -/
def refused : Fault := .transient "connection refused"

/-- The failure of a call that is out when the link changes. -/
def reset : Fault := .transient "connection reset"

/-- A task makes a call. -/
def call (l : Link) (ticket : Nat) (c : Call) : Link × Option c.Answer :=
  if l.isUp then
    match c with
    | .openSession current =>
      let (host, answer) := l.host.openSession current
      ({ l with host }, some answer)
    | .closeSession session =>
      let (host, answer) := l.host.closeSession (some session)
      ({ l with host }, some answer)
    | .subscribe session t =>
      let (host, answer) := l.host.subscribe (some session) t
      ({ l with host }, some answer)
    | .unsubscribe session t =>
      let (host, answer) := l.host.unsubscribe (some session) t
      ({ l with host }, some answer)
    | .poll session =>
      let (host, number) := l.host.poll (some session)
      ({ l with host, polls := l.polls ++ [(number, ticket)] }, none)
    | .publish t payload =>
      let (host, sequence) := l.host.publish t payload
      ({ l with host }, some (.ok sequence))
    | .probe f => (l, some (l.host.server.probe f))
  else (l, some (.error refused))

/-- A task gives up what it waits for; the server gives up its poll. -/
def cancel (l : Link) (ticket : Nat) : Link :=
  let mine := l.polls.filter (·.2 = ticket)
  { l with
    host := mine.foldl (fun host p => host.cancel p.1) l.host
    polls := l.polls.filter (·.2 ≠ ticket)
    lost := l.lost.filter (· ≠ ticket)
    pauses := l.pauses.filter (·.2 ≠ ticket) }

/-- All calls that are out are lost. -/
def cut (l : Link) : Link :=
  { l with
    host := l.polls.foldl (fun host p => host.cancel p.1) l.host
    polls := []
    lost := l.lost ++ l.polls.map Prod.snd }

/-- The link goes down. -/
def down (l : Link) : Link := { l.cut with isUp := false }

/-- The link comes up. -/
def up (l : Link) : Link := { l.cut with isUp := true }

/-- The link leads to a new server, whose clock goes on and which shares no id with the one
before. -/
def restart (l : Link) (host : Host) : Link :=
  let host :=
    { host with ticket := l.host.ticket, server := { host.server with now := l.host.server.now } }
  { l.cut with host, isUp := true }

/-- The answer to some call that is a poll. -/
def pollAnswer (answer : Outcome Batch) : (c : Call) → c.Answer
  | .poll _ => answer
  | .openSession _ | .closeSession _ | .subscribe _ _ | .unsubscribe _ _ | .publish _ _
  | .probe _ => .error reset

/-- The first poll that has been answered: its number at the server, its task, the answer. -/
def answered? (l : Link) : Option (Nat × Nat × Outcome Batch) :=
  l.polls.findSome? fun (number, ticket) =>
    (l.host.answer? number).map fun (_, answer) => (number, ticket, answer)

/-- The next happening of the present instant. -/
def next? (l : Link) : Option (Nat × Happening × Link) :=
  match l.lost with
  | ticket :: rest => some (ticket, .answered fun _ => .error reset, { l with lost := rest })
  | [] =>
    match l.answered? with
    | some (number, ticket, answer) =>
      some (ticket, .answered (pollAnswer answer),
        { l with polls := l.polls.filter (·.1 ≠ number) })
    | none =>
      match l.pauses.find? fun p => p.1 ≤ l.host.server.now with
      | some (_, ticket) =>
        some (ticket, .pauseOver, { l with pauses := l.pauses.filter (·.2 ≠ ticket) })
      | none => none

instance : Surroundings Link where
  now l := l.host.server.now
  call := call
  pause l ticket pause :=
    { l with pauses := l.pauses ++ [(l.host.server.now + pause.nanos, ticket)] }
  cancel := cancel
  next? := next?
  nextDue? l := earlier? (Timeline.nextDue? l.host) (earliest? (l.pauses.map Prod.fst))
  advance t l := { l with host := Timeline.settleAt t l.host }

end Link
end EventRelay

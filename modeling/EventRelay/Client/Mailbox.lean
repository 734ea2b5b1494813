/-
# Calls that somebody else carries

A mailbox is what a client works in when its calls go out into the world.  Calls wait in
it until they are fetched, the oldest one first, and answers are put in whenever they
come.  The clock moves on only when it is told to.
-/

import EventRelay.Client.Surroundings
import EventRelay.Timeline

namespace EventRelay

/-- Calls, answers and pauses, each for the ticket of a task. -/
structure Mailbox where
  now : Nat
  /-- Calls that nobody has fetched yet. -/
  outgoing : List (Nat × Call)
  /-- Answers that the tasks have not taken yet. -/
  incoming : List (Nat × ((c : Call) → c.Answer))
  /-- Pauses: when each ends, and the ticket of its task. -/
  pauses : List (Nat × Nat)

namespace Mailbox

/-- A mailbox with nothing in it. -/
def new : Mailbox := ⟨0, [], [], []⟩

/-- The call to be carried next. -/
def fetch? (m : Mailbox) : Option (Nat × Call × Mailbox) :=
  match m.outgoing with
  | [] => none
  | (ticket, c) :: rest => some (ticket, c, { m with outgoing := rest })

/-- Puts the answer of a task's call in. -/
def put (m : Mailbox) (ticket : Nat) (answer : (c : Call) → c.Answer) : Mailbox :=
  { m with incoming := m.incoming ++ [(ticket, answer)] }

/-- A task gives up what it waits for. -/
def cancel (m : Mailbox) (ticket : Nat) : Mailbox :=
  { m with
    outgoing := m.outgoing.filter (·.1 ≠ ticket)
    incoming := m.incoming.filter (·.1 ≠ ticket)
    pauses := m.pauses.filter (·.2 ≠ ticket) }

/-- The next happening of the present instant: answers first, then the ends of pauses. -/
def next? (m : Mailbox) : Option (Nat × Happening × Mailbox) :=
  match m.incoming with
  | (ticket, answer) :: rest => some (ticket, .answered answer, { m with incoming := rest })
  | [] =>
    (m.pauses.find? fun p => p.1 ≤ m.now).map fun (_, ticket) =>
      (ticket, .pauseOver, { m with pauses := m.pauses.filter (·.2 ≠ ticket) })

instance : Surroundings Mailbox where
  now := Mailbox.now
  call m ticket c := ({ m with outgoing := m.outgoing ++ [(ticket, c)] }, none)
  pause m ticket pause := { m with pauses := m.pauses ++ [(m.now + pause.nanos, ticket)] }
  cancel := cancel
  next? := next?
  nextDue? m := earliest? (m.pauses.map Prod.fst)
  advance t m := { m with now := t }

end Mailbox
end EventRelay

/-
# A log with waiting readers

The log, a clock, and readers that wait for events.  A reader is let go when the clock
next settles after its time has come, so that it finds all that was published at one
instant; what each reader was given, and when, stays known.
-/

import EventRelay.Log.Wait
import EventRelay.Timeline

namespace EventRelay

/-- A log and those who wait at it. -/
structure Readers where
  log : Log
  now : Nat
  /-- Readers that wait, with the ticket each was given. -/
  waiting : List (Nat × Wait)
  /-- Readers that were let go: ticket, instant, and what they were given. -/
  finished : List (Nat × Nat × Outcome Drain)
  /-- The next ticket. -/
  ticket : Nat

namespace Readers

/-- A log at which nobody waits yet. -/
def new (capacity : Nat) : Setup Readers :=
  (Log.new capacity).map fun log => ⟨log, 0, [], [], 0⟩

/-- Lets everyone go whose time has come. -/
def release (r : Readers) : Readers :=
  let moved := r.waiting.map fun (t, w) => (t, w, w.advance r.now r.log.cursor)
  { r with
    waiting := moved.filterMap fun (t, _, w') => w'.map fun w' => (t, w')
    finished := r.finished ++ moved.filterMap fun (t, w, w') =>
      if w'.isNone then some (t, r.now, r.log.drain w.target) else none }

/-- Appends an event. -/
def publish (r : Readers) (stamp : Stamp) (typeId : TypeId) (payload : Json.Value) : Readers :=
  { r with log := r.log.publish stamp typeId payload }

/-- A new reader from event `start` on.  One that is too far behind is told so at once. -/
def wait (r : Readers) (start : Int) (minWait maxWait : Duration) : Readers × Nat :=
  let next := { r with ticket := r.ticket + 1 }
  match r.log.ensureRetained (Log.before start) with
  | .error fault =>
    ({ next with finished := r.finished ++ [(r.ticket, r.now, .error fault)] }, r.ticket)
  | .ok () =>
    let w := Wait.start r.now start minWait maxWait
    ({ next with waiting := r.waiting ++ [(r.ticket, w)] }, r.ticket)

/-- A reader gives up. -/
def cancel (r : Readers) (ticket : Nat) : Readers :=
  { r with waiting := r.waiting.filter fun p => p.1 ≠ ticket }

/-- What a reader was given, and when. -/
def result? (r : Readers) (ticket : Nat) : Option (Nat × Outcome Drain) :=
  r.finished.lookup ticket

instance : Timeline Readers where
  now := Readers.now
  nextDue? r := earliest? (r.waiting.map fun p => p.2.due)
  settleAt t r := { r with now := t }.release

end Readers
end EventRelay

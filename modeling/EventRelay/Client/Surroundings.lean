/-
# What a client works in

Tasks of a client wait for two things: answers to calls, and the end of pauses.
`Surroundings` provides both, with a clock.  A call may be answered at once or later; a
later answer and the end of a pause come as happenings, one after the other, each for the
ticket of the task that waits.
-/

import EventRelay.Client.Call
import EventRelay.Duration

namespace EventRelay

/-- Something that a task has waited for. -/
inductive Happening where
  /-- The answer to whatever call the task has out. -/
  | answered (answer : (c : Call) → c.Answer)
  | pauseOver

/-- Servers and clocks that the tasks of clients can wait for. -/
class Surroundings (ε : Type) where
  /-- The present instant. -/
  now : ε → Nat
  /-- A task makes a call; the answer, if it comes at once. -/
  call : ε → (ticket : Nat) → (c : Call) → ε × Option c.Answer
  /-- A task begins a pause. -/
  pause : ε → (ticket : Nat) → Duration → ε
  /-- A task gives up what it waits for. -/
  cancel : ε → (ticket : Nat) → ε
  /-- The next happening of the present instant, and whom it is for. -/
  next? : ε → Option (Nat × Happening × ε)
  /-- The next instant at which something can happen. -/
  nextDue? : ε → Option Nat
  /-- The clock stands at an instant, and what does not need a task happens. -/
  advance : Nat → ε → ε

end EventRelay

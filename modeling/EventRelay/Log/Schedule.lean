/-
# Schedules for a log with waiting readers

What happens to a log and its readers, one thing after the other, with the clock in between:

| move | what happens |
| --- | --- |
| `publish` | an event is appended |
| `wait`, `cancel` | a reader comes, or gives up |
| `settle` | everyone goes whose time has come |
| `pass` | time passes, and then everyone goes whose time has come |

Any number of things may happen at one instant, in any order.  Time passes only while everyone has
to wait, and not past the next instant at which somebody is due.
-/

import EventRelay.Log.Readers

namespace EventRelay
namespace Readers

/-- One thing that can happen next. -/
inductive Move where
  | publish (stamp : Stamp) (typeId : TypeId) (payload : Json.Value)
  | wait (start : Int) (minWait maxWait : Duration)
  | cancel (ticket : Nat)
  | settle
  | pass (nanos : Nat)

/-- Whether everyone who waits has to wait on. -/
def AtRest (r : Readers) : Prop := ∀ p ∈ r.waiting, p.2.advance r.now r.log.cursor = some p.2

/-- Whether nobody is due before an instant. -/
def NobodyDueBefore (r : Readers) (instant : Nat) : Prop := ∀ p ∈ r.waiting, instant ≤ p.2.due

instance (r : Readers) : Decidable r.AtRest :=
  inferInstanceAs (Decidable (∀ p ∈ r.waiting, p.2.advance r.now r.log.cursor = some p.2))

instance (r : Readers) (instant : Nat) : Decidable (r.NobodyDueBefore instant) :=
  inferInstanceAs (Decidable (∀ p ∈ r.waiting, instant ≤ p.2.due))

/-- Lets one thing happen, if it can. -/
def step (r : Readers) : Move → Option Readers
  | .publish stamp typeId payload => some (r.publish stamp typeId payload)
  | .wait start minWait maxWait => some (r.wait start minWait maxWait).1
  | .cancel ticket => some (r.cancel ticket)
  | .settle => some (Timeline.settle r)
  | .pass nanos =>
    if r.AtRest ∧ r.NobodyDueBefore (r.now + nanos) then
      some (Timeline.settleAt (r.now + nanos) r)
    else none

/-- Lets one thing happen after the other. -/
def run (r : Readers) : List Move → Option Readers
  | [] => some r
  | m :: ms => (r.step m).bind fun r' => r'.run ms

/-- The first instant in a run at which event `target` is there. -/
def arrival? (r : Readers) (target : Int) : List Move → Option Nat
  | [] => if target ≤ r.log.cursor then some r.now else none
  | m :: ms =>
    if target ≤ r.log.cursor then some r.now
    else (r.step m).bind fun r' => r'.arrival? target ms

end Readers
end EventRelay

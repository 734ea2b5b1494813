/-
# Waiting for events in two stages

A reader that waits for event `target` is let go at one of three times:

| the event is there | the reader goes |
| --- | --- |
| within the first stage | at the end of the stage, so that a burst comes as one batch |
| within the second stage | at once |
| in neither | at the end of the second stage |

The first stage ends `minWait` after the call and the second `maxWait` after the call,
or with the first if that is later.  Clocks count nanoseconds.
-/

import EventRelay.Duration
import EventRelay.Log.Basic

namespace EventRelay

/-- Where a waiting reader stands. -/
inductive WaitStage where
  /-- First stage; the event is not there. -/
  | gathering
  /-- First stage; the event is there. -/
  | coalescing
  /-- Second stage; the event is not there. -/
  | lingering
  deriving DecidableEq, Repr

/-- A reader that waits for an event. -/
structure Wait where
  target : Int
  /-- The end of the first stage. -/
  minDue : Nat
  /-- The end of the second stage. -/
  maxDue : Nat
  stage : WaitStage
  deriving DecidableEq, Repr

namespace Wait

/-- A reader that starts to wait. -/
def start (now : Nat) (target : Int) (minWait maxWait : Duration) : Wait where
  target := target
  minDue := now + minWait.nanos
  maxDue := now + max maxWait.nanos minWait.nanos
  stage := .gathering

/-- The end of the stage that a reader is in. -/
def due (w : Wait) : Nat :=
  match w.stage with
  | .gathering | .coalescing => w.minDue
  | .lingering => w.maxDue

/-- A reader in the second stage, `none` once it is let go. -/
def linger (w : Wait) (now : Nat) (head : Int) : Option Wait :=
  if w.target ≤ head ∨ w.maxDue ≤ now then none else some { w with stage := .lingering }

/-- Where a reader stands at an instant with `head` the last event; `none` once it is let go. -/
def advance (w : Wait) (now : Nat) (head : Int) : Option Wait :=
  match w.stage with
  | .gathering =>
    if w.target ≤ head then
      if w.minDue ≤ now then none else some { w with stage := .coalescing }
    else if w.minDue ≤ now then w.linger now head
    else some w
  | .coalescing => if w.minDue ≤ now then none else some w
  | .lingering => w.linger now head

theorem start_minDue_le_maxDue (now : Nat) (target : Int) (minWait maxWait : Duration) :
    (start now target minWait maxWait).minDue ≤ (start now target minWait maxWait).maxDue := by
  simp only [start]; omega

/-- Waiting changes neither what is waited for nor until when. -/
theorem advance_keeps {w w' : Wait} {now : Nat} {head : Int} (h : w.advance now head = some w') :
    w'.target = w.target ∧ w'.minDue = w.minDue ∧ w'.maxDue = w.maxDue := by
  unfold advance linger at h
  repeat' split at h
  all_goals cases h <;> exact ⟨rfl, rfl, rfl⟩

/-- A reader that waits on is not overdue. -/
theorem due_gt_of_advance {w w' : Wait} {now : Nat} {head : Int}
    (h : w.advance now head = some w') : now < w'.due := by
  unfold advance linger at h
  repeat' split at h
  all_goals cases h <;> simp_all [due]

/-- The second stage begins when the first is over. -/
theorem over_of_lingering {w w' : Wait} {now : Nat} {head : Int}
    (h : w.advance now head = some w') (hstage : w'.stage = .lingering)
    (hbefore : w.stage = .lingering → w.minDue ≤ now) : w.minDue ≤ now := by
  unfold advance linger at h
  cases hstage : w.stage <;> simp only [hstage] at h <;> grind

/-- When a reader goes whose event is there. -/
theorem isNone_advance {w : Wait} {now : Nat} {head : Int} (hthere : w.target ≤ head) :
    (w.advance now head).isNone = true ↔ w.stage = .lingering ∨ w.minDue ≤ now := by
  unfold advance linger
  cases hstage : w.stage <;> grind

/-- Whoever waits on at an instant has to wait on. -/
theorem advance_advance {w w' : Wait} {now : Nat} {head : Int}
    (h : w.advance now head = some w') : w'.advance now head = some w' := by
  unfold advance linger at h
  cases hstage : w.stage <;> simp only [hstage] at h <;> grind [advance, linger]

end Wait
end EventRelay

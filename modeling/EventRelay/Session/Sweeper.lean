/-
# Sweeping on schedule

A sweeper ends idle sessions at regular intervals, the first time one interval after it
was started, until it is stopped.  A `Desk` is a registry with a clock, its sweepers, and
those who queue up for the turn of a session.
-/

import EventRelay.Session.Registry
import EventRelay.Timeline

namespace EventRelay

/-- Something that happens at regular intervals. -/
structure Sweeper where
  interval : Duration
  /-- When it happens next. -/
  due : Nat
  deriving DecidableEq, Repr

namespace Sweeper

/-- A sweeper started now. -/
def start (now : Nat) (interval : Duration) : Sweeper := ⟨interval, now + interval.nanos⟩

/-- A sweeper once it has had its time. -/
def next (s : Sweeper) (now : Nat) : Sweeper :=
  if s.due ≤ now then { s with due := now + s.interval.nanos } else s

/-- The failure of stopping a sweeper that has stopped already. -/
def stopped : Fault := .internal "Failed to send sweeper shutdown signal"

end Sweeper

/-- Sweepers that run, each under its number. -/
abbrev Sweepers := List (Nat × Sweeper)

namespace Sweepers

/-- How many sweepers have their time now. -/
def dueCount (ss : Sweepers) (now : Nat) : Nat := ss.countP fun s => s.2.due ≤ now

/-- The sweepers after those that are due have had their time. -/
def next (ss : Sweepers) (now : Nat) : Sweepers := ss.map fun (n, s) => (n, s.next now)

/-- When a sweeper is due next. -/
def nextDue? (ss : Sweepers) : Option Nat := earliest? (ss.map fun s => s.2.due)

/-- Stops a sweeper, unless it has stopped already. -/
def stop (ss : Sweepers) (number : Nat) : Sweepers × Outcome Unit :=
  if ss.any (·.1 = number) then (ss.filter (·.1 ≠ number), .ok ()) else (ss, .error Sweeper.stopped)

end Sweepers

/-- A registry with a clock. -/
structure Desk where
  registry : Registry
  now : Nat
  sweepers : Sweepers
  /-- Who waits for the turn of a session: ticket and session. -/
  waiting : List (Nat × SourceId)
  /-- Who got a turn, and when. -/
  granted : List (Nat × Nat)
  /-- The next ticket, and the next number of a sweeper or session. -/
  ticket : Nat

namespace Desk

/-- A desk at a registry without sessions. -/
def new (ttl : Duration) : Desk := ⟨.new ttl, 0, [], [], [], 0⟩

/-- Sweeps as often as sweepers are due. -/
def sweepDue (d : Desk) : Desk :=
  { d with
    registry := (List.replicate (d.sweepers.dueCount d.now) ()).foldl
      (fun r _ => (r.sweep d.now).1) d.registry
    sweepers := d.sweepers.next d.now }

/-- Notes who has the turn by now. -/
def grant (d : Desk) : Desk :=
  let got := d.waiting.filter fun (t, s) => d.registry.holds s t
  { d with
    waiting := d.waiting.filter fun (t, s) => !d.registry.holds s t
    granted := d.granted ++ got.map fun (t, _) => (t, d.now) }

/-- Puts a changed registry in place. -/
def withRegistry (d : Desk) (r : Registry) : Desk := { d with registry := r }

/-- Opens a session that starts after event `start`. -/
def openSession (d : Desk) (start : Int) : Desk :=
  let fresh : SourceId := ⟨.ofTime (d.now / 1000000) d.ticket⟩
  { d.withRegistry (d.registry.create d.now fresh start) with ticket := d.ticket + 1 }

/-- Starts a sweeper; it is found under its number. -/
def startSweeper (d : Desk) (interval : Duration) : Desk × Nat :=
  ({ d with
      sweepers := d.sweepers ++ [(d.ticket, .start d.now interval)]
      ticket := d.ticket + 1 }, d.ticket)

/-- Stops a sweeper. -/
def stopSweeper (d : Desk) (number : Nat) : Desk × Outcome Unit :=
  let (ss, answer) := d.sweepers.stop number
  ({ d with sweepers := ss }, answer)

/-- Queues up for the turn of a session. -/
def lock (d : Desk) (s : SourceId) : Desk × Nat :=
  ({ d with
      registry := d.registry.enqueue s d.ticket
      waiting := d.waiting ++ [(d.ticket, s)]
      ticket := d.ticket + 1 }, d.ticket)

/-- Gives a turn back, or stops waiting for one. -/
def unlock (d : Desk) (s : SourceId) (ticket : Nat) : Desk :=
  { d with
    registry := d.registry.release s ticket
    waiting := d.waiting.filter fun p => p.1 ≠ ticket }

instance : Timeline Desk where
  now := Desk.now
  nextDue? d := d.sweepers.nextDue?
  settleAt t d := { d with now := t }.sweepDue.grant

end Desk
end EventRelay

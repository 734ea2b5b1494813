/-
# A server that follows a script

For trying clients out there is a server whose every answer was written down before.  A
call takes the next cue of its kind and is answered at once or after the cue's delay;
when the cues have run out, calls succeed, except that polls may be left without an
answer for ever.  The server notes every call and when it came.

Sessions are numbered.  A cue that names none grants the one after the highest that was
granted so far, as of when the answer is given.
-/

import EventRelay.Client.Surroundings
import EventRelay.Timeline

namespace EventRelay

/-- An answer that was written down; `none` is the one that a call gets by default. -/
structure Cue (α : Type) where
  delay : Option Duration
  answer : Outcome (Option α)

/-- Cues for each kind of call, the first one to be taken first. -/
structure Script where
  openSession : List (Cue Nat)
  closeSession : List (Cue Unit)
  subscribe : List (Cue Bool)
  unsubscribe : List (Cue Bool)
  poll : List (Cue Batch)
  publish : List (Cue Int)
  probe : List (Cue Unit)
  /-- Whether polls without a cue get an empty batch. -/
  pollsEndEmpty : Bool

/-- An answer that is on its way, by the kind of its call. -/
inductive Line where
  | openSession (answer : Outcome (Option Nat))
  | closeSession (answer : Outcome (Option Unit))
  | subscribe (answer : Outcome (Option Bool))
  | unsubscribe (answer : Outcome (Option Bool))
  | poll (answer : Outcome (Option Batch))
  | publish (answer : Outcome (Option Int))
  | probe (answer : Outcome (Option Unit))

/-- What a ticket waits for: a line, or the end of a pause. -/
structure Alarm where
  due : Nat
  ticket : Nat
  line : Option Line

/-- A server with a script, and a clock. -/
structure Stage where
  script : Script
  now : Nat
  /-- The calls so far, each with its instant. -/
  calls : List (Nat × Call)
  /-- What tasks wait for, in the order in which they began to wait. -/
  alarms : List Alarm
  /-- The number of the session that is granted next unless a cue names another one. -/
  nextSession : Nat

namespace Script

/-- The id of a numbered session. -/
def sessionId (n : Nat) : SessionId where
  epoch := .ofNat 1
  source := ⟨⟨(0x7000 <<< 64 + 0x8000 <<< 48 + n) % 1 <<< 128, Nat.mod_lt _ (by decide)⟩⟩

/-- The batch of a poll without a cue. -/
def emptyBatch : Batch := ⟨[], -1⟩

/-- The first cue, or one that answers at once and by default. -/
def takeCue {α : Type} : List (Cue α) → Cue α × List (Cue α)
  | [] => (⟨none, .ok none⟩, [])
  | cue :: rest => (cue, rest)

/-- Takes the cue of a call: its delay and its line.  A poll may have none. -/
def take (s : Script) : Call → Script × Option (Option Duration × Line)
  | .openSession _ =>
    let (cue, rest) := takeCue s.openSession
    ({ s with openSession := rest }, some (cue.delay, .openSession cue.answer))
  | .closeSession _ =>
    let (cue, rest) := takeCue s.closeSession
    ({ s with closeSession := rest }, some (cue.delay, .closeSession cue.answer))
  | .subscribe _ _ =>
    let (cue, rest) := takeCue s.subscribe
    ({ s with subscribe := rest }, some (cue.delay, .subscribe cue.answer))
  | .unsubscribe _ _ =>
    let (cue, rest) := takeCue s.unsubscribe
    ({ s with unsubscribe := rest }, some (cue.delay, .unsubscribe cue.answer))
  | .poll _ =>
    if s.poll.isEmpty && !s.pollsEndEmpty then (s, none)
    else
      let (cue, rest) := takeCue s.poll
      ({ s with poll := rest }, some (cue.delay, .poll cue.answer))
  | .publish _ _ =>
    let (cue, rest) := takeCue s.publish
    ({ s with publish := rest }, some (cue.delay, .publish cue.answer))
  | .probe _ =>
    let (cue, rest) := takeCue s.probe
    ({ s with probe := rest }, some (cue.delay, .probe cue.answer))

end Script

namespace Line

/-- The failure of a line that is spoken to another kind of call. -/
def misplaced : Fault := .internal "line of another call"

/-- The answer that a line gives to a call, with the number of the next session. -/
def answer (nextSession : Nat) (l : Line) : (c : Call) → c.Answer
  | .openSession _ =>
    match l with
    | .openSession a => a.map fun n => Script.sessionId (n.getD nextSession)
    | _ => .error misplaced
  | .closeSession _ =>
    match l with
    | .closeSession a => a.map fun _ => ()
    | _ => .error misplaced
  | .subscribe _ _ =>
    match l with
    | .subscribe a => a.map (·.getD true)
    | _ => .error misplaced
  | .unsubscribe _ _ =>
    match l with
    | .unsubscribe a => a.map (·.getD true)
    | _ => .error misplaced
  | .poll _ =>
    match l with
    | .poll a => a.map (·.getD Script.emptyBatch)
    | _ => .error misplaced
  | .publish _ _ =>
    match l with
    | .publish a => a.map (·.getD 0)
    | _ => .error misplaced
  | .probe _ =>
    match l with
    | .probe a => a.map fun _ => ()
    | _ => .error misplaced

/-- The number of the next session once a line was spoken. -/
def nextSession (next : Nat) : Line → Nat
  | .openSession (.ok n) => max next (n.getD next + 1)
  | _ => next

end Line

namespace Stage

/-- A stage on which nothing has happened. -/
def new (script : Script) : Stage := ⟨script, 0, [], [], 0⟩

/-- Speaks a line. -/
def speak (s : Stage) (l : Line) : Stage × ((c : Call) → c.Answer) :=
  ({ s with nextSession := l.nextSession s.nextSession }, l.answer s.nextSession)

/-- Notes a call and takes its cue. -/
def call (s : Stage) (ticket : Nat) (c : Call) : Stage × Option c.Answer :=
  let (script, cue) := s.script.take c
  let s := { s with script, calls := s.calls ++ [(s.now, c)] }
  match cue with
  | none => (s, none)
  | some (some delay, line) =>
    ({ s with alarms := s.alarms ++ [⟨s.now + delay.nanos, ticket, some line⟩] }, none)
  | some (none, line) =>
    let (s, answer) := s.speak line
    (s, some (answer c))

/-- The first alarm of the present instant, and the others. -/
def ring? (s : Stage) : Option (Alarm × Stage) :=
  match s.alarms.find? fun a => a.due ≤ s.now with
  | none => none
  | some a => some (a, { s with alarms := s.alarms.filter (·.ticket ≠ a.ticket) })

instance : Surroundings Stage where
  now := Stage.now
  call := call
  pause s ticket pause :=
    { s with alarms := s.alarms ++ [⟨s.now + pause.nanos, ticket, none⟩] }
  cancel s ticket := { s with alarms := s.alarms.filter (·.ticket ≠ ticket) }
  next? s := do
    let (a, s) ← s.ring?
    match a.line with
    | none => return (a.ticket, .pauseOver, s)
    | some line =>
      let (s, answer) := s.speak line
      return (a.ticket, .answered answer, s)
  nextDue? s := earliest? (s.alarms.map Alarm.due)
  advance t s := { s with now := t }

end Stage
end EventRelay

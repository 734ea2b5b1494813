/-
# The controller

A controller keeps a bus connected: it runs one errand after the other on the bus and
lets the rules of `Connection` decide what follows.  It has one thing under way at a
time, a pause or an operation, and gives that up when it is stopped.

Entering a decision comes in this order: the new state is shown, a session that is no
longer wanted is dropped, and then the listeners are told.
-/

import EventRelay.Client.Bus
import EventRelay.Client.Connection
import EventRelay.Config.Defaults
import EventRelay.Feed

namespace EventRelay

/-- What a controller has under way. -/
inductive Activity where
  /-- The next errand can begin. -/
  | ready (errand : Errand)
  /-- The errand begins after a pause. -/
  | pausing (pause : Duration) (errand : Errand)
  /-- The errand waits for the answer of a call. -/
  | calling (errand : Errand) (p : Pending)
  | stopped

/-- A controller of a bus. -/
structure Controller where
  connection : Connection
  /-- The state that is shown. -/
  shown : ConnectionState
  changes : Feed ConnectionChange
  activity : Activity

namespace Errand

/-- The operation of an errand. -/
def operation : Errand → Operation
  | openSession => .newSession
  | poll => .poll
  | probe => .probe

/-- What is reported of an errand; a deployment that is found lets the session held go on. -/
def report (b : Bus) : Errand → Outcome Success → Bus × Report
  | openSession, .ok _ => (b, .sessionOpened)
  | openSession, .error fault => (b, .sessionFailed fault.kind)
  | poll, .ok _ => (b, .polled)
  | poll, .error fault => (b, .pollFailed fault.kind)
  | probe, .ok _ =>
    match b.resumeSession with
    | (b, .ok _) => (b, .probed true)
    | (b, .error _) => (b, .probed false)
  | probe, .error fault => (b, .probeFailed fault.kind)

theorem report_errand (b : Bus) (e : Errand) (r : Outcome Success) :
    (e.report b r).2.errand = e := by
  cases e <;> cases r <;> first | rfl | (simp only [report]; split <;> rfl)

end Errand

namespace Controller

/-- Carries a decision out, up to the errand it names. -/
def enter (c : Controller) (b : Bus) (d : Decision) : Controller × Bus :=
  let changes :=
    match d.notify with
    | some change => c.changes.send change
    | none => c.changes
  let activity :=
    match d.pause with
    | some pause => .pausing pause d.errand
    | none => .ready d.errand
  ({ c with shown := d.state, changes, activity },
    if d.state = .awaitingNewSession then b.dropSession.1 else b)

/-- A controller that starts on a bus. -/
def new (retryDelay : Duration) (b : Bus) : Controller × Bus :=
  let (connection, d) := (Connection.new retryDelay).start
  enter ⟨connection, .disconnected, .new Defaults.sessionChangeCapacity, .stopped⟩ b d

/-- An errand is over. -/
def finish (c : Controller) (b : Bus) (errand : Errand) (result : Outcome Success) :
    Controller × Bus :=
  let (b, report) := errand.report b result
  let (connection, d) := c.connection.handle report
  enter { c with connection } b d

/-- Takes over a turn of an errand's operation: a call is out, or the errand is over. -/
def adopt (c : Controller) (errand : Errand) (turn : Turn) : Controller × Bus :=
  match turn.progress with
  | .waiting p => ({ c with activity := .calling errand p }, turn.bus)
  | .finished result => c.finish turn.bus errand result

/-- Whether a controller has stopped. -/
def isStopped (c : Controller) : Bool :=
  match c.activity with
  | .stopped => true
  | _ => false

/-- The failure of stopping a controller that has stopped already. -/
def stoppedFault : Fault := .internal "Failed to send controller shutdown signal"

/-- Stops a controller; what it has under way is given up. -/
def stop (c : Controller) : Controller × Outcome Unit :=
  if c.isStopped then (c, .error stoppedFault)
  else ({ c with shown := .disconnected, activity := .stopped }, .ok ())

end Controller
end EventRelay

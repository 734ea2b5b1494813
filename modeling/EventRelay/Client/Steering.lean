/-
# A bus whose session one controller sees to

The session of a bus is in the hands of one controller, and the service answers its calls as it
likes.  Users add and remove handlers meanwhile.  `Steering.step` lets one thing happen:

| move | what happens |
| --- | --- |
| `add`, `remove`, `tidy` | a user adds a handler, removes one, or changes the setting |
| `reply`, `leave` | a user's call is answered, or the user waits no longer |
| `begin` | the controller begins its errand |
| `hear` | the controller's call is answered |
| `stop` | the controller is stopped |

The notes say in order which sessions were granted, which polls went out, and what each errand
came to; nothing that happens depends on them.
-/

import EventRelay.Client.Controller

namespace EventRelay

/-- Something that the controller has done. -/
inductive Steering.Note where
  /-- The service has granted a session. -/
  | granted (id : SessionId)
  /-- A poll goes out. -/
  | polled (id : SessionId)
  /-- An errand is over: what is reported of it and the session that is held then, what the
  listeners are told, and the session that is kept. -/
  | reported (report : Report) (held : Option SessionId) (told : Option ConnectionChange)
      (kept : Option SessionId)
  deriving DecidableEq

/-- A bus with its one controller and its users. -/
structure Steering where
  bus : Bus
  controller : Controller
  /-- Operations of users that wait for an answer, by number. -/
  users : List (Nat × Pending)
  /-- The number of the next operation of a user. -/
  number : Nat
  /-- What the controller has done, the first thing first. -/
  notes : List Steering.Note

namespace Steering

/-- One thing that can happen next. -/
inductive Move where
  | add (typeId : TypeId) (recipient : String)
  | remove (typeId : TypeId) (id : Nat)
  /-- Sets whether the last handler of a type unsubscribes. -/
  | tidy (enabled : Bool)
  /-- The call of a user is answered, whichever that is. -/
  | reply (number : Nat) (answer : (c : Call) → c.Answer)
  /-- A user waits no longer. -/
  | leave (number : Nat)
  /-- The controller begins its errand. -/
  | begin
  /-- The call of the controller is answered, whichever that is. -/
  | hear (answer : (c : Call) → c.Answer)
  | stop

/-- What there is to note of an answer. -/
def grants : (p : Pending) → p.call.Answer → List Note
  | .opening, answer =>
    match answer with
    | .ok id => [.granted id]
    | .error _ => []
  | .subscribing _ _ _ _, _ | .abandoning _ _, _ | .closing _, _ | .adding _ _ _, _
  | .removing _ _, _ | .polling _ _, _ | .probing _, _ | .publishing _ _, _ => []

/-- What there is to note of a turn of an errand's operation. -/
def notesOf (c : Controller) (errand : Errand) (turn : Turn) : List Note :=
  match turn.progress with
  | .waiting (.polling id _) => [.polled id]
  | .waiting _ => []
  | .finished result =>
    let report := (errand.report turn.bus result).2
    [.reported report turn.bus.session (c.connection.handle report).2.notify
      (c.finish turn.bus errand result).2.session]

/-- A controller that is about to open its first session. -/
def new (fingerprint : Fingerprint) (keys : KeyOrder) (retryDelay : Duration) : Steering :=
  let (controller, bus) := Controller.new retryDelay (.new fingerprint keys)
  ⟨bus, controller, [], 0, []⟩

/-- Takes over a turn of a user's operation. -/
def attend (x : Steering) (n : Nat) (turn : Turn) : Steering :=
  let others := x.users.filter (·.1 ≠ n)
  match turn.progress with
  | .waiting p => { x with bus := turn.bus, users := others ++ [(n, p)] }
  | .finished _ => { x with bus := turn.bus, users := others }

/-- A user begins an operation. -/
def request (x : Steering) (op : Operation) : Steering :=
  { x with number := x.number + 1 }.attend x.number (x.bus.start op)

/-- Takes over a turn of the controller's operation. -/
def steer (x : Steering) (errand : Errand) (turn : Turn) : Steering :=
  let (controller, bus) := x.controller.adopt errand turn
  { x with bus, controller, notes := x.notes ++ notesOf x.controller errand turn }

/-- The controller hears an answer. -/
def hear (x : Steering) (errand : Errand) (p : Pending) (answer : p.call.Answer) : Steering :=
  { x with notes := x.notes ++ grants p answer }.steer errand (x.bus.resume p answer)

/-- Lets one thing happen, if it can. -/
def step (x : Steering) : Move → Option Steering
  | .add t recipient => some (x.request (.addHandler t recipient))
  | .remove t id => some (x.request (.removeHandler t id))
  | .tidy enabled => some { x with bus := x.bus.setAutoUnsubscribe enabled }
  | .reply n answer =>
    (x.users.lookup n).map fun p => x.attend n (x.bus.resume p (answer p.call))
  | .leave n => (x.users.lookup n).map fun _ => { x with users := x.users.filter (·.1 ≠ n) }
  | .begin =>
    match x.controller.activity with
    | .ready errand | .pausing _ errand => some (x.steer errand (x.bus.start errand.operation))
    | .calling _ _ | .stopped => none
  | .hear answer =>
    match x.controller.activity with
    | .calling errand p => some (x.hear errand p (answer p.call))
    | .ready _ | .pausing _ _ | .stopped => none
  | .stop => some { x with controller := x.controller.stop.1 }

/-- Lets one thing happen after the other. -/
def run (x : Steering) : List Move → Option Steering
  | [] => some x
  | m :: ms => (x.step m).bind fun x' => x'.run ms

end Steering
end EventRelay

/-
# A bus and its callers

Any number of callers may have operations under way on one bus, and the service at the other
end makes of their calls what it likes.  `Switchboard` is a bus with these operations and what the
service keeps, and `Switchboard.step` lets one thing happen:

| move | what happens |
| --- | --- |
| `begin` | a caller begins an operation, which runs up to its first call |
| `drop`, `resume`, `tidy` | the session is given up, or may be polled again; a setting changes |
| `serve` | a call takes effect at the service, or fails and has none |
| `deliver` | the answer of a call comes back, and the operation runs up to its next one |
| `cancel` | a caller gives an operation up while its call is out |

Any order of such moves is a run.  An operation runs alone from one call to the next, and a call
takes effect at some instant between the two.

The notes say in order which calls went out, what became of them, and what was handed to
handlers and told to callers; nothing that happens depends on them.
-/

import EventRelay.Client.Bus

namespace EventRelay

/-- An operation whose call is out. -/
structure Underway where
  pending : Pending
  /-- What the service has made of the call, once it has. -/
  answer : Option pending.call.Answer

/-- What a service keeps of its sessions. -/
structure Service where
  /-- The types that are on the list of a session. -/
  subscribed : List (SessionId × TypeId)

namespace Service

/-- A service that nobody has asked anything. -/
def new : Service := ⟨[]⟩

/-- Grants a session, whose list starts empty. -/
def grant (s : Service) (id : SessionId) : Service := ⟨s.subscribed.filter (·.1 ≠ id)⟩

/-- What a call comes to at the service, by its answer: a session is granted, or a type comes on
its list or goes off it.  A call that fails has no effect. -/
def serve (s : Service) : (c : Call) → c.Answer → Service
  | .openSession _, answer =>
    match answer with
    | .error _ => s
    | .ok id => s.grant id
  | .subscribe id t, answer =>
    match answer with
    | .error _ => s
    | .ok _ => ⟨s.subscribed.insert (id, t)⟩
  | .unsubscribe id t, answer =>
    match answer with
    | .error _ => s
    | .ok _ => ⟨s.subscribed.filter (· ≠ (id, t))⟩
  | .closeSession _, _ | .poll _, _ | .publish _ _, _ | .probe _, _ => s

end Service

/-- Something that happened. -/
inductive Switchboard.Note where
  | called (ticket : Nat) (call : Call)
  /-- A call came to something at the service; `succeeded` is whether it took effect. -/
  | served (ticket : Nat) (call : Call) (succeeded : Bool)
  /-- A handler was called. -/
  | handed (ticket : Nat) (d : Delivery)
  | returned (ticket : Nat) (result : Outcome Success)

/-- One thing that can happen next. -/
inductive Switchboard.Move where
  | begin (op : Operation)
  | drop
  | resume
  /-- Sets whether the last handler of a type unsubscribes. -/
  | tidy (enabled : Bool)
  /-- The service answers the call of an operation, whichever that is. -/
  | serve (ticket : Nat) (reply : (c : Call) → c.Answer)
  | deliver (ticket : Nat)
  | cancel (ticket : Nat)

/-- A bus, the operations under way on it, and what the service keeps. -/
structure Switchboard where
  bus : Bus
  /-- Operations whose call is out, by ticket. -/
  callers : List (Nat × Underway)
  /-- The ticket of the next operation. -/
  ticket : Nat
  service : Service
  /-- What has happened, the first thing first. -/
  notes : List Switchboard.Note

namespace Turn

/-- The operation of a turn that ends with a call. -/
def underway? (t : Turn) : Option Underway :=
  match t.progress with
  | .waiting p => some ⟨p, none⟩
  | .finished _ => none

/-- What there is to note of a turn. -/
def notes (t : Turn) (ticket : Nat) : List Switchboard.Note :=
  t.delivered.map (.handed ticket) ++
    match t.progress with
    | .waiting p => [.called ticket p.call]
    | .finished result => [.returned ticket result]

end Turn

namespace Switchboard

/-- A bus on which nothing is under way, and a service that nobody has asked anything. -/
def new (fingerprint : Fingerprint) (keys : KeyOrder) : Switchboard :=
  ⟨.new fingerprint keys, [], 0, .new, []⟩

/-- The operation of a ticket, if its call is out. -/
def underway? (x : Switchboard) (ticket : Nat) : Option Underway := x.callers.lookup ticket

/-- Takes an operation away. -/
def without (x : Switchboard) (ticket : Nat) : Switchboard :=
  { x with callers := x.callers.filter (·.1 ≠ ticket) }

/-- Takes over a turn of an operation. -/
def adopt (x : Switchboard) (ticket : Nat) (t : Turn) : Switchboard :=
  { x with
    bus := t.bus
    callers := x.callers ++ (t.underway?.map fun c => (ticket, c)).toList
    notes := x.notes ++ t.notes ticket }

/-- The service answers a call that is out. -/
def answered (x : Switchboard) (ticket : Nat) (p : Pending) (answer : p.call.Answer) :
    Switchboard :=
  { x with
    callers := (x.without ticket).callers ++ [(ticket, ⟨p, some answer⟩)]
    service := x.service.serve p.call answer
    notes := x.notes ++ [.served ticket p.call answer.isOk] }

/-- Lets one thing happen, if it can. -/
def step (x : Switchboard) : Move → Option Switchboard
  | .begin op => some ({ x with ticket := x.ticket + 1 }.adopt x.ticket (x.bus.start op))
  | .drop => some { x with bus := x.bus.dropSession.1 }
  | .resume => some { x with bus := x.bus.resumeSession.1 }
  | .tidy enabled => some { x with bus := x.bus.setAutoUnsubscribe enabled }
  | .serve k reply =>
    match x.underway? k with
    | some ⟨p, none⟩ => some (x.answered k p (reply p.call))
    | some ⟨_, some _⟩ | none => none
  | .deliver k =>
    match x.underway? k with
    | some ⟨p, some answer⟩ => some ((x.without k).adopt k (x.bus.resume p answer))
    | some ⟨_, none⟩ | none => none
  | .cancel k => (x.underway? k).map fun _ => x.without k

/-- Lets one thing happen after the other. -/
def run (x : Switchboard) : List Move → Option Switchboard
  | [] => some x
  | m :: ms => (x.step m).bind fun x' => x'.run ms

end Switchboard
end EventRelay

/-
# A client and the server it talks to

`Conversation` is a bus with its one controller and its users, the server at the other end, and
what is between them.  `Conversation.step` lets one thing happen.  The server goes on by its own
moves; requests of others reach it, and they may close the sessions of this client, but they
know too little of them to poll them or to change what they want.  Of a call that an asker
has out, it may happen that

| move | what happens |
| --- | --- |
| `carry` | the call reaches the server and is under way there as a request |
| `deliver` | the answer of the server comes back |
| `fail` | the asker is told of a failure, whatever has become of the call |

in any order that makes sense: a call that has failed may not have reached the server, or may
be under way there for long.  Users only add and remove handlers; everything else is the
controller's.

The journal says what the client went through with its sessions; nothing that it does depends
on it.
-/

import EventRelay.Client.Controller
import EventRelay.Server.Traffic

namespace EventRelay

namespace Call

/-- What a call asks a server for; `fresh` is the source of the session that it may get. -/
def request? (fresh : SourceId) : Call → Option Server.Request
  | openSession current => some (.openSession current fresh)
  | closeSession session => some (.closeSession (some session))
  | subscribe session t => some (.subscribe (some session) t)
  | unsubscribe session t => some (.unsubscribe (some session) t)
  | poll session => some (.poll (some session))
  | publish _ _ | probe _ => none

/-- What a server's reply says to a call, if it is a reply to it. -/
def reply? : (c : Call) → Served → Option c.Reply
  | openSession _, .session id => some id
  | closeSession _, .done => some ()
  | subscribe _ _, .changed didChange => some didChange
  | unsubscribe _ _, .changed didChange => some didChange
  | poll _, .batch b => some b
  | _, _ => none

/-- What a server's answer says to a call, if it is an answer to it. -/
def answer? (c : Call) : Outcome Served → Option c.Answer
  | .error fault => some (.error fault)
  | .ok reply => (c.reply? reply).map .ok

end Call

/-- Who waits for the answer of a call. -/
inductive Asker where
  | controller
  | user (number : Nat)
  deriving DecidableEq

/-- What a client went through with a session. -/
inductive Episode where
  /-- The session was taken up; these were the handlers then. -/
  | granted (id : SessionId) (handlers : List Handler)
  /-- A poll brought a batch, and this is what was handed to handlers. -/
  | dispatched (id : SessionId) (batch : Batch) (delivered : List Delivery)
  /-- A poll failed. -/
  | failed (id : SessionId) (fault : Fault)

/-- A client and a server with the calls between them. -/
structure Conversation where
  traffic : Traffic
  bus : Bus
  controller : Controller
  /-- Operations of users that wait for an answer, by number. -/
  users : List (Nat × Pending)
  /-- The number of the next operation of a user. -/
  number : Nat
  /-- The calls that have reached the server: who waits, and the ticket of the request. -/
  carried : List (Asker × Nat)
  /-- The sources of the sessions that the client has asked for. -/
  own : List SourceId
  journal : List Episode

namespace Bus

/-- What an answer is to the journal of a client. -/
def episodes (b : Bus) : (p : Pending) → p.call.Answer → List Episode
  | .opening, answer =>
    match answer, b.session with
    | .ok id, none => [.granted id b.handlers]
    | _, _ => []
  | .polling id generation, answer =>
    if b.stillHolds id generation then
      match answer with
      | .ok batch => [.dispatched id batch (b.dispatch id generation answer).delivered]
      | .error fault => [.failed id fault]
    else []
  | .subscribing _ _ _ _, _ | .abandoning _ _, _ | .closing _, _ | .adding _ _ _, _
  | .removing _ _, _ | .probing _, _ | .publishing _ _, _ => []

end Bus

namespace Conversation

/-- One thing that can happen next. -/
inductive Move where
  /-- The server goes on, or is asked by somebody else. -/
  | server (m : EventRelay.Move)
  | add (typeId : TypeId) (recipient : String)
  | remove (typeId : TypeId) (id : Nat)
  /-- A user waits no longer. -/
  | leave (number : Nat)
  /-- The controller begins its errand. -/
  | begin
  | stop
  | carry (who : Asker) (fresh : SourceId)
  | deliver (who : Asker)
  | fail (who : Asker) (fault : Fault)

/-- A server that nobody has asked anything, and a client that is about to. -/
def new (config : ServerConfig) (epoch : Epoch) (fingerprint : Fingerprint) (keys : KeyOrder)
    (retryDelay : Duration) : Setup Conversation :=
  let (controller, bus) := Controller.new retryDelay (.new fingerprint keys)
  (Traffic.new config epoch).map fun traffic => ⟨traffic, bus, controller, [], 0, [], [], []⟩

/-- What an asker waits for. -/
def pending? (x : Conversation) : Asker → Option Pending
  | .user n => x.users.lookup n
  | .controller =>
    match x.controller.activity with
    | .calling _ p => some p
    | .ready _ | .pausing _ _ | .stopped => none

/-- Whether the server can make a move by itself, or for somebody else than this client. -/
def admits (x : Conversation) : EventRelay.Move → Bool
  | .arrive (.subscribe (some id) _) | .arrive (.unsubscribe (some id) _)
  | .arrive (.poll (some id)) => !x.own.contains id.source
  | .arrive _ | .resume _ | .abort _ | .publish _ _ _ | .pass _ => true

/-- What has come back of an asker's call. -/
def answer? (x : Conversation) (who : Asker) : (c : Call) → Option c.Answer
  | .probe f => some (x.traffic.server.probe f)
  | c => (x.carried.lookup who).bind fun k => (x.traffic.answer? k).bind c.answer?

/-- An asker has no call out. -/
def forget (x : Conversation) (who : Asker) : Conversation :=
  { x with carried := x.carried.filter (·.1 ≠ who) }

/-- Takes over a turn of a user's operation. -/
def serve (x : Conversation) (n : Nat) (turn : Turn) : Conversation :=
  let others := x.users.filter (·.1 ≠ n)
  match turn.progress with
  | .waiting p => { x with bus := turn.bus, users := others ++ [(n, p)] }
  | .finished _ => { x with bus := turn.bus, users := others }

/-- Takes over a turn of the controller's operation. -/
def steer (x : Conversation) (errand : Errand) (turn : Turn) : Conversation :=
  let (controller, bus) := x.controller.adopt errand turn
  { x with bus, controller }

/-- An asker hears an answer. -/
def hear (x : Conversation) (who : Asker) (p : Pending) (answer : p.call.Answer) : Conversation :=
  let turn := x.bus.resume p answer
  let told := { x.forget who with journal := x.journal ++ x.bus.episodes p answer }
  match who with
  | .user n => told.serve n turn
  | .controller =>
    match x.controller.activity with
    | .calling errand _ => told.steer errand turn
    | .ready _ | .pausing _ _ | .stopped => told

/-- A user begins an operation. -/
def request (x : Conversation) (op : Operation) : Conversation :=
  { x with number := x.number + 1 }.serve x.number (x.bus.start op)

/-- Lets one thing happen, if it can. -/
def step (x : Conversation) : Move → Option Conversation
  | .server m =>
    if x.admits m then (x.traffic.step m).map fun traffic => { x with traffic } else none
  | .add t recipient => some (x.request (.addHandler t recipient))
  | .remove t id => some (x.request (.removeHandler t id))
  | .leave n => some { x.forget (.user n) with users := x.users.filter (·.1 ≠ n) }
  | .begin =>
    match x.controller.activity with
    | .ready errand | .pausing _ errand => some (x.steer errand (x.bus.start errand.operation))
    | .calling _ _ | .stopped => none
  | .stop => some { x.forget .controller with controller := x.controller.stop.1 }
  | .carry who fresh => do
    let p ← x.pending? who
    let r ← p.call.request? fresh
    if (x.carried.lookup who).isSome then none
    else
      let traffic ← x.traffic.step (.arrive r)
      return { x with
        traffic
        carried := x.carried ++ [(who, x.traffic.ticket)]
        own := x.own ++ r.fresh?.toList }
  | .deliver who => do
    let p ← x.pending? who
    let answer ← x.answer? who p.call
    return x.hear who p answer
  | .fail who fault => (x.pending? who).map fun p => x.hear who p (.error fault)

/-- Lets one thing happen after the other. -/
def run (x : Conversation) : List Move → Option Conversation
  | [] => some x
  | m :: ms => (x.step m).bind fun x' => x'.run ms

end Conversation
end EventRelay

/-
# The client's bus

A bus holds at most one session and a table of handlers.  The subscriptions of the
session follow the table: the first handler of a type subscribes, and the last one to go
unsubscribes if the bus is told to tidy up.

An operation on the bus runs from one call to the next, and anything may happen to the
bus while a call is out.  `Bus.start` runs an operation up to its first call, and
`Bus.resume` from the answer of a call up to the next one; in between there is only what
`Pending` remembers.  An answer may be late: `generation` counts how often the session
was taken up or given up, so that what was asked under one session is told from what is
held by then.

| operation | calls |
| --- | --- |
| new session | open, then subscribe the handled types, in any order; close again if one fails |
| end session | close |
| add handler | subscribe, for the first one of its type |
| remove handler | unsubscribe, for the last one of its type |
| poll, probe, publish | poll, probe, publish |
-/

import EventRelay.Client.Call

namespace EventRelay

/-- A registered handler. -/
structure Handler where
  /-- The number of the handler, by which it is removed. -/
  id : Nat
  /-- Whom the handler delivers to. -/
  recipient : String
  typeId : TypeId
  deriving DecidableEq

/-- An event handed to a recipient. -/
structure Delivery where
  /-- The number of the handler that handed it over. -/
  handler : Nat
  recipient : String
  event : Event

/-- The order in which types come out of a table of handlers.  There is none that a table keeps to:
it may be another one each time. -/
structure KeyOrder where
  /-- The types as they come out the `n`-th time. -/
  arrange : (n : Nat) → List TypeId → List TypeId
  perm : ∀ n ts, (arrange n ts).Perm ts

/-- The order of registration. -/
def KeyOrder.registered : KeyOrder := ⟨fun _ ts => ts, fun _ _ => .refl _⟩

/-- What a client knows of its sessions and handlers. -/
structure Bus where
  /-- The deployment that probes ask for. -/
  fingerprint : Fingerprint
  session : Option SessionId
  /-- How often a session was taken up or given up. -/
  generation : Nat
  /-- Whether the session held may be polled. -/
  polling : Bool
  /-- Handlers in the order of their registration. -/
  handlers : List Handler
  /-- The number of the next handler. -/
  nextHandler : Nat
  /-- Whether the last handler of a type unsubscribes. -/
  autoUnsubscribe : Bool
  /-- The order in which a new session comes upon the types that have a handler. -/
  keyOrder : KeyOrder

/-- Operations on a bus that call the server. -/
inductive Operation where
  | newSession
  | endSession
  | addHandler (typeId : TypeId) (recipient : String)
  | removeHandler (typeId : TypeId) (id : Nat)
  | poll
  | probe
  | publish (typeId : TypeId) (payload : Json.Value)

/-- What an operation remembers while a call of it is out. -/
inductive Pending where
  /-- A new session asks to be opened. -/
  | opening
  /-- A new session subscribes a type; those of `rest` follow. -/
  | subscribing (session : SessionId) (generation : Nat) (typeId : TypeId)
      (rest : List TypeId)
  /-- A new session that could not subscribe is closed. -/
  | abandoning (session : SessionId) (fault : Fault)
  /-- The session that was held is closed. -/
  | closing (session : SessionId)
  /-- The first handler of a type subscribes. -/
  | adding (session : SessionId) (typeId : TypeId) (id : Nat)
  /-- The last handler of a type has gone. -/
  | removing (session : SessionId) (typeId : TypeId)
  | polling (session : SessionId) (generation : Nat)
  | probing (fingerprint : Fingerprint)
  | publishing (typeId : TypeId) (payload : Json.Value)

namespace Pending

/-- The call that is out. -/
def call : Pending → Call
  | opening => .openSession none
  | subscribing session _ typeId _ => .subscribe session typeId
  | abandoning session _ => .closeSession session
  | closing session => .closeSession session
  | adding session typeId _ => .subscribe session typeId
  | removing session typeId => .unsubscribe session typeId
  | polling session _ => .poll session
  | probing fingerprint => .probe fingerprint
  | publishing typeId payload => .publish typeId payload

end Pending

/-- What an operation that succeeds tells its caller. -/
inductive Success where
  | session (id : SessionId)
  | done
  | handler (id : Nat)
  | removed (wasThere : Bool)
  | dispatched (count : Nat)
  | published (sequence : Int)
  deriving DecidableEq

/-- Where an operation stands: a call is out, or it is over. -/
inductive Progress where
  | waiting (p : Pending)
  | finished (result : Outcome Success)

/-- What one run of an operation does: to the bus, and to recipients. -/
structure Turn where
  bus : Bus
  delivered : List Delivery
  progress : Progress

namespace Bus

/-- A bus that holds nothing. -/
def new (fingerprint : Fingerprint) (keys : KeyOrder) : Bus where
  fingerprint := fingerprint
  session := none
  generation := 0
  polling := false
  handlers := []
  nextHandler := 0
  autoUnsubscribe := true
  keyOrder := keys

/-- The handlers of a type. -/
def handlersOf (b : Bus) (t : TypeId) : List Handler := b.handlers.filter (·.typeId = t)

/-- How many handlers a type has. -/
def handlerCount (b : Bus) (t : TypeId) : Nat := (b.handlersOf t).length

/-- The types that have a handler, each once. -/
def handledTypes (b : Bus) : List TypeId := (b.handlers.map Handler.typeId).eraseDups

/-- The types that have a handler, as a session that was just taken up comes upon them. -/
def keys (b : Bus) : List TypeId := b.keyOrder.arrange b.generation b.handledTypes

/-- Whether polls are allowed. -/
def isPolling (b : Bus) : Bool := b.polling && b.session.isSome

/-- A turn that ends with a call. -/
def await (b : Bus) (p : Pending) : Turn := ⟨b, [], .waiting p⟩

/-- A turn that ends an operation. -/
def finish (b : Bus) (result : Outcome Success) : Turn := ⟨b, [], .finished result⟩

/-- Sets whether the last handler of a type unsubscribes. -/
def setAutoUnsubscribe (b : Bus) (enabled : Bool) : Bus := { b with autoUnsubscribe := enabled }

/-- Gives the session up without a word to the server. -/
def dropSession (b : Bus) : Bus × Option SessionId :=
  match b.session with
  | none => ({ b with polling := false }, none)
  | some id =>
    ({ b with session := none, polling := false, generation := b.generation + 1 }, some id)

/-- Allows the session held to be polled again. -/
def resumeSession (b : Bus) : Bus × Outcome SessionId :=
  match b.session with
  | none => (b, .error .noActiveSession)
  | some id => ({ b with polling := true }, .ok id)

/-- Takes a session up. -/
def hold (b : Bus) (id : SessionId) : Bus :=
  { b with session := some id, polling := false, generation := b.generation + 1 }

/-- Whether a session has been held without a break since `generation`. -/
def stillHolds (b : Bus) (id : SessionId) (generation : Nat) : Bool :=
  b.generation == generation && b.session == some id

/-- Takes a handler out. -/
def detach (b : Bus) (t : TypeId) (id : Nat) : Bus :=
  { b with handlers := b.handlers.filter fun h => !(h.typeId = t && h.id = id) }

/-- Whether a handler is registered for a type. -/
def hasHandler (b : Bus) (t : TypeId) (id : Nat) : Bool :=
  b.handlers.any fun h => h.typeId = t && h.id = id

/-- Registers a handler. -/
def attach (b : Bus) (t : TypeId) (recipient : String) : Bus :=
  { b with
    handlers := b.handlers ++ [⟨b.nextHandler, recipient, t⟩]
    nextHandler := b.nextHandler + 1 }

/-- A new session goes on to subscribe types; after the last one it may be polled. -/
def subscribeNext (b : Bus) (id : SessionId) (generation : Nat) : List TypeId → Turn
  | t :: rest => b.await (.subscribing id generation t rest)
  | [] =>
    { b with polling := b.polling || b.generation == generation }.finish (.ok (.session id))

/-- A session was granted. -/
def takeUp (b : Bus) (id : SessionId) : Turn :=
  match b.session with
  | some _ => b.finish (.error .sessionActive)
  | none =>
    let b := b.hold id
    b.subscribeNext id b.generation b.keys

/-- A new session could not subscribe: it is closed if it is still held. -/
def abandon (b : Bus) (id : SessionId) (generation : Nat) (fault : Fault) : Turn :=
  if b.stillHolds id generation then b.dropSession.1.await (.abandoning id fault)
  else b.finish (.error fault)

/-- What the handlers get of a batch. -/
def deliveries (b : Bus) (batch : Batch) : List Delivery :=
  batch.events.flatMap fun e => (b.handlersOf e.typeId).map fun h => ⟨h.id, h.recipient, e⟩

/-- An answer to a poll; one that was asked under another session counts for nothing. -/
def dispatch (b : Bus) (id : SessionId) (generation : Nat) (answer : Outcome Batch) : Turn :=
  if b.stillHolds id generation then
    match answer with
    | .error fault => b.finish (.error fault)
    | .ok batch => ⟨b, b.deliveries batch, .finished (.ok (.dispatched batch.events.length))⟩
  else b.finish (.ok (.dispatched 0))

/-- Runs an operation up to its first call. -/
def start (b : Bus) : Operation → Turn
  | .newSession =>
    match b.session with
    | some _ => b.finish (.error .sessionActive)
    | none => b.await .opening
  | .endSession =>
    match b.dropSession with
    | (b, none) => b.finish (.error .noActiveSession)
    | (b, some id) => b.await (.closing id)
  | .addHandler t recipient =>
    let id := b.nextHandler
    let isFirst := b.handlerCount t = 0
    let b := b.attach t recipient
    match b.session with
    | some session =>
      if isFirst then b.await (.adding session t id) else b.finish (.ok (.handler id))
    | none => b.finish (.ok (.handler id))
  | .removeHandler t id =>
    let wasThere := b.hasHandler t id
    let b := b.detach t id
    match b.session with
    | some session =>
      if wasThere && b.handlerCount t == 0 && b.autoUnsubscribe then
        b.await (.removing session t)
      else b.finish (.ok (.removed wasThere))
    | none => b.finish (.ok (.removed wasThere))
  | .poll =>
    match b.session with
    | some id =>
      if b.polling then b.await (.polling id b.generation)
      else b.finish (.error .noActiveSession)
    | none => b.finish (.error .noActiveSession)
  | .probe => b.await (.probing b.fingerprint)
  | .publish t payload => b.await (.publishing t payload)

/-- Runs an operation from the answer of a call up to its next one. -/
def resume (b : Bus) : (p : Pending) → p.call.Answer → Turn
  | .opening, answer =>
    match answer with
    | .error fault => b.finish (.error fault)
    | .ok id => b.takeUp id
  | .subscribing id generation _ rest, answer =>
    match answer with
    | .error fault => b.abandon id generation fault
    | .ok _ => b.subscribeNext id generation rest
  | .abandoning _ fault, _ => b.finish (.error fault)
  | .closing _, answer => b.finish (answer.map fun _ => .done)
  | .adding _ t id, answer =>
    match answer with
    | .error fault => (b.detach t id).finish (.error fault)
    | .ok _ => b.finish (.ok (.handler id))
  | .removing _ _, answer => b.finish (answer.map fun _ => .removed true)
  | .polling id generation, answer => b.dispatch id generation answer
  | .probing _, answer => b.finish (answer.map fun _ => .done)
  | .publishing _ _, answer => b.finish (answer.map .published)

theorem keys_perm (b : Bus) : b.keys.Perm b.handledTypes := b.keyOrder.perm _ _

theorem mem_keys {b : Bus} {t : TypeId} : t ∈ b.keys ↔ t ∈ b.handledTypes := b.keys_perm.mem_iff

/-- A session that is taken up comes upon all types that have a handler. -/
theorem mem_keys_hold {b : Bus} {id : SessionId} {t : TypeId} :
    t ∈ (b.hold id).keys ↔ t ∈ b.handledTypes := mem_keys

@[simp] theorem session_hold (b : Bus) (id : SessionId) : (b.hold id).session = some id := rfl

@[simp] theorem isPolling_hold (b : Bus) (id : SessionId) : (b.hold id).isPolling = false := rfl

@[simp] theorem session_dropSession (b : Bus) : b.dropSession.1.session = none := by
  unfold dropSession; split <;> simp_all

@[simp] theorem polling_dropSession (b : Bus) : b.dropSession.1.polling = false := by
  unfold dropSession; split <;> rfl

/-- **A session that was given up is never held again in the same generation.** -/
theorem stillHolds_dropSession (b : Bus) (id : SessionId) (generation : Nat) :
    b.dropSession.1.stillHolds id generation = false := by
  simp [stillHolds]

/-- A late answer changes nothing and reaches nobody. -/
theorem dispatch_of_stale {b : Bus} {id : SessionId} {generation : Nat}
    (h : b.stillHolds id generation = false) (answer : Outcome Batch) :
    b.dispatch id generation answer = b.finish (.ok (.dispatched 0)) := by
  simp [dispatch, h]

end Bus
end EventRelay

/-
# A client at work

The tasks of a client share its bus.  A task is a caller's operation or a controller; it
is known by a ticket and runs until it has to wait, without any other task in between.
What each operation came to, and when, stays known, and so does everything that was
delivered.

`World` puts clients into their surroundings.  While anything happens at the present
instant the tasks concerned run, one after the other; only then can the clock move on.
-/

import EventRelay.Client.Controller
import EventRelay.Client.Surroundings
import EventRelay.Timeline

namespace EventRelay

/-- A bus and what is under way on it. -/
structure Client where
  bus : Bus
  /-- The pause that its controllers make after failures. -/
  retryDelay : Duration
  /-- Operations that wait for an answer, by ticket. -/
  callers : List (Nat × Pending)
  /-- Controllers, by ticket, the first one started first. -/
  controllers : List (Nat × Controller)
  /-- Operations that are over: ticket, instant and result. -/
  results : List (Nat × Nat × Outcome Success)
  delivered : List Delivery

/-- Whose operation it is that runs on a bus. -/
inductive Worker where
  | caller
  | controller (c : Controller) (errand : Errand)

namespace Client

/-- A client that does nothing yet. -/
def new (fingerprint : Fingerprint) (retryDelay : Duration) : Client :=
  ⟨.new fingerprint .registered, retryDelay, [], [], [], []⟩

/-- Puts a controller into its place. -/
def setController (c : Client) (ticket : Nat) (ctl : Controller) : Client :=
  { c with controllers := c.controllers.map fun (t, old) => (t, if t = ticket then ctl else old) }

/-- Puts a caller into its place, or takes it away. -/
def setCaller (c : Client) (ticket : Nat) (p : Option Pending) : Client :=
  { c with
    callers := c.callers.filter (·.1 ≠ ticket) ++ (p.map fun p => (ticket, p)).toList }

/-- A caller's operation is over. -/
def conclude (c : Client) (ticket now : Nat) (result : Outcome Success) : Client :=
  { c.setCaller ticket none with results := c.results ++ [(ticket, now, result)] }

/-- Takes over what a turn did to the bus and whom it reached. -/
def adopt (c : Client) (turn : Turn) : Client :=
  { c with bus := turn.bus, delivered := c.delivered ++ turn.delivered }

/-- The controller that was started last. -/
def lastController? (c : Client) : Option (Nat × Controller) := c.controllers.getLast?

end Client

section Running

variable {ε : Type} [Surroundings ε]

/-- A task runs from a turn on until it has to wait; `fuel` bounds the number of turns. -/
def Client.work : (fuel ticket : Nat) → Worker → Turn → ε → Client → ε × Client
  | 0, _, _, _, env, c => (env, c)
  | fuel + 1, ticket, .caller, turn, env, c =>
    let c := c.adopt turn
    match turn.progress with
    | .waiting p =>
      match Surroundings.call env ticket p.call with
      | (env, some answer) => work fuel ticket .caller (c.bus.resume p answer) env c
      | (env, none) => (env, c.setCaller ticket (some p))
    | .finished result => (env, c.conclude ticket (Surroundings.now env) result)
  | fuel + 1, ticket, .controller ctl errand, turn, env, c =>
    let (ctl, bus) := ctl.adopt errand turn
    let c := { c.adopt turn with bus }.setController ticket ctl
    match ctl.activity with
    | .calling errand p =>
      match Surroundings.call env ticket p.call with
      | (env, some answer) =>
        work fuel ticket (.controller ctl errand) (bus.resume p answer) env c
      | (env, none) => (env, c)
    | .ready next => work fuel ticket (.controller ctl next) (bus.start next.operation) env c
    | .pausing pause _ => (Surroundings.pause env ticket pause, c)
    | .stopped => (env, c)

/-- The most turns that a task takes without waiting. -/
def Client.patience : Nat := 100000

/-- A task begins an operation. -/
def Client.begin (ticket : Nat) (who : Worker) (op : Operation) (env : ε) (c : Client) :
    ε × Client :=
  Client.work patience ticket who (c.bus.start op) env c

/-- A task goes on after what it has waited for. -/
def Client.continue (ticket : Nat) (h : Happening) (env : ε) (c : Client) : ε × Client :=
  match c.callers.lookup ticket, h with
  | some p, .answered answer =>
    Client.work patience ticket .caller (c.bus.resume p (answer p.call)) env c
  | some _, .pauseOver => (env, c)
  | none, h =>
    match c.controllers.lookup ticket with
    | none => (env, c)
    | some ctl =>
      match ctl.activity, h with
      | .calling errand p, .answered answer =>
        Client.work patience ticket (.controller ctl errand)
          (c.bus.resume p (answer p.call)) env c
      | .pausing _ errand, .pauseOver =>
        Client.begin ticket (.controller ctl errand) errand.operation env c
      | _, _ => (env, c)

end Running

/-- Clients, each under its name, in their surroundings. -/
structure World (ε : Type) where
  env : ε
  clients : List (String × Client)
  /-- The next ticket. -/
  ticket : Nat

namespace World

variable {ε : Type}

/-- Surroundings without clients. -/
def new (env : ε) : World ε := ⟨env, [], 0⟩

/-- The client of a name. -/
def client? (w : World ε) (name : String) : Option Client := w.clients.lookup name

/-- Adds a client, in place of one of the same name. -/
def addClient (w : World ε) (name : String) (c : Client) : World ε :=
  { w with clients := w.clients.filter (·.1 ≠ name) ++ [(name, c)] }

/-- Runs something for the clients that a test selects. -/
def run (select : String → Bool) (f : ε → Client → ε × Client) (w : World ε) : World ε :=
  let step := fun (acc : ε × List (String × Client)) (p : String × Client) =>
    if select p.1 then
      let (env, c) := f acc.1 p.2
      (env, acc.2 ++ [(p.1, c)])
    else (acc.1, acc.2 ++ [p])
  let (env, clients) := w.clients.foldl step (w.env, [])
  { w with env, clients }

/-- Changes the bus of a client. -/
def modifyBus (w : World ε) (name : String) (f : Bus → Bus) : World ε :=
  w.run (· = name) fun env c => (env, { c with bus := f c.bus })

/-- What an operation came to, and when. -/
def result? (w : World ε) (ticket : Nat) : Option (Nat × Outcome Success) :=
  w.clients.findSome? fun p => p.2.results.lookup ticket

variable [Surroundings ε]

/-- A caller begins an operation at a client; its result will be found under its ticket. -/
def request (w : World ε) (name : String) (op : Operation) : World ε × Nat :=
  ({ w with ticket := w.ticket + 1 }.run (· = name) (Client.begin w.ticket .caller op), w.ticket)

/-- A caller gives an operation up. -/
def cancel (w : World ε) (ticket : Nat) : World ε :=
  let w := w.run (fun _ => true) fun env c => (env, c.setCaller ticket none)
  { w with env := Surroundings.cancel w.env ticket }

/-- Starts another controller at a client. -/
def startController (w : World ε) (name : String) : World ε :=
  { w with ticket := w.ticket + 1 }.run (· = name) fun env c =>
    let (ctl, bus) := Controller.new c.retryDelay c.bus
    let c := { c with bus, controllers := c.controllers ++ [(w.ticket, ctl)] }
    match ctl.activity with
    | .ready errand => Client.begin w.ticket (.controller ctl errand) errand.operation env c
    | _ => (env, c)

/-- Stops the controller that was started last at a client; `none` if there is none. -/
def stopController (w : World ε) (name : String) : World ε × Option (Outcome Unit) :=
  match (w.client? name).bind Client.lastController? with
  | none => (w, none)
  | some (ticket, ctl) =>
    let (ctl, answer) := ctl.stop
    let w := w.run (· = name) fun env c => (env, c.setController ticket ctl)
    ({ w with env := Surroundings.cancel w.env ticket }, some answer)

/-- Lets everything happen that happens at the present instant; `fuel` bounds how much. -/
def pass : (fuel : Nat) → World ε → World ε
  | 0, w => w
  | fuel + 1, w =>
    let env := Surroundings.advance (Surroundings.now w.env) w.env
    match Surroundings.next? env with
    | none => { w with env }
    | some (ticket, h, env) =>
      pass fuel ({ w with env }.run (fun _ => true) (Client.continue ticket h))

instance : Timeline (World ε) where
  now w := Surroundings.now w.env
  nextDue? w := Surroundings.nextDue? w.env
  settleAt t w := pass Client.patience { w with env := Surroundings.advance t w.env }

end World
end EventRelay

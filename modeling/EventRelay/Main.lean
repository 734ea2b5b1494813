/-
# The program

`listen` runs a client and `serve` a server.  Neither opens a connection: requests and
responses are lines of JSON, which whoever runs the program carries to the other side.

| command | writes | reads |
| --- | --- | --- |
| `listen` | requests, and the events that arrive | what came of each request |
| `serve` | responses | requests |

The clock of `serve` moves on only while a request waits.
-/

import EventRelay.Client.Mailbox
import EventRelay.Client.Tasks
import EventRelay.CommandLine.Listen
import EventRelay.CommandLine.Serve
import EventRelay.Http.Api
import EventRelay.Http.Record
import EventRelay.Jobs

open EventRelay Json

namespace EventRelay
namespace Main

/-- The settings that are there. -/
def environment : IO Environment :=
  Environment.names.filterMapM fun name =>
    return (← IO.getEnv name).map fun text => (name, text)

/-- Writes one line. -/
def writeLine (v : Value) : IO Unit := do
  let out ← IO.getStdout
  out.putStrLn (asciiOnly v.text)
  out.flush

/-- Reads one line; `none` at the end, and `null` for a line that is no JSON. -/
def readLine? : IO (Option Value) := do
  let line ← (← IO.getStdin).getLine
  return if line.isEmpty then none else some ((Value.parse line).toOption.getD .null)

/-- Ends with a complaint. -/
def complain (message : Option String) (code : Nat) : IO UInt32 := do
  match message with
  | some m => (← IO.getStderr).putStrLn (CommandLine.errorLine m)
  | none => pure ()
  return code.toUInt32

/-- Sends a request by way of the one who runs the program; `none` at the end of the input. -/
def send (p : Posting) : IO (Option Delivered) := do
  writeLine (.object [("request", p.record)])
  return (← readLine?).map Delivered.ofRecord

/-- Publishes one event. -/
def publish (config : ClientConfig) (t : TypeId) (payload : Value) : IO UInt32 := do
  let caller := Caller.new config
  let call := Call.publish t payload
  let delivered ←
    match caller.posting call with
    | .error _ => pure none
    | .ok p => send p
  match caller.exchange call fun _ => delivered.getD .unreachable with
  | .error fault => complain (some fault.message) 1
  | .ok sequence => do
    writeLine (.object [("sequence", .int sequence)])
    return 0

/-- The name of the one client. -/
def clientName : String := "listener"

/-- Runs a client until the input ends; `shown` events have been written. -/
partial def listenOn (caller : Caller) (w : World Mailbox) (shown : Nat) : IO UInt32 := do
  let w := Timeline.settle w
  let delivered := ((w.client? clientName).map Client.delivered).getD []
  for d in delivered.drop shown do
    writeLine (.object [("event", Wire.write d.event)])
  match w.env.fetch? with
  | some (ticket, call, env) =>
    let carried ←
      match caller.posting call with
      | .error _ => pure (some .unreachable)
      | .ok p => send p
    match carried with
    | none => return 0
    | some d =>
      let env := env.put ticket fun c => caller.exchange c fun _ => d
      listenOn caller { w with env } delivered.length
  | none =>
    match Timeline.nextDue? w with
    | none => return 0
    | some due =>
      IO.sleep ((due - Timeline.now w) / 1000000).toUInt32
      listenOn caller (Timeline.settleAt due w) delivered.length

/-- Listens to events of some types. -/
def listen (config : ClientConfig) (types : List TypeId) : IO UInt32 :=
  let w := (World.new Mailbox.new).addClient clientName (.new config.fingerprint config.retryDelay)
  let w := types.foldl (fun w t => (w.request clientName (.addHandler t clientName)).1) w
  listenOn (Caller.new config) (w.startController clientName) 0

instance : Working Api Response where
  result? := Api.response?
  cancel ticket a := a.cancel ticket

/-- Answers requests until the input ends. -/
partial def serveOn (a : Api) : IO UInt32 := do
  match ← readLine? with
  | none => return 0
  | some v =>
    let (a, answer) := a.handle (Request.ofRecord v)
    match answer with
    | .inl response => do
      writeLine response.record
      serveOn a
    | .inr ticket =>
      let config := a.host.server.config
      let (a, result) := (Job.out ticket).wait config.requestTimeout.nanos a
      writeLine (.orNull (result.map fun r => r.2.record))
      serveOn a

/-- Serves with the settings of an environment. -/
def serve (env : Environment) : IO UInt32 := do
  match CommandLine.servePlan env with
  | .error reason => complain reason.message? reason.exitCode
  | .ok (config, origins) =>
    let seed ← IO.monoNanosNow
    match Host.new config (.ofNat seed) (seed + 1700000000000000000) with
    | .error obstacle =>
      let halt := CommandLine.ServeHalt.ofObstacle obstacle
      complain halt.message? halt.exitCode
    | .ok host =>
      serveOn (Api.new (host.startSweeper config.sweepInterval).1 origins)

end Main
end EventRelay

open EventRelay Main in
def main (args : List String) : IO UInt32 := do
  let env ← environment
  match args with
  | "serve" :: _ => serve env
  | "listen" :: rest =>
    match CommandLine.listenPlan rest env with
    | .halt reason => complain none reason.exitCode
    | .fail message => complain (some message) 1
    | .publish config t payload => publish config t payload
    | .listen config types => listen config types
  | _ => complain (some "usage: serve | listen OPTIONS") 2

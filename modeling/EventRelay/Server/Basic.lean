/-
# The server

A server joins the log and the registry and answers requests.  Each request names the
session it is for, if it knows one; a session of another epoch is never live here.

| request | without session | session not live |
| --- | --- | --- |
| open | a new session | a new session |
| close | no active session | invalid session |
| subscribe, unsubscribe, poll | invalid session | invalid session |
| publish | needs none | needs none |

All requests but the poll are answered at the instant they arrive.
-/

import EventRelay.Config.Server
import EventRelay.Log.Wait
import EventRelay.Session.Registry

namespace EventRelay

/-- Where a poll stands. -/
inductive PollPhase where
  /-- It waits for the session's turn. -/
  | queued
  /-- It has the turn, has seen `last`, and waits until `deadline` at most. -/
  | waiting (last : Int) (deadline : Nat) (wait : Wait)
  deriving DecidableEq, Repr

/-- A poll under way. -/
structure Poll where
  source : SourceId
  phase : PollPhase
  deriving DecidableEq

/-- A server at an instant. -/
structure Server where
  config : ServerConfig
  epoch : Epoch
  log : Log
  registry : Registry
  now : Nat
  /-- Polls under way, each with its ticket. -/
  polls : List (Nat × Poll)

namespace Server

/-- A server without sessions and events. -/
def new (config : ServerConfig) (epoch : Epoch) : Setup Server :=
  (Log.new config.bufferCapacity).map fun log =>
    ⟨config, epoch, log, .new config.sessionTtl, 0, []⟩

/-- The source of a session of this server. -/
def resolve (s : Server) (id : SessionId) : Outcome SourceId :=
  if id.epoch = s.epoch then .ok id.source else .error .invalidSession

/-- The source of a session that has to be named. -/
def resolveNamed (s : Server) (current : Option SessionId) : Outcome SourceId :=
  match current with
  | none => .error .invalidSession
  | some id => s.resolve id

/-- Puts a changed registry in place. -/
def withRegistry (s : Server) (r : Registry) : Server := { s with registry := r }

/-- The answer to a question for a deployment. -/
def probe (s : Server) (f : Fingerprint) : Outcome Unit :=
  if s.config.fingerprint.matchesText f.text then .ok () else .error (.deploymentMismatch f.text)

/-- Whether the session named is live, looking it up. -/
def probeSession (s : Server) (current : Option SessionId) : Server × Bool :=
  match current with
  | none => (s, false)
  | some id =>
    match s.resolve id with
    | .error _ => (s, false)
    | .ok source =>
      match s.registry.lookup s.now source with
      | (r, .ok ()) => (s.withRegistry r, true)
      | (r, .error _) => (s.withRegistry r, false)

/-- Opens a session after the last event, unless the caller has a live one. -/
def openSession (s : Server) (fresh : SourceId) (current : Option SessionId) :
    Server × Outcome SessionId :=
  match s.probeSession current with
  | (s, true) => (s, .error .sessionActive)
  | (s, false) =>
    (s.withRegistry (s.registry.create s.now fresh s.log.cursor), .ok ⟨s.epoch, fresh⟩)

/-- Ends the caller's session. -/
def closeSession (s : Server) (current : Option SessionId) : Server × Outcome Unit :=
  match current with
  | none => (s, .error .noActiveSession)
  | some id =>
    match s.resolve id with
    | .error fault => (s, .error fault)
    | .ok source =>
      match s.registry.invalidate source with
      | (r, true) => (s.withRegistry r, .ok ())
      | (r, false) => (s.withRegistry r, .error .invalidSession)

/-- Adds a type to the caller's session; says whether it was new. -/
def subscribe (s : Server) (current : Option SessionId) (t : TypeId) : Server × Outcome Bool :=
  match s.resolveNamed current with
  | .error fault => (s, .error fault)
  | .ok source =>
    let (r, answer) := s.registry.subscribe s.now source t
    (s.withRegistry r, answer)

/-- Takes a type away from the caller's session; says whether it was there. -/
def unsubscribe (s : Server) (current : Option SessionId) (t : TypeId) :
    Server × Outcome Bool :=
  match s.resolveNamed current with
  | .error fault => (s, .error fault)
  | .ok source =>
    let (r, answer) := s.registry.unsubscribe s.now source t
    (s.withRegistry r, answer)

/-- Appends an event to the log. -/
def publish (s : Server) (stamp : Stamp) (t : TypeId) (payload : Json.Value) : Server :=
  { s with log := s.log.publish stamp t payload }

/-- Ends the sessions that have been idle for too long; says how many. -/
def sweep (s : Server) : Server × Nat :=
  let (r, n) := s.registry.sweep s.now
  (s.withRegistry r, n)

/-- How many sessions are live. -/
def sessionCount (s : Server) : Nat := s.registry.count

end Server
end EventRelay

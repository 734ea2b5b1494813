/-
# Polls

A poll looks its session up, waits for the session's turn, and then waits for events in
two stages.  It ends with

| end | when | the session then |
| --- | --- | --- |
| a batch | the wait is over and the session is live | has consumed everything up to the cursor |
| invalid session | the wait is over and the session has ended | is unchanged |
| overflow | events it has not consumed are gone | stands at the last event |
| timeout | the wait is not over in time | is unchanged |

A batch holds the consumed events of subscribed types; events of other types are consumed
and left out.  Whatever ends a poll passes the turn on.
-/

import EventRelay.Server.Basic

namespace EventRelay
namespace Server

/-- The poll of a ticket. -/
def poll? (s : Server) (ticket : Nat) : Option Poll := s.polls.lookup ticket

/-- Puts a poll where it now stands. -/
def setPhase (s : Server) (ticket : Nat) (phase : PollPhase) : Server :=
  { s with polls := s.polls.map fun (t, p) => (t, if t = ticket then { p with phase } else p) }

/-- Takes a poll away and passes its turn on. -/
def dropPoll (s : Server) (ticket : Nat) : Server :=
  match s.poll? ticket with
  | none => s
  | some p =>
    { s with
      polls := s.polls.filter fun q => q.1 ≠ ticket
      registry := s.registry.release p.source ticket }

/-- A poll arrives: it is refused, or queues up with its ticket. -/
def beginPoll (s : Server) (ticket : Nat) (current : Option SessionId) :
    Server × Outcome Unit :=
  match s.resolveNamed current with
  | .error fault => (s, .error fault)
  | .ok source =>
    match s.registry.lookup s.now source with
    | (r, .error fault) => (s.withRegistry r, .error fault)
    | (r, .ok ()) =>
      ({ s with
          registry := r.enqueue source ticket
          polls := s.polls ++ [(ticket, ⟨source, .queued⟩)] }, .ok ())

/-- Moves a session that has lost events to the last event. -/
def resync (s : Server) (source : SourceId) : Fault → Server
  | .overflow _ _ _ => s.withRegistry (s.registry.modifySession source (·.update s.log.cursor))
  | _ => s

/-- The batch of what a session consumes. -/
def batchFor (session : Session) (d : Drain) : Batch :=
  { events := d.events.filter fun e => session.isSubscribed e.typeId, cursor := d.cursor }

/-- What a poll gets whose wait is over. -/
def consume (s : Server) (source : SourceId) (d : Drain) : Server × Outcome Batch :=
  match s.registry.entry? source with
  | none => (s, .error .invalidSession)
  | some e =>
    if e.session.invalidated then (s, .error .invalidSession)
    else
      let r := s.registry.modifySession source (·.update d.cursor)
      (s.withRegistry (r.modify source (·.touch s.now)), .ok (batchFor e.session d))

/-- The end of a poll's wait. -/
def finishWait (s : Server) (source : SourceId) (last : Int) : Server × Outcome Batch :=
  match s.log.drain (last + 1) with
  | .error fault => (s.resync source fault, .error fault)
  | .ok d => s.consume source d

/-- A poll that has the turn, at the present instant: where it then stands, or its answer. -/
def stepWaiting (s : Server) (source : SourceId) (last : Int) (deadline : Nat) (w : Wait) :
    Server × (PollPhase ⊕ Outcome Batch) :=
  match w.advance s.now s.log.cursor with
  | none =>
    let (s, answer) := s.finishWait source last
    (s, .inr answer)
  | some w' =>
    if deadline ≤ s.now then (s, .inr (.error .connectionTimeout))
    else (s, .inl (.waiting last deadline w'))

/-- A poll that gets the turn. -/
def takeTurn (s : Server) (source : SourceId) : Server × (PollPhase ⊕ Outcome Batch) :=
  match s.registry.entry? source with
  | none => (s, .inr (.error .invalidSession))
  | some e =>
    let last := e.session.lastSequence
    match s.log.ensureRetained last with
    | .error fault => (s.resync source fault, .inr (.error fault))
    | .ok () =>
      s.stepWaiting source last (s.now + s.config.requestTimeout.nanos)
        (Wait.start s.now (last + 1) s.config.minWait s.config.maxWait)

/-- One poll goes on as far as it can at the present instant; its answer, once there is one. -/
def advancePoll (s : Server) (ticket : Nat) : Server × Option (Outcome Batch) :=
  match s.poll? ticket with
  | none => (s, none)
  | some p =>
    let (s, result) :=
      match p.phase with
      | .queued =>
        if s.registry.holds p.source ticket then s.takeTurn p.source else (s, .inl .queued)
      | .waiting last deadline w => s.stepWaiting p.source last deadline w
    match result with
    | .inl phase => (s.setPhase ticket phase, none)
    | .inr answer => (s.dropPoll ticket, some answer)

/-- The next instant at which a poll is due. -/
def pollDue? (p : Poll) : Option Nat :=
  match p.phase with
  | .queued => none
  | .waiting _ deadline w => some (min deadline w.due)

end Server
end EventRelay

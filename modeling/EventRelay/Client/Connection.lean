/-
# The rules of staying connected

A connection does one thing at a time and decides by the result what to do next, and
whether at once or after a pause.  It is `inSession` exactly while its next errand is to
poll.

| result | state | told | next |
| --- | --- | --- | --- |
| session opened | in session | connected, new | poll now |
| opening failed | awaiting resume | | probe later |
| polled | in session | | poll now |
| poll failed, resumable | awaiting resume | disconnected | probe later |
| poll failed, not resumable | awaiting new session | disconnected | open later |
| probed, session held | in session | connected, resumed | poll now |
| probed, none held | awaiting new session | | open now |
| probe failed, other deployment | awaiting new session | | open later |
| probe failed otherwise | awaiting resume | | probe later |
-/

import EventRelay.Duration
import EventRelay.Event

namespace EventRelay

/-- What a connection does next. -/
inductive Errand where
  | openSession
  | poll
  | probe
  deriving DecidableEq, Repr

namespace Errand

/-- The name of an errand. -/
def name : Errand → String
  | openSession => "open_session"
  | poll => "poll"
  | probe => "probe"

end Errand

/-- How an errand went. -/
inductive Report where
  | sessionOpened
  | sessionFailed (kind : FailureKind)
  | polled
  | pollFailed (kind : FailureKind)
  /-- The deployment is there; `hasSession` says whether a session is held. -/
  | probed (hasSession : Bool)
  | probeFailed (kind : FailureKind)
  deriving DecidableEq, Repr

namespace Report

/-- The errand that a report is about. -/
def errand : Report → Errand
  | sessionOpened | sessionFailed _ => .openSession
  | polled | pollFailed _ => .poll
  | probed _ | probeFailed _ => .probe

/-- Whether an errand failed. -/
def isFailure : Report → Bool
  | sessionFailed _ | pollFailed _ | probeFailed _ => true
  | sessionOpened | polled | probed _ => false

end Report

/-- A decision: the state to be in, what listeners are told, and what to do next. -/
structure Decision where
  state : ConnectionState
  notify : Option ConnectionChange
  /-- The pause before the errand; `none` is no pause at all. -/
  pause : Option Duration
  errand : Errand
  deriving DecidableEq, Repr

/-- A connection: its state, and the pause it makes after failures. -/
structure Connection where
  state : ConnectionState
  retryDelay : Duration
  deriving DecidableEq, Repr

namespace Connection

/-- A connection that has done nothing yet. -/
def new (retryDelay : Duration) : Connection := ⟨.disconnected, retryDelay⟩

/-- The first decision: open a session at once. -/
def first : Decision := ⟨.disconnected, none, none, .openSession⟩

/-- The decision that follows a report. -/
def decide (retryDelay : Duration) : Report → Decision
  | .sessionOpened => ⟨.inSession, some .connectedNew, none, .poll⟩
  | .sessionFailed _ => ⟨.awaitingResume, none, some retryDelay, .probe⟩
  | .polled => ⟨.inSession, none, none, .poll⟩
  | .pollFailed kind =>
    if kind.isResumable then
      ⟨.awaitingResume, some (.disconnected kind), some retryDelay, .probe⟩
    else ⟨.awaitingNewSession, some (.disconnected kind), some retryDelay, .openSession⟩
  | .probed true => ⟨.inSession, some .resumed, none, .poll⟩
  | .probed false => ⟨.awaitingNewSession, none, none, .openSession⟩
  | .probeFailed .deploymentMismatch =>
    ⟨.awaitingNewSession, none, some retryDelay, .openSession⟩
  | .probeFailed _ => ⟨.awaitingResume, none, some retryDelay, .probe⟩

/-- Starts from the beginning. -/
def start (c : Connection) : Connection × Decision :=
  ({ c with state := first.state }, first)

/-- Takes a report. -/
def handle (c : Connection) (r : Report) : Connection × Decision :=
  let d := decide c.retryDelay r
  ({ c with state := d.state }, d)

/-- **A connection polls exactly while it is in session.** -/
theorem decide_errand_eq_poll_iff (retryDelay : Duration) (r : Report) :
    (decide retryDelay r).errand = .poll ↔ (decide retryDelay r).state = .inSession := by
  fun_cases decide retryDelay r <;> simp

/-- A pause follows a failure, and nothing else. -/
theorem decide_pause (retryDelay : Duration) (r : Report) :
    (decide retryDelay r).pause = if r.isFailure then some retryDelay else none := by
  fun_cases decide retryDelay r <;> simp [Report.isFailure]

end Connection
end EventRelay

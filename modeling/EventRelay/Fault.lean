/-
# Failures and their classification

Every failure falls into one of five kinds, and what a client does next depends on the
kind alone: the identity it holds is kept after a resumable failure and given up after
any other.

| kind | resumable | failures |
| --- | --- | --- |
| `invalid_session` | no | no live session, or none held |
| `overflow` | yes | the reader fell behind what is retained |
| `connection_timeout` | yes | no answer in time |
| `deployment_mismatch` | no | another deployment answers |
| `transient` | yes | everything else |
-/

namespace EventRelay

/-- The kinds of failure that clients and servers agree on. -/
inductive FailureKind where
  | invalidSession
  | overflow
  | connectionTimeout
  | deploymentMismatch
  | transient
  deriving DecidableEq, Repr

namespace FailureKind

/-- The name a kind has on the wire and in messages. -/
def name : FailureKind → String
  | invalidSession => "invalid_session"
  | overflow => "overflow"
  | connectionTimeout => "connection_timeout"
  | deploymentMismatch => "deployment_mismatch"
  | transient => "transient"

/-- All kinds, in the order in which messages list them. -/
def all : List FailureKind :=
  [invalidSession, overflow, connectionTimeout, deploymentMismatch, transient]

/-- Whether the identity held can be kept after such a failure. -/
def isResumable : FailureKind → Bool
  | overflow | connectionTimeout | transient => true
  | invalidSession | deploymentMismatch => false

theorem mem_all (k : FailureKind) : k ∈ all := by cases k <;> decide

theorem name_injective {a b : FailureKind} (h : a.name = b.name) : a = b := by
  cases a <;> cases b <;> first | rfl | (revert h; decide)

end FailureKind

/-- What can go wrong. -/
inductive Fault where
  /-- The session is absent, ended, or of another server process. -/
  | invalidSession
  /-- The reader lags further behind than the log retains. -/
  | overflow (cursor lastSequence : Int) (capacity : Nat)
  /-- No response within the time allowed. -/
  | connectionTimeout
  /-- Another deployment than the expected one answers. -/
  | deploymentMismatch (fingerprint : String)
  /-- A failure worth another try. -/
  | transient (text : String)
  /-- A failure that the server has classified. -/
  | remote (kind : FailureKind) (text : String)
  /-- The caller already has a live session. -/
  | sessionActive
  /-- The caller holds no session. -/
  | noActiveSession
  | invalidInput (text : String)
  | config (text : String)
  | serialization (text : String)
  | request (text : String)
  | internal (text : String)
  deriving DecidableEq, Repr

namespace Fault

/-- The kind a failure falls into. -/
def kind : Fault → FailureKind
  | invalidSession | noActiveSession => .invalidSession
  | overflow _ _ _ => .overflow
  | connectionTimeout => .connectionTimeout
  | deploymentMismatch _ => .deploymentMismatch
  | remote kind _ => kind
  | transient _ | sessionActive | invalidInput _ | config _ | serialization _ | request _
  | internal _ => .transient

/-- The wording of a failure. -/
def message : Fault → String
  | invalidSession => "Invalid session"
  | overflow cursor lastSequence capacity =>
    "Buffer overflow: cursor " ++ toString cursor ++ ", last sequence " ++ toString lastSequence ++
      ", capacity " ++ toString capacity
  | connectionTimeout => "Connection timed out"
  | deploymentMismatch fingerprint =>
    "Deployment mismatch: fingerprint " ++ fingerprint ++ " is not served"
  | transient text => "Transient failure: " ++ text
  | remote kind text => "Remote failure (" ++ kind.name ++ "): " ++ text
  | sessionActive => "A session is already active"
  | noActiveSession => "No active session"
  | invalidInput text => "Invalid input: " ++ text
  | config text => "Configuration error: " ++ text
  | serialization text => "Serialization error: " ++ text
  | request text => "Request error: " ++ text
  | internal text => "Internal error: " ++ text

end Fault

/-- The result of an operation that may fail. -/
abbrev Outcome (α : Type) := Except Fault α

/-- Why something is not set up. -/
inductive Obstacle where
  | fault (f : Fault)
  /-- The process panics: more memory is asked for at once than there can be. -/
  | panic
  deriving DecidableEq, Repr

/-- What is set up, or why it is not. -/
abbrev Setup (α : Type) := Except Obstacle α

end EventRelay

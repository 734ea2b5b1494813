/-
# Failures as records

A failure is written down with its name, its wording and its kind, and described by its
name and what it is about.  A description without a known name is a transient failure,
and a kind that is not known is the transient one.
-/

import EventRelay.Fault
import EventRelay.Json.Access

namespace EventRelay

open Json

namespace FailureKind

/-- The kind of a name. -/
def ofName (name : String) : FailureKind := (all.find? fun k => k.name = name).getD transient

theorem ofName_name (k : FailureKind) : ofName k.name = k := by cases k <;> decide

end FailureKind

namespace Fault

/-- The name of a failure. -/
def name : Fault → String
  | invalidSession => "InvalidSession"
  | overflow _ _ _ => "Overflow"
  | connectionTimeout => "ConnectionTimeout"
  | deploymentMismatch _ => "DeploymentMismatch"
  | transient _ => "Transient"
  | remote _ _ => "Remote"
  | sessionActive => "SessionActive"
  | noActiveSession => "NoActiveSession"
  | invalidInput _ => "InvalidInput"
  | config _ => "Config"
  | serialization _ => "Serialization"
  | request _ => "Request"
  | internal _ => "Internal"

/-- The record of a failure. -/
def record (f : Fault) : Value :=
  .object
    [("error", .string f.name), ("message", .string f.message), ("kind", .string f.kind.name)]

/-- The failure that a description is of. -/
def ofDescription (v : Value) : Fault :=
  let text := v.textAt "text"
  match v.textAt "variant" with
  | "InvalidSession" => invalidSession
  | "Overflow" => overflow (v.intAt "cursor") (v.intAt "last_sequence") (v.natAt "capacity")
  | "ConnectionTimeout" => connectionTimeout
  | "DeploymentMismatch" => deploymentMismatch text
  | "Remote" => remote (.ofName (v.textAt "kind")) text
  | "SessionActive" => sessionActive
  | "NoActiveSession" => noActiveSession
  | "InvalidInput" => invalidInput text
  | "Config" => config text
  | "Serialization" => serialization text
  | "Request" => request text
  | "Internal" => internal text
  | _ => transient text

end Fault

/-- The record of an outcome. -/
def Outcome.record {α : Type} (write : α → Value) : Outcome α → Value
  | .ok a => write a
  | .error fault => fault.record

/-- Why something is not set up, as it is written; nothing more is known of a panic. -/
def Obstacle.record : Obstacle → Value
  | fault f => f.record
  | panic => .object [("error", .string "Panic")]

/-- What is set up, or why it is not. -/
def Setup.record {α : Type} (write : α → Value) : Setup α → Value
  | .ok a => write a
  | .error obstacle => obstacle.record

end EventRelay

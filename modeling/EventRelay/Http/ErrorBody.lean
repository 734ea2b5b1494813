/-
# Failures in responses

A server tells a client of a failure in a JSON body: the wording, and the kind.  A client
that finds no such body goes by the status alone, and words the failure itself.
-/

import EventRelay.Http.Message
import EventRelay.Wire

namespace EventRelay

open Json

/-- The body that tells of a failure. -/
structure ErrorBody where
  error : String
  kind : Option FailureKind
  deriving DecidableEq, Repr

namespace ErrorBody

/-- The fields of a body that tells of a failure. -/
def shape : Shape where
  title := "ErrorBody"
  rules :=
    [.need "error" (Decode.string "a string"),
      .optional "kind" (Decode.nullable (Wire.read (α := FailureKind)))]

instance : Wire ErrorBody where
  write b := .object [("error", .string b.error), ("kind", .orNull (b.kind.map Wire.write))]
  read raw := do
    match ← shape.slots raw with
    | [some error, kind] =>
      return {
        error := ← Decode.string "a string" error
        kind := ← (kind.map (Decode.nullable Wire.read)).getD (.ok none) }
    | _ => Wire.impossible

end ErrorBody

/-- The body of a rejection. -/
def Rejection.body (r : Rejection) : ErrorBody := ⟨r.message, some r.kind⟩

/-- The response of a rejection. -/
def Rejection.response (r : Rejection) : Response :=
  .json r.status.code (Wire.text r.body)

/-- What a client makes of a response that is no success. -/
def Fault.ofReply (r : Response) : Fault :=
  match Wire.ofText (α := ErrorBody) r.body with
  | .ok body => .ofResponse r.status body.kind body.error
  | .error _ => .ofResponse r.status none ("server returned " ++ r.status.text)

end EventRelay

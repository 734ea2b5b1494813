/-
# Response statuses

A status is a number with a reason; the reasons of the standard ones are known.  A server
answers every failure with a status of its own kind, and a client that is told nothing
else can tell by the status alone whether the session it holds can go on.

| failure | status |
| --- | --- |
| invalid session, no active session | 401 |
| overflow | 410 |
| timeout | 408 |
| session active | 409 |
| invalid input | 400 |
| deployment mismatch | 404 |
| classified elsewhere | 502 |
| any other | 500 |
-/

import EventRelay.Fault

namespace EventRelay

/-- The number of a response's status. -/
structure Status where
  code : Nat
  deriving DecidableEq, Repr

namespace Status

/-- The standard statuses with their reasons. -/
def reasons : List (Nat × String) :=
  [(100, "Continue"), (101, "Switching Protocols"), (102, "Processing"), (200, "OK"),
    (201, "Created"), (202, "Accepted"), (203, "Non Authoritative Information"),
    (204, "No Content"), (205, "Reset Content"), (206, "Partial Content"),
    (207, "Multi-Status"), (208, "Already Reported"), (226, "IM Used"),
    (300, "Multiple Choices"), (301, "Moved Permanently"), (302, "Found"), (303, "See Other"),
    (304, "Not Modified"), (305, "Use Proxy"), (307, "Temporary Redirect"),
    (308, "Permanent Redirect"), (400, "Bad Request"), (401, "Unauthorized"),
    (402, "Payment Required"), (403, "Forbidden"), (404, "Not Found"),
    (405, "Method Not Allowed"), (406, "Not Acceptable"),
    (407, "Proxy Authentication Required"), (408, "Request Timeout"), (409, "Conflict"),
    (410, "Gone"), (411, "Length Required"), (412, "Precondition Failed"),
    (413, "Payload Too Large"), (414, "URI Too Long"), (415, "Unsupported Media Type"),
    (416, "Range Not Satisfiable"), (417, "Expectation Failed"), (418, "I'm a teapot"),
    (421, "Misdirected Request"), (422, "Unprocessable Entity"), (423, "Locked"),
    (424, "Failed Dependency"), (425, "Too Early"), (426, "Upgrade Required"),
    (428, "Precondition Required"), (429, "Too Many Requests"),
    (431, "Request Header Fields Too Large"), (451, "Unavailable For Legal Reasons"),
    (500, "Internal Server Error"), (501, "Not Implemented"), (502, "Bad Gateway"),
    (503, "Service Unavailable"), (504, "Gateway Timeout"),
    (505, "HTTP Version Not Supported"), (506, "Variant Also Negotiates"),
    (507, "Insufficient Storage"), (508, "Loop Detected"), (510, "Not Extended"),
    (511, "Network Authentication Required")]

/-- A status with its reason. -/
def text (s : Status) : String :=
  toString s.code ++ " " ++ ((reasons.lookup s.code).getD "<unknown status code>")

/-- Whether a status says that all went well. -/
def isSuccess (s : Status) : Bool := 200 ≤ s.code && s.code < 300

end Status

/-- The status that a server answers a failure with. -/
def Fault.status : Fault → Status
  | invalidSession | noActiveSession => ⟨401⟩
  | overflow _ _ _ => ⟨410⟩
  | connectionTimeout => ⟨408⟩
  | sessionActive => ⟨409⟩
  | invalidInput _ => ⟨400⟩
  | deploymentMismatch _ => ⟨404⟩
  | remote _ _ => ⟨502⟩
  | transient _ | config _ | serialization _ | request _ | internal _ => ⟨500⟩

/-- Why a server turns a request down. -/
inductive Rejection where
  | fault (f : Fault)
  /-- A request that could not be read. -/
  | badRequest (text : String)
  deriving DecidableEq, Repr

namespace Rejection

/-- The status of a rejection. -/
def status : Rejection → Status
  | fault f => f.status
  | badRequest _ => ⟨400⟩

/-- The kind of a rejection. -/
def kind : Rejection → FailureKind
  | fault f => f.kind
  | badRequest _ => .transient

/-- The wording of a rejection. -/
def message : Rejection → String
  | fault f => f.message
  | badRequest text => text

end Rejection

/-- What a client makes of a response that is no success: the kind that its body names counts
first, then the status. -/
def Fault.ofResponse (status : Status) (kind : Option FailureKind) (message : String) : Fault :=
  match kind with
  | some .invalidSession => .invalidSession
  | some .connectionTimeout => .connectionTimeout
  | some kind => .remote kind message
  | none =>
    if status.code = 401 ∨ status.code = 404 then .invalidSession
    else if status.code = 410 then .remote .overflow message
    else if status.code = 408 ∨ status.code = 504 then .connectionTimeout
    else .transient message

/-- **A kind that the body names is the kind the client sees.** -/
theorem Fault.kind_ofResponse (status : Status) (kind : FailureKind) (message : String) :
    (Fault.ofResponse status (some kind) message).kind = kind := by
  cases kind <;> rfl

end EventRelay

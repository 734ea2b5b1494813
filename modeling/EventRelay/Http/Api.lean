/-
# The server over HTTP

An `Api` puts requests to a server and words its answers as responses.  On its way a
request passes, from the outside:

| stage | does |
| --- | --- |
| body limit | turns an announced body away that is too long |
| origins | answers questions of browsers, and marks every other response |
| request id | keeps the id of a request or gives it one, and names it in the response |
| routes | finds out what is asked |

A request names its session in a header; one that is missing or malformed counts as none.
All requests but the poll are answered at once.
-/

import EventRelay.Http.Cors
import EventRelay.Http.ErrorBody
import EventRelay.Http.MediaType
import EventRelay.Http.Route
import EventRelay.Server.Host

namespace EventRelay

open Json

/-- A request under way, with the id that its response will name. -/
structure Exchange where
  request : Request
  requestId : String

/-- A server that speaks HTTP. -/
structure Api where
  host : Host
  /-- The origins whose pages may call. -/
  origins : List String
  /-- Polls that wait, by ticket. -/
  waiting : List (Nat × Exchange)

namespace Api

/-- A server with nothing under way. -/
def new (host : Host) (origins : List String) : Api := ⟨host, origins, []⟩

/-- The header that names a request. -/
def requestIdHeader : String := "x-request-id"

/-- Whether a header's value is printable ASCII. -/
def isReadable (s : String) : Bool :=
  s.toList.all fun c => (0x20 ≤ c.toNat && c.toNat < 0x7f) || c == '\t'

/-- The session that a request names. -/
def session? (r : Request) : Option SessionId :=
  match r.header? Defaults.sourceHeaderName with
  | none => none
  | some raw => if isReadable raw then (SessionId.parse raw).toOption else none

/-- Whether a body is longer than is allowed. -/
def isTooLong (b : RequestBody) : Bool := Defaults.maxBodyBytes < b.text.utf8ByteSize

/-- Whether a request announces a body that is too long. -/
def announcesTooMuch (r : Request) : Bool := r.body.any fun b => b.announced && isTooLong b

/-- How a request is told that its body could not be read. -/
def refusalText (text : String) : Refusal → String
  | .malformed fault => "Failed to parse the request body as JSON: " ++ fault.messageIn text
  | .content path message =>
    "Failed to deserialize the JSON body into the target type: " ++
      (if path.isEmpty then "" else pathText path ++ ": ") ++ message

/-- The message in the body of a request. -/
def readBody {α : Type} [Wire α] (r : Request) : Except Rejection α :=
  if !(r.header? "content-type").any fun t => isReadable t && MediaType.isJson t then
    .error (.badRequest "Expected request with `Content-Type: application/json`")
  else if r.body.any isTooLong then
    .error (.badRequest "Failed to buffer the request body: length limit exceeded")
  else (Wire.ofFront r.bodyText).mapError fun refusal => .badRequest (refusalText r.bodyText refusal)

/-- The response of an outcome. -/
def respond {α : Type} (ok : α → Response) : Outcome α → Response
  | .ok a => ok a
  | .error fault => (Rejection.fault fault).response

/-- The response to a poll. -/
def pollResponse (answer : Outcome Batch) : Response :=
  respond (fun batch => .json 200 (Wire.text batch)) answer

/-- What a server tells about itself. -/
def healthBody (h : Host) : Value :=
  .object
    [("status", .string "healthy"), ("version", .string Defaults.version),
      ("server_epoch", .string h.server.epoch.text),
      ("fingerprint", .string h.server.config.fingerprint.text),
      ("cursor", .int h.server.log.cursor), ("capacity", .int h.server.log.capacity),
      ("sessions", .int h.server.sessionCount)]

/-- A parameter of a path, decoded. -/
def parameter (name : String) (raw : List Char) : Except Response String :=
  match Text.percentDecode? raw with
  | some cs => .ok (String.ofList cs)
  | none => .error (.plain 400 ("Invalid URL: Invalid UTF-8 in `" ++ name ++ "`"))

/-- The event type that a path names. -/
def typeParameter (raw : List Char) : Except Response TypeId := do
  let text ← parameter "type_id" raw
  (TypeId.ofString text).mapError fun fault => (Rejection.fault fault).response

/-- Whether a server is of the deployment that a path names. -/
def probeResponse (h : Host) (raw : List Char) : Response :=
  match parameter "fingerprint" raw with
  | .error response => response
  | .ok name =>
    if h.server.config.fingerprint.matchesText name then .ofStatus 200
    else (Rejection.fault (.deploymentMismatch name)).response

/-- Changes a subscription. -/
def changeSubscription (raw : List Char) (h : Host)
    (change : Host → TypeId → Host × Outcome Bool) : Host × Response :=
  match typeParameter raw with
  | .error response => (h, response)
  | .ok t =>
    let (h, answer) := change h t
    (h, respond (fun changed => .json 200 (Wire.text (SubscriptionChange.mk changed))) answer)

/-- Puts a demand other than a poll to the server. -/
def perform (h : Host) (r : Request) : Demand → Host × Response
  | .health => (h, .json 200 (healthBody h).text)
  | .probe raw => (h, probeResponse h raw)
  | .openSession =>
    let (h, answer) := h.openSession (session? r)
    (h, respond (fun id => .json 201 (Wire.text (SessionGrant.mk id))) answer)
  | .closeSession =>
    let (h, answer) := h.closeSession (session? r)
    (h, respond (fun _ => .ofStatus 204) answer)
  | .subscribe raw => changeSubscription raw h fun h t => h.subscribe (session? r) t
  | .unsubscribe raw => changeSubscription raw h fun h t => h.unsubscribe (session? r) t
  | .publish =>
    match readBody (α := PublishRequest) r with
    | .error rejection => (h, rejection.response)
    | .ok event =>
      let (h, sequence) := h.publish event.typeId event.payload
      (h, .json 202 (Wire.text (PublishReceipt.mk sequence)))
  | .poll => (h, pollResponse (.error .invalidSession))

/-- A response with the length of its body. -/
def measure (response : Response) : Response :=
  response.withHeader "content-length" (toString response.body.utf8ByteSize)

/-- A response on its way out. -/
def finish (origins : List String) (e : Exchange) (response : Response) : Response :=
  let whole := measure response
  let response := if e.request.method = "HEAD" then whole.withoutBody else whole
  Cors.decorate origins e.request (response.withHeader requestIdHeader e.requestId)

/-- The id that a request brings along or is given. -/
def identify (a : Api) (r : Request) : Api × Exchange :=
  match r.header? requestIdHeader with
  | some id => (a, ⟨r, id⟩)
  | none =>
    ({ a with host := { a.host with ticket := a.host.ticket + 1 } }, ⟨r, a.host.freshUuid.text⟩)

/-- Answers a request that has come through to the routes, or makes it wait. -/
def route (a : Api) (e : Exchange) : Api × (Response ⊕ Nat) :=
  match Resource.ofPath? e.request.path with
  | none => (a, .inl (finish a.origins e (.ofStatus 404)))
  | some resource =>
    match resource.demand? e.request.method with
    | none =>
      let response := (Response.ofStatus 405).withHeader "allow" (",".intercalate resource.methods)
      (a, .inl (finish a.origins e response))
    | some .poll =>
      let (host, ticket) := a.host.poll (session? e.request)
      ({ a with host, waiting := a.waiting ++ [(ticket, e)] }, .inr ticket)
    | some demand =>
      let (host, response) := perform a.host e.request demand
      ({ a with host }, .inl (finish a.origins e response))

/-- Answers a request, or makes it wait under a ticket. -/
def handle (a : Api) (r : Request) : Api × (Response ⊕ Nat) :=
  if announcesTooMuch r then (a, .inl (measure (.plain 413 "length limit exceeded")))
  else if Cors.isQuestion r then (a, .inl (measure (Cors.answer a.origins r)))
  else
    let (a, e) := a.identify r
    a.route e

/-- The response to a poll, and when it was given. -/
def response? (a : Api) (ticket : Nat) : Option (Nat × Response) := do
  let e ← a.waiting.lookup ticket
  let (instant, answer) ← a.host.answer? ticket
  return (instant, finish a.origins e (pollResponse answer))

/-- A poll is given up. -/
def cancel (a : Api) (ticket : Nat) : Api := { a with host := a.host.cancel ticket }

instance : Timeline Api where
  now a := Timeline.now a.host
  nextDue? a := Timeline.nextDue? a.host
  settleAt t a := { a with host := Timeline.settleAt t a.host }

end Api
end EventRelay

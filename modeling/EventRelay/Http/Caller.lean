/-
# Calls over HTTP

A `Caller` turns the calls of a client into requests to a server's URL and makes answers
of what comes back.  The event type of a subscription is one segment of the path, so that
whatever it holds stays one segment.

| call | request | reply |
| --- | --- | --- |
| open a session | POST sessions | a grant |
| close a session | DELETE sessions | nothing |
| subscribe, unsubscribe | PUT, DELETE subscriptions | a change |
| poll | GET events | a batch |
| publish | POST events | a receipt |
| probe | HEAD the fingerprint | nothing |
-/

import EventRelay.Client.Call
import EventRelay.Config.Client
import EventRelay.Http.ErrorBody
import EventRelay.Http.Url

namespace EventRelay

/-- A request on its way to a server. -/
structure Posting where
  method : String
  url : Url
  session : Option SessionId
  body : Option String

/-- What comes of sending a request. -/
inductive Delivered where
  | response (r : Response)
  /-- No response in the time allowed. -/
  | timedOut
  /-- The server could not be reached, or hung up. -/
  | unreachable

namespace Posting

/-- A request as the server gets it. -/
def request (p : Posting) : Request where
  method := p.method
  target := p.url.target
  headers :=
    (match p.session with
    | some id => [(Defaults.sourceHeaderName, id.text)]
    | none => []) ++
    (match p.body with
    | some _ => [("content-type", "application/json")]
    | none => [])
  body := p.body.map fun text => ⟨text, true⟩

end Posting

/-- Where a client sends its requests. -/
structure Caller where
  baseUrl : String

namespace Caller

/-- The client of a server's URL. -/
def new (config : ClientConfig) : Caller := ⟨ClientConfig.withoutSlashes config.baseUrl⟩

/-- The text of the URL of a path. -/
def urlText (c : Caller) (path : String) : String := c.baseUrl ++ "/" ++ path

/-- The failure of a request that could not be made. -/
def builderFault (place : String) : Fault := .transient ("builder error" ++ place)

/-- The URL of a path, if requests can go there. -/
def url (c : Caller) (path : String) : Outcome Url :=
  match Url.parse (c.urlText path) with
  | .error _ => .error (builderFault "")
  | .ok u => .ok u.withoutUser

/-- The URL of a subscription. -/
def subscriptionUrl (c : Caller) (t : TypeId) : Outcome Url :=
  match Url.parse (c.urlText "api/v1/subscriptions") with
  | .error problem =>
    .error (.config ("invalid server URL " ++ c.baseUrl ++ ": " ++ problem.message))
  | .ok u =>
    if u.hasSegments then .ok (u.push t.text).withoutUser
    else .error (.config ("server URL " ++ c.baseUrl ++ " cannot carry a path"))

/-- Requests go over the web to a host, and nowhere else. -/
def checkReachable (p : Posting) : Outcome Posting :=
  if p.url.host.isSome && (p.url.scheme == "http" || p.url.scheme == "https") then .ok p
  else .error (builderFault (" for url (" ++ p.url.text ++ ")"))

/-- The request of a call, wherever it may go. -/
def draft (c : Caller) : Call → Outcome Posting
  | .openSession current => (c.url "api/v1/sessions").map fun u => ⟨"POST", u, current, none⟩
  | .closeSession session =>
    (c.url "api/v1/sessions").map fun u => ⟨"DELETE", u, some session, none⟩
  | .subscribe session t => (c.subscriptionUrl t).map fun u => ⟨"PUT", u, some session, none⟩
  | .unsubscribe session t => (c.subscriptionUrl t).map fun u => ⟨"DELETE", u, some session, none⟩
  | .poll session => (c.url "api/v1/events").map fun u => ⟨"GET", u, some session, none⟩
  | .publish t payload =>
    (c.url "api/v1/events").map fun u =>
      ⟨"POST", u, none, some (Wire.text (PublishRequest.mk t payload))⟩
  | .probe fingerprint => (c.url fingerprint.resourcePath).map fun u => ⟨"HEAD", u, none, none⟩

/-- The request of a call. -/
def posting (c : Caller) (call : Call) : Outcome Posting := (c.draft call).bind checkReachable

/-- The message of a response that is a success. -/
def readMessage {α : Type} [Wire α] (r : Response) : Outcome α :=
  if r.status.isSuccess then
    match Wire.ofText r.body with
    | .ok a => .ok a
    | .error _ => .error (.serialization "error decoding response body")
  else .error (.ofReply r)

/-- What a response says of a fingerprint. -/
def readProbe (fingerprint : Fingerprint) (r : Response) : Outcome Unit :=
  if r.status.code = 200 then .ok ()
  else if r.status.code = 404 then .error (.deploymentMismatch fingerprint.text)
  else .error (.transient ("probe returned " ++ r.status.text))

/-- The answer that a response gives to a call. -/
def readResponse (r : Response) : (call : Call) → call.Answer
  | .openSession _ => (readMessage r).map SessionGrant.sessionId
  | .closeSession _ => if r.status.isSuccess then .ok () else .error (.ofReply r)
  | .subscribe _ _ => (readMessage r).map SubscriptionChange.changed
  | .unsubscribe _ _ => (readMessage r).map SubscriptionChange.changed
  | .poll _ => readMessage (α := Batch) r
  | .publish _ _ => (readMessage r).map PublishReceipt.sequence
  | .probe fingerprint => readProbe fingerprint r

/-- The answer to a call whose request was sent. -/
def answer (call : Call) (p : Posting) : Delivered → call.Answer
  | .response r => readResponse r call
  | .timedOut => .error .connectionTimeout
  | .unreachable =>
    .error (.transient ("error sending request for url (" ++ p.url.text ++ ")"))

/-- Makes a call; `send` carries the request to the server. -/
def exchange (c : Caller) (call : Call) (send : Posting → Delivered) : call.Answer :=
  match c.posting call with
  | .error fault => .error fault
  | .ok p => answer call p (send p)

end Caller
end EventRelay

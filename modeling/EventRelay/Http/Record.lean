/-
# Requests and responses as records

Whoever carries requests and responses may hand them over as JSON objects.  Headers are
lists of pairs of name and value, and a body that is not there is `null`.
-/

import EventRelay.Http.Caller
import EventRelay.Json.Access

namespace EventRelay

open Json

namespace Headers

/-- The record of headers. -/
def record (hs : Headers) : Value :=
  .array (hs.map fun (name, value) => .array [.string name, .string value])

/-- The headers of a record, their names in lower case. -/
def ofRecord (v : Value) : Headers :=
  v.toItems.filterMap fun pair =>
    match pair with
    | .array [.string name, .string value] => some (name.toLower, value)
    | _ => none

end Headers

/-- The request of a record; its length was announced. -/
def Request.ofRecord (v : Value) : Request where
  method := (v.text? "method").getD "GET"
  target := (v.text? "target").getD "/"
  headers := Headers.ofRecord (v.partAt "headers")
  body := (v.text? "body").map fun text => ⟨text, true⟩

/-- The record of a response. -/
def Response.record (r : Response) : Value :=
  .object
    [("status", .int r.status.code), ("headers", Headers.record r.headers),
      ("body", .string r.body)]

/-- The response of a record. -/
def Response.ofRecord? (v : Value) : Option Response :=
  (v.nat? "status").map fun code =>
    ⟨⟨code⟩, Headers.ofRecord (v.partAt "headers"), v.textAt "body"⟩

/-- The record of a request on its way. -/
def Posting.record (p : Posting) : Value :=
  .object
    [("method", .string p.method), ("url", .string p.url.text),
      ("headers", Headers.record p.request.headers), ("body", .orNull (p.body.map .string))]

/-- What came of sending a request, by its record: a response, a word that there was none in
time, or anything else when the server was not reached. -/
def Delivered.ofRecord (v : Value) : Delivered :=
  match Response.ofRecord? v with
  | some r => .response r
  | none => if v.flagAt "timed_out" then .timedOut else .unreachable

end EventRelay

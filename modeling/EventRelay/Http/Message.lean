/-
# Requests and responses

Header names are lower case here; of several headers of one name the first counts.
-/

import EventRelay.Fault
import EventRelay.Http.Status

namespace EventRelay

/-- Headers in the order in which they stand. -/
abbrev Headers := List (String × String)

/-- The body of a request. -/
structure RequestBody where
  text : String
  /-- Whether the length was announced in a header. -/
  announced : Bool

/-- A request as a server gets it. -/
structure Request where
  method : String
  /-- Path and query. -/
  target : String
  headers : Headers
  body : Option RequestBody

/-- A response as a client gets it. -/
structure Response where
  status : Status
  headers : Headers
  body : String

namespace Request

/-- The first header of a name. -/
def header? (r : Request) (name : String) : Option String := r.headers.lookup name

/-- The path of a request. -/
def path (r : Request) : List Char := r.target.toList.takeWhile fun c => c ≠ '?' && c ≠ '#'

/-- The text of a request's body. -/
def bodyText (r : Request) : String := (r.body.map RequestBody.text).getD ""

end Request

namespace Response

/-- A response without headers and body. -/
def ofStatus (code : Nat) : Response := ⟨⟨code⟩, [], ""⟩

/-- A response with plain text. -/
def plain (code : Nat) (text : String) : Response :=
  ⟨⟨code⟩, [("content-type", "text/plain; charset=utf-8")], text⟩

/-- A response with a JSON text. -/
def json (code : Nat) (text : String) : Response :=
  ⟨⟨code⟩, [("content-type", "application/json")], text⟩

/-- The first header of a name. -/
def header? (r : Response) (name : String) : Option String := r.headers.lookup name

/-- A response with one more header. -/
def withHeader (r : Response) (name value : String) : Response :=
  { r with headers := r.headers ++ [(name, value)] }

/-- A response without its body. -/
def withoutBody (r : Response) : Response := { r with body := "" }

end Response
end EventRelay

/-
# Pages of other origins

A browser asks before it lets a page call a server of another origin.  A question, that
is a request with the method `OPTIONS`, is answered whatever it names; any other request
goes through, and its response says whether the page may see it.
-/

import EventRelay.Config.Origins
import EventRelay.Http.Message

namespace EventRelay
namespace Cors

/-- The methods that pages may use. -/
def methods : List String := ["GET", "HEAD", "POST", "PUT", "DELETE", "OPTIONS"]

/-- The headers that pages may send. -/
def headers : List String := ["content-type", "accept", Defaults.sourceHeaderName]

/-- What a response depends on. -/
def vary : Headers :=
  [("vary", "origin, access-control-request-method, access-control-request-headers")]

/-- Names the origin of a request if it is an allowed one. -/
def allowedOrigin (origins : List String) (r : Request) : Headers :=
  match r.header? "origin" with
  | none => []
  | some origin => if origins.contains origin then [("access-control-allow-origin", origin)] else []

/-- Whether a request asks before another one. -/
def isQuestion (r : Request) : Bool := r.method == "OPTIONS"

/-- The answer to a question. -/
def answer (origins : List String) (r : Request) : Response where
  status := ⟨200⟩
  headers :=
    allowedOrigin origins r ++ vary ++
      [("access-control-allow-methods", ",".intercalate methods),
        ("access-control-allow-headers", ",".intercalate headers),
        ("access-control-max-age", toString Defaults.corsMaxAgeSeconds)]
  body := ""

/-- A response with what a browser wants to know. -/
def decorate (origins : List String) (request : Request) (response : Response) : Response :=
  { response with headers := response.headers ++ allowedOrigin origins request ++ vary }

end Cors
end EventRelay

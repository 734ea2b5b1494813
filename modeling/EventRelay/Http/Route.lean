/-
# Routes

| path | methods |
| --- | --- |
| `/health` | GET |
| `/variant/<fingerprint>` | GET |
| `/api/v1/sessions` | POST, DELETE |
| `/api/v1/subscriptions/<type>` | PUT, DELETE |
| `/api/v1/events` | GET, POST |

Segments are compared as they stand.  A parameter is one segment that is not empty; it is
percent-decoded only after the route was found.  Whatever answers GET answers HEAD too.
-/

import EventRelay.Http.Message
import EventRelay.Text.Percent

namespace EventRelay

/-- What a path names; parameters are still encoded. -/
inductive Resource where
  | health
  | deployment (fingerprint : List Char)
  | sessions
  | subscription (typeId : List Char)
  | events
  deriving DecidableEq, Repr

/-- What a request asks for. -/
inductive Demand where
  | health
  | probe (fingerprint : List Char)
  | openSession
  | closeSession
  | subscribe (typeId : List Char)
  | unsubscribe (typeId : List Char)
  | poll
  | publish
  deriving DecidableEq, Repr

namespace Resource

/-- The resource of a path's segments. -/
def ofSegments? : List String → Option Resource
  | ["", "health"] => some .health
  | ["", "variant", p] => if p.isEmpty then none else some (.deployment p.toList)
  | ["", "api", "v1", "sessions"] => some .sessions
  | ["", "api", "v1", "subscriptions", p] => if p.isEmpty then none else some (.subscription p.toList)
  | ["", "api", "v1", "events"] => some .events
  | _ => none

/-- The resource of a path. -/
def ofPath? (path : List Char) : Option Resource :=
  ofSegments? ((path.splitOn '/').map String.ofList)

/-- The methods that a resource answers. -/
def methods : Resource → List String
  | health | deployment _ => ["GET", "HEAD"]
  | sessions => ["POST", "DELETE"]
  | subscription _ => ["PUT", "DELETE"]
  | events => ["GET", "HEAD", "POST"]

/-- What a method asks of a resource. -/
def demand? (r : Resource) (method : String) : Option Demand :=
  let isGet := method == "GET" || method == "HEAD"
  match r with
  | health => if isGet then some .health else none
  | deployment p => if isGet then some (.probe p) else none
  | sessions =>
    if method == "POST" then some .openSession
    else if method == "DELETE" then some .closeSession
    else none
  | subscription p =>
    if method == "PUT" then some (.subscribe p)
    else if method == "DELETE" then some (.unsubscribe p)
    else none
  | events =>
    if isGet then some .poll
    else if method == "POST" then some .publish
    else none

/-- **A method is answered exactly if it is listed.** -/
theorem isSome_demand? (r : Resource) (method : String) :
    (r.demand? method).isSome = r.methods.contains method := by
  cases r <;> simp only [demand?, methods, List.contains_cons, List.contains_nil, Bool.or_false]
  · cases h : (method == "GET" || method == "HEAD") <;> simp_all
  · cases h : (method == "GET" || method == "HEAD") <;> simp_all
  · cases method == "POST" <;> cases method == "DELETE" <;> rfl
  · cases method == "PUT" <;> cases method == "DELETE" <;> rfl
  · cases method == "GET" <;> cases method == "HEAD" <;> cases method == "POST" <;> rfl

end Resource
end EventRelay

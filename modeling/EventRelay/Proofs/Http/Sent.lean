/-
# Requests that reach a server

A client whose URL is that of a server sends every request to a path on it
(`Caller.url_below`), and the server compares the segments of that path with its routes
(`Api.handle_posting`).  `Api.receive` is the server after a request and what the client is
delivered.
-/

import EventRelay.Http.Api
import EventRelay.Proofs.Http.Below

namespace EventRelay

/-! ### From a client to a path -/

/-- Whether requests to a URL go over the web, and to its path alone. -/
def Url.IsReachable (u : Url) : Prop := Url.IsWeb u.scheme ∧ u.host.isSome = true ∧ u.query = none

namespace Caller

variable {c : Caller}

/-- **A client's URL of a path is on its server.** -/
theorem url_below (hroot : Url.IsRoot c.baseUrl) {path : String}
    (hpath : ∀ ch ∈ path.toList, Url.IsBody ch) :
    ∃ u, c.url path = .ok u ∧ u.IsReachable ∧
      u.path = .segments (Url.segmentsOf true ('/' :: path.toList)) := by
  obtain ⟨u, -, hweb, hhost, hquery, hbelow⟩ := Url.parse_below hroot
  have hparse := hbelow path.toList hpath
  rw [String.ofList_toList] at hparse
  refine ⟨{ u with path := .segments (Url.segmentsOf true ('/' :: path.toList)) }.withoutUser,
    ?_, ⟨hweb, hhost, hquery⟩, rfl⟩
  rw [url, urlText, hparse]

/-- A request over the web to a host is sent. -/
theorem checkReachable_eq {p : Posting} (h : p.url.IsReachable) : checkReachable p = .ok p := by
  obtain ⟨hweb, hhost, -⟩ := h
  rw [checkReachable, hhost]
  rcases hweb with hscheme | hscheme <;> rw [hscheme] <;> rfl

end Caller

/-! ### What a server makes of a request -/

namespace Api

/-- A server that gets a request, and what the client is delivered.  Of a poll, which waits, nothing
comes at once. -/
def receive (a : Api) (p : Posting) : Api × Delivered :=
  match a.handle p.request with
  | (a, .inl r) => (a, .response r)
  | (a, .inr _) => (a, .timedOut)

/-- A server that has given a request an id. -/
def counted (a : Api) : Api := { a with host := { a.host with ticket := a.host.ticket + 1 } }

/-- **A request without a body comes through to the routes** under an id of its own. -/
theorem handle_posting (a : Api) {p : Posting} (hbody : p.body = none)
    (hmethod : p.method ≠ "OPTIONS") :
    a.handle p.request = a.counted.route ⟨p.request, a.host.freshUuid.text⟩ := by
  have hshort : announcesTooMuch p.request = false := by
    simp [announcesTooMuch, Posting.request, hbody]
  have hquestion : Cors.isQuestion p.request = false := by
    simpa [Cors.isQuestion, Posting.request] using hmethod
  have hunnamed : p.request.header? requestIdHeader = none := by
    simp only [Posting.request, hbody, Request.header?, List.append_nil]
    cases p.session <;> rfl
  rw [handle, hshort, hquestion, identify, hunnamed]
  rfl

theorem status_finish (origins : List String) (e : Exchange) (r : Response) :
    (finish origins e r).status = r.status := by
  simp only [finish, Cors.decorate, Response.withHeader]
  split <;> rfl

theorem body_finish {origins : List String} {e : Exchange} (h : e.request.method ≠ "HEAD")
    (r : Response) : (finish origins e r).body = r.body := by
  simp only [finish, if_neg h, Cors.decorate, Response.withHeader, measure]

/-- A response as a client gets it: the status, and the body unless only the head was asked for. -/
def Conveys (method : String) (sent got : Response) : Prop :=
  got.status = sent.status ∧ (method ≠ "HEAD" → got.body = sent.body)

theorem conveys_finish (origins : List String) (e : Exchange) (r : Response) :
    Conveys e.request.method r (finish origins e r) :=
  ⟨status_finish origins e r, fun h => body_finish h r⟩

end Api

/-- A request that goes to the segments of a path without query, and carries no body. -/
structure Posting.GoesTo (p : Posting) (ss : List String) : Prop where
  path : p.url.path = .segments ss
  query : p.url.query = none
  nonempty : ss ≠ []
  clear : ∀ s ∈ ss, ∀ c ∈ s.toList, Url.IsClear c
  body : p.body = none
  method : p.method ≠ "OPTIONS"

namespace Api

variable {a : Api} {p : Posting} {ss : List String}

/-- **A request to a path that is nobody's route is not found**, and changes nothing. -/
theorem receive_astray (hp : p.GoesTo ss) (hroute : Resource.ofSegments? ("" :: ss) = none) :
    ∃ r, a.receive p = (a.counted, .response r) ∧ Conveys p.method (.ofStatus 404) r := by
  have hpath := Posting.ofPath?_path hp.path hp.query hp.nonempty hp.clear
  rw [hroute] at hpath
  refine ⟨_, ?_, conveys_finish a.origins ⟨p.request, a.host.freshUuid.text⟩ _⟩
  rw [receive, handle_posting a hp.body hp.method, route]
  simp only [hpath]
  rfl

/-- **A request to a route is performed**, unless it is a poll. -/
theorem receive_routed (hp : p.GoesTo ss) {resource : Resource}
    (hroute : Resource.ofSegments? ("" :: ss) = some resource) {demand : Demand}
    (hdemand : resource.demand? p.method = some demand) (hpoll : demand ≠ .poll) :
    ∃ r, a.receive p =
        ({ a.counted with host := (perform a.counted.host p.request demand).1 }, .response r) ∧
      Conveys p.method (perform a.counted.host p.request demand).2 r := by
  have hpath := Posting.ofPath?_path hp.path hp.query hp.nonempty hp.clear
  rw [hroute] at hpath
  refine ⟨_, ?_, conveys_finish a.origins ⟨p.request, a.host.freshUuid.text⟩ _⟩
  have hasked : resource.demand? p.request.method = some demand := hdemand
  rw [receive, handle_posting a hp.body hp.method, route]
  simp only [hpath, hasked]
  cases demand with
  | poll => exact absurd rfl hpoll
  | _ => rfl

end Api

/-- **A call to a server**: the server afterwards, and the answer. -/
def Caller.visit (c : Caller) (a : Api) (call : Call) : Api × call.Answer :=
  (match c.posting call with
    | .error _ => a
    | .ok p => (a.receive p).1,
    c.exchange call fun p => (a.receive p).2)

theorem Caller.visit_eq {c : Caller} {a : Api} {call : Call} {p : Posting} {r : Response} {b : Api}
    (hposting : c.posting call = .ok p) (hreceive : a.receive p = (b, .response r)) :
    c.visit a call = (b, Caller.readResponse r call) := by
  simp only [visit, exchange, hposting, hreceive]
  rfl

end EventRelay

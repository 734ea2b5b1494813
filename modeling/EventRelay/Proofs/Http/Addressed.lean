/-
# What a subscription over the web is for

The type of a subscription is the last segment of the path that a client sends its request to, and
the server reads the type from that segment.  Every character passes through it, encoded where it
has to be, but for tabs and line ends, which a URL drops: `TypeId.carried?` is the type that is
left, if any.  A subscription is made and taken back for exactly that type
(`Caller.subscriptions_travel`), so a type that holds no such character is the one that is meant, and
any other is taken for another type or for no type at all (`Caller.subscription_for_another`).
-/

import EventRelay.Proofs.Http.Reached
import EventRelay.Proofs.Http.Sent
import EventRelay.Proofs.Session.Wanting
import EventRelay.Proofs.Spellings

namespace EventRelay

/-! ### What a URL carries of a type -/

namespace TypeId

/-- What a URL carries of a type id: tabs and line ends vanish. -/
def carriedText (t : TypeId) : List Char := t.text.toList.filter fun c => !Url.isBreak c

/-- The type that is left of a type id in a URL, none if it is a dot segment. -/
def carried? (t : TypeId) : Option TypeId := (ofString (String.ofList t.carriedText)).toOption

theorem isBlank_of_isBreak {c : Char} (h : Url.isBreak c = true) : Text.isBlank c = true := by
  simp only [Url.isBreak, Bool.or_eq_true, beq_iff_eq] at h
  rcases h with (rfl | rfl) | rfl <;> decide

/-- What is dropped of a text makes it no longer. -/
theorem utf8ByteSize_filter_le (p : Char → Bool) (cs : List Char) :
    (String.ofList (cs.filter p)).utf8ByteSize ≤ (String.ofList cs).utf8ByteSize := by
  induction cs with
  | nil => exact Nat.le_refl _
  | cons c cs ih =>
    rw [String.ofList_cons, String.utf8ByteSize_append, List.filter_cons]
    split
    · rw [String.ofList_cons, String.utf8ByteSize_append]
      omega
    · omega

theorem problem?_eq_none_iff {text : String} :
    problem? text = none ↔ Text.isBlankText text = false ∧ ¬ (text = "." ∨ text = "..") ∧
      text.utf8ByteSize ≤ maxBytes := by
  unfold problem?
  split
  · simp_all
  · split
    · simp_all
    · split <;> simp_all

/-- What is left of a type id is not blank: what vanishes is. -/
theorem isBlankText_carriedText (t : TypeId) :
    Text.isBlankText (String.ofList t.carriedText) = false := by
  have hblank := (problem?_eq_none_iff.1 t.valid).1
  rw [Text.isBlankText, Bool.eq_false_iff, ne_eq, List.all_eq_true] at hblank ⊢
  refine fun hall => hblank fun c hc => ?_
  by_cases hbreak : Url.isBreak c = true
  · exact isBlank_of_isBreak hbreak
  · rw [String.toList_ofList] at hall
    exact hall c (List.mem_filter.2 ⟨hc, by simpa using hbreak⟩)

/-- **What is left of a type id is a type id again**, unless it is a dot segment. -/
theorem problem?_carriedText (t : TypeId) :
    problem? (String.ofList t.carriedText) = none ↔
      ¬ (t.carriedText = ['.'] ∨ t.carriedText = ['.', '.']) := by
  have hsize : (String.ofList t.carriedText).utf8ByteSize ≤ maxBytes := by
    have hle := utf8ByteSize_filter_le (fun c => !Url.isBreak c) t.text.toList
    rw [String.ofList_toList] at hle
    exact Nat.le_trans hle (problem?_eq_none_iff.1 t.valid).2.2
  have hdot : String.ofList t.carriedText = "." ↔ t.carriedText = ['.'] :=
    @String.ofList_inj t.carriedText ['.']
  have hdots : String.ofList t.carriedText = ".." ↔ t.carriedText = ['.', '.'] :=
    @String.ofList_inj t.carriedText ['.', '.']
  rw [problem?_eq_none_iff, hdot, hdots]
  exact ⟨fun h => h.2.1, fun h => ⟨isBlankText_carriedText t, h, hsize⟩⟩

/-- A text is that of a type id exactly if there is nothing wrong with it. -/
theorem ofString_eq_ok_iff {text : String} {t : TypeId} :
    ofString text = .ok t ↔ t.text = text := by
  constructor
  · exact text_of_ofString
  · rintro rfl
    exact ofString_text t

theorem carried?_eq_some_iff {t s : TypeId} :
    t.carried? = some s ↔ s.text.toList = t.carriedText := by
  have htext : s.text = String.ofList t.carriedText ↔ s.text.toList = t.carriedText := by
    rw [← String.toList_inj, String.toList_ofList]
  rw [carried?, ← htext, ← ofString_eq_ok_iff]
  cases ofString (String.ofList t.carriedText) <;> simp [Except.toOption]

theorem carried?_eq_none_iff {t : TypeId} :
    t.carried? = none ↔ t.carriedText = ['.'] ∨ t.carriedText = ['.', '.'] := by
  have hproblem := problem?_carriedText t
  constructor
  · intro hnone
    by_contra hdots
    have hsome := carried?_eq_some_iff (t := t) (s := ⟨_, hproblem.2 hdots⟩)
    rw [hnone] at hsome
    simp at hsome
  · intro hdots
    cases hcarried : t.carried? with
    | none => rfl
    | some s =>
      have htext : s.text = String.ofList t.carriedText := by
        rw [← String.toList_inj, String.toList_ofList, carried?_eq_some_iff.1 hcarried]
      exact absurd hdots (hproblem.1 (htext ▸ s.valid))

/-- **A type id is carried as it is exactly if it holds neither tab nor line end.** -/
theorem carried?_eq_self_iff {t : TypeId} :
    t.carried? = some t ↔ ∀ c ∈ t.text.toList, Url.isBreak c = false := by
  rw [carried?_eq_some_iff, carriedText, eq_comm, List.filter_eq_self]
  simp

/-- What a URL carries of a type id, encoded. -/
def segment (t : TypeId) : String :=
  String.ofList (Text.percentEncode Url.isSegmentChar t.carriedText)

/-- **What was encoded is decoded again.** -/
theorem percentDecode?_segment (t : TypeId) :
    Text.percentDecode? t.segment.toList = some t.carriedText := by
  rw [segment, String.toList_ofList, Text.percentDecode?_percentEncode Url.isSegmentChar_percent]

theorem isEmpty_segment (t : TypeId) : t.segment.isEmpty = false := by
  rw [Bool.eq_false_iff, ne_eq, String.isEmpty_iff]
  intro hempty
  have hdecode := percentDecode?_segment t
  rw [hempty] at hdecode
  have hnil : t.carriedText = [] := (Option.some.inj hdecode).symm
  have hblank := isBlankText_carriedText t
  rw [hnil] at hblank
  cases hblank

/-- The path of a subscription. -/
def path (t : TypeId) : List String :=
  if t.carriedText = ['.', '.'] then ["api", "v1", ""]
  else if t.carriedText = ['.'] then ["api", "v1", "subscriptions", ""]
  else ["api", "v1", "subscriptions", t.segment]

theorem path_clear (t : TypeId) : ∀ s ∈ t.path, ∀ c ∈ s.toList, Url.IsClear c := by
  have hsegment : ∀ c ∈ t.segment.toList, Url.IsClear c := by
    rw [segment, String.toList_ofList]
    exact Url.isClear_percentEncode _
  unfold path
  split
  · exact Url.isClear_of_all (by decide)
  · split
    · exact Url.isClear_of_all (by decide)
    · have hfront : ∀ s ∈ ["api", "v1", "subscriptions"], ∀ c ∈ s.toList, Url.IsClear c :=
        Url.isClear_of_all (by decide)
      intro s hs
      rw [show ["api", "v1", "subscriptions", t.segment] =
        ["api", "v1", "subscriptions"] ++ [t.segment] from rfl, List.mem_append] at hs
      rcases hs with hs | hs
      · exact hfront s hs
      · exact List.mem_singleton.1 hs ▸ hsegment

theorem path_ne_nil (t : TypeId) : t.path ≠ [] := by
  unfold path
  split
  · simp
  · split <;> simp

/-- **A subscription of a type that is left is routed to what is left**, and of a dot segment to
nothing. -/
theorem ofSegments?_path (t : TypeId) :
    Resource.ofSegments? ("" :: t.path) =
      t.carried?.map fun _ => .subscription t.segment.toList := by
  cases hcarried : t.carried? with
  | none =>
    rcases carried?_eq_none_iff.1 hcarried with hdots | hdots <;>
      simp [path, hdots, Resource.ofSegments?]
  | some s =>
    have hdots : ¬ (t.carriedText = ['.'] ∨ t.carriedText = ['.', '.']) := fun hdots => by
      rw [carried?_eq_none_iff.2 hdots] at hcarried
      cases hcarried
    rw [not_or] at hdots
    simp [path, hdots, Resource.ofSegments?, isEmpty_segment]

end TypeId

/-- **The URL of a subscription ends in what is left of the type.** -/
theorem Caller.subscriptionUrl_eq {c : Caller} (hroot : Url.IsRoot c.baseUrl) (t : TypeId) :
    ∃ u, c.subscriptionUrl t = .ok u ∧ u.IsReachable ∧ u.path = .segments t.path := by
  obtain ⟨u, -, hweb, hhost, hquery, hbelow⟩ := Url.parse_below hroot
  have hparse := hbelow "api/v1/subscriptions".toList (List.all_iff_forall_prop.1 (by decide))
  rw [String.ofList_toList] at hparse
  have hfront : Url.segmentsOf true ('/' :: "api/v1/subscriptions".toList) =
      ["api", "v1", "subscriptions"] := by decide
  rw [hfront] at hparse
  refine ⟨({ u with path := .segments ["api", "v1", "subscriptions"] }.push t.text).withoutUser,
    by rw [subscriptionUrl, urlText, hparse]; rfl, ⟨hweb, hhost, hquery⟩, ?_⟩
  have hundotted : ¬ (t.text = "." ∨ t.text = "..") := (TypeId.problem?_eq_none_iff.1 t.valid).2.1
  have hput := Url.addSegment_encode ["api", "v1", "subscriptions"] t.carriedText
  have hpush : Url.pushSegment ["api", "v1", "subscriptions"] t.text = t.path := by
    rw [Url.pushSegment, if_neg hundotted]
    exact hput
  exact congrArg UrlPath.segments hpush

/-! ### What a server makes of it -/

namespace Api

/-- **A server knows the session that a request was sent for.** -/
theorem session?_request {p : Posting} {id : SessionId} (h : p.session = some id) :
    session? p.request = some id := by
  have hheader : p.request.header? Defaults.sourceHeaderName = some id.text := by
    simp [Posting.request, h, Request.header?]
  exact session?_of_header hheader

/-- **A server reads from a path the type that is left.** -/
theorem changeSubscription_segment {t s : TypeId} (h : t.carried? = some s) (host : Host)
    (change : Host → TypeId → Host × Outcome Bool) :
    changeSubscription t.segment.toList host change =
      ((change host s).1, respond (fun changed => .json 200 (Wire.text (SubscriptionChange.mk changed)))
        (change host s).2) := by
  have htext : TypeId.ofString (String.ofList t.carriedText) = .ok s := by
    rw [TypeId.ofString_eq_ok_iff, ← String.toList_inj, String.toList_ofList,
      TypeId.carried?_eq_some_iff.1 h]
  have hparameter : typeParameter t.segment.toList = .ok s := by
    simp only [typeParameter, parameter, TypeId.percentDecode?_segment, bind, Except.bind, htext]
    rfl
  simp only [changeSubscription, hparameter]

end Api

/-- **A client hears of a change what the server said**, once the session is the only thing that can
be wrong. -/
theorem Caller.readMessage_change {method : String} (hmethod : method ≠ "HEAD") {answer : Outcome Bool}
    (hfault : ∀ fault, answer = .error fault → fault = .invalidSession) {r : Response}
    (hr : Api.Conveys method (Api.respond
      (fun changed => .json 200 (Wire.text (SubscriptionChange.mk changed))) answer) r) :
    (readMessage r).map SubscriptionChange.changed = answer := by
  cases answer with
  | ok changed =>
    have hsent : Api.respond
        (fun changed => .json 200 (Wire.text (SubscriptionChange.mk changed))) (.ok changed) =
      .json 200 (Wire.text (SubscriptionChange.mk changed)) := rfl
    rw [hsent] at hr
    obtain ⟨hstatus, hbody⟩ := hr
    have hsuccess : r.status.isSuccess = true := by rw [hstatus]; rfl
    have htext : r.body = Wire.text (SubscriptionChange.mk changed) := hbody hmethod
    rw [readMessage, if_pos hsuccess, htext, SubscriptionChange.ofText_text]
    rfl
  | error fault =>
    obtain rfl := hfault fault rfl
    have hsent : Api.respond
        (fun changed => .json 200 (Wire.text (SubscriptionChange.mk changed)))
          (.error .invalidSession) =
      (Rejection.fault .invalidSession).response := rfl
    rw [hsent] at hr
    obtain ⟨hstatus, hbody⟩ := hr
    have hfailure : ¬ r.status.isSuccess = true := by rw [hstatus]; decide
    rw [readMessage, if_neg hfailure, Fault.ofReply_congr hstatus (hbody hmethod),
      Fault.ofReply_response]
    rfl

/-- **A client that asks for what is not there** takes it for the end of its session. -/
theorem Caller.readMessage_notFound {α : Type} [Wire α] {method : String} (hmethod : method ≠ "HEAD")
    {r : Response} (hr : Api.Conveys method (.ofStatus 404) r) :
    readMessage (α := α) r = .error .invalidSession := by
  obtain ⟨hstatus, hbody⟩ := hr
  have hfailure : ¬ r.status.isSuccess = true := by rw [hstatus]; decide
  have hlost : Fault.ofReply (.ofStatus 404) = .invalidSession := rfl
  rw [readMessage, if_neg hfailure, Fault.ofReply_congr hstatus (hbody hmethod), hlost]

/-! ### The two changes of a subscription -/

/-- A session is not found only for want of it. -/
theorem Server.fault_of_resolveNamed {s : Server} {current : Option SessionId} {fault : Fault}
    (h : s.resolveNamed current = .error fault) : fault = .invalidSession := by
  unfold resolveNamed resolve at h
  split at h
  · cases h
    rfl
  · split at h <;> cases h
    rfl

/-- A look-up fails only for want of a session. -/
theorem Registry.fault_of_lookup {r : Registry} {now : Nat} {s : SourceId} {fault : Fault}
    (h : (r.lookup now s).2 = .error fault) : fault = .invalidSession := by
  unfold lookup at h
  split at h <;> cases h <;> rfl

/-- How the types of a session are altered. -/
inductive Alteration where
  | adds
  | removes

namespace Alteration

/-- The call of a client. -/
def call : Alteration → SessionId → TypeId → Call
  | adds => .subscribe
  | removes => .unsubscribe

/-- The method of the request. -/
def method : Alteration → String
  | adds => "PUT"
  | removes => "DELETE"

/-- What the request asks for. -/
def demand : Alteration → List Char → Demand
  | adds => .subscribe
  | removes => .unsubscribe

/-- What the server does. -/
def change : Alteration → Host → Option SessionId → TypeId → Host × Outcome Bool
  | adds => Host.subscribe
  | removes => Host.unsubscribe

variable (x : Alteration)

theorem method_ne : x.method ≠ "HEAD" ∧ x.method ≠ "OPTIONS" := by cases x <;> decide

theorem draft_call (c : Caller) (id : SessionId) (t : TypeId) : c.draft (x.call id t) =
    (c.subscriptionUrl t).map fun u => ⟨x.method, u, some id, none⟩ := by cases x <;> rfl

theorem demand?_method (raw : List Char) :
    (Resource.subscription raw).demand? x.method = some (x.demand raw) := by cases x <;> rfl

theorem demand_ne_poll (raw : List Char) : x.demand raw ≠ .poll := by cases x <;> simp [demand]

theorem perform_demand (h : Host) (r : Request) (raw : List Char) :
    Api.perform h r (x.demand raw) =
      Api.changeSubscription raw h fun h t => x.change h (Api.session? r) t := by cases x <;> rfl

/-- **A change fails only for want of a session.** -/
theorem fault_of_change {h : Host} {current : Option SessionId} {t : TypeId} {fault : Fault}
    (hfault : (x.change h current t).2 = .error fault) : fault = .invalidSession := by
  cases hresolve : h.server.resolveNamed current with
  | error problem =>
    have hproblem := Server.fault_of_resolveNamed hresolve
    cases x <;>
      simp only [change, Host.subscribe, Host.unsubscribe, Server.subscribe, Server.unsubscribe,
        hresolve, Except.error.injEq] at hfault <;>
      exact hfault ▸ hproblem
  | ok source =>
    cases hlookup : h.server.registry.lookup h.server.now source with
    | mk r found =>
      cases found with
      | error problem =>
        have hproblem := Registry.fault_of_lookup (congrArg Prod.snd hlookup)
        cases x <;>
          simp only [change, Host.subscribe, Host.unsubscribe, Server.subscribe, Server.unsubscribe,
            Registry.subscribe, Registry.unsubscribe, hresolve, hlookup, Except.error.injEq]
            at hfault <;>
          exact hfault ▸ hproblem
      | ok u =>
        cases x <;>
          simp [change, Host.subscribe, Host.unsubscribe, Server.subscribe, Server.unsubscribe,
            Registry.subscribe, Registry.unsubscribe, hresolve, hlookup] at hfault

end Alteration

/-- A server that has put a change to its host. -/
def Api.put (a : Api) (change : Host → Host × Outcome Bool) : Api × Outcome Bool :=
  ({ a.counted with host := (change a.counted.host).1 }, (change a.counted.host).2)

/-- **What comes of a request for a change**: the change of the type that is left, told as it was, or
nothing but the word that there is no such session. -/
theorem Api.receive_change {u : Url} {t : TypeId} (hquery : u.query = none)
    (hpath : u.path = .segments t.path) (x : Alteration) (id : SessionId) (a : Api) :
    ∃ b r, a.receive ⟨x.method, u, some id, none⟩ = (b, .response r) ∧
      (b, (Caller.readMessage r).map SubscriptionChange.changed) =
        match t.carried? with
        | some s => a.put fun h => x.change h (some id) s
        | none => (a.counted, .error .invalidSession) := by
  have hgoes : Posting.GoesTo ⟨x.method, u, some id, none⟩ t.path :=
    ⟨hpath, hquery, t.path_ne_nil, t.path_clear, rfl, x.method_ne.2⟩
  have hroute := t.ofSegments?_path
  cases hcarried : t.carried? with
  | none =>
    rw [hcarried] at hroute
    obtain ⟨r, hreceive, hr⟩ := receive_astray (a := a) hgoes hroute
    exact ⟨_, r, hreceive, by rw [Caller.readMessage_notFound x.method_ne.1 hr]; rfl⟩
  | some s =>
    rw [hcarried] at hroute
    obtain ⟨r, hreceive, hr⟩ := receive_routed (a := a) hgoes hroute
      (x.demand?_method t.segment.toList) (x.demand_ne_poll _)
    rw [x.perform_demand, session?_request rfl, changeSubscription_segment hcarried] at hreceive hr
    refine ⟨_, r, hreceive, ?_⟩
    rw [Caller.readMessage_change x.method_ne.1 (fun fault => x.fault_of_change) hr]
    rfl

/-! ### What a session is then sent -/

namespace Server

/-- Whether an event of a type that is published now is among what a poll of a session consumes,
whatever the poll has seen so far, as long as nothing of the rest is gone. -/
def Delivers (s : Server) (source : SourceId) (t : TypeId) : Prop :=
  ∀ (stamp : Stamp) (payload : Json.Value) (last : Int), -1 ≤ last → last ≤ s.log.cursor →
    s.log.cursor + 1 - last ≤ s.log.capacity →
      ∃ batch, ((s.publish stamp t payload).finishWait source last).2 = .ok batch ∧
        s.log.nextEvent stamp t payload ∈ batch.events

/-- **A poll consumes what is published**, and is given it if the session wants it. -/
theorem finishWait_publish {s : Server} {events : List Event} (hlog : s.log.Holds events)
    {source : SourceId} {e : Entry} (he : s.registry.entry? source = some e)
    (hlive : e.session.invalidated = false) {last : Int}
    (hlow : -1 ≤ last) (hhigh : last ≤ s.log.cursor)
    (hnear : s.log.cursor + 1 - last ≤ s.log.capacity) (stamp : Stamp) (t : TypeId) (payload : Json.Value) :
    ∃ batch, ((s.publish stamp t payload).finishWait source last).2 = .ok batch ∧
      (s.log.nextEvent stamp t payload ∈ batch.events ↔ e.session.isSubscribed t = true) := by
  have hpublished := hlog.publish stamp t payload
  have hcursor := hlog.cursor_eq
  have hbehind : last ≤ (s.log.publish stamp t payload).cursor := by
    rw [Log.cursor_publish]
    omega
  have hdrain := hpublished.drain_eq hlow hbehind
  rw [if_neg (by rw [Log.cursor_publish, Log.capacity_publish]; omega)] at hdrain
  have hdropped : (events ++ [s.log.nextEvent stamp t payload]).drop (last + 1).toNat =
      events.drop (last + 1).toNat ++ [s.log.nextEvent stamp t payload] :=
    List.drop_append_of_le_length (by omega)
  rw [hdropped] at hdrain
  have hentry : (s.publish stamp t payload).registry.entry? source = some e := he
  have hlogged : (s.publish stamp t payload).log = s.log.publish stamp t payload := rfl
  refine ⟨_, by rw [finishWait, hlogged, hdrain]; simp only [consume, hentry, hlive]; rfl, ?_⟩
  simp [batchFor, Log.nextEvent]

/-- **A session is sent events of exactly the types it wants.** -/
theorem delivers_iff {s : Server} {events : List Event} (hlog : s.log.Holds events)
    {source : SourceId} {e : Entry} (he : s.registry.entry? source = some e)
    (hlive : e.session.invalidated = false) (t : TypeId) :
    s.Delivers source t ↔ e.session.isSubscribed t = true := by
  constructor
  · intro hdelivers
    have hcursor := hlog.cursor_eq
    have hcapacity := s.log.capacity_pos
    obtain ⟨batch, hbatch, hmem⟩ := hdelivers ⟨⟨0, by decide⟩, .ofUnixNanos 0⟩ .null s.log.cursor
      (by omega) (Int.le_refl _) (by omega)
    obtain ⟨batch', hbatch', hiff⟩ := finishWait_publish hlog he hlive (by omega)
      (Int.le_refl s.log.cursor) (by omega) ⟨⟨0, by decide⟩, .ofUnixNanos 0⟩ t .null
    cases hbatch.symm.trans hbatch'
    exact hiff.1 hmem
  · intro hwants stamp payload last hlow hhigh hnear
    obtain ⟨batch, hbatch, hiff⟩ :=
      finishWait_publish hlog he hlive hlow hhigh hnear stamp t payload
    exact ⟨batch, hbatch, hiff.2 hwants⟩

end Server

/-- **A subscription that is granted** is that of a live session, which then wants the type too. -/
theorem Host.entry_subscribe {h : Host} {id : SessionId} {t : TypeId} {added : Bool}
    (hok : (h.subscribe (some id) t).2 = .ok added) :
    ∃ e, h.server.registry.entry? id.source = some e ∧ e.listed = true ∧
      (h.subscribe (some id) t).1.server.registry.entry? id.source =
        some { e with session := e.session.subscribe t, lastAccess := h.server.now } := by
  cases hresolve : h.server.resolveNamed (some id) with
  | error problem =>
    simp [subscribe, Server.subscribe, hresolve] at hok
  | ok source =>
    have hsource : source = id.source := by
      simp only [Server.resolveNamed, Server.resolve] at hresolve
      split at hresolve <;> cases hresolve
      rfl
    subst hsource
    cases hglance : h.server.registry.glance h.server.now id.source with
    | mk r sighting =>
      cases sighting with
      | live =>
        obtain ⟨rfl, e, hlive, -⟩ := Registry.glance_eq_live hglance
        obtain ⟨he, hlisted⟩ := Registry.live?_eq_some_iff.1 hlive
        refine ⟨e, he, hlisted, ?_⟩
        have htouched := Registry.entry_modify_self (f := (·.touch h.server.now)) he fun _ => rfl
        simp only [subscribe, Server.subscribe, hresolve, Registry.subscribe, Registry.lookup,
          hglance, Server.withRegistry]
        rw [Registry.entry_addType, if_pos rfl, htouched]
        rfl
      | absent | idle =>
        simp [subscribe, Server.subscribe, hresolve, Registry.subscribe, Registry.lookup, hglance]
          at hok

theorem Host.log_subscribe (h : Host) (current : Option SessionId) (t : TypeId) :
    (h.subscribe current t).1.server.log = h.server.log := by
  simp only [subscribe, Server.subscribe]
  split <;> rfl

/-! ### Subscriptions over the web -/

/-- **A change over the web is one of the type that is carried.** -/
theorem Caller.sends_change {c : Caller} (hroot : Url.IsRoot c.baseUrl) (x : Alteration) (a : Api)
    (id : SessionId) (t : TypeId) :
    ∃ p b r, c.posting (x.call id t) = .ok p ∧ a.receive p = (b, .response r) ∧
      (b, (readMessage r).map SubscriptionChange.changed) =
        match t.carried? with
        | some s => a.put fun h => x.change h (some id) s
        | none => (a.counted, .error .invalidSession) := by
  obtain ⟨u, hurl, hreach, hpath⟩ := subscriptionUrl_eq hroot t
  obtain ⟨b, r, hreceive, hread⟩ := Api.receive_change hreach.2.2 hpath x id a
  refine ⟨_, b, r, ?_, hreceive, hread⟩
  rw [posting, x.draft_call, hurl]
  exact checkReachable_eq hreach

/-- A subscription over the web is one of the type that is carried. -/
theorem Caller.visit_subscribe {c : Caller} (hroot : Url.IsRoot c.baseUrl) (a : Api) (id : SessionId)
    (t : TypeId) : c.visit a (.subscribe id t) =
      match t.carried? with
      | some s => a.put fun h => h.subscribe (some id) s
      | none => (a.counted, .error .invalidSession) := by
  obtain ⟨p, b, r, hposting, hreceive, hread⟩ := sends_change hroot .adds a id t
  exact (visit_eq hposting hreceive).trans hread

/-- A subscription that is taken back over the web is the one of the type that is carried. -/
theorem Caller.visit_unsubscribe {c : Caller} (hroot : Url.IsRoot c.baseUrl) (a : Api)
    (id : SessionId) (t : TypeId) : c.visit a (.unsubscribe id t) =
      match t.carried? with
      | some s => a.put fun h => h.unsubscribe (some id) s
      | none => (a.counted, .error .invalidSession) := by
  obtain ⟨p, b, r, hposting, hreceive, hread⟩ := sends_change hroot .removes a id t
  exact (visit_eq hposting hreceive).trans hread

/-- **A subscription over the web is made and taken back for what a URL carries of its type.**  A
type id without tab and line end is carried as it is, and the request does what the server does for
that very type; any other is taken for the type that is left, or for none, and then the client is
told that its session has ended.

What the session is sent afterwards are the events of the type that was carried, and those it was
sent before. -/
theorem Caller.subscriptions_travel {c : Caller} (hroot : Url.IsRoot c.baseUrl) {a : Api}
    (ha : a.Reached) (id : SessionId) (t : TypeId) :
    (c.visit a (.subscribe id t) =
        match t.carried? with
        | some s => a.put fun h => h.subscribe (some id) s
        | none => (a.counted, .error .invalidSession)) ∧
      (c.visit a (.unsubscribe id t) =
        match t.carried? with
        | some s => a.put fun h => h.unsubscribe (some id) s
        | none => (a.counted, .error .invalidSession)) ∧
      (t.carried? = some t ↔ ∀ ch ∈ t.text.toList, Url.isBreak ch = false) ∧
      ∀ added, (c.visit a (.subscribe id t)).2 = .ok added → ∀ u,
        (c.visit a (.subscribe id t)).1.host.server.Delivers id.source u ↔
          t.carried? = some u ∨ a.host.server.registry.wants id.source u = true := by
  obtain ⟨⟨events, hlog⟩, hsettled⟩ := ha.coherent
  have hadd := visit_subscribe hroot a id t
  refine ⟨hadd, visit_unsubscribe hroot a id t, TypeId.carried?_eq_self_iff, fun added hok v => ?_⟩
  rw [hadd] at hok ⊢
  cases hcarried : t.carried? with
  | none =>
    rw [hcarried] at hok
    cases hok
  | some s =>
    rw [hcarried] at hok
    obtain ⟨e, he, hlisted, hentry⟩ := Host.entry_subscribe hok
    have hlive : e.session.invalidated = false := by
      rw [hsettled.of_entry he, hlisted]
      rfl
    have hsubscribed : (e.session.subscribe s).invalidated = false :=
      (Session.invalidated_subscribe e.session s).trans hlive
    have hheld : (a.put fun h => h.subscribe (some id) s).1.host.server.log.Holds events := by
      rw [show (a.put fun h => h.subscribe (some id) s).1.host.server.log = a.host.server.log from
        Host.log_subscribe a.counted.host (some id) s]
      exact hlog
    have hwanted : a.host.server.registry.wants id.source v = e.session.isSubscribed v :=
      Registry.wants_of_entry he
    rw [Server.delivers_iff hheld hentry hsubscribed, hwanted]
    simp only [Session.isSubscribed_subscribe, Bool.or_eq_true, beq_iff_eq, Option.some.injEq]
    exact ⟨fun h => h.symm.imp_left Eq.symm, fun h => h.symm.imp_right Eq.symm⟩

theorem Epoch.sample_lt : 1 < 1 <<< 32 := by decide

/-- The session of the sample server. -/
def SessionId.sample : SessionId := ⟨⟨1, Epoch.sample_lt⟩, ⟨.ofTime 0 1⟩⟩

/-- A host of the default settings. -/
def Host.sample : Host :=
  (Host.new ServerConfig.default SessionId.sample.epoch 0).toOption.get rfl

theorem Host.new_sample : Host.new ServerConfig.default SessionId.sample.epoch 0 = .ok .sample := rfl

/-- A server of this host that was asked for a session. -/
def Api.sample : Api := ((Api.new .sample []).handle ⟨"POST", "/api/v1/sessions", [], none⟩).1

theorem Api.reached_sample : Api.sample.Reached := .handles (.starts Host.new_sample []) _

theorem Api.holds_sample : Api.sample.host.server.log.Holds [] :=
  Log.Holds.new (show Log.new ServerConfig.default.bufferCapacity = .ok _ from rfl)

/-- A type id with a slash and a percent sign is subscribed to, and its events come. -/
theorem Caller.subscriptions_travel_sample :
    Url.IsRoot Defaults.serverUrl ∧
      ((Caller.mk Defaults.serverUrl).visit .sample
        (.subscribe .sample ⟨"a/%b", by decide⟩)).1.host.server.Delivers
          SessionId.sample.source ⟨"a/%b", by decide⟩ := by
  refine ⟨Url.isRoot_serverUrl, ?_⟩
  obtain ⟨hadd, -, hself, hdelivers⟩ := Caller.subscriptions_travel (c := ⟨Defaults.serverUrl⟩)
    Url.isRoot_serverUrl Api.reached_sample .sample ⟨"a/%b", by decide⟩
  have hcarried := hself.2 (List.all_iff_forall_prop.1 (by decide))
  have hok : ((Caller.mk Defaults.serverUrl).visit .sample
      (.subscribe .sample ⟨"a/%b", by decide⟩)).2 = .ok true := by
    rw [hadd, hcarried]
    rfl
  exact (hdelivers true hok _).2 (.inl hcarried)

/-- **A type id that holds a tab is taken for another type**: the subscription is granted, what is
then sent are the events of that other type, and its own are not. -/
theorem Caller.subscription_for_another :
    ((Caller.mk Defaults.serverUrl).visit .sample
        (.subscribe .sample ⟨"a\tb", by decide⟩)).2 = .ok true ∧
      (¬ ((Caller.mk Defaults.serverUrl).visit .sample
        (.subscribe .sample ⟨"a\tb", by decide⟩)).1.host.server.Delivers
          SessionId.sample.source ⟨"a\tb", by decide⟩) ∧
      ((Caller.mk Defaults.serverUrl).visit .sample
        (.subscribe .sample ⟨"a\tb", by decide⟩)).1.host.server.Delivers
          SessionId.sample.source ⟨"ab", by decide⟩ := by
  have hcarried : TypeId.carried? ⟨"a\tb", by decide⟩ = some ⟨"ab", by decide⟩ := by decide
  rw [visit_subscribe (c := ⟨Defaults.serverUrl⟩) Url.isRoot_serverUrl, hcarried]
  have hlog : (Api.sample.put fun h =>
      h.subscribe (some .sample) ⟨"ab", by decide⟩).1.host.server.log.Holds [] := Api.holds_sample
  refine ⟨rfl, ?_, ?_⟩
  · rw [Server.delivers_iff hlog rfl rfl]
    decide
  · rw [Server.delivers_iff hlog rfl rfl]
    decide

end EventRelay

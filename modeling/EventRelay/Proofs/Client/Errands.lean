/-
# What a controller knows of its bus

The controller is the only one that takes sessions up, gives them up and polls, so what it
has under way agrees with the bus (`Activity.Agrees`): while it opens a session none is held,
while it subscribes types or polls the session that it does this for is held without a
break, and when it is about to open a session none is held.

A turn of the controller keeps the session, gives it up, or takes up the one that it was
granted (`Controller.Turns`); what is left to subscribe is that much shorter.
-/

import EventRelay.Client.Conversation

namespace EventRelay

/-- Whether an errand can wait for the answer to a call. -/
def Errand.Waits (b : Bus) : Errand → Pending → Prop
  | .openSession, .opening | .openSession, .abandoning _ _ => b.session = none
  | .openSession, .subscribing id generation _ _ | .poll, .polling id generation =>
    b.session = some id ∧ b.generation = generation
  | .probe, .probing _ => True
  | _, _ => False

namespace Activity

/-- Whether a controller's activity agrees with the bus. -/
def Agrees (b : Bus) : Activity → Prop
  | .ready errand | .pausing _ errand => errand = .openSession → b.session = none
  | .calling errand p => errand.Waits b p
  | .stopped => True

/-- The types that a new session has yet to subscribe. -/
def remaining : Activity → List TypeId
  | .calling _ (.subscribing _ _ t rest) => t :: rest
  | .calling _ _ | .ready _ | .pausing _ _ | .stopped => []

/-- Users change nothing that a controller's activity depends on. -/
theorem Agrees.congr {a : Activity} {b b' : Bus} (h : a.Agrees b)
    (hsession : b'.session = b.session) (hgeneration : b'.generation = b.generation) :
    a.Agrees b' := by
  cases a with
  | ready | pausing => exact fun he => hsession.trans (h he)
  | stopped => exact trivial
  | calling errand p =>
    cases errand <;> cases p <;>
      simp_all [Agrees, Errand.Waits]

end Activity

/-- A connection opens a session next exactly when it awaits a new one. -/
theorem Connection.decide_errand_eq_openSession_iff (retryDelay : Duration) (r : Report) :
    (Connection.decide retryDelay r).errand = .openSession ↔
      (Connection.decide retryDelay r).state = .awaitingNewSession := by
  fun_cases Connection.decide retryDelay r <;> simp

/-- What one turn of a controller can do to the bus; `granted` is the session that it was
granted in it, and `left` what is left to subscribe. -/
structure Controller.Turns (b : Bus) (granted : Option SessionId) (left : List TypeId)
    (next : Controller × Bus) : Prop where
  handlers : next.2.handlers = b.handlers
  nextHandler : next.2.nextHandler = b.nextHandler
  agrees : next.1.activity.Agrees next.2
  session : next.2.session = none ∨ next.2.session = granted ∨
    next.2.session = b.session ∧ next.2.generation = b.generation
  remaining : next.1.activity.remaining = left

namespace Controller.Turns

variable {b : Bus} {granted : Option SessionId} {left : List TypeId} {next : Controller × Bus}
  {id : SessionId}

/-- A session that is held after a turn was granted in it, or held before. -/
theorem granted_or_kept (h : Turns b granted left next) (hid : next.2.session = some id) :
    granted = some id ∨ b.session = some id := by
  rcases h.session with hnone | hgranted | ⟨hsame, -⟩
  · cases hnone.symm.trans hid
  · exact .inl (hgranted.symm.trans hid)
  · exact .inr (hsame.symm.trans hid)

theorem kept (h : Turns b granted left next) (hnone : granted = none)
    (hid : next.2.session = some id) : b.session = some id :=
  (h.granted_or_kept hid).resolve_left (by simp [hnone])

end Controller.Turns

namespace Bus

theorem handlers_dropSession (b : Bus) : b.dropSession.1.handlers = b.handlers := by
  unfold dropSession
  split <;> rfl

theorem nextHandler_dropSession (b : Bus) : b.dropSession.1.nextHandler = b.nextHandler := by
  unfold dropSession
  split <;> rfl

/-- What is told of an errand changes at most whether the session may be polled. -/
theorem report_eq (b : Bus) (errand : Errand) (result : Outcome Success) :
    (errand.report b result).1.handlers = b.handlers ∧
      (errand.report b result).1.nextHandler = b.nextHandler ∧
      (errand.report b result).1.session = b.session ∧
      (errand.report b result).1.generation = b.generation := by
  cases errand <;> cases result <;> simp only [Errand.report, resumeSession, and_self]
  cases hs : b.session <;> simp [hs]

end Bus

namespace Controller

variable {b : Bus} {errand : Errand}

/-- An errand that is over leaves the session or gives it up. -/
theorem turns_finish (c : Controller) (b : Bus) (errand : Errand) (result : Outcome Success) :
    Turns b none [] (c.finish b errand result) := by
  obtain ⟨hhandlers, hnext, hsession, hgeneration⟩ := b.report_eq errand result
  simp only [finish, Connection.handle]
  generalize errand.report b result = told at hhandlers hnext hsession hgeneration
  have hopens := Connection.decide_errand_eq_openSession_iff c.connection.retryDelay told.2
  generalize Connection.decide c.connection.retryDelay told.2 = d at hopens
  have hactivity : ∀ c' : Controller, (c'.enter told.1 d).1.activity = .ready d.errand ∨
      ∃ pause, (c'.enter told.1 d).1.activity = .pausing pause d.errand := by
    intro c'
    simp only [enter]
    cases d.pause with
    | none => exact .inl rfl
    | some pause => exact .inr ⟨pause, rfl⟩
  generalize hc : ({ c with connection := { c.connection with state := d.state } } : Controller) = c'
  have hbus : (c'.enter told.1 d).2 =
      if d.state = .awaitingNewSession then told.1.dropSession.1 else told.1 := rfl
  have hagrees : (c'.enter told.1 d).1.activity.Agrees (c'.enter told.1 d).2 := by
    have hnone : d.errand = .openSession → (c'.enter told.1 d).2.session = none := by
      intro he
      rw [hbus, if_pos (hopens.1 he)]
      exact Bus.session_dropSession _
    rcases hactivity c' with heq | ⟨pause, heq⟩ <;> rw [heq] <;> exact hnone
  have hleft : (c'.enter told.1 d).1.activity.remaining = [] := by
    rcases hactivity c' with heq | ⟨pause, heq⟩ <;> rw [heq] <;> rfl
  refine ⟨?_, ?_, hagrees, ?_, hleft⟩
  · rw [hbus, ← hhandlers]
    split
    · exact Bus.handlers_dropSession _
    · rfl
  · rw [hbus, ← hnext]
    split
    · exact Bus.nextHandler_dropSession _
    · rfl
  · rw [hbus]
    split
    · exact .inl (Bus.session_dropSession _)
    · exact .inr (.inr ⟨hsession, hgeneration⟩)

/-- A turn that ends with an operation. -/
theorem turns_adopt_finish (c : Controller) (b : Bus) (errand : Errand) (result : Outcome Success) :
    Turns b none [] (c.adopt errand (b.finish result)) :=
  turns_finish c b errand result

/-- **An errand begins.** -/
theorem turns_start (c : Controller) (hagrees : (Activity.ready errand).Agrees b) :
    Turns b none [] (c.adopt errand (b.start errand.operation)) := by
  cases errand with
  | openSession =>
    have hnone : b.session = none := hagrees rfl
    have hstart : b.start (Errand.openSession.operation) = b.await .opening := by
      simp [Bus.start, Errand.operation, hnone]
    rw [hstart]
    exact ⟨rfl, rfl, hnone, .inr (.inr ⟨rfl, rfl⟩), rfl⟩
  | poll =>
    simp only [Bus.start, Errand.operation]
    cases hs : b.session with
    | none => exact turns_adopt_finish c b _ _
    | some id =>
      dsimp only
      split
      · exact ⟨rfl, rfl, ⟨hs, rfl⟩, .inr (.inr ⟨rfl, rfl⟩), rfl⟩
      · exact turns_adopt_finish c b _ _
  | probe => exact ⟨rfl, rfl, trivial, .inr (.inr ⟨rfl, rfl⟩), rfl⟩

/-- A new session goes on to subscribe. -/
theorem turns_subscribeNext (c : Controller) {id : SessionId} (hid : b.session = some id)
    (ts : List TypeId) :
    Turns b none ts (c.adopt .openSession (b.subscribeNext id b.generation ts)) := by
  cases ts with
  | nil =>
    obtain ⟨hhandlers, hnext, hagrees, hsession, hleft⟩ := turns_finish c
      { b with polling := b.polling || b.generation == b.generation } .openSession (.ok (.session id))
    exact ⟨hhandlers, hnext, hagrees, hsession, hleft⟩
  | cons t rest => exact ⟨rfl, rfl, ⟨hid, rfl⟩, .inr (.inr ⟨rfl, rfl⟩), rfl⟩

/-- What is left to subscribe when a call is answered. -/
def left (b : Bus) : (p : Pending) → p.call.Answer → List TypeId
  | .opening, .ok id => (b.hold id).keys
  | .subscribing _ _ _ rest, .ok _ => rest
  | _, _ => []

/-- The session that an answer grants. -/
def granted : (p : Pending) → p.call.Answer → Option SessionId
  | .opening, .ok id => some id
  | _, _ => none

/-- **An errand hears an answer.** -/
theorem turns_resume (c : Controller) {p : Pending} (hwaits : errand.Waits b p)
    (answer : p.call.Answer) :
    Turns b (granted p answer) (left b p answer) (c.adopt errand (b.resume p answer)) := by
  cases p with
  | opening =>
    cases errand with
    | poll | probe => cases hwaits
    | openSession =>
      have hnone : b.session = none := hwaits
      cases answer with
      | error fault => exact turns_adopt_finish c b _ _
      | ok id =>
        have htake : b.resume .opening (.ok id) =
            (b.hold id).subscribeNext id (b.hold id).generation (b.hold id).keys := by
          simp only [Bus.resume, Bus.takeUp, hnone]
        obtain ⟨hhandlers, hnext, hagrees, hsession, hleft⟩ :=
          turns_subscribeNext c (Bus.session_hold b id) (b.hold id).keys
        rw [htake]
        refine ⟨hhandlers, hnext, hagrees, ?_, hleft⟩
        rcases hsession with hnone | hnone | ⟨hkept, -⟩
        · exact .inl hnone
        · exact .inl hnone
        · exact .inr (.inl hkept)
  | subscribing id generation t rest =>
    cases errand with
    | poll | probe => cases hwaits
    | openSession =>
      obtain ⟨hid, rfl⟩ := hwaits
      cases answer with
      | error fault =>
        have habandon : b.resume (.subscribing id b.generation t rest) (.error fault) =
            b.dropSession.1.await (.abandoning id fault) := by
          simp [Bus.resume, Bus.abandon, Bus.stillHolds, hid]
        rw [habandon]
        exact ⟨Bus.handlers_dropSession b, Bus.nextHandler_dropSession b,
          Bus.session_dropSession b, .inl (Bus.session_dropSession b), rfl⟩
      | ok changed => exact turns_subscribeNext c hid rest
  | abandoning id fault => exact turns_adopt_finish c b _ _
  | polling id generation =>
    simp only [Bus.resume, Bus.dispatch]
    split
    · cases answer with
      | error fault => exact turns_adopt_finish c b _ _
      | ok batch => exact turns_adopt_finish c b _ _
    · exact turns_adopt_finish c b _ _
  | probing f => exact turns_adopt_finish c b _ _
  | closing | adding | removing | publishing => cases errand <;> cases hwaits

theorem activity_stop (c : Controller) : c.stop.1.activity = .stopped := by
  unfold stop isStopped
  split
  · split at * <;> simp_all
  · rfl

/-- A session that cannot subscribe is given up. -/
theorem session_adopt_failed (c : Controller) {id : SessionId} {generation : Nat} {t : TypeId}
    {rest : List TypeId} (hwaits : errand.Waits b (.subscribing id generation t rest))
    (fault : Fault) :
    (c.adopt errand (b.resume (.subscribing id generation t rest) (.error fault))).2.session =
      none := by
  cases errand with
  | poll | probe => cases hwaits
  | openSession =>
    obtain ⟨hid, rfl⟩ := hwaits
    simp [Bus.resume, Bus.abandon, Bus.stillHolds, hid, adopt, Bus.await]

end Controller
end EventRelay

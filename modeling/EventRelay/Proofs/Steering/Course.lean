/-
# What a controller does next

What the controller of a bus has noted last says what it can note next (`Steering.Follows`): of an
errand that opens a session, that one was granted or that opening it failed; of a poll, that it
went out under the session that was kept; and so on.  Its notes are such a course from the start on,
and where it stands agrees with the last of them (`Steering.Steady`), whatever the service answers
and whatever the users of the bus do meanwhile.
-/

import EventRelay.Client.Steering
import EventRelay.Proofs.Client.Errands
import EventRelay.Proofs.Switchboard.Turns
import EventRelay.Proofs.Tickets

namespace EventRelay

/-- What a decision leaves of the session that is held. -/
def Decision.keeps (d : Decision) (held : Option SessionId) : Option SessionId :=
  if d.state = .awaitingNewSession then none else held

/-- A decision to open a session gives the session that is held up. -/
theorem Connection.keeps_of_opens {delay : Duration} {r : Report} (held : Option SessionId)
    (h : (Connection.decide delay r).errand = .openSession) :
    (Connection.decide delay r).keeps held = none :=
  if_pos ((Connection.decide_errand_eq_openSession_iff delay r).1 h)

/-- Any other decision keeps it. -/
theorem Connection.keeps_of_not_opens {delay : Duration} {r : Report} (held : Option SessionId)
    (h : (Connection.decide delay r).errand ≠ .openSession) :
    (Connection.decide delay r).keeps held = held :=
  if_neg fun hstate => h ((Connection.decide_errand_eq_openSession_iff delay r).2 hstate)

namespace Steering

variable {delay : Duration} {x x' y : Steering} {m : Move} {ms : List Move} {n : Note}
  {ns : List Note} {last : Option Note} {errand : Errand} {held : Option SessionId}

/-- What is noted of an errand that is over. -/
def Note.ofReport (delay : Duration) (r : Report) (held : Option SessionId) : Note :=
  .reported r held (Connection.decide delay r).notify ((Connection.decide delay r).keeps held)

/-- What can be noted next of an errand that begins, by the session that is held. -/
inductive Leads (delay : Duration) : Option SessionId → Errand → Note → Prop where
  | grants (id : SessionId) : Leads delay none .openSession (.granted id)
  | refuses (kind : FailureKind) :
    Leads delay none .openSession (.ofReport delay (.sessionFailed kind) none)
  | polls (id : SessionId) : Leads delay (some id) .poll (.polled id)
  | probes (held : Option SessionId) (r : Report) (hr : r.errand = .probe)
      (hheld : ∀ hasSession, r = .probed hasSession → hasSession = held.isSome) :
    Leads delay held .probe (.ofReport delay r held)

/-- What can be noted next, by the last note. -/
inductive Follows (delay : Duration) : Option Note → Note → Prop where
  | first (n : Note) (h : Leads delay none .openSession n) : Follows delay none n
  | next (r : Report) (held : Option SessionId) (told : Option ConnectionChange)
      (kept : Option SessionId) (n : Note)
      (h : Leads delay kept (Connection.decide delay r).errand n) :
    Follows delay (some (.reported r held told kept)) n
  | hears (id : SessionId) (r : Report) (hr : r.errand = .poll) :
    Follows delay (some (.polled id)) (.ofReport delay r (some id))
  | connects (id : SessionId) :
    Follows delay (some (.granted id)) (.ofReport delay .sessionOpened (some id))
  | abandons (id : SessionId) (kind : FailureKind) :
    Follows delay (some (.granted id)) (.ofReport delay (.sessionFailed kind) none)

/-- Notes each of which follows the one before. -/
inductive Course (delay : Duration) : List Note → Prop where
  | nil : Course delay []
  | concat {ns : List Note} {n : Note} (h : Course delay ns) (hn : Follows delay ns.getLast? n) :
    Course delay (ns ++ [n])

/-- Whether an errand is about to begin, or has its first call out, by the last note. -/
def Awaits (delay : Duration) (last : Option Note) (errand : Errand) (held : Option SessionId) :
    Prop :=
  (last = none ∧ errand = .openSession ∧ held = none) ∨
    ∃ r h told, last = some (.reported r h told held) ∧ (Connection.decide delay r).errand = errand

theorem Awaits.follows (h : Awaits delay last errand held) (hn : Leads delay held errand n) :
    Follows delay last n := by
  rcases h with ⟨rfl, rfl, rfl⟩ | ⟨r, h, told, rfl, rfl⟩
  · exact .first n hn
  · exact .next r h told held n hn

/-- Where a controller stands, by the last note. -/
def Stands (delay : Duration) (b : Bus) (last : Option Note) : Activity → Prop
  | .ready errand | .pausing _ errand => Awaits delay last errand b.session ∧
    (errand = .openSession → b.session = none) ∧
    (errand = .poll → b.polling = true ∧ b.session.isSome)
  | .calling .openSession .opening => Awaits delay last .openSession b.session ∧ b.session = none
  | .calling .openSession (.subscribing id generation _ _) =>
    last = some (.granted id) ∧ b.session = some id ∧ b.generation = generation
  | .calling .openSession (.abandoning _ _) => (∃ id, last = some (.granted id)) ∧ b.session = none
  | .calling .poll (.polling id generation) => last = some (.polled id) ∧
    b.session = some id ∧ b.generation = generation ∧ b.polling = true
  | .calling .probe (.probing _) => Awaits delay last .probe b.session
  | .calling _ _ => False
  | .stopped => True

/-- What the listeners were told of a note. -/
def Note.told? : Note → Option ConnectionChange
  | .reported _ _ told _ => told
  | .granted _ | .polled _ => none

/-- Whether an operation can be a user's. -/
def OfUser : Pending → Prop
  | .adding _ _ _ | .removing _ _ => True
  | .opening | .subscribing _ _ _ _ | .abandoning _ _ | .closing _ | .polling _ _ | .probing _
  | .publishing _ _ => False

/-- Whether the notes are a course. -/
structure Recorded (delay : Duration) (x : Steering) : Prop where
  retryDelay : x.controller.connection.retryDelay = delay
  course : Course delay x.notes
  /-- The listeners were told what the notes say. -/
  told : x.controller.changes.sent = x.notes.filterMap Note.told?
  users : ∀ q ∈ x.users, OfUser q.2

/-- Whether the notes are a course that leads to where the controller stands. -/
structure Steady (delay : Duration) (x : Steering) : Prop extends Recorded delay x where
  stands : Stands delay x.bus x.notes.getLast? x.controller.activity

/-! ### An errand is over -/

/-- What the end of an errand does. -/
theorem finish_eq (c : Controller) (b : Bus) (errand : Errand) (result : Outcome Success) :
    (c.finish b errand result).1.connection.retryDelay = c.connection.retryDelay ∧
      (c.finish b errand result).1.changes.sent = c.changes.sent ++
        (Connection.decide c.connection.retryDelay (errand.report b result).2).notify.toList ∧
      (c.finish b errand result).2.session =
        (Connection.decide c.connection.retryDelay (errand.report b result).2).keeps b.session := by
  obtain ⟨-, -, hsession, -⟩ := b.report_eq errand result
  refine ⟨rfl, ?_, ?_⟩
  · simp only [Controller.finish, Connection.handle, Controller.enter]
    cases (Connection.decide c.connection.retryDelay (errand.report b result).2).notify with
    | none => exact (List.append_nil _).symm
    | some change => rfl
  · have hbus : (c.finish b errand result).2 = if (Connection.decide c.connection.retryDelay
        (errand.report b result).2).state = .awaitingNewSession then
          (errand.report b result).1.dropSession.1 else (errand.report b result).1 := rfl
    rw [hbus, Decision.keeps]
    split
    · exact Bus.session_dropSession _
    · exact hsession

/-- What a controller that has reported does next. -/
theorem activity_finish (c : Controller) (b : Bus) (errand : Errand) (result : Outcome Success) :
    ∃ e, e = (Connection.decide c.connection.retryDelay (errand.report b result).2).errand ∧
      ((c.finish b errand result).1.activity = .ready e ∨
        ∃ pause, (c.finish b errand result).1.activity = .pausing pause e) := by
  refine ⟨_, rfl, ?_⟩
  simp only [Controller.finish, Connection.handle, Controller.enter]
  cases (Connection.decide c.connection.retryDelay (errand.report b result).2).pause with
  | none => exact .inl rfl
  | some pause => exact .inr ⟨pause, rfl⟩

/-- A failure is not followed by a poll. -/
theorem errand_of_failure {r : Report} (h : r.isFailure = true) :
    (Connection.decide delay r).errand ≠ .poll := by
  fun_cases Connection.decide delay r <;> simp_all [Report.isFailure]

/-- A poll follows only where it is allowed. -/
theorem polling_finish (c : Controller) (b : Bus) (errand : Errand) (result : Outcome Success)
    (hallowed : errand ≠ .probe → ∀ s, result = .ok s → b.polling = true ∧ b.session.isSome)
    (h : (Connection.decide c.connection.retryDelay (errand.report b result).2).errand = .poll) :
    (c.finish b errand result).2.polling = true ∧ (c.finish b errand result).2.session.isSome := by
  cases result with
  | error fault => cases errand <;> exact absurd h (errand_of_failure rfl)
  | ok s =>
    cases errand with
    | openSession => exact hallowed nofun s rfl
    | poll => exact hallowed nofun s rfl
    | probe =>
      cases hid : b.session with
      | none =>
        simp only [Errand.report, Bus.resumeSession, hid] at h
        cases h
      | some id =>
        simp [Controller.finish, Errand.report, Bus.resumeSession, hid, Connection.handle,
          Connection.decide, Controller.enter]

/-- **An errand is over.** -/
theorem Recorded.finishes (h : Recorded delay x) {turn : Turn} {result : Outcome Success}
    {r : Report} (hturn : turn.progress = .finished result)
    (hreport : (errand.report turn.bus result).2 = r) (hheld : turn.bus.session = held)
    (hfollows : Follows delay x.notes.getLast? (.ofReport delay r held))
    (hallowed : errand ≠ .probe → ∀ s, result = .ok s →
      turn.bus.polling = true ∧ turn.bus.session.isSome) :
    Steady delay (x.steer errand turn) := by
  subst hreport hheld
  obtain ⟨hdelay, hsent, hsession⟩ := finish_eq x.controller turn.bus errand result
  obtain ⟨e, he, hactivity⟩ := activity_finish x.controller turn.bus errand result
  have hpolling := polling_finish x.controller turn.bus errand result hallowed
  have hsteer : x.steer errand turn =
      { x with
        controller := (x.controller.finish turn.bus errand result).1
        bus := (x.controller.finish turn.bus errand result).2
        notes := x.notes ++
          [.ofReport delay (errand.report turn.bus result).2 turn.bus.session] } := by
    simp only [steer, Controller.adopt, notesOf, hturn, hsession, h.retryDelay, Note.ofReport,
      Connection.handle]
  rw [hsteer]
  rw [h.retryDelay] at hdelay hsent hsession he hpolling
  have hawaits : Awaits delay (some (.ofReport delay (errand.report turn.bus result).2
      turn.bus.session)) e (x.controller.finish turn.bus errand result).2.session := by
    rw [hsession]
    exact .inr ⟨_, _, _, rfl, he.symm⟩
  have hstands : Awaits delay (some (.ofReport delay (errand.report turn.bus result).2
      turn.bus.session)) e (x.controller.finish turn.bus errand result).2.session ∧
      (e = .openSession → (x.controller.finish turn.bus errand result).2.session = none) ∧
      (e = .poll → (x.controller.finish turn.bus errand result).2.polling = true ∧
        (x.controller.finish turn.bus errand result).2.session.isSome) := by
    refine ⟨hawaits, fun hopens => ?_, fun hpolls => hpolling (he ▸ hpolls)⟩
    rw [hsession]
    exact Connection.keeps_of_opens _ (he ▸ hopens)
  refine ⟨⟨hdelay, h.course.concat hfollows, ?_, h.users⟩, ?_⟩
  · rw [hsent, h.told, List.filterMap_append]
    rfl
  · rw [List.getLast?_concat]
    rcases hactivity with heq | ⟨pause, heq⟩
    · rw [heq]
      exact hstands
    · rw [heq]
      exact hstands

/-- A call goes out that is no poll. -/
theorem Recorded.waits (h : Recorded delay x) {turn : Turn} {p : Pending}
    (hturn : turn.progress = .waiting p) (hp : ∀ id generation, p ≠ .polling id generation)
    (hstands : Stands delay turn.bus x.notes.getLast? (.calling errand p)) :
    Steady delay (x.steer errand turn) := by
  have hnotes : notesOf x.controller errand turn = [] := by
    cases p with
    | polling id generation => exact absurd rfl (hp id generation)
    | opening | subscribing | abandoning | closing | adding | removing | probing | publishing =>
      simp only [notesOf, hturn]
  have hsteer : x.steer errand turn =
      { x with
        controller := { x.controller with activity := .calling errand p }
        bus := turn.bus } := by
    simp only [steer, Controller.adopt, hturn, hnotes, List.append_nil]
  rw [hsteer]
  exact ⟨⟨h.retryDelay, h.course, h.told, h.users⟩, hstands⟩

/-- A session is granted. -/
theorem Recorded.grants (h : Recorded delay x) {id : SessionId}
    (hfollows : Follows delay x.notes.getLast? (.granted id)) :
    Recorded delay { x with notes := x.notes ++ [.granted id] } := by
  refine ⟨h.retryDelay, h.course.concat hfollows, ?_, h.users⟩
  rw [h.told, List.filterMap_append]
  exact (List.append_nil _).symm

/-- What a probe that succeeds says of the session that is held. -/
theorem probed_eq {b : Bus} {result : Outcome Success} {hasSession : Bool}
    (h : (Errand.probe.report b result).2 = .probed hasSession) :
    hasSession = b.session.isSome := by
  cases result with
  | error fault => cases h
  | ok s =>
    simp only [Errand.report, Bus.resumeSession] at h
    cases hid : b.session with
    | none =>
      rw [hid] at h
      cases h
      rfl
    | some id =>
      rw [hid] at h
      cases h
      rfl

/-! ### The turns of the controller -/

/-- An errand begins. -/
theorem Steady.begins (h : Steady delay x) (hready : x.controller.activity = .ready errand ∨
    ∃ pause, x.controller.activity = .pausing pause errand) :
    Steady delay (x.steer errand (x.bus.start errand.operation)) := by
  obtain ⟨hawaits, hnone, hallowed⟩ : Awaits delay x.notes.getLast? errand x.bus.session ∧
      (errand = .openSession → x.bus.session = none) ∧
      (errand = .poll → x.bus.polling = true ∧ x.bus.session.isSome) := by
    have hstands := h.stands
    rcases hready with heq | ⟨pause, heq⟩
    · rw [heq] at hstands
      exact hstands
    · rw [heq] at hstands
      exact hstands
  cases errand with
  | openSession =>
    have hstart : x.bus.start Errand.openSession.operation = x.bus.await .opening := by
      simp [Bus.start, Errand.operation, hnone rfl]
    rw [hstart]
    exact h.waits rfl (by simp) ⟨hawaits, hnone rfl⟩
  | probe => exact h.waits rfl (by simp) hawaits
  | poll =>
    obtain ⟨hpolling, hsome⟩ := hallowed rfl
    obtain ⟨id, hid⟩ := Option.isSome_iff_exists.1 hsome
    have hstart : x.bus.start Errand.poll.operation =
        x.bus.await (.polling id x.bus.generation) := by
      simp [Bus.start, Errand.operation, hid, hpolling]
    rw [hstart]
    have hsteer : x.steer .poll (x.bus.await (.polling id x.bus.generation)) =
        { x with
          controller := { x.controller with activity := .calling .poll (.polling id _) }
          notes := x.notes ++ [.polled id] } := rfl
    rw [hsteer]
    refine ⟨⟨h.retryDelay, h.course.concat (hawaits.follows (hid ▸ .polls id)), ?_, h.users⟩, ?_⟩
    · rw [h.told, List.filterMap_append]
      exact (List.append_nil _).symm
    · rw [List.getLast?_concat]
      exact ⟨rfl, hid, rfl, hpolling⟩

/-- A new session goes on to subscribe. -/
theorem Recorded.subscribes (h : Recorded delay x) {b : Bus} {id : SessionId}
    (hlast : x.notes.getLast? = some (.granted id)) (hid : b.session = some id)
    (ts : List TypeId) :
    Steady delay (x.steer .openSession (b.subscribeNext id b.generation ts)) := by
  cases ts with
  | cons t rest => exact h.waits rfl nofun ⟨hlast, hid, rfl⟩
  | nil =>
    refine h.finishes rfl rfl hid ?_ fun _ _ _ => ?_
    · rw [hlast]
      exact .connects id
    · simp [Bus.subscribeNext, Bus.finish, hid]

/-- **An errand hears an answer.** -/
theorem Steady.hears (h : Steady delay x) {p : Pending}
    (hcalling : x.controller.activity = .calling errand p) (answer : p.call.Answer) :
    Steady delay (x.hear errand p answer) := by
  have hstands := h.stands
  rw [hcalling] at hstands
  have hsame : ∀ {turn : Turn}, Steady delay (x.steer errand turn) →
      Steady delay ({ x with notes := x.notes ++ [] }.steer errand turn) := by
    intro turn hturn
    rwa [List.append_nil]
  cases p with
  | opening =>
    cases errand with
    | poll | probe => cases hstands
    | openSession =>
      obtain ⟨hawaits, hnone⟩ := hstands
      cases answer with
      | error fault =>
        rw [hnone] at hawaits
        exact hsame (h.finishes rfl rfl hnone (hawaits.follows (.refuses fault.kind)) (by simp))
      | ok id =>
        rw [hnone] at hawaits
        have hgranted := h.grants (hawaits.follows (.grants id))
        have htake : x.bus.resume .opening (.ok id) = _ := Bus.resume_opening hnone
        show Steady delay ({ x with notes := x.notes ++ [Note.granted id] }.steer .openSession _)
        rw [htake]
        exact hgranted.subscribes List.getLast?_concat (Bus.session_hold x.bus id) _
  | subscribing id generation t rest =>
    cases errand with
    | poll | probe => cases hstands
    | openSession =>
      obtain ⟨hlast, hid, rfl⟩ := hstands
      cases answer with
      | error fault =>
        refine hsame ?_
        rw [Bus.resume_subscribing hid]
        exact h.waits rfl (by simp) ⟨⟨id, hlast⟩, Bus.session_dropSession _⟩
      | ok changed => exact hsame (h.subscribes hlast hid rest)
  | abandoning id fault =>
    cases errand with
    | poll | probe => cases hstands
    | openSession =>
      obtain ⟨⟨granted, hlast⟩, hnone⟩ := hstands
      refine hsame (h.finishes rfl rfl hnone ?_ (by simp))
      rw [hlast]
      exact .abandons granted fault.kind
  | polling id generation =>
    cases errand with
    | openSession | probe => cases hstands
    | poll =>
      obtain ⟨hlast, hid, rfl, hpolling⟩ := hstands
      have hstill : x.bus.stillHolds id x.bus.generation = true := by simp [Bus.stillHolds, hid]
      refine hsame ?_
      simp only [Bus.resume, Bus.dispatch, hstill, if_true]
      cases answer with
      | error fault =>
        refine h.finishes rfl rfl hid ?_ (by simp)
        rw [hlast]
        exact .hears id (.pollFailed fault.kind) rfl
      | ok batch =>
        refine h.finishes rfl rfl hid ?_ fun _ _ _ => ⟨hpolling, by simp [hid]⟩
        rw [hlast]
        exact .hears id .polled rfl
  | probing fingerprint =>
    cases errand with
    | openSession | poll => cases hstands
    | probe =>
      refine hsame (h.finishes rfl rfl rfl (Awaits.follows hstands ?_) fun hne => absurd rfl hne)
      exact .probes x.bus.session _ (Errand.report_errand _ _ _) fun hasSession => probed_eq
  | closing | adding | removing | publishing => cases errand <;> cases hstands

/-! ### Users -/

/-- Where a controller stands depends on the session only. -/
theorem Stands.congr {a : Activity} {b b' : Bus} (h : Stands delay b last a)
    (hsession : b'.session = b.session) (hgeneration : b'.generation = b.generation)
    (hpolling : b'.polling = b.polling) : Stands delay b' last a := by
  cases a with
  | ready | pausing =>
    simp only [Stands, hsession, hpolling] at h ⊢
    exact h
  | stopped => trivial
  | calling errand p =>
    cases errand <;> cases p <;> simp only [Stands, hsession, hgeneration, hpolling] at h ⊢ <;>
      exact h

/-- A turn of a user's operation leaves the session alone. -/
theorem Steady.attends (h : Steady delay x) {turn : Turn} {k : Nat}
    (hsession : turn.bus.session = x.bus.session)
    (hgeneration : turn.bus.generation = x.bus.generation)
    (hpolling : turn.bus.polling = x.bus.polling)
    (hwaits : ∀ p, turn.progress = .waiting p → OfUser p) : Steady delay (x.attend k turn) := by
  have hothers : ∀ q ∈ x.users.filter (·.1 ≠ k), OfUser q.2 := fun q hq =>
    h.users q (List.mem_of_mem_filter hq)
  have hstands := h.stands.congr hsession hgeneration hpolling
  unfold attend
  cases hturn : turn.progress with
  | finished result => exact ⟨⟨h.retryDelay, h.course, h.told, hothers⟩, hstands⟩
  | waiting p =>
    refine ⟨⟨h.retryDelay, h.course, h.told, fun q hq => ?_⟩, hstands⟩
    rcases List.mem_append.1 hq with hold | hnew
    · exact hothers q hold
    · rw [List.mem_singleton.1 hnew]
      exact hwaits p hturn

/-- A user begins an operation. -/
theorem Steady.requests (h : Steady delay x) {op : Operation} (hop : op ≠ .endSession)
    (hwaits : ∀ p, (x.bus.start op).progress = .waiting p → OfUser p) :
    Steady delay (x.request op) := by
  obtain ⟨hsession, hgeneration, hpolling⟩ := x.bus.bus_start hop
  have hnext : Steady delay { x with number := x.number + 1 } :=
    ⟨⟨h.retryDelay, h.course, h.told, h.users⟩, h.stands⟩
  exact hnext.attends hsession hgeneration hpolling hwaits

/-- A user that adds or removes a handler calls for nothing else. -/
theorem ofUser_of_start {b : Bus} {p : Pending} {op : Operation}
    (hop : (∃ t recipient, op = .addHandler t recipient) ∨ ∃ t id, op = .removeHandler t id)
    (hp : (b.start op).progress = .waiting p) : OfUser p := by
  rcases hop with ⟨t, recipient, rfl⟩ | ⟨t, id, rfl⟩
  · simp only [Bus.start] at hp
    split at hp <;> (try split at hp) <;> cases hp
    trivial
  · simp only [Bus.start] at hp
    split at hp <;> (try split at hp) <;> cases hp
    trivial

/-- A user hears an answer. -/
theorem Steady.replies (h : Steady delay x) {k : Nat} {p : Pending} (hp : OfUser p)
    (answer : p.call.Answer) : Steady delay (x.attend k (x.bus.resume p answer)) := by
  cases p with
  | adding id t n => cases answer <;> exact h.attends rfl rfl rfl nofun
  | removing id t => exact h.attends rfl rfl rfl nofun
  | opening | subscribing | abandoning | closing | polling | probing | publishing => cases hp

/-! ### Runs -/

theorem Steady.new (fingerprint : Fingerprint) (keys : KeyOrder) (delay : Duration) :
    Steady delay (Steering.new fingerprint keys delay) :=
  ⟨⟨rfl, .nil, rfl, nofun⟩, .inl ⟨rfl, rfl, rfl⟩, fun _ => rfl, nofun⟩

/-- **A move keeps the course.** -/
theorem Steady.step (h : Steady delay x) (hx : x.step m = some x') : Steady delay x' := by
  cases m with
  | add t recipient =>
    cases hx
    exact h.requests nofun fun p => ofUser_of_start (.inl ⟨t, recipient, rfl⟩)
  | remove t id =>
    cases hx
    exact h.requests nofun fun p => ofUser_of_start (.inr ⟨t, id, rfl⟩)
  | tidy enabled =>
    cases hx
    exact ⟨⟨h.retryDelay, h.course, h.told, h.users⟩, h.stands.congr rfl rfl rfl⟩
  | reply k answer =>
    obtain ⟨p, hp, rfl⟩ := Option.map_eq_some_iff.1 hx
    exact h.replies (h.users _ (Tickets.mem_of_lookup hp)) _
  | leave k =>
    obtain ⟨p, hp, rfl⟩ := Option.map_eq_some_iff.1 hx
    exact ⟨⟨h.retryDelay, h.course, h.told, fun q hq => h.users q (List.mem_of_mem_filter hq)⟩,
      h.stands⟩
  | begin =>
    simp only [Steering.step] at hx
    split at hx
    · rename_i errand hready
      cases hx
      exact h.begins (.inl hready)
    · rename_i pause errand hready
      cases hx
      exact h.begins (.inr ⟨pause, hready⟩)
    · cases hx
    · cases hx
  | hear answer =>
    simp only [Steering.step] at hx
    split at hx
    · rename_i errand p hcalling
      cases hx
      exact h.hears hcalling _
    · cases hx
    · cases hx
    · cases hx
  | stop =>
    cases hx
    refine ⟨⟨?_, h.course, ?_, h.users⟩, ?_⟩
    · rw [← h.retryDelay]
      simp only [Controller.stop]
      split <;> rfl
    · rw [← h.told]
      simp only [Controller.stop]
      split <;> rfl
    · show Stands delay x.bus _ x.controller.stop.1.activity
      rw [Controller.activity_stop]
      trivial

/-- **Every run keeps the course.** -/
theorem Steady.run (h : Steady delay x) (hy : x.run ms = some y) : Steady delay y := by
  induction ms generalizing x with
  | nil =>
    cases hy
    exact h
  | cons m ms ih =>
    obtain ⟨x', hx', hrest⟩ := Option.bind_eq_some_iff.1 hy
    exact ih (h.step hx') hrest

end Steering
end EventRelay

/-
# What a turn of an operation can do

`Bus.Resumes` lists everything that an operation can do when it hears an answer, and what follows
is read off that list.  A turn keeps the session that the bus holds, gives it up, or takes one up
when none is held, and each time that the session changes the generation grows (`Bus.Shifts`).  A
poll goes out only where an operation begins, and a new session goes on to subscribe only after it
has taken its session up or has heard that the type before is subscribed
(`Bus.subscribes_of_resume`).  Under a session that is held the permission to poll stays as it is,
but for a new session that has subscribed its last type.
-/

import EventRelay.Client.Switchboard

namespace EventRelay

/-- What can become of the session that a bus holds. -/
inductive Bus.Shifts (b b' : Bus) : Prop where
  | keeps (session : b'.session = b.session) (generation : b'.generation = b.generation)
  | takesUp (id : SessionId) (free : b.session = none) (held : b'.session = some id)
      (generation : b'.generation = b.generation + 1)
  | givesUp (id : SessionId) (held : b.session = some id) (free : b'.session = none)
      (generation : b'.generation = b.generation + 1)

namespace Bus

variable {b : Bus}

theorem shifts_dropSession (b : Bus) : b.Shifts b.dropSession.1 := by
  cases hs : b.session with
  | none => exact .keeps (by simp [hs]) (by simp [dropSession, hs])
  | some id => exact .givesUp id hs (by simp) (by simp [dropSession, hs])

theorem session_resumeSession (b : Bus) : b.resumeSession.1.session = b.session := by
  unfold resumeSession
  split <;> rfl

theorem generation_resumeSession (b : Bus) : b.resumeSession.1.generation = b.generation := by
  unfold resumeSession
  split <;> rfl

theorem shifts_resumeSession (b : Bus) : b.Shifts b.resumeSession.1 :=
  .keeps b.session_resumeSession b.generation_resumeSession

theorem bus_start_endSession (b : Bus) : (b.start .endSession).bus = b.dropSession.1 := by
  simp only [start]
  split <;> rename_i heq <;> rw [heq] <;> rfl

/-- Every operation but the one that ends the session begins with the session as it is. -/
theorem bus_start (b : Bus) {op : Operation} (hop : op ≠ .endSession) :
    (b.start op).bus.session = b.session ∧ (b.start op).bus.generation = b.generation ∧
      (b.start op).bus.polling = b.polling := by
  cases op with
  | endSession => exact absurd rfl hop
  | newSession | poll | addHandler | removeHandler =>
    simp only [start]
    split <;> (try split) <;> exact ⟨rfl, rfl, rfl⟩
  | probe | publish => exact ⟨rfl, rfl, rfl⟩

/-- An operation that begins takes no session up. -/
theorem shifts_start (b : Bus) (op : Operation) : b.Shifts (b.start op).bus := by
  by_cases hop : op = .endSession
  · subst hop
    rw [bus_start_endSession]
    exact b.shifts_dropSession
  · obtain ⟨hsession, hgeneration, -⟩ := b.bus_start hop
    exact .keeps hsession hgeneration

theorem bus_subscribeNext (b : Bus) (id : SessionId) (generation : Nat) (ts : List TypeId) :
    (b.subscribeNext id generation ts).bus.session = b.session ∧
      (b.subscribeNext id generation ts).bus.generation = b.generation := by
  cases ts <;> exact ⟨rfl, rfl⟩

theorem handledTypes_subscribeNext (b : Bus) (id : SessionId) (generation : Nat)
    (ts : List TypeId) : (b.subscribeNext id generation ts).bus.handledTypes = b.handledTypes := by
  cases ts <;> rfl

/-- Everything that an operation can do when it hears an answer. -/
inductive Resumes (b : Bus) : (p : Pending) → p.call.Answer → Turn → Prop where
  /-- The operation is over, and the bus is as it was. -/
  | ends (p : Pending) (answer : p.call.Answer) (result : Outcome Success) :
    Resumes b p answer (b.finish result)
  /-- A new session takes up what it was granted. -/
  | takesUp (id : SessionId) (hfree : b.session = none) :
    Resumes b .opening (.ok id)
      ((b.hold id).subscribeNext id (b.generation + 1) (b.hold id).keys)
  /-- A new session has subscribed a type. -/
  | goesOn (id : SessionId) (generation : Nat) (t : TypeId) (rest : List TypeId) (changed : Bool) :
    Resumes b (.subscribing id generation t rest) (.ok changed)
      (b.subscribeNext id generation rest)
  /-- A new session cannot subscribe a type, and is given up. -/
  | givesUp (id : SessionId) (t : TypeId) (rest : List TypeId) (fault : Fault)
      (hid : b.session = some id) :
    Resumes b (.subscribing id b.generation t rest) (.error fault)
      (b.dropSession.1.await (.abandoning id fault))
  /-- A first handler cannot be subscribed, and is taken out. -/
  | takesOut (id : SessionId) (t : TypeId) (n : Nat) (fault : Fault) :
    Resumes b (.adding id t n) (.error fault) ((b.detach t n).finish (.error fault))
  /-- A batch is handed to handlers. -/
  | dispatches (id : SessionId) (batch : Batch) (hid : b.session = some id) :
    Resumes b (.polling id b.generation) (.ok batch)
      ⟨b, b.deliveries batch, .finished (.ok (.dispatched batch.events.length))⟩

theorem stillHolds_iff {id : SessionId} {generation : Nat} :
    b.stillHolds id generation = true ↔ b.generation = generation ∧ b.session = some id := by
  simp [stillHolds]

/-- **The list is complete.** -/
theorem resumes (b : Bus) (p : Pending) (answer : p.call.Answer) :
    b.Resumes p answer (b.resume p answer) := by
  cases p with
  | opening =>
    cases answer with
    | error fault => exact .ends .opening (.error fault) _
    | ok id =>
      simp only [resume, takeUp]
      split
      · exact .ends .opening (.ok id) _
      · rename_i hfree
        exact .takesUp id hfree
  | subscribing id generation t rest =>
    cases answer with
    | ok changed => exact .goesOn id generation t rest changed
    | error fault =>
      simp only [resume, abandon]
      split
      · rename_i hstill
        obtain ⟨rfl, hid⟩ := stillHolds_iff.1 hstill
        exact .givesUp id t rest fault hid
      · exact .ends (.subscribing id generation t rest) (.error fault) _
  | polling id generation =>
    simp only [resume, dispatch]
    split
    · rename_i hstill
      obtain ⟨rfl, hid⟩ := stillHolds_iff.1 hstill
      cases answer with
      | ok batch => exact .dispatches id batch hid
      | error fault => exact .ends (.polling id b.generation) (.error fault) _
    · exact .ends (.polling id generation) answer _
  | adding id t n =>
    cases answer with
    | error fault => exact .takesOut id t n fault
    | ok changed => exact .ends (.adding id t n) (.ok changed) _
  | abandoning id fault => exact .ends (.abandoning id fault) answer _
  | closing id => exact .ends (.closing id) answer _
  | removing id t => exact .ends (.removing id t) answer _
  | probing fingerprint => exact .ends (.probing fingerprint) answer _
  | publishing t payload => exact .ends (.publishing t payload) answer _

/-- A session that is granted while none is held is taken up. -/
theorem resume_opening {id : SessionId} (hfree : b.session = none) :
    b.resume .opening (.ok id) =
      (b.hold id).subscribeNext id (b.generation + 1) (b.hold id).keys := by
  simp only [resume, takeUp, hfree]
  rfl

/-- A session that cannot be subscribed is given up while it is held. -/
theorem resume_subscribing {id : SessionId} (hid : b.session = some id) (t : TypeId)
    (rest : List TypeId) (fault : Fault) :
    b.resume (.subscribing id b.generation t rest) (.error fault) =
      b.dropSession.1.await (.abandoning id fault) := by
  simp [resume, abandon, stillHolds, hid]

/-- An operation that goes on gives a session up only if it cannot subscribe it, and takes one up
only if it was granted it. -/
theorem shifts_resume (b : Bus) (p : Pending) (answer : p.call.Answer) :
    b.Shifts (b.resume p answer).bus := by
  have hresumes := b.resumes p answer
  generalize b.resume p answer = turn at hresumes ⊢
  cases hresumes with
  | ends | takesOut | dispatches => exact .keeps rfl rfl
  | takesUp id hfree =>
    obtain ⟨hsession, hgeneration⟩ :=
      (b.hold id).bus_subscribeNext id (b.generation + 1) (b.hold id).keys
    exact .takesUp id hfree hsession hgeneration
  | goesOn id generation t rest changed =>
    obtain ⟨hsession, hgeneration⟩ := b.bus_subscribeNext id generation rest
    exact .keeps hsession hgeneration
  | givesUp => exact b.shifts_dropSession

end Bus

/-! ### Calls that go out -/

theorem Turn.underway?_eq_some_iff {t : Turn} {c : Underway} :
    t.underway? = some c ↔ ∃ p, t.progress = .waiting p ∧ c = ⟨p, none⟩ := by
  unfold Turn.underway?
  cases t.progress with
  | waiting p => simp [eq_comm]
  | finished result => simp

theorem Turn.mem_notes_called {t : Turn} {j k : Nat} {c : Call} :
    .called k c ∈ t.notes j ↔ k = j ∧ ∃ p, t.progress = .waiting p ∧ c = p.call := by
  unfold Turn.notes
  cases t.progress with
  | waiting p => simp [eq_comm]
  | finished result => simp

theorem Turn.mem_notes_handed {t : Turn} {j k : Nat} {d : Delivery}
    (h : .handed k d ∈ t.notes j) : k = j ∧ d ∈ t.delivered := by
  rcases List.mem_append.1 h with hd | hend
  · obtain ⟨d', hd', heq⟩ := List.mem_map.1 hd
    cases heq
    exact ⟨rfl, hd'⟩
  · cases hp : t.progress with
    | waiting p => simp [hp] at hend
    | finished result => simp [hp] at hend

theorem Pending.eq_polling_of_call {p : Pending} {id : SessionId} (h : .poll id = p.call) :
    ∃ generation, p = .polling id generation := by
  cases p with
  | polling id' generation =>
    cases h
    exact ⟨generation, rfl⟩
  | opening | subscribing | abandoning | closing | adding | removing | probing | publishing =>
    cases h

namespace Bus

variable {b : Bus} {id : SessionId} {generation : Nat}

/-- A poll goes out under the session that is held. -/
theorem polls_of_start {op : Operation}
    (h : (b.start op).progress = .waiting (.polling id generation)) :
    op = .poll ∧ b.start op = b.await (.polling id generation) ∧ b.session = some id ∧
      b.generation = generation := by
  cases op with
  | poll =>
    simp only [start] at h
    split at h
    · rename_i held hs
      split at h
      · rename_i hpolling
        cases h
        exact ⟨rfl, by simp [start, hs, hpolling], hs, rfl⟩
      · cases h
    · cases h
  | newSession | endSession | addHandler | removeHandler =>
    simp only [start] at h
    split at h <;> (try split at h) <;> cases h
  | probe | publish => cases h

theorem progress_subscribeNext {id' : SessionId} {generation' : Nat} {ts : List TypeId}
    {p : Pending} (h : (b.subscribeNext id' generation' ts).progress = .waiting p) :
    ∃ t rest, ts = t :: rest ∧ p = .subscribing id' generation' t rest := by
  cases ts with
  | nil => cases h
  | cons t rest =>
    cases h
    exact ⟨t, rest, rfl, rfl⟩

/-- **An operation that goes on calls for a new session only:** to subscribe a type, or to close
what it could not subscribe. -/
theorem waits_of_resume {p p' : Pending} {answer : p.call.Answer}
    (h : (b.resume p answer).progress = .waiting p') :
    (∃ id generation t rest, p' = .subscribing id generation t rest) ∨
      ∃ id fault, p' = .abandoning id fault := by
  have hresumes := b.resumes p answer
  generalize b.resume p answer = turn at hresumes h
  cases hresumes with
  | ends | takesOut | dispatches => cases h
  | takesUp id hfree =>
    obtain ⟨t, rest, -, rfl⟩ := progress_subscribeNext h
    exact .inl ⟨_, _, _, _, rfl⟩
  | goesOn id generation t rest changed =>
    obtain ⟨t', rest', -, rfl⟩ := progress_subscribeNext h
    exact .inl ⟨_, _, _, _, rfl⟩
  | givesUp id t rest fault hid =>
    cases h
    exact .inr ⟨id, fault, rfl⟩

/-- No operation goes on to poll. -/
theorem not_polls_of_resume {p : Pending} {answer : p.call.Answer} :
    (b.resume p answer).progress ≠ .waiting (.polling id generation) := by
  intro h
  rcases waits_of_resume h with ⟨_, _, _, _, heq⟩ | ⟨_, _, heq⟩ <;> cases heq

/-- No operation begins with subscribing for a new session. -/
theorem not_subscribes_of_start {op : Operation} {t : TypeId} {rest : List TypeId} :
    (b.start op).progress ≠ .waiting (.subscribing id generation t rest) := by
  intro h
  cases op with
  | newSession | endSession | addHandler | removeHandler | poll =>
    simp only [start] at h
    split at h <;> (try split at h) <;> cases h
  | probe | publish => cases h

/-- **When a new session subscribes a type:** it has just taken its session up, or the type before
is subscribed. -/
theorem subscribes_of_resume {p : Pending} {answer : p.call.Answer} {t : TypeId}
    {rest : List TypeId}
    (h : (b.resume p answer).progress = .waiting (.subscribing id generation t rest)) :
    (b.session = none ∧ (⟨p, some answer⟩ : Underway) = ⟨.opening, some (.ok id)⟩ ∧
        generation = b.generation + 1 ∧ (b.hold id).keys = t :: rest) ∨
      ∃ u changed, (⟨p, some answer⟩ : Underway) =
        ⟨.subscribing id generation u (t :: rest), some (.ok changed)⟩ := by
  have hresumes := b.resumes p answer
  generalize b.resume p answer = turn at hresumes h
  cases hresumes with
  | ends | takesOut | dispatches | givesUp => cases h
  | takesUp granted hfree =>
    obtain ⟨t', rest', htypes, heq⟩ := progress_subscribeNext h
    cases heq
    exact .inl ⟨hfree, rfl, rfl, htypes⟩
  | goesOn granted generation' u us changed =>
    obtain ⟨t', rest', rfl, heq⟩ := progress_subscribeNext h
    cases heq
    exact .inr ⟨u, changed, rfl⟩

/-- **How a session is taken up:** a new session is granted it while none is held. -/
theorem takesUp_of_resume {p : Pending} {answer : p.call.Answer} (hfree : b.session = none)
    (h : (b.resume p answer).bus.session = some id) :
    (⟨p, some answer⟩ : Underway) = ⟨.opening, some (.ok id)⟩ := by
  have hresumes := b.resumes p answer
  generalize b.resume p answer = turn at hresumes h
  cases hresumes with
  | ends | takesOut | dispatches => cases hfree.symm.trans h
  | givesUp => cases b.session_dropSession.symm.trans h
  | takesUp granted =>
    have htaken := ((b.hold granted).bus_subscribeNext granted (b.generation + 1) (b.hold granted).keys).1
    cases htaken.symm.trans h
    rfl
  | goesOn granted generation' t rest changed =>
    have hkept := (b.bus_subscribeNext granted generation' rest).1
    cases hfree.symm.trans (hkept.symm.trans h)

/-! ### The permission to poll -/

/-- A session that is held after an operation has begun was held before, and the permission is as
it was. -/
theorem keeps_of_start {op : Operation} (h : (b.start op).bus.session = some id) :
    b.session = some id ∧ (b.start op).bus.polling = b.polling := by
  have hop : op ≠ .endSession := by
    rintro rfl
    rw [bus_start_endSession, session_dropSession] at h
    cases h
  obtain ⟨hsession, -, hpolling⟩ := b.bus_start hop
  exact ⟨hsession.symm.trans h, hpolling⟩

/-- **An operation that goes on leaves the permission as it is**, unless it changes the session or
has subscribed the last type of the session that is held. -/
theorem polling_resume {p : Pending} {answer : p.call.Answer} (hid : b.session = some id)
    (h : (b.resume p answer).bus.session = some id) :
    (b.resume p answer).bus.polling = b.polling ∨ ∃ id' t changed,
      (⟨p, some answer⟩ : Underway) = ⟨.subscribing id' b.generation t [], some (.ok changed)⟩ := by
  have hresumes := b.resumes p answer
  generalize b.resume p answer = turn at hresumes h ⊢
  cases hresumes with
  | ends | takesOut | dispatches => exact .inl rfl
  | takesUp granted hfree => cases hfree.symm.trans hid
  | givesUp => cases b.session_dropSession.symm.trans h
  | goesOn granted generation' t rest changed =>
    cases rest with
    | cons u us => exact .inl rfl
    | nil =>
      by_cases hgeneration : b.generation = generation'
      · subst hgeneration
        exact .inr ⟨granted, t, changed, rfl⟩
      · exact .inl (by simp [subscribeNext, finish, hgeneration])

end Bus
end EventRelay

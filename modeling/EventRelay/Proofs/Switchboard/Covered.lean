/-
# Types that are handled and not subscribed

A type that has a handler is to be on the list of the session that is held.  Most of the time some
operation under way still has to see to that (`Underway.Promises`); what is promised stays so
until one of four things happens (`Switchboard.Breaks`), and what is not promised any more is not
promised again while the session is held and the type has a handler.  When nothing is under way,
then, a type is missing on the list exactly if one of the four has happened since both are there,
and nobody was left to make up for it (`Switchboard.covered_iff`).

One of them is that the subscription for a first handler fails while a second one is there
already: the first goes, and the second stays without a subscription
(`Switchboard.second_handler_not_subscribed`).
-/

import EventRelay.Proofs.Switchboard.Moves

namespace EventRelay

namespace Bus

variable {b : Bus} {id : SessionId} {t : TypeId}

theorem mem_handledTypes : t ∈ b.handledTypes ↔ ∃ h ∈ b.handlers, h.typeId = t := by
  simp [handledTypes]

theorem handlerCount_eq_zero_iff : b.handlerCount t = 0 ↔ t ∉ b.handledTypes := by
  simp [handlerCount, handlersOf, mem_handledTypes]

/-- Taking a handler out leaves no type that was not there. -/
theorem mem_handledTypes_of_detach {u : TypeId} {n : Nat} (h : t ∈ (b.detach u n).handledTypes) :
    t ∈ b.handledTypes := by
  obtain ⟨handler, hin, htype⟩ := mem_handledTypes.1 h
  exact mem_handledTypes.2 ⟨handler, List.mem_of_mem_filter hin, htype⟩

theorem bus_start_addHandler (b : Bus) (t : TypeId) (recipient : String) :
    (b.start (.addHandler t recipient)).bus = b.attach t recipient := by
  simp only [start]
  split <;> (try split) <;> rfl

theorem bus_start_removeHandler (b : Bus) (t : TypeId) (n : Nat) :
    (b.start (.removeHandler t n)).bus = b.detach t n := by
  simp only [start]
  split <;> (try split) <;> rfl

theorem handledTypes_resumeSession (b : Bus) :
    b.resumeSession.1.handledTypes = b.handledTypes := by
  unfold resumeSession
  split <;> rfl

theorem handledTypes_dropSession (b : Bus) : b.dropSession.1.handledTypes = b.handledTypes := by
  unfold dropSession
  split <;> rfl

/-- Under a session an operation that begins subscribes a type exactly if it adds the first handler
of the type. -/
theorem start_addHandler (hid : b.session = some id) {u : TypeId} {recipient : String} :
    b.start (.addHandler u recipient) =
      if u ∉ b.handledTypes then (b.attach u recipient).await (.adding id u b.nextHandler)
      else (b.attach u recipient).finish (.ok (.handler b.nextHandler)) := by
  have hheld : (b.attach u recipient).session = some id := hid
  simp only [start, hheld, handlerCount_eq_zero_iff]

/-- **A type gets its first handler.** -/
theorem adds_of_new {op : Operation} (hid : b.session = some id) (ht : t ∉ b.handledTypes)
    (h : t ∈ (b.start op).bus.handledTypes) :
    ∃ n, (b.start op).progress = .waiting (.adding id t n) := by
  cases op with
  | addHandler u recipient =>
    rw [bus_start_addHandler] at h
    obtain ⟨handler, hin, rfl⟩ := mem_handledTypes.1 h
    rcases List.mem_append.1 hin with hold | hnew
    · exact absurd (mem_handledTypes.2 ⟨handler, hold, rfl⟩) ht
    · cases List.mem_singleton.1 hnew
      rw [start_addHandler hid, if_pos ht]
      exact ⟨b.nextHandler, rfl⟩
  | removeHandler u n =>
    rw [bus_start_removeHandler] at h
    exact absurd (mem_handledTypes_of_detach h) ht
  | endSession =>
    rw [bus_start_endSession, handledTypes_dropSession] at h
    exact absurd h ht
  | newSession =>
    simp only [start, hid] at h
    exact absurd h ht
  | poll =>
    simp only [start, hid] at h
    split at h <;> exact absurd h ht
  | probe | publish => exact absurd h ht

/-- A type that has a handler is not subscribed for another one. -/
theorem not_adds_of_handled {op : Operation} {n : Nat} (hid : b.session = some id)
    (ht : t ∈ b.handledTypes) : (b.start op).progress ≠ .waiting (.adding id t n) := by
  intro h
  cases op with
  | addHandler u recipient =>
    rw [start_addHandler hid] at h
    split at h
    · rename_i hfirst
      cases h
      exact hfirst ht
    · cases h
  | newSession | endSession | removeHandler | poll =>
    simp only [start] at h
    split at h <;> (try split at h) <;> cases h
  | probe | publish => cases h

/-- No operation that goes on adds a handler. -/
theorem handledTypes_of_resume {p : Pending} {answer : p.call.Answer}
    (h : t ∈ (b.resume p answer).bus.handledTypes) : t ∈ b.handledTypes := by
  have hresumes := b.resumes p answer
  generalize b.resume p answer = turn at hresumes h
  cases hresumes with
  | ends | dispatches => exact h
  | takesUp granted => rwa [handledTypes_subscribeNext] at h
  | goesOn => rwa [handledTypes_subscribeNext] at h
  | givesUp => exact b.handledTypes_dropSession ▸ h
  | takesOut => exact mem_handledTypes_of_detach h

/-- Only an operation that begins subscribes a type for its first handler. -/
theorem not_adds_of_resume {p : Pending} {answer : p.call.Answer} {n : Nat} :
    (b.resume p answer).progress ≠ .waiting (.adding id t n) := by
  intro h
  rcases waits_of_resume h with ⟨_, _, _, _, heq⟩ | ⟨_, _, heq⟩ <;> cases heq

end Bus

/-- Whether an operation under way still has to see to the subscription of a type: it subscribes
the type, or it is a new session that has yet to come to it or to give the session up. -/
inductive Underway.Promises (id : SessionId) (t : TypeId) (generation : Nat) : Underway → Prop where
  | adds (n : Nat) : Promises id t generation ⟨.adding id t n, none⟩
  | subscribes (g : Nat) (u : TypeId) (rest : List TypeId) (ht : t ∈ u :: rest) :
    Promises id t generation ⟨.subscribing id g u rest, none⟩
  | goesOn (g : Nat) (u : TypeId) (rest : List TypeId) (changed : Bool) (ht : t ∈ rest) :
    Promises id t generation ⟨.subscribing id g u rest, some (.ok changed)⟩
  | givesUp (u : TypeId) (rest : List TypeId) (fault : Fault) (ht : t ∈ u :: rest) :
    Promises id t generation ⟨.subscribing id generation u rest, some (.error fault)⟩

namespace Underway.Promises

variable {b : Bus} {s : Service} {p p' : Pending} {id : SessionId} {t : TypeId} {generation : Nat}

/-- The service answers: the type is on the list, or the operation goes on, or the call has failed
and the session stays. -/
theorem answered (h : Promises id t b.generation ⟨p, none⟩) (hid : b.session = some id)
    (answer : p.call.Answer) : (id, t) ∈ (s.serve p.call answer).subscribed ∨
      Promises id t b.generation ⟨p, some answer⟩ ∨
      ∃ fault, answer = .error fault ∧ (b.resume p (.error fault)).bus.session = some id := by
  cases h with
  | adds n =>
    cases answer with
    | ok changed => exact .inl List.mem_insert_self
    | error fault => exact .inr (.inr ⟨fault, rfl, hid⟩)
  | subscribes g u rest ht =>
    cases answer with
    | ok changed =>
      rcases List.mem_cons.1 ht with rfl | hrest
      · exact .inl List.mem_insert_self
      · exact .inr (.inl (.goesOn g u rest changed hrest))
    | error fault =>
      by_cases hcurrent : g = b.generation
      · subst hcurrent
        exact .inr (.inl (.givesUp u rest fault ht))
      · have hstale : b.stillHolds id g = false := by
          rw [Bus.stillHolds, beq_false_of_ne (Ne.symm hcurrent), Bool.false_and]
        refine .inr (.inr ⟨fault, rfl, ?_⟩)
        simp only [Bus.resume, Bus.abandon, hstale]
        exact hid

/-- The answer comes back: a new session that keeps its session goes on to subscribe. -/
theorem resumed {answer : p.call.Answer} (h : Promises id t b.generation ⟨p, some answer⟩)
    (hid : b.session = some id) (hnext : (b.resume p answer).bus.session = some id) :
    ∃ p', (b.resume p answer).progress = .waiting p' ∧ Promises id t b.generation ⟨p', none⟩ := by
  cases h with
  | goesOn g u rest changed ht =>
    cases rest with
    | nil => cases ht
    | cons v rest => exact ⟨.subscribing id g v rest, rfl, .subscribes g v rest ht⟩
  | givesUp u rest fault ht =>
    rw [Bus.resume_subscribing hid] at hnext
    cases b.session_dropSession.symm.trans hnext

/-- What an operation promises after the service has answered it promised before. -/
theorem of_answered {answer : p.call.Answer} (h : Promises id t generation ⟨p, some answer⟩) :
    Promises id t generation ⟨p, none⟩ := by
  cases h with
  | goesOn g u rest changed ht => exact .subscribes g u rest (List.mem_cons_of_mem u ht)
  | givesUp u rest fault ht => exact .subscribes generation u rest ht

/-- What an operation that has gone on promises under a session it promised before. -/
theorem of_resumed {answer : p.call.Answer} (hid : b.session = some id)
    (hwaits : (b.resume p answer).progress = .waiting p')
    (h : Promises id t generation ⟨p', none⟩) : Promises id t generation ⟨p, some answer⟩ := by
  cases h with
  | adds n => exact absurd hwaits Bus.not_adds_of_resume
  | subscribes g u rest ht =>
    rcases Bus.subscribes_of_resume hwaits with ⟨hfree, -⟩ | ⟨v, changed, heq⟩
    · cases hfree.symm.trans hid
    · rw [heq]
      exact .goesOn g v (u :: rest) changed ht

/-- An operation that begins promises nothing of a type that has a handler. -/
theorem not_of_started {op : Operation} (hid : b.session = some id) (ht : t ∈ b.handledTypes)
    (hwaits : (b.start op).progress = .waiting p') : ¬ Promises id t generation ⟨p', none⟩ := by
  intro h
  cases h with
  | adds n => exact Bus.not_adds_of_handled hid ht hwaits
  | subscribes g u rest ht => exact Bus.not_subscribes_of_start hwaits

end Underway.Promises

namespace Service

variable {s : Service} {p : Pending} {id : SessionId} {t : TypeId}

/-- **How a type goes off the list of a session.** -/
theorem kept_of_serve (answer : p.call.Answer) (hin : (id, t) ∈ s.subscribed) :
    (id, t) ∈ (s.serve p.call answer).subscribed ∨
      (⟨p, some answer⟩ : Underway) = ⟨.opening, some (.ok id)⟩ ∨
      ∃ changed, (⟨p, some answer⟩ : Underway) = ⟨.removing id t, some (.ok changed)⟩ := by
  cases p with
  | opening =>
    cases answer with
    | error fault => exact .inl hin
    | ok granted =>
      by_cases hgranted : id = granted
      · subst hgranted
        exact .inr (.inl rfl)
      · exact .inl (List.mem_filter.2 ⟨hin, by simpa using hgranted⟩)
  | removing id' u =>
    cases answer with
    | error fault => exact .inl hin
    | ok changed =>
      by_cases hsame : (id, t) = (id', u)
      · cases hsame
        exact .inr (.inr ⟨changed, rfl⟩)
      · exact .inl (List.mem_filter.2 ⟨hin, decide_eq_true hsame⟩)
  | subscribing id' generation u rest =>
    cases answer with
    | error fault => exact .inl hin
    | ok changed => exact .inl (List.mem_insert_of_mem hin)
  | adding id' u n =>
    cases answer with
    | error fault => exact .inl hin
    | ok changed => exact .inl (List.mem_insert_of_mem hin)
  | abandoning | closing | polling | probing | publishing => exact .inl hin

/-- **How a type comes on the list of a session.** -/
theorem subscribes_of_serve (answer : p.call.Answer)
    (hin : (id, t) ∈ (s.serve p.call answer).subscribed) : (id, t) ∈ s.subscribed ∨
      (∃ generation rest, p = .subscribing id generation t rest) ∨ ∃ n, p = .adding id t n := by
  cases p with
  | opening =>
    cases answer with
    | error fault => exact .inl hin
    | ok granted => exact .inl (List.mem_of_mem_filter hin)
  | removing id' u =>
    cases answer with
    | error fault => exact .inl hin
    | ok changed => exact .inl (List.mem_of_mem_filter hin)
  | subscribing id' generation u rest =>
    cases answer with
    | error fault => exact .inl hin
    | ok changed =>
      rcases List.mem_insert_iff.1 hin with heq | hin
      · cases heq
        exact .inr (.inl ⟨generation, rest, rfl⟩)
      · exact .inl hin
  | adding id' u n =>
    cases answer with
    | error fault => exact .inl hin
    | ok changed =>
      rcases List.mem_insert_iff.1 hin with heq | hin
      · cases heq
        exact .inr (.inr ⟨n, rfl⟩)
      · exact .inl hin
  | abandoning | closing | polling | probing | publishing => exact .inl hin

end Service

namespace Switchboard

variable {x y z : Switchboard} {m : Move} {ms : List Move} {k : Nat} {c : Underway}
  {id : SessionId} {t : TypeId}

/-- Whether a type should be on the list of a session. -/
def Needs (id : SessionId) (t : TypeId) (x : Switchboard) : Prop :=
  x.Holds id ∧ t ∈ x.bus.handledTypes

/-- Whether a type is on the list of a session, or an operation under way has to see to that. -/
def Promised (x : Switchboard) (id : SessionId) (t : TypeId) : Prop :=
  (id, t) ∈ x.service.subscribed ∨ ∃ k c, (k, c) ∈ x.callers ∧ c.Promises id t x.bus.generation

/-- The moves after which a type of a session may be without a subscription. -/
inductive Breaks (y : Switchboard) (id : SessionId) (t : TypeId) : Move → Prop where
  /-- A call that was to subscribe the type fails, and the session is not given up for that. -/
  | fails (k : Nat) (p : Pending) (reply : (c : Call) → c.Answer) (fault : Fault)
      (hk : y.underway? k = some ⟨p, none⟩)
      (hp : Underway.Promises id t y.bus.generation ⟨p, none⟩)
      (hreply : reply p.call = .error fault)
      (hkept : (y.bus.resume p (.error fault)).bus.session = some id) :
    Breaks y id t (.serve k reply)
  /-- The unsubscription for a last handler that has gone takes effect. -/
  | unsubscribes (k : Nat) (reply : (c : Call) → c.Answer) (changed : Bool)
      (hk : y.underway? k = some ⟨.removing id t, none⟩)
      (hreply : reply (.unsubscribe id t) = .ok changed) : Breaks y id t (.serve k reply)
  /-- An operation that had to see to the type is given up. -/
  | leaves (k : Nat) (c : Underway) (hk : y.underway? k = some c)
      (hc : c.Promises id t y.bus.generation) : Breaks y id t (.cancel k)
  /-- The service grants the same session once more. -/
  | regrants (k : Nat) (reply : (c : Call) → c.Answer) (hk : y.underway? k = some ⟨.opening, none⟩)
      (hreply : reply (.openSession none) = .ok id) : Breaks y id t (.serve k reply)

/-! ### What one move does to a promise -/

/-- **A type that comes to be needed is promised.** -/
theorem promised_of_new (h : y.step m = some z) (hneeds : z.Needs id t) (hnew : ¬ y.Needs id t) :
    z.Promised id t := by
  obtain ⟨hid, ht⟩ := hneeds
  by_cases hnow : y.bus.session = some id
  · have hnone : t ∉ y.bus.handledTypes := fun ht => hnew ⟨hnow, ht⟩
    cases happens_of_step h with
    | begins op =>
      obtain ⟨n, hwaits⟩ := Bus.adds_of_new hnow hnone ht
      refine .inr ⟨y.ticket, _, mem_adopt.2 (.inr ⟨rfl, ?_⟩), .adds n⟩
      exact Turn.underway?_eq_some_iff.2 ⟨_, hwaits, rfl⟩
    | drops => cases (y.bus.session_dropSession).symm.trans hid
    | resumes => exact absurd (y.bus.handledTypes_resumeSession ▸ ht) hnone
    | tidies | serves | cancels => exact absurd ht hnone
    | delivers k p answer hk => exact absurd (Bus.handledTypes_of_resume ht) hnone
  · cases shifts_step h with
    | keeps hsession => exact absurd (hsession.symm.trans hid) hnow
    | givesUp _ _ hfree => cases hfree.symm.trans hid
    | takesUp _ hfree =>
      obtain ⟨k, rfl⟩ := takesUp_of_step hfree h hid
      have htypes : t ∈ (y.bus.hold id).keys := by
        have hkept := (y.bus.hold id).handledTypes_subscribeNext id (y.bus.generation + 1)
          (y.bus.hold id).keys
        exact Bus.mem_keys.2 (hkept ▸ ht)
      generalize (y.bus.hold id).keys = ts at htypes
      cases ts with
      | nil => cases htypes
      | cons u rest =>
        exact .inr ⟨k, _, mem_adopt.2 (.inr ⟨rfl, rfl⟩), .subscribes _ u rest htypes⟩

/-- Under a session that stays the generation stays. -/
theorem generation_of_step (h : y.step m = some z) (hy : y.Holds id) (hz : z.Holds id) :
    z.bus.generation = y.bus.generation := by
  cases shifts_step h with
  | keeps _ hgeneration => exact hgeneration
  | takesUp _ hfree => cases hfree.symm.trans hy
  | givesUp _ _ hfree => cases hfree.symm.trans hz

/-- **A promise is kept or broken.** -/
theorem promised_or_breaks (hy : y.Ticketed) (h : y.step m = some z) (hnow : y.Holds id)
    (hnext : z.Holds id) (hpromised : y.Promised id t) : z.Promised id t ∨ y.Breaks id t m := by
  have hgeneration := generation_of_step h hnow hnext
  unfold Promised
  rw [hgeneration]
  cases happens_of_step h with
  | begins op =>
    exact .inl (hpromised.imp_right fun ⟨k, c, hc, hcares⟩ => ⟨k, c, mem_adopt.2 (.inl hc), hcares⟩)
  | drops => cases (y.bus.session_dropSession).symm.trans hnext
  | resumes | tidies => exact .inl hpromised
  | cancels k c hk =>
    rcases hpromised with hin | ⟨j, d, hd, hcares⟩
    · exact .inl (.inl hin)
    · by_cases hj : j = k
      · subst hj
        cases Tickets.unique hy.once hd (mem_of_underway? hk)
        exact .inr (.leaves j c hk hcares)
      · exact .inl (.inr ⟨j, d, mem_without.2 ⟨hd, hj⟩, hcares⟩)
  | serves k reply p hk =>
    rcases hpromised with hin | ⟨j, d, hd, hcares⟩
    · rcases Service.kept_of_serve (reply p.call) hin with hin | heq | ⟨changed, heq⟩
      · exact .inl (.inl hin)
      · obtain ⟨rfl, hreply⟩ := Underway.mk.inj heq
        exact .inr (.regrants k reply hk (Option.some.inj (eq_of_heq hreply)))
      · obtain ⟨rfl, hreply⟩ := Underway.mk.inj heq
        exact .inr (.unsubscribes k reply changed hk (Option.some.inj (eq_of_heq hreply)))
    · by_cases hj : j = k
      · subst hj
        cases Tickets.unique hy.once hd (mem_of_underway? hk)
        rcases hcares.answered hnow (reply p.call) with hin | hcares' | ⟨fault, hreply, hkept⟩
        · exact .inl (.inl hin)
        · exact .inl (.inr ⟨j, _, mem_answered.2 (.inr ⟨rfl, rfl⟩), hcares'⟩)
        · exact .inr (.fails j p reply fault hk hcares hreply hkept)
      · exact .inl (.inr ⟨j, d, mem_answered.2 (.inl ⟨hd, hj⟩), hcares⟩)
  | delivers k p answer hk =>
    rcases hpromised with hin | ⟨j, d, hd, hcares⟩
    · exact .inl (.inl hin)
    · by_cases hj : j = k
      · subst hj
        cases Tickets.unique hy.once hd (mem_of_underway? hk)
        obtain ⟨p', hwaits, hcares'⟩ := hcares.resumed hnow hnext
        have hnew := Turn.underway?_eq_some_iff.2 ⟨p', hwaits, rfl⟩
        exact .inl (.inr ⟨j, _, mem_adopt.2 (.inr ⟨rfl, hnew⟩), hcares'⟩)
      · exact .inl (.inr ⟨j, d, mem_adopt.2 (.inl (mem_without.2 ⟨hd, hj⟩)), hcares⟩)

/-- **Nothing is promised anew** of a type that has a handler already. -/
theorem promised_of_step (h : y.step m = some z) (hnow : y.Needs id t) (hnext : z.Holds id)
    (hpromised : z.Promised id t) : y.Promised id t := by
  have hheld : y.bus.session = some id := hnow.1
  unfold Promised at hpromised
  rw [generation_of_step h hnow.1 hnext] at hpromised
  cases happens_of_step h with
  | begins op =>
    refine hpromised.imp_right fun ⟨k, c, hc, hcares⟩ => ?_
    rcases mem_adopt.1 hc with hc | ⟨-, hnew⟩
    · exact ⟨k, c, hc, hcares⟩
    · obtain ⟨p, hwaits, rfl⟩ := Turn.underway?_eq_some_iff.1 hnew
      exact absurd hcares (Underway.Promises.not_of_started hheld hnow.2 hwaits)
  | drops => cases (y.bus.session_dropSession).symm.trans hnext
  | resumes | tidies => exact hpromised
  | cancels k c hk =>
    exact hpromised.imp_right fun ⟨j, d, hd, hcares⟩ => ⟨j, d, (mem_without.1 hd).1, hcares⟩
  | serves k reply p hk =>
    have hcaller := mem_of_underway? hk
    rcases hpromised with hin | ⟨j, d, hd, hcares⟩
    · rcases Service.subscribes_of_serve (reply p.call) hin with hin | ⟨g, rest, rfl⟩ | ⟨n, rfl⟩
      · exact .inl hin
      · exact .inr ⟨k, _, hcaller, .subscribes g t rest List.mem_cons_self⟩
      · exact .inr ⟨k, _, hcaller, .adds n⟩
    · rcases mem_answered.1 hd with ⟨hd, -⟩ | ⟨-, rfl⟩
      · exact .inr ⟨j, d, hd, hcares⟩
      · exact .inr ⟨k, _, hcaller, hcares.of_answered⟩
  | delivers k p answer hk =>
    refine hpromised.imp_right fun ⟨j, d, hd, hcares⟩ => ?_
    rcases mem_adopt.1 hd with hd | ⟨-, hnew⟩
    · exact ⟨j, d, (mem_without.1 hd).1, hcares⟩
    · obtain ⟨p', hwaits, rfl⟩ := Turn.underway?_eq_some_iff.1 hnew
      exact ⟨k, _, mem_of_underway? hk, Underway.Promises.of_resumed hheld hwaits hcares⟩

/-! ### What a run does to a promise -/

/-- Whether a promise was broken in a run, and since then the session has been held and the type
has had a handler. -/
def Lapsed (x : Switchboard) (ms : List Move) (id : SessionId) (t : TypeId) : Prop :=
  ∃ before m after y z, ms = before ++ m :: after ∧ x.run before = some y ∧ y.step m = some z ∧
    y.Breaks id t m ∧ ¬ z.Promised id t ∧ z.Throughout (Needs id t) after

/-- A promise lapses with the last move of a run, or has lapsed before. -/
theorem lapsed_concat (hy : x.run ms = some y) (hz : y.step m = some z) (hneeds : z.Needs id t) :
    x.Lapsed (ms ++ [m]) id t ↔ x.Lapsed ms id t ∨ y.Breaks id t m ∧ ¬ z.Promised id t := by
  have hsince : ∀ {before m' after y' z'}, ms = before ++ m' :: after → x.run before = some y' →
      y'.step m' = some z' → z'.run after = some y := by
    rintro before m' after y' z' rfl hy' hz'
    rw [run_append, hy', Option.bind_some, Switchboard.run, hz', Option.bind_some] at hy
    exact hy
  constructor
  · rintro ⟨before, m', after, y', z', heq, hy', hz', hbreaks, hnot, hafter⟩
    rcases List.eq_nil_or_concat after with rfl | ⟨after, m₁, rfl⟩
    · obtain ⟨rfl, hm⟩ := List.append_inj' heq rfl
      cases hm
      cases hy.symm.trans hy'
      cases hz.symm.trans hz'
      exact .inr ⟨hbreaks, hnot⟩
    · rw [List.concat_eq_append, ← List.cons_append, ← List.append_assoc] at heq
      obtain ⟨rfl, hm⟩ := List.append_inj' heq rfl
      cases hm
      rw [List.concat_eq_append] at hafter
      exact .inl ⟨before, m', after, y', z', rfl, hy', hz', hbreaks, hnot,
        ((throughout_concat (hsince rfl hy' hz') hz).1 hafter).1⟩
  · rintro (⟨before, m', after, y', z', rfl, hy', hz', hbreaks, hnot, hafter⟩ | ⟨hbreaks, hnot⟩)
    · exact ⟨before, m', after ++ [m], y', z', by simp, hy', hz', hbreaks, hnot,
        (throughout_concat (hsince rfl hy' hz') hz).2 ⟨hafter, hneeds⟩⟩
    · exact ⟨ms, m, [], y, z, rfl, hy, hz, hbreaks, hnot, throughout_nil.2 hneeds⟩

/-- What has lapsed was needed all the time since. -/
theorem Lapsed.needs (h : x.Lapsed ms id t) (hy : x.run ms = some y) : y.Needs id t := by
  obtain ⟨before, m, after, y', z, rfl, hy', hz, -, -, hafter⟩ := h
  rw [run_append, hy', Option.bind_some, Switchboard.run, hz, Option.bind_some] at hy
  exact hafter.last hy

/-- **What is needed is promised, unless the promise has lapsed.** -/
theorem promised_iff (hx : x.Ticketed) (hnone : x.bus.session = none) (h : x.run ms = some y)
    (hneeds : y.Needs id t) : y.Promised id t ↔ ¬ x.Lapsed ms id t := by
  refine run_induction (Q := fun ms y => y.Needs id t → (y.Promised id t ↔ ¬ x.Lapsed ms id t))
    ?_ ?_ h hneeds
  · rintro ⟨hid, -⟩
    cases hnone.symm.trans hid
  · intro ms y m z hy ih hz hneeds
    rw [lapsed_concat hy hz hneeds]
    by_cases hnow : y.Needs id t
    · constructor
      · rintro hpromised (hlapsed | ⟨-, hnot⟩)
        · exact (ih hnow).1 (promised_of_step hz hnow hneeds.1 hpromised) hlapsed
        · exact hnot hpromised
      · intro hkept
        by_contra hnot
        have hbefore : y.Promised id t := (ih hnow).2 fun hlapsed => hkept (.inl hlapsed)
        rcases promised_or_breaks (hx.run hy) hz hnow.1 hneeds.1 hbefore with hafter | hbreaks
        · exact hnot hafter
        · exact hkept (.inr ⟨hbreaks, hnot⟩)
    · -- the type has just come to be needed
      have hpromised := promised_of_new hz hneeds hnow
      refine ⟨fun _ => ?_, fun _ => hpromised⟩
      rintro (hlapsed | ⟨-, hnot⟩)
      · exact hnow (hlapsed.needs hy)
      · exact hnot hpromised

/-- **When the subscriptions cover the handlers.**  In every run of a bus on which nothing was
under way, whatever the service answers and in whichever order: when nothing is under way any
more, a type that has a handler is on the list of the session that is held, unless its promise has
lapsed. -/
theorem covered_iff {fingerprint : Fingerprint} {keys : KeyOrder}
    (h : (Switchboard.new fingerprint keys).run ms = some x) (hidle : x.callers = [])
    (hid : x.Holds id) (ht : t ∈ x.bus.handledTypes) :
    (id, t) ∈ x.service.subscribed ↔ ¬ (Switchboard.new fingerprint keys).Lapsed ms id t := by
  rw [← promised_iff (.new fingerprint keys) rfl h ⟨hid, ht⟩, Promised, hidle]
  simp

namespace Sample

/-- The last handler of a type goes and another one comes, and the service hears of the first after
it has heard of the second. -/
def crossed : List Move :=
  opens 0 ++ handles 1 ++ [.begin (.removeHandler typeId 0), .begin (.addHandler typeId "bob"),
    .serve 3 agrees, .serve 2 agrees, .deliver 2, .deliver 3]

/-- While a first handler subscribes its type a second one is added; then the subscription fails. -/
def overtaken : List Move :=
  opens 0 ++ [.begin (.addHandler typeId "alice"), .begin (.addHandler typeId "bob"),
    .serve 1 refuses, .deliver 1]

end Sample

/-- The handler that has come is without a subscription, since the unsubscription for the one that
has gone took effect after its own. -/
theorem covered_iff_sample : ∃ x,
    (Switchboard.new .compiled .registered).run Sample.crossed = some x ∧
    x.callers = [] ∧ x.Holds Sample.session ∧ Sample.typeId ∈ x.bus.handledTypes ∧
    ((Sample.session, Sample.typeId) ∈ x.service.subscribed ↔
      ¬ (Switchboard.new .compiled .registered).Lapsed Sample.crossed Sample.session
        Sample.typeId) := by
  have hrun : ((Switchboard.new .compiled .registered).run Sample.crossed).map (fun x =>
      (x.callers.length, x.bus.session, x.bus.handledTypes)) =
        some (0, some Sample.session, [Sample.typeId]) := by
    decide
  obtain ⟨x, hx, hseen⟩ := Option.map_eq_some_iff.1 hrun
  simp only [Prod.mk.injEq, List.length_eq_zero_iff] at hseen
  obtain ⟨hidle, hid, htypes⟩ := hseen
  have ht : Sample.typeId ∈ x.bus.handledTypes := htypes ▸ List.mem_singleton.2 rfl
  exact ⟨x, hx, hidle, hid, ht, covered_iff hx hidle hid ht⟩

/-- **A second handler that was added with success is left without a subscription.** -/
theorem second_handler_not_subscribed : ∃ x,
    (Switchboard.new .compiled .registered).run Sample.overtaken = some x ∧ x.callers = [] ∧
      x.Holds Sample.session ∧ x.bus.polling = true ∧
      x.bus.handlers = [⟨1, "bob", Sample.typeId⟩] ∧
      (Sample.session, Sample.typeId) ∉ x.service.subscribed := by
  have hrun : ((Switchboard.new .compiled .registered).run Sample.overtaken).map (fun x =>
      ((x.callers.length, x.bus.polling, x.service.subscribed.length),
        (x.bus.session, x.bus.handlers))) =
        some ((0, true, 0), (some Sample.session, [⟨1, "bob", Sample.typeId⟩])) := by
    decide
  obtain ⟨x, hx, hseen⟩ := Option.map_eq_some_iff.1 hrun
  simp only [Prod.mk.injEq, List.length_eq_zero_iff] at hseen
  obtain ⟨⟨hidle, hpolling, hnone⟩, hid, hhandlers⟩ := hseen
  refine ⟨x, hx, hidle, hid, hpolling, hhandlers, ?_⟩
  rw [hnone]
  exact List.not_mem_nil

end Switchboard
end EventRelay

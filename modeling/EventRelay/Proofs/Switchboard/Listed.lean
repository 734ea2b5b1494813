/-
# What is on the list while one operation follows another

While operations on a bus do not overlap (`Switchboard.OneByOne`), the list of the session that is
held is known at every instant.  It is what has a handler (`Service.Follows`), but for the one thing
that the operation under way is about (`Underway.Sees`):

| under way | on the list of the session that is held |
| --- | --- |
| a new session that subscribes | the types that it has come to |
| a first handler that is added | every handled type but its own |
| a last handler that is removed | every handled type and its own |
| nothing, or anything else | every handled type |

An operation that begins leads from the last row to another one (`Service.Follows.started`), what
the service makes of its call and what it does next lead on (`Underway.Sees.served`,
`Underway.Sees.resumed`), and in the end they lead back.
-/

import EventRelay.Proofs.Switchboard.Accounted
import EventRelay.Proofs.Switchboard.Covered

namespace EventRelay

/-! ### Handled types -/

namespace Bus

variable {b : Bus} {id : SessionId} {t u : TypeId} {n : Nat}

theorem mem_handledTypes_attach {recipient : String} :
    t ∈ (b.attach u recipient).handledTypes ↔ t ∈ b.handledTypes ∨ t = u := by
  simp [mem_handledTypes, attach, or_and_right, exists_or, eq_comm]

/-- Taking a handler out leaves the other types as they are. -/
theorem mem_handledTypes_detach (hne : t ≠ u) :
    t ∈ (b.detach u n).handledTypes ↔ t ∈ b.handledTypes := by
  refine ⟨mem_handledTypes_of_detach, fun h => ?_⟩
  obtain ⟨handler, hin, rfl⟩ := mem_handledTypes.1 h
  exact mem_handledTypes.2 ⟨handler, List.mem_filter.2 ⟨hin, by simp [hne]⟩, rfl⟩

/-- Nothing is taken out that is not there. -/
theorem detach_of_not_hasHandler (h : b.hasHandler u n = false) : b.detach u n = b := by
  have hall : b.handlers.filter (fun h => !(h.typeId = u && h.id = n)) = b.handlers := by
    refine List.filter_eq_self.2 fun handler hin => ?_
    rw [hasHandler, List.any_eq_false] at h
    simpa [imp_iff_not_or] using h handler hin
  rw [detach, hall]

theorem mem_handledTypes_of_hasHandler (h : b.hasHandler u n = true) : u ∈ b.handledTypes := by
  obtain ⟨handler, hin, hmatch⟩ := List.any_eq_true.1 h
  simp only [Bool.and_eq_true, decide_eq_true_eq] at hmatch
  exact mem_handledTypes.2 ⟨handler, hin, hmatch.1⟩

/-- Taking a handler out that is not the last of its type leaves all types as they are. -/
theorem mem_handledTypes_detach_of_left
    (h : ¬ (b.hasHandler u n = true ∧ u ∉ (b.detach u n).handledTypes)) :
    t ∈ (b.detach u n).handledTypes ↔ t ∈ b.handledTypes := by
  cases hthere : b.hasHandler u n with
  | false => rw [detach_of_not_hasHandler hthere]
  | true =>
    have hleft : u ∈ (b.detach u n).handledTypes := by
      by_contra hgone
      exact h ⟨hthere, hgone⟩
    by_cases ht : t = u
    · subst ht
      exact iff_of_true hleft (mem_handledTypes_of_detach hleft)
    · exact mem_handledTypes_detach ht

/-- Taking the last handler of a type out leaves the other types. -/
theorem mem_handledTypes_detach_of_last (h : u ∉ (b.detach u n).handledTypes) :
    t ∈ (b.detach u n).handledTypes ↔ t ∈ b.handledTypes ∧ t ≠ u := by
  by_cases ht : t = u
  · subst ht
    simpa using h
  · simpa [ht] using mem_handledTypes_detach ht

/-- A first handler that goes again leaves none. -/
theorem not_mem_handledTypes_detach_attach {recipient : String} (h : u ∉ b.handledTypes) :
    u ∉ ((b.attach u recipient).detach u b.nextHandler).handledTypes := by
  intro hin
  obtain ⟨handler, hleft, htype⟩ := mem_handledTypes.1 hin
  obtain ⟨hthere, hother⟩ := List.mem_filter.1 hleft
  rcases List.mem_append.1 hthere with hold | hnew
  · exact h (mem_handledTypes.2 ⟨handler, hold, htype⟩)
  · rw [List.mem_singleton.1 hnew] at hother
    simp at hother

theorem autoUnsubscribe_dropSession (b : Bus) :
    b.dropSession.1.autoUnsubscribe = b.autoUnsubscribe := by
  unfold dropSession
  split <;> rfl

theorem autoUnsubscribe_resumeSession (b : Bus) :
    b.resumeSession.1.autoUnsubscribe = b.autoUnsubscribe := by
  unfold resumeSession
  split <;> rfl

theorem handlers_resumeSession (b : Bus) : b.resumeSession.1.handlers = b.handlers := by
  unfold resumeSession
  split <;> rfl

theorem autoUnsubscribe_subscribeNext (b : Bus) (id : SessionId) (generation : Nat)
    (ts : List TypeId) :
    (b.subscribeNext id generation ts).bus.autoUnsubscribe = b.autoUnsubscribe := by
  cases ts <;> rfl

/-- No operation changes whether the last handler of a type unsubscribes. -/
theorem autoUnsubscribe_start (b : Bus) (op : Operation) :
    (b.start op).bus.autoUnsubscribe = b.autoUnsubscribe := by
  cases op with
  | endSession => rw [bus_start_endSession, autoUnsubscribe_dropSession]
  | addHandler => rw [bus_start_addHandler]; rfl
  | removeHandler => rw [bus_start_removeHandler]; rfl
  | newSession | poll =>
    simp only [start]
    split <;> (try split) <;> rfl
  | probe | publish => rfl

theorem autoUnsubscribe_resume (b : Bus) (p : Pending) (answer : p.call.Answer) :
    (b.resume p answer).bus.autoUnsubscribe = b.autoUnsubscribe := by
  have hresumes := b.resumes p answer
  generalize b.resume p answer = turn at hresumes ⊢
  cases hresumes with
  | ends | takesOut | dispatches => rfl
  | takesUp | goesOn => exact autoUnsubscribe_subscribeNext ..
  | givesUp => exact b.autoUnsubscribe_dropSession

/-- Without a session a handler is added at once. -/
theorem start_addHandler_of_free (hfree : b.session = none) (recipient : String) :
    b.start (.addHandler u recipient) =
      (b.attach u recipient).finish (.ok (.handler b.nextHandler)) := by
  have hfree' : (b.attach u recipient).session = none := hfree
  simp only [start, hfree']

/-- Without a session a handler is taken out at once. -/
theorem start_removeHandler_of_free (hfree : b.session = none) :
    b.start (.removeHandler u n) = (b.detach u n).finish (.ok (.removed (b.hasHandler u n))) := by
  have hfree' : (b.detach u n).session = none := hfree
  simp only [start, hfree']

/-- Under a session an operation that begins unsubscribes a type exactly if it takes the last
handler of the type out. -/
theorem start_removeHandler (hauto : b.autoUnsubscribe = true) (hid : b.session = some id) :
    b.start (.removeHandler u n) =
      if b.hasHandler u n = true ∧ u ∉ (b.detach u n).handledTypes then
        (b.detach u n).await (.removing id u)
      else (b.detach u n).finish (.ok (.removed (b.hasHandler u n))) := by
  have hheld : (b.detach u n).session = some id := hid
  have hauto' : (b.detach u n).autoUnsubscribe = true := hauto
  simp only [start, hheld, hauto', Bool.and_true, Bool.and_eq_true, beq_iff_eq,
    handlerCount_eq_zero_iff]

end Bus

/-! ### The list -/

/-- Whether a call that changes a list took effect. -/
def Took (answer : Option (Outcome Bool)) : Prop := ∃ changed, answer = some (.ok changed)

/-- Whether the list of the session that is held is what has a handler. -/
def Service.Follows (s : Service) (b : Bus) : Prop :=
  ∀ id, b.session = some id → ∀ t, (id, t) ∈ s.subscribed ↔ t ∈ b.handledTypes

/-- What is on the list while an operation is under way. -/
inductive Underway.Sees (b : Bus) (s : Service) : Underway → Prop where
  | opens (answer : Option (Outcome SessionId)) (free : b.session = none)
      (fresh : ∀ id, answer = some (.ok id) → ∀ t, (id, t) ∉ s.subscribed) :
    Sees b s ⟨.opening, answer⟩
  | subscribes (id : SessionId) (t : TypeId) (before rest : List TypeId)
      (answer : Option (Outcome Bool)) (held : b.session = some id)
      (types : (before ++ t :: rest).Perm b.handledTypes)
      (listed : ∀ u, (id, u) ∈ s.subscribed ↔ u ∈ before ∨ Took answer ∧ u = t) :
    Sees b s ⟨.subscribing id b.generation t rest, answer⟩
  | abandons (id : SessionId) (fault : Fault) (answer : Option (Outcome Unit))
      (free : b.session = none) :
    Sees b s ⟨.abandoning id fault, answer⟩
  | closes (id : SessionId) (answer : Option (Outcome Unit)) (free : b.session = none) :
    Sees b s ⟨.closing id, answer⟩
  | adds (id : SessionId) (t : TypeId) (n : Nat) (answer : Option (Outcome Bool))
      (held : b.session = some id) (handled : t ∈ b.handledTypes)
      (sole : t ∉ (b.detach t n).handledTypes)
      (listed : ∀ u, (id, u) ∈ s.subscribed ↔ u ∈ b.handledTypes ∧ u ≠ t ∨ Took answer ∧ u = t) :
    Sees b s ⟨.adding id t n, answer⟩
  | removes (id : SessionId) (t : TypeId) (answer : Option (Outcome Bool))
      (held : b.session = some id)
      (listed : ∀ u, (id, u) ∈ s.subscribed ↔ u ∈ b.handledTypes ∨ answer = none ∧ u = t)
      (gone : t ∉ b.handledTypes) :
    Sees b s ⟨.removing id t, answer⟩
  | polls (id : SessionId) (generation : Nat) (answer : Option (Outcome Batch))
      (follows : s.Follows b) :
    Sees b s ⟨.polling id generation, answer⟩
  | probes (fingerprint : Fingerprint) (answer : Option (Outcome Unit)) (follows : s.Follows b) :
    Sees b s ⟨.probing fingerprint, answer⟩
  | publishes (t : TypeId) (payload : Json.Value) (answer : Option (Outcome Int))
      (follows : s.Follows b) :
    Sees b s ⟨.publishing t payload, answer⟩

/-- What is on the list after a turn. -/
def Turn.Leaves (turn : Turn) (s : Service) : Prop :=
  match turn.progress with
  | .waiting p => Underway.Sees turn.bus s ⟨p, none⟩
  | .finished _ => s.Follows turn.bus

theorem Turn.leaves_await {b : Bus} {p : Pending} {s : Service} :
    (b.await p).Leaves s ↔ Underway.Sees b s ⟨p, none⟩ := Iff.rfl

theorem Turn.leaves_finish {b : Bus} {result : Outcome Success} {s : Service} :
    (b.finish result).Leaves s ↔ s.Follows b := Iff.rfl

theorem not_took_none : ¬ Took none := by
  rintro ⟨_, h⟩
  cases h

theorem took_ok (changed : Bool) : Took (some (.ok changed)) := ⟨changed, rfl⟩

theorem not_took_error {fault : Fault} : ¬ Took (some (.error fault)) := by
  rintro ⟨_, h⟩
  cases h

theorem Service.follows_of_free {s : Service} {b : Bus} (h : b.session = none) : s.Follows b :=
  fun _ hid => by cases h.symm.trans hid

/-- What a call to subscribe comes to. -/
theorem mem_serve_subscribe {s : Service} {id : SessionId} {t u : TypeId} {a : Outcome Bool} :
    (id, u) ∈ (s.serve (.subscribe id t) a).subscribed ↔
      (id, u) ∈ s.subscribed ∨ Took (some a) ∧ u = t := by
  cases a with
  | error fault => simp [Service.serve, Took]
  | ok changed => simp [Service.serve, Took, or_comm]

/-! ### An operation that begins -/

namespace Service.Follows

variable {s : Service} {b : Bus}

/-- Only the session and the handlers count. -/
theorem congr {b' : Bus} (h : s.Follows b) (hsession : b'.session = b.session)
    (hhandlers : b'.handlers = b.handlers) : s.Follows b' := fun id hid t => by
  rw [Bus.handledTypes, hhandlers]
  exact h id (hsession.symm.trans hid) t

theorem started_addHandler (h : s.Follows b) (t : TypeId) (recipient : String) :
    (b.start (.addHandler t recipient)).Leaves s := by
  cases hid : b.session with
  | none =>
    rw [Bus.start_addHandler_of_free hid, Turn.leaves_finish]
    exact follows_of_free hid
  | some id =>
    rw [Bus.start_addHandler hid]
    split
    · rename_i hfirst
      rw [Turn.leaves_await]
      refine .adds id t b.nextHandler none hid (Bus.mem_handledTypes_attach.2 (.inr rfl))
        (Bus.not_mem_handledTypes_detach_attach hfirst) fun u => ?_
      rw [h id hid, Bus.mem_handledTypes_attach]
      have hnone := not_took_none
      grind
    · rename_i hlater
      rw [not_not] at hlater
      rw [Turn.leaves_finish]
      intro id' hid' u
      rw [h id' hid', Bus.mem_handledTypes_attach, or_iff_left_of_imp]
      rintro rfl
      exact hlater

theorem started_removeHandler (h : s.Follows b) (hauto : b.autoUnsubscribe = true) (t : TypeId)
    (n : Nat) : (b.start (.removeHandler t n)).Leaves s := by
  cases hid : b.session with
  | none =>
    rw [Bus.start_removeHandler_of_free hid, Turn.leaves_finish]
    exact follows_of_free hid
  | some id =>
    rw [Bus.start_removeHandler hauto hid]
    split
    · rename_i hlast
      rw [Turn.leaves_await]
      refine .removes id t none hid (fun u => ?_) hlast.2
      rw [h id hid]
      by_cases hu : u = t
      · subst hu
        simp [Bus.mem_handledTypes_of_hasHandler hlast.1]
      · simp [hu, Bus.mem_handledTypes_detach hu]
    · rename_i hlast
      rw [Turn.leaves_finish]
      intro id' hid' u
      exact (h id' hid' u).trans (Bus.mem_handledTypes_detach_of_left hlast).symm

/-- **How an operation begins**, when nothing is under way. -/
theorem started (h : s.Follows b) (hauto : b.autoUnsubscribe = true) (op : Operation) :
    (b.start op).Leaves s := by
  cases op with
  | newSession =>
    simp only [Bus.start]
    split
    · exact h
    · rename_i hfree
      exact .opens none hfree fun id hid => by cases hid
  | endSession =>
    cases hid : b.session with
    | none =>
      simp only [Bus.start, Bus.dropSession, hid]
      exact follows_of_free rfl
    | some id =>
      simp only [Bus.start, Bus.dropSession, hid]
      exact .closes id none rfl
  | addHandler t recipient => exact h.started_addHandler t recipient
  | removeHandler t n => exact h.started_removeHandler hauto t n
  | poll =>
    simp only [Bus.start]
    split <;> (try split)
    · exact .polls _ _ none h
    · exact h
    · exact h
  | probe => exact .probes _ none h
  | publish t payload => exact .publishes t payload none h

end Service.Follows

/-! ### An operation that goes on -/

namespace Underway.Sees

variable {s : Service} {b : Bus} {p : Pending}

/-- The permission to poll makes no difference. -/
theorem congr {b' : Bus} {c : Underway} (h : Sees b s c) (hsession : b'.session = b.session)
    (hgeneration : b'.generation = b.generation) (hhandlers : b'.handlers = b.handlers) :
    Sees b' s c := by
  have hhandled : b'.handledTypes = b.handledTypes := by
    rw [Bus.handledTypes, Bus.handledTypes, hhandlers]
  have hfollows (h : s.Follows b) : s.Follows b' := h.congr hsession hhandlers
  cases h with
  | opens answer free fresh => exact .opens answer (hsession.trans free) fresh
  | subscribes id t before rest answer held types listed =>
    rw [← hgeneration]
    exact .subscribes id t before rest answer (hsession.trans held) (hhandled ▸ types) listed
  | abandons id fault answer free => exact .abandons id fault answer (hsession.trans free)
  | closes id answer free => exact .closes id answer (hsession.trans free)
  | adds id t n answer held handled sole listed =>
    refine .adds id t n answer (hsession.trans held) (hhandled ▸ handled) ?_ (hhandled ▸ listed)
    rw [Bus.handledTypes, Bus.detach, hhandlers]
    exact sole
  | removes id t answer held listed gone =>
    exact .removes id t answer (hsession.trans held) (hhandled ▸ listed) (hhandled ▸ gone)
  | polls id generation answer follows => exact .polls id generation answer (hfollows follows)
  | probes fingerprint answer follows => exact .probes fingerprint answer (hfollows follows)
  | publishes t payload answer follows => exact .publishes t payload answer (hfollows follows)

/-- **The service makes something of a call.** -/
theorem served (h : Sees b s ⟨p, none⟩) (answer : p.call.Answer)
    (hremoved : ∀ id t, p = .removing id t → answer.isOk = true) :
    Sees b (s.serve p.call answer) ⟨p, some answer⟩ := by
  cases h with
  | opens _ free fresh =>
    refine .opens (some answer) free fun id hid u => ?_
    cases Option.some.inj hid
    simp [Pending.call, Service.serve, Service.grant]
  | subscribes id t before rest _ held types listed =>
    refine .subscribes id t before rest (some answer) held types fun u => ?_
    refine (mem_serve_subscribe (a := answer)).trans ?_
    rw [listed]
    have hnone := not_took_none
    tauto
  | abandons id fault _ free => exact .abandons id fault (some answer) free
  | closes id _ free => exact .closes id (some answer) free
  | adds id t n _ held handled sole listed =>
    refine .adds id t n (some answer) held handled sole fun u => ?_
    refine (mem_serve_subscribe (a := answer)).trans ?_
    rw [listed]
    have hnone := not_took_none
    tauto
  | removes id t _ held listed gone =>
    refine .removes id t (some answer) held (fun u => ?_) gone
    cases answer with
    | error fault => cases hremoved id t rfl
    | ok changed =>
      have hlisted := listed u
      simp [Pending.call, Service.serve]
      grind
  | polls id generation _ follows => exact .polls id generation (some answer) follows
  | probes fingerprint _ follows => exact .probes fingerprint (some answer) follows
  | publishes t payload _ follows => exact .publishes t payload (some answer) follows

/-- A new session goes on to the types that it has not come to. -/
theorem leaves_subscribeNext {id : SessionId} {before rest : List TypeId}
    (held : b.session = some id) (types : (before ++ rest).Perm b.handledTypes)
    (listed : ∀ u, (id, u) ∈ s.subscribed ↔ u ∈ before) :
    (b.subscribeNext id b.generation rest).Leaves s := by
  cases rest with
  | nil =>
    intro id' hid' u
    cases held.symm.trans hid'
    rw [listed, Bus.handledTypes_subscribeNext, ← types.mem_iff, List.append_nil]
  | cons t rest =>
    refine .subscribes id t before rest none held types fun u => ?_
    rw [listed, or_iff_left fun h => not_took_none h.1]

/-- A session is taken up that has nothing on its list. -/
theorem leaves_takeUp {id : SessionId} (free : b.session = none)
    (fresh : ∀ t, (id, t) ∉ s.subscribed) : (b.resume .opening (.ok id)).Leaves s := by
  rw [Bus.resume_opening free]
  exact leaves_subscribeNext (b := b.hold id) rfl (b.hold id).keys_perm fun u =>
    iff_of_false (fresh u) List.not_mem_nil

/-- **An operation hears the answer of its call.** -/
theorem resumed {answer : p.call.Answer} (h : Sees b s ⟨p, some answer⟩) :
    (b.resume p answer).Leaves s := by
  cases h with
  | opens _ free fresh =>
    cases answer with
    | error fault => exact Service.follows_of_free free
    | ok id => exact leaves_takeUp free (fresh id rfl)
  | subscribes id t before rest _ held types listed =>
    cases answer with
    | error fault =>
      rw [Bus.resume_subscribing held]
      exact .abandons id fault none (Bus.session_dropSession b)
    | ok changed =>
      have htypes : ((before ++ [t]) ++ rest).Perm b.handledTypes := by simpa using types
      refine leaves_subscribeNext held htypes fun u => ?_
      refine (listed u).trans ((or_congr_right (and_iff_right (took_ok changed))).trans ?_)
      rw [List.mem_append, List.mem_singleton]
  | abandons id fault _ free => exact Service.follows_of_free free
  | closes id _ free => exact Service.follows_of_free free
  | adds id t n _ held handled sole listed =>
    cases answer with
    | ok changed =>
      intro id' hid' u
      cases held.symm.trans hid'
      refine (listed u).trans ((or_congr_right (and_iff_right (took_ok changed))).trans ?_)
      show _ ↔ u ∈ b.handledTypes
      by_cases hu : u = t
      · simp [hu, handled]
      · simp [hu]
    | error fault =>
      intro id' hid' u
      cases held.symm.trans hid'
      show _ ↔ u ∈ (b.detach t n).handledTypes
      rw [listed, or_iff_left fun h => not_took_error h.1, Bus.mem_handledTypes_detach_of_last sole]
  | removes id t _ held listed gone =>
    intro id' hid' u
    cases held.symm.trans hid'
    show _ ↔ u ∈ b.handledTypes
    rw [listed, or_iff_left fun h => by cases h.1]
  | polls id generation _ follows =>
    show (b.dispatch id generation answer).Leaves s
    unfold Bus.dispatch
    split
    · cases answer <;> exact follows
    · exact follows
  | probes fingerprint _ follows => exact follows
  | publishes t payload _ follows => exact follows

end Underway.Sees

/-! ### One operation after the other -/

namespace Switchboard

variable {x y z w : Switchboard} {m : Move} {ms : List Move} {k : Nat}

/-- Whether a move leaves operations one after the other: nothing begins and no session is given up
while a call is out, no operation is given up, the last handler of a type always unsubscribes, and
no such call fails. -/
def Apart (y : Switchboard) : Move → Prop
  | .begin _ | .drop => y.callers = []
  | .tidy enabled => enabled = true
  | .serve _ reply => ∀ id t, (reply (.unsubscribe id t)).isOk = true
  | .cancel _ => False
  | .resume | .deliver _ => True

/-- Whether the operations of a run follow one another. -/
def OneByOne (x : Switchboard) (ms : List Move) : Prop := ∀ m y, x.Makes ms m y → y.Apart m

theorem oneByOne_concat (hy : x.run ms = some y) :
    x.OneByOne (ms ++ [m]) ↔ x.OneByOne ms ∧ y.Apart m := by
  constructor
  · intro h
    exact ⟨fun m' w hmakes => h m' w (hmakes.concat hy),
      h m y ((makes_concat hy).2 (.inr ⟨rfl, rfl⟩))⟩
  · rintro ⟨h, hm⟩ m' w hmakes
    rcases (makes_concat hy).1 hmakes with hmakes | ⟨rfl, rfl⟩
    · exact h m' w hmakes
    · exact hm

theorem oneByOne_nil (x : Switchboard) : x.OneByOne [] := fun _ _ hmakes =>
  absurd hmakes not_makes_nil

/-- One move before the others. -/
theorem OneByOne.cons (hm : x.Apart m) (hy : x.step m = some y) (h : y.OneByOne ms) :
    x.OneByOne (m :: ms) := by
  rintro m' w ⟨before, after, heq, hw⟩
  cases before with
  | nil =>
    cases hw
    cases heq
    exact hm
  | cons m₀ before =>
    cases heq
    rw [run, hy, Option.bind_some] at hw
    exact h m' w ⟨before, after, rfl, hw⟩

/-- What is true while operations follow one another. -/
structure InStep (x : Switchboard) : Prop where
  tidies : x.bus.autoUnsubscribe = true
  ticketed : x.Ticketed
  stage : x.callers = [] ∧ x.service.Follows x.bus ∨
    ∃ k c, x.callers = [(k, c)] ∧ Underway.Sees x.bus x.service c

theorem eq_of_underway? {j : Nat} {c d : Underway} (hcallers : x.callers = [(j, c)])
    (hk : x.underway? k = some d) : k = j ∧ d = c := by
  have hmem := mem_of_underway? hk
  rw [hcallers] at hmem
  exact Prod.mk.inj (List.mem_singleton.1 hmem)

theorem callers_without_of_singleton {c : Underway} (hcallers : x.callers = [(k, c)]) :
    (x.without k).callers = [] := by
  simp [without, hcallers]

/-- A turn is taken over while nothing else is under way. -/
theorem stage_adopt {turn : Turn} (hcallers : x.callers = []) (h : turn.Leaves x.service) :
    (x.adopt k turn).callers = [] ∧ (x.adopt k turn).service.Follows (x.adopt k turn).bus ∨
      ∃ j c, (x.adopt k turn).callers = [(j, c)] ∧
        Underway.Sees (x.adopt k turn).bus (x.adopt k turn).service c := by
  obtain ⟨b, delivered, progress⟩ := turn
  cases progress with
  | waiting p => exact .inr ⟨k, ⟨p, none⟩, by simp [adopt, hcallers, Turn.underway?], h⟩
  | finished result => exact .inl ⟨by simp [adopt, hcallers, Turn.underway?], h⟩

namespace InStep

theorem new (fingerprint : Fingerprint) (keys : KeyOrder) :
    (Switchboard.new fingerprint keys).InStep :=
  ⟨rfl, .new fingerprint keys, .inl ⟨rfl, Service.follows_of_free rfl⟩⟩

/-- What is left of an operation that is asked of the service, or hears of it. -/
theorem sees (h : x.InStep) {c : Underway} (hk : x.underway? k = some c) :
    x.callers = [(k, c)] ∧ Underway.Sees x.bus x.service c := by
  rcases h.stage with ⟨hidle, -⟩ | ⟨j, d, hcallers, hsees⟩
  · have hmem := mem_of_underway? hk
    rw [hidle] at hmem
    cases hmem
  · obtain ⟨rfl, rfl⟩ := eq_of_underway? hcallers hk
    exact ⟨hcallers, hsees⟩

/-- **What each move keeps.** -/
theorem step (h : y.InStep) (hm : y.Apart m) (hz : y.step m = some z) : z.InStep := by
  have hticketed := h.ticketed.step hz
  cases happens_of_step hz with
  | begins op =>
    rcases h.stage with ⟨hidle, hfollows⟩ | ⟨j, d, hcallers, -⟩
    · refine ⟨(Bus.autoUnsubscribe_start _ op).trans h.tidies, hticketed, ?_⟩
      exact stage_adopt (x := { y with ticket := y.ticket + 1 }) hidle
        (hfollows.started h.tidies op)
    · cases hcallers.symm.trans hm
  | drops =>
    refine ⟨(Bus.autoUnsubscribe_dropSession _).trans h.tidies, hticketed, .inl ⟨hm, ?_⟩⟩
    exact Service.follows_of_free y.bus.session_dropSession
  | resumes =>
    refine ⟨(Bus.autoUnsubscribe_resumeSession _).trans h.tidies, hticketed, ?_⟩
    rcases h.stage with ⟨hidle, hfollows⟩ | ⟨j, d, hcallers, hsees⟩
    · exact .inl ⟨hidle, hfollows.congr y.bus.session_resumeSession y.bus.handlers_resumeSession⟩
    · exact .inr ⟨j, d, hcallers, hsees.congr y.bus.session_resumeSession
        y.bus.generation_resumeSession y.bus.handlers_resumeSession⟩
  | tidies enabled =>
    refine ⟨hm, hticketed, ?_⟩
    rcases h.stage with ⟨hidle, hfollows⟩ | ⟨j, d, hcallers, hsees⟩
    · exact .inl ⟨hidle, hfollows.congr rfl rfl⟩
    · exact .inr ⟨j, d, hcallers, hsees.congr rfl rfl rfl⟩
  | serves k reply p hk =>
    obtain ⟨hcallers, hsees⟩ := h.sees hk
    refine ⟨h.tidies, hticketed, .inr ⟨k, _, ?_, hsees.served (reply p.call) ?_⟩⟩
    · simp only [answered, callers_without_of_singleton hcallers, List.nil_append]
    · rintro id t rfl
      exact hm id t
  | delivers k p answer hk =>
    obtain ⟨hcallers, hsees⟩ := h.sees hk
    exact ⟨(Bus.autoUnsubscribe_resume ..).trans h.tidies, hticketed,
      stage_adopt (callers_without_of_singleton hcallers) hsees.resumed⟩
  | cancels => exact hm.elim

theorem run (h : x.InStep) (hms : x.OneByOne ms) (hy : x.run ms = some y) : y.InStep :=
  run_induction (Q := fun ms y => x.OneByOne ms → y.InStep) (fun _ => h)
    (fun hy ih hz hms =>
      have hms := (oneByOne_concat hy).1 hms
      (ih hms.1).step hms.2 hz) hy hms

/-- **What a move brings about and each later one keeps** holds after the run. -/
theorem since (h : x.InStep) {P : Switchboard → Prop}
    (hmove : ∀ {before z}, x.run before = some w → w.InStep → w.Apart m → w.step m = some z → P z)
    (hlater : ∀ {before y m z}, x.run before = some y → y.InStep → y.Apart m →
      y.step m = some z → P y → P z)
    (hms : x.OneByOne ms) (hy : x.run ms = some y) (hmakes : x.Makes ms m w) : P y := by
  refine run_induction (Q := fun ms y => x.OneByOne ms → x.Makes ms m w → P y) ?_ ?_ hy hms hmakes
  · intro _ hmakes
    exact absurd hmakes not_makes_nil
  · intro ms y m' z hy ih hz hms hmakes
    obtain ⟨hbefore, hapart⟩ := (oneByOne_concat hy).1 hms
    have hin : y.InStep := h.run hbefore hy
    rcases (makes_concat hy).1 hmakes with hmakes | ⟨rfl, rfl⟩
    · exact hlater hy hin hapart hz (ih hbefore hmakes)
    · exact hmove hy hin hapart hz

/-- **When nothing is under way**, the list of the session that is held is what has a handler. -/
theorem follows (h : x.InStep) (hidle : x.callers = []) : x.service.Follows x.bus := by
  rcases h.stage with ⟨-, hfollows⟩ | ⟨k, c, hcallers, -⟩
  · exact hfollows
  · cases hidle.symm.trans hcallers

end InStep

end Switchboard
end EventRelay

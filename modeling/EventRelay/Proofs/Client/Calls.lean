/-
# Calls and what becomes of them

Everything that can happen to a client and the server it talks to is one of three kinds
(`Conversation.Goes`): the server goes on, with a request of this client or of somebody else
arriving at most; a user's operation goes on, which the controller and its session do not
notice (`Conversation.Tended`); or the controller makes a turn, in which it puts at most one
thing into the journal (`Bus.Journals`).
-/

import EventRelay.Proofs.Client.Dispatch
import EventRelay.Proofs.Client.Errands
import EventRelay.Proofs.Client.Journal
import EventRelay.Proofs.Server.Moves

namespace EventRelay

/-- What an answer to the controller puts into the journal. -/
inductive Bus.Journals (b : Bus) : (p : Pending) → p.call.Answer → List Episode → Prop where
  | nothing (p : Pending) (answer : p.call.Answer) (hgranted : Controller.granted p answer = none)
      (hpoll : ∀ id generation, p ≠ .polling id generation) : Journals b p answer []
  | grants (id : SessionId) (h : b.session = none) :
    Journals b .opening (.ok id) [.granted id b.handlers]
  | dispatches (id : SessionId) (batch : Batch) (h : b.session = some id) :
    Journals b (.polling id b.generation) (.ok batch) [.dispatched id batch (b.deliveries batch)]
  | fails (id : SessionId) (fault : Fault) (h : b.session = some id) :
    Journals b (.polling id b.generation) (.error fault) [.failed id fault]

theorem Bus.journals_episodes {b : Bus} {errand : Errand} {p : Pending} (h : errand.Waits b p)
    (answer : p.call.Answer) : b.Journals p answer (b.episodes p answer) := by
  cases p with
  | opening =>
    cases errand with
    | poll | probe => cases h
    | openSession =>
      have hnone : b.session = none := h
      cases answer with
      | error fault =>
        simp only [episodes]
        exact .nothing .opening (.error fault) rfl (by simp)
      | ok id =>
        simp only [episodes, hnone]
        exact .grants id hnone
  | polling id generation =>
    cases errand with
    | openSession | probe => cases h
    | poll =>
      obtain ⟨hid, rfl⟩ := h
      have hholds : b.stillHolds id b.generation = true := by simp [stillHolds, hid]
      cases answer with
      | error fault =>
        simp only [episodes, hholds, if_true]
        exact .fails id fault hid
      | ok batch =>
        simp only [episodes, dispatch, hholds, if_true]
        exact .dispatches id batch hid
  | subscribing | abandoning | closing | adding | removing | probing | publishing =>
    exact .nothing _ _ rfl (by simp)

namespace Conversation

variable {x x' : Conversation} {k : Nat}

/-- Whether a session was taken up. -/
def Granted (x : Conversation) (id : SessionId) : Prop := ∃ hs, .granted id hs ∈ x.journal

/-- Whether an answer to what an asker waits for can have come back. -/
def Brings (x : Conversation) (who : Asker) (p : Pending) (answer : p.call.Answer) : Prop :=
  (∃ fault, answer = .error fault) ∨ (∃ f, p = .probing f) ∨
    ∃ k a, (who, k) ∈ x.carried ∧ .answered k a ∈ x.traffic.told ∧ p.call.answer? a = some answer

/-- A session comes back because the server has granted it. -/
theorem Brings.session {who : Asker} {id : SessionId} (h : x.Brings who .opening (.ok id)) :
    ∃ k, (who, k) ∈ x.carried ∧ .answered k (.ok (.session id)) ∈ x.traffic.told := by
  rcases h with ⟨fault, hfault⟩ | ⟨f, hf⟩ | ⟨k, a, hk, ha, hheard⟩
  · cases hfault
  · cases hf
  · cases a with
    | error fault => cases hheard
    | ok reply =>
      cases reply with
      | session id' =>
        cases hheard
        exact ⟨k, hk, ha⟩
      | done | changed | batch | swept => cases hheard

theorem Brings.changed {who : Asker} {id : SessionId} {generation : Nat} {t : TypeId}
    {rest : List TypeId} {b : Bool} (h : x.Brings who (.subscribing id generation t rest) (.ok b)) :
    ∃ k, (who, k) ∈ x.carried ∧ .answered k (.ok (.changed b)) ∈ x.traffic.told := by
  rcases h with ⟨fault, hfault⟩ | ⟨f, hf⟩ | ⟨k, a, hk, ha, hheard⟩
  · cases hfault
  · cases hf
  · cases a with
    | error fault => cases hheard
    | ok reply =>
      cases reply with
      | changed b' =>
        cases hheard
        exact ⟨k, hk, ha⟩
      | done | session | batch | swept => cases hheard

theorem Brings.batch {who : Asker} {id : SessionId} {generation : Nat} {b : Batch}
    (h : x.Brings who (.polling id generation) (.ok b)) :
    ∃ k, (who, k) ∈ x.carried ∧ .answered k (.ok (.batch b)) ∈ x.traffic.told := by
  rcases h with ⟨fault, hfault⟩ | ⟨f, hf⟩ | ⟨k, a, hk, ha, hheard⟩
  · cases hfault
  · cases hf
  · cases a with
    | error fault => cases hheard
    | ok reply =>
      cases reply with
      | batch b' =>
        cases hheard
        exact ⟨k, hk, ha⟩
      | done | session | changed | swept => cases hheard

/-- What the users of a client do, and what becomes of it. -/
structure Tended (x x' : Conversation) : Prop where
  traffic : x'.traffic = x.traffic
  controller : x'.controller = x.controller
  own : x'.own = x.own
  journal : x'.journal = x.journal
  session : x'.bus.session = x.bus.session
  generation : x'.bus.generation = x.bus.generation
  numbered : x.bus.Numbered → x'.bus.Numbered
  nextHandler : x.bus.nextHandler ≤ x'.bus.nextHandler
  /-- A handler that comes gets the next number. -/
  handlers : ∀ h ∈ x'.bus.handlers, h ∈ x.bus.handlers ∨ x.bus.nextHandler ≤ h.id
  carried : x'.carried.Sublist x.carried
  steers : ∀ {k}, (.controller, k) ∈ x.carried → (.controller, k) ∈ x'.carried
  number : x.number ≤ x'.number
  numbers : ∀ q ∈ x'.users, q ∈ x.users ∨ q.1 < x'.number
  /-- A user that has a call out goes on to wait for its answer. -/
  waits : (∀ q ∈ x.users, q.1 < x.number) → ∀ {who k}, (who, k) ∈ x'.carried →
    ∀ {p}, x.pending? who = some p → x'.pending? who = some p
  /-- A call that a user makes is for the session that is held; a type is taken away only when
  it has no handler. -/
  users : ∀ q ∈ x'.users, q ∈ x.users ∨ ∃ id, x.bus.session = some id ∧
    ((∃ t n, q.2 = .adding id t n) ∨ ∃ t, q.2 = .removing id t ∧ ∀ h ∈ x'.bus.handlers, h.typeId ≠ t)

/-- Whether a controller can begin an errand. -/
def Ready (x : Conversation) (errand : Errand) : Prop :=
  x.controller.activity = .ready errand ∨ ∃ pause, x.controller.activity = .pausing pause errand

theorem pending?_of_calling {errand : Errand} {p : Pending}
    (hp : x.controller.activity = .calling errand p) : x.pending? .controller = some p := by
  simp only [pending?, hp]

theorem calling_of_pending? {p : Pending} (hp : x.pending? .controller = some p) :
    ∃ errand, x.controller.activity = .calling errand p := by
  simp only [pending?] at hp
  split at hp
  · rename_i errand p' hactivity
    cases hp
    exact ⟨errand, hactivity⟩
  · cases hp
  · cases hp
  · cases hp

/-- The move of the server that a move is, if it is one. -/
def Move.served? : Move → Option EventRelay.Move
  | server m => some m
  | add _ _ | remove _ _ | leave _ | begin | stop | carry _ _ | deliver _ | fail _ _ => none

/-- Everything that can happen next. -/
inductive Goes (x : Conversation) : Move → Conversation → Prop where
  | serves (m : EventRelay.Move) (t : Traffic) (hm : x.admits m = true)
      (ht : x.traffic.step m = some t) : Goes x (.server m) { x with traffic := t }
  | carries (who : Asker) (fresh : SourceId) (p : Pending) (r : Server.Request) (t : Traffic)
      (hp : x.pending? who = some p) (hr : p.call.request? fresh = some r)
      (hfree : x.carried.lookup who = none) (ht : x.traffic.step (.arrive r) = some t) :
    Goes x (.carry who fresh)
      { x with
        traffic := t
        carried := x.carried ++ [(who, x.traffic.ticket)]
        own := x.own ++ r.fresh?.toList }
  | tends (m : Move) (x' : Conversation) (hm : m.served? = none) (h : x.Tended x') : Goes x m x'
  | begins (errand : Errand) (h : x.Ready errand) :
    Goes x .begin (x.steer errand (x.bus.start errand.operation))
  | stops : Goes x .stop { x.forget .controller with controller := x.controller.stop.1 }
  | hears (m : Move) (errand : Errand) (p : Pending) (answer : p.call.Answer)
      (hm : m.served? = none) (hp : x.controller.activity = .calling errand p)
      (hfrom : x.Brings .controller p answer) :
    Goes x m ({ x.forget .controller with
      journal := x.journal ++ x.bus.episodes p answer }.steer errand (x.bus.resume p answer))

/-- What a user's operation does to the bus. -/
structure Tends (b : Bus) (turn : Turn) : Prop where
  session : turn.bus.session = b.session
  generation : turn.bus.generation = b.generation
  numbered : b.Numbered → turn.bus.Numbered
  nextHandler : b.nextHandler ≤ turn.bus.nextHandler
  handlers : ∀ h ∈ turn.bus.handlers, h ∈ b.handlers ∨ b.nextHandler ≤ h.id
  waits : ∀ {p}, turn.progress = .waiting p → ∃ id, b.session = some id ∧
    ((∃ t n, p = .adding id t n) ∨ ∃ t, p = .removing id t ∧ ∀ h ∈ turn.bus.handlers, h.typeId ≠ t)

theorem tends_add (b : Bus) (t : TypeId) (recipient : String) :
    Tends b (b.start (.addHandler t recipient)) := by
  have hattach : ∀ h ∈ (b.attach t recipient).handlers, h ∈ b.handlers ∨ b.nextHandler ≤ h.id := by
    intro h hh
    refine (List.mem_append.1 hh).imp_right fun hnew => ?_
    cases List.mem_singleton.1 hnew
    exact Nat.le_refl _
  have hnext : b.nextHandler ≤ (b.attach t recipient).nextHandler := Nat.le_succ _
  simp only [Bus.start]
  cases hs : b.session with
  | none =>
    have hs' : (b.attach t recipient).session = none := hs
    rw [hs']
    exact ⟨rfl, rfl, fun hb => hb.attach t recipient, hnext, hattach, by rintro p ⟨⟩⟩
  | some id =>
    have hs' : (b.attach t recipient).session = some id := hs
    rw [hs']
    dsimp only
    split
    · refine ⟨rfl, rfl, fun hb => hb.attach t recipient, hnext, hattach, ?_⟩
      rintro p ⟨⟩
      exact ⟨id, hs, .inl ⟨t, b.nextHandler, rfl⟩⟩
    · exact ⟨rfl, rfl, fun hb => hb.attach t recipient, hnext, hattach, by rintro p ⟨⟩⟩

/-- Taking a handler out. -/
theorem tends_detach (b : Bus) (t : TypeId) (id : Nat) (result : Outcome Success) :
    Tends b ((b.detach t id).finish result) :=
  ⟨rfl, rfl, fun hb => hb.sublist List.filter_sublist rfl, Nat.le_refl _,
    fun h hh => .inl (List.filter_sublist.subset hh), by rintro p ⟨⟩⟩

theorem tends_finish (b : Bus) (result : Outcome Success) : Tends b (b.finish result) :=
  ⟨rfl, rfl, fun hb => hb, Nat.le_refl _, fun _ hh => .inl hh, by rintro p ⟨⟩⟩

theorem tends_remove (b : Bus) (t : TypeId) (id : Nat) :
    Tends b (b.start (.removeHandler t id)) := by
  simp only [Bus.start]
  cases hs : b.session with
  | none =>
    have hs' : (b.detach t id).session = none := hs
    rw [hs']
    exact tends_detach b t id _
  | some session =>
    have hs' : (b.detach t id).session = some session := hs
    rw [hs']
    dsimp only
    split
    · rename_i hlast
      refine ⟨rfl, rfl, fun hb => hb.sublist List.filter_sublist rfl, Nat.le_refl _,
        fun h hh => .inl (List.filter_sublist.subset hh), ?_⟩
      rintro p ⟨⟩
      refine ⟨session, hs, .inr ⟨t, rfl, fun h hh ht => ?_⟩⟩
      have hnone : (b.detach t id).handlersOf t = [] := by
        have hcount : (b.detach t id).handlerCount t = 0 := by simp_all
        exact List.eq_nil_of_length_eq_zero hcount
      have hmem : h ∈ (b.detach t id).handlersOf t := List.mem_filter.2 ⟨hh, by simpa using ht⟩
      rw [hnone] at hmem
      cases hmem
    · exact tends_detach b t id _

/-- A user's operation is adopted. -/
theorem tended_serve {n number : Nat} {turn : Turn} {carried : List (Asker × Nat)}
    (hturn : Tends x.bus turn) (hnumber : x.number ≤ number) (hn : n < number)
    (hcarried : carried.Sublist x.carried)
    (hsteers : ∀ {k}, (.controller, k) ∈ x.carried → (.controller, k) ∈ carried)
    (hfree : ∀ k, (.user n, k) ∈ carried → ∀ p, x.users.lookup n = some p → x.number ≤ n) :
    x.Tended ({ x with carried, number }.serve n turn) := by
  have hothers : ∀ {m : Nat}, m ≠ n → ∀ (l : List (Nat × Pending)) (p : Pending),
      x.users.lookup m = some p → ((x.users.filter fun q => q.1 ≠ n) ++ l).lookup m = some p := by
    intro m hm l p hp
    rw [List.lookup_append, Tickets.lookup_without _ hm, hp]
    rfl
  have hserve : ∃ l : List (Nat × Pending),
      Conversation.serve { x with carried, number } n turn =
        { x with carried, number, bus := turn.bus, users := (x.users.filter fun q => q.1 ≠ n) ++ l } ∧
      ∀ q ∈ l, q.1 = n ∧ turn.progress = .waiting q.2 := by
    unfold serve
    cases hp : turn.progress with
    | waiting p => exact ⟨[(n, p)], rfl, fun q hq => by rw [List.mem_singleton.1 hq]; exact ⟨rfl, rfl⟩⟩
    | finished result => exact ⟨[], by simp, by simp⟩
  obtain ⟨l, hserve, hl⟩ := hserve
  rw [hserve]
  refine ⟨rfl, rfl, rfl, rfl, hturn.session, hturn.generation, hturn.numbered, hturn.nextHandler,
    hturn.handlers, hcarried, hsteers, hnumber, fun q hq => ?_, fun hnumbers who k hk p hp => ?_,
    fun q hq => ?_⟩
  · rcases List.mem_append.1 hq with hold | hnew
    · exact .inl (List.mem_filter.1 hold).1
    · exact .inr ((hl q hnew).1 ▸ hn)
  · cases who with
    | controller => exact hp
    | user m =>
      refine hothers ?_ l p hp
      rintro rfl
      have hlt := hnumbers _ (Tickets.mem_of_lookup hp)
      exact absurd (hfree k hk p hp) (by omega)
  · rcases List.mem_append.1 hq with hold | hnew
    · exact .inl (List.mem_filter.1 hold).1
    · exact .inr (hturn.waits (hl q hnew).2)

theorem tended_request {op : Operation} (hop : Tends x.bus (x.bus.start op)) :
    x.Tended (x.request op) :=
  tended_serve hop (Nat.le_succ _) (Nat.lt_succ_self _) (List.Sublist.refl _) (fun hk => hk)
    fun _ _ _ _ => Nat.le_refl _

/-- What users can wait for. -/
def Pending.IsUsers (p : Pending) : Prop :=
  (∃ id t n, p = .adding id t n) ∨ ∃ id t, p = .removing id t

theorem tends_resume (b : Bus) {p : Pending} (hp : Pending.IsUsers p) (answer : p.call.Answer) :
    Tends b (b.resume p answer) ∧ b.episodes p answer = [] := by
  rcases hp with ⟨id, t, n, rfl⟩ | ⟨id, t, rfl⟩
  · cases answer with
    | error fault => exact ⟨tends_detach b t n _, rfl⟩
    | ok changed => exact ⟨tends_finish b _, rfl⟩
  · exact ⟨tends_finish b _, rfl⟩

theorem not_mem_forget (who : Asker) : (who, k) ∉ (x.forget who).carried := fun hk =>
  absurd rfl (of_decide_eq_true (List.mem_filter.1 hk).2)

theorem tended_hear {n : Nat} {p : Pending} (hp : Pending.IsUsers p) (hlt : n < x.number)
    (answer : p.call.Answer) : x.Tended (x.hear (.user n) p answer) := by
  obtain ⟨hturn, hnone⟩ := tends_resume x.bus hp answer
  have hhear : x.hear (.user n) p answer =
      Conversation.serve { x with carried := (x.forget (.user n)).carried, number := x.number } n
        (x.bus.resume p answer) := by
    simp only [hear, hnone, List.append_nil]
    rfl
  rw [hhear]
  refine tended_serve hturn (Nat.le_refl _) hlt List.filter_sublist (fun hk => ?_)
    fun k hk => absurd hk (not_mem_forget _)
  exact List.mem_filter.2 ⟨hk, by simp⟩

theorem tended_leave (n : Nat) :
    x.Tended { x.forget (.user n) with users := x.users.filter fun q => q.1 ≠ n } := by
  refine ⟨rfl, rfl, rfl, rfl, rfl, rfl, fun hb => hb, Nat.le_refl _, fun _ hh => .inl hh,
    List.filter_sublist, fun hk => List.mem_filter.2 ⟨hk, by simp⟩, Nat.le_refl _,
    fun q hq => .inl (List.mem_filter.1 hq).1, fun _ who k hk p hp => ?_,
    fun q hq => .inl (List.mem_filter.1 hq).1⟩
  cases who with
  | controller => exact hp
  | user m =>
    refine (Tickets.lookup_without _ ?_).trans hp
    rintro rfl
    exact not_mem_forget _ hk

/-- What comes back to a call is a failure or what the server has answered. -/
theorem brings_of_answer {who : Asker} {p : Pending} {answer : p.call.Answer}
    (h : x.answer? who p.call = some answer) : x.Brings who p answer := by
  by_cases hprobe : ∃ f, p = .probing f
  · exact .inr (.inl hprobe)
  · have hanswer : x.answer? who p.call =
        (x.carried.lookup who).bind fun k => (x.traffic.answer? k).bind p.call.answer? := by
      cases p with
      | probing f => exact absurd ⟨f, rfl⟩ hprobe
      | _ => rfl
    rw [hanswer] at h
    obtain ⟨k, hk, hrest⟩ := Option.bind_eq_some_iff.1 h
    obtain ⟨a, ha, hheard⟩ := Option.bind_eq_some_iff.1 hrest
    obtain ⟨n, hn, hnote⟩ := List.exists_of_findSome?_eq_some ha
    refine .inr (.inr ⟨k, a, ?_, Traffic.mem_told.2 ⟨n.1, ?_⟩, hheard⟩)
    · obtain ⟨before, after, heq, -⟩ := List.lookup_eq_some_iff.1 hk
      rw [heq]
      simp
    · obtain ⟨instant, note⟩ := n
      cases note with
      | answered j a' =>
        simp only [Note.answer?] at hnote
        split at hnote
        · rename_i hj
          cases hnote
          exact hj ▸ hn
        · cases hnote
      | arrived | published | opened | turned | polled | aborted => cases hnote

/-- Whoever it is that hears an answer. -/
theorem goes_hear (hnumbers : ∀ q ∈ x.users, q.1 < x.number)
    (husers : ∀ q ∈ x.users, Pending.IsUsers q.2) {m : Move} (hm : m.served? = none) {who : Asker}
    {p : Pending} {answer : p.call.Answer} (hp : x.pending? who = some p)
    (hfrom : x.Brings who p answer) : x.Goes m (x.hear who p answer) := by
  cases who with
  | user n =>
    have hmem := Tickets.mem_of_lookup hp
    exact .tends m _ hm (tended_hear (husers _ hmem) (hnumbers _ hmem) answer)
  | controller =>
    obtain ⟨errand, hactivity⟩ := calling_of_pending? hp
    have hhear : x.hear .controller p answer = { x.forget .controller with
        journal := x.journal ++ x.bus.episodes p answer }.steer errand
          (x.bus.resume p answer) := by
      simp only [hear, hactivity]
    rw [hhear]
    exact .hears m errand p answer hm hactivity hfrom

/-- **The list is complete.** -/
theorem goes_of_step (hnumbers : ∀ q ∈ x.users, q.1 < x.number)
    (husers : ∀ q ∈ x.users, Pending.IsUsers q.2) {m : Move} (h : x.step m = some x') :
    x.Goes m x' := by
  cases m with
  | server m =>
    simp only [step] at h
    split at h
    · rename_i hm
      obtain ⟨t, ht, rfl⟩ := Option.map_eq_some_iff.1 h
      exact .serves m t hm ht
    · cases h
  | add t recipient =>
    cases h
    exact .tends _ _ rfl (tended_request (tends_add x.bus t recipient))
  | remove t id =>
    cases h
    exact .tends _ _ rfl (tended_request (tends_remove x.bus t id))
  | leave n =>
    cases h
    exact .tends _ _ rfl (tended_leave n)
  | begin =>
    simp only [step] at h
    split at h
    · rename_i errand hactivity
      cases h
      exact .begins errand (.inl hactivity)
    · rename_i pause errand hactivity
      cases h
      exact .begins errand (.inr ⟨pause, hactivity⟩)
    · cases h
    · cases h
  | stop =>
    cases h
    exact .stops
  | carry who fresh =>
    simp only [step] at h
    obtain ⟨p, hp, h⟩ := Option.bind_eq_some_iff.1 h
    obtain ⟨r, hr, h⟩ := Option.bind_eq_some_iff.1 h
    split at h
    · cases h
    · rename_i hfree
      obtain ⟨t, ht, h⟩ := Option.bind_eq_some_iff.1 h
      cases h
      exact .carries who fresh p r t hp hr (Option.not_isSome_iff_eq_none.1 hfree) ht
  | deliver who =>
    simp only [step] at h
    obtain ⟨p, hp, h⟩ := Option.bind_eq_some_iff.1 h
    obtain ⟨answer, hanswer, h⟩ := Option.bind_eq_some_iff.1 h
    cases h
    exact goes_hear hnumbers husers rfl hp (brings_of_answer hanswer)
  | fail who fault =>
    obtain ⟨p, hp, rfl⟩ := Option.map_eq_some_iff.1 h
    exact goes_hear hnumbers husers rfl hp (.inl ⟨fault, rfl⟩)

end Conversation
end EventRelay

/-
# Events are dispatched in order

Whatever is lost on the way, and however often a session is replaced, what a client has
dispatched lies behind everything that it can still be told (`Conversation.Ahead`): behind where
the session that is held stands, behind the start of a session that is about to be granted,
and behind where a poll that is out has found its session.  So each batch continues what was
dispatched before it.
-/

import EventRelay.Proofs.Client.Coupled

namespace EventRelay

namespace Conversation

variable {x x' : Conversation} {k : Nat}

/-- Everything that was dispatched, one batch after the other. -/
def dispatched (x : Conversation) : List Event := x.journal.flatMap Episode.events

/-- Whether what was dispatched lies behind an event. -/
def Behind (x : Conversation) (n : Int) : Prop := ∀ e ∈ x.dispatched, e.sequence ≤ n

/-- What was dispatched is in order and lies behind everything that can still be told. -/
structure Ahead (x : Conversation) : Prop where
  genuine : ∀ e ∈ x.dispatched, e ∈ x.traffic.published
  received : ∀ n, (Episode.received n x.journal).Sublist x.dispatched
  increasing : x.dispatched.Pairwise fun e e' => e.sequence < e'.sequence
  held : ∀ {id n}, x.bus.session = some id → x.traffic.StandsAt id.source n → x.Behind n
  opening : ∀ {k u start}, (.controller, k) ∈ x.carried → .opened k u start ∈ x.traffic.told →
    x.Behind start
  polling : ∀ {k session a}, (.controller, k) ∈ x.carried → .polled k session a ∈ x.traffic.told →
    x.Behind session.lastSequence

theorem Behind.mono {n n' : Int} (h : x.Behind n) (hle : n ≤ n') : x.Behind n' :=
  fun e he => Int.le_trans (h e he) hle

namespace Coupled

/-- The session that a poll of the controller is for is the one that is held. -/
theorem calling_of_polled (h : x.Coupled) (hk : (.controller, k) ∈ x.carried)
    {r : Server.Request} {u : SourceId} (hr : (k, r) ∈ x.traffic.arrivals)
    (hreaches : r.Reaches (.liningUp u)) : ∃ errand id generation,
      x.controller.activity = .calling errand (.polling id generation) ∧
      x.bus.session = some id ∧ id.source = u := by
  obtain ⟨p, fresh, r', hp, hreq, hr', -⟩ := h.carried hk
  cases h.traced.unique hr hr'
  obtain ⟨id, generation, rfl, hid, hsource⟩ := h.polls_held hp hreq hreaches.1 hreaches.2
  obtain ⟨errand, hactivity⟩ := calling_of_pending? hp
  exact ⟨errand, id, generation, hactivity, hid, hsource⟩

/-- What a batch that comes back tells of the poll that has brought it. -/
theorem of_batch (h : x.Coupled) {id : SessionId} {generation : Nat} {b : Batch}
    (hheld : x.bus.session = some id)
    (hfrom : x.Brings .controller (.polling id generation) (.ok b)) :
    ∃ k session, (.controller, k) ∈ x.carried ∧ .polled k session (.ok b) ∈ x.traffic.told ∧
      session.source = id.source := by
  obtain ⟨k, hk, ha⟩ := hfrom.batch
  obtain ⟨instant, hnote⟩ := Traffic.mem_told.1 ha
  obtain ⟨session, hpolled⟩ := h.accounted.delivered.answers _
    (List.mem_filter.2 ⟨hnote, rfl⟩) rfl
  have hpolled' : .polled k session (.ok b) ∈ x.traffic.told :=
    Traffic.mem_told.2 ⟨_, (List.mem_filter.1 hpolled).1⟩
  obtain ⟨r, hr, hreaches⟩ := h.traced.polled hpolled'
  obtain ⟨-, id', -, -, hid', hsource⟩ := h.calling_of_polled hk hr hreaches
  cases hheld.symm.trans hid'
  exact ⟨k, session, hk, hpolled', hsource.symm⟩

/-- The events of a batch. -/
theorem events_of_polled (h : x.Coupled) {session : Session} {b : Batch}
    (hp : .polled k session (.ok b) ∈ x.traffic.told) : b.cursor ≤ x.traffic.server.log.cursor ∧
      b.events = x.traffic.published.filter fun e =>
        session.lastSequence < e.sequence && e.sequence ≤ b.cursor &&
          session.isSubscribed e.typeId := by
  obtain ⟨instant, hnote⟩ := Traffic.mem_told.1 hp
  exact h.accounted.delivered.events _ (List.mem_filter.2 ⟨hnote, rfl⟩) rfl

end Coupled

namespace Ahead

theorem new {config : ServerConfig} {epoch : Epoch} {fingerprint : Fingerprint} {keys : KeyOrder}
    {retryDelay : Duration} (hx : Conversation.new config epoch fingerprint keys retryDelay = .ok x) :
    x.Ahead := by
  obtain ⟨t, -, rfl⟩ := eq_of_new hx
  exact ⟨by rintro e ⟨⟩, fun n => List.nil_sublist _, List.Pairwise.nil, by rintro id n ⟨⟩,
    by rintro k u start ⟨⟩, by rintro k session a ⟨⟩⟩

/-- Nothing was dispatched that was not published. -/
theorem log (h : x.Ahead) (hc : x.Coupled) : x.Behind x.traffic.server.log.cursor := fun e he =>
  (hc.accounted.sound.ring.sequence_le_cursor (h.genuine e he)).2

/-- The server makes a move; at most a call has become the request that arrives. -/
theorem server (h : x.Ahead) (hc : x.Coupled) {m : EventRelay.Move} {t : Traffic}
    (ht : x.traffic.step m = some t) {l : List (Asker × Nat)} {own : List SourceId}
    (hl : ∀ c ∈ l, c ∈ x.carried ∨ c.2 = x.traffic.ticket) :
    Ahead { x with traffic := t, carried := l, own } := by
  have hs := hc.accounted.sound
  refine ⟨fun e he => ?_, h.received, h.increasing, fun {id n} hid hn => ?_, fun hk ho => ?_,
    fun {k session a} hk hp => ?_⟩
  · have hpublished := Traffic.published_step hs ht
    exact hpublished ▸ List.mem_append_left _ (h.genuine e he)
  · obtain ⟨hs', hgranted⟩ := hc.held hid
    obtain ⟨-, -, hsource, -⟩ := hc.granted hgranted
    obtain ⟨n₀, hn₀⟩ := Traffic.exists_standsAt hsource
    obtain ⟨n', hn', hle⟩ := hn₀.step hs ht
    cases hn'.unique (hs.step ht) hn
    exact (h.held hid hn₀).mono hle
  · rcases Traffic.opened_step hs ht ho with hold | rfl
    · obtain ⟨r, hr, -⟩ := hc.traced.made hold
      exact h.opening (mem_carried_of_lt hl hk (hc.traced.lt_of_mem hr)) hold
    · exact h.log hc
  · rcases Traffic.polled_step hs ht hp with hold | ⟨hk', ⟨e, he, rfl⟩, -⟩
    · obtain ⟨r, hr, -⟩ := hc.traced.polled hold
      exact h.polling (mem_carried_of_lt hl hk (hc.traced.lt_of_mem hr)) hold
    · -- the poll ends in this move, and finds the session that is held
      have hmine := mem_carried_of_lt hl hk (hs.issued _ hk')
      obtain ⟨r, hr, hreaches⟩ := (hc.traced.step hs ht).polled hp
      obtain ⟨p, fresh, r', -, -, hr', -⟩ := hc.carried hmine
      cases (hc.traced.step hs ht).unique hr (Traffic.arrivals_mono ht hr')
      obtain ⟨-, id, -, -, hid, hsource⟩ := hc.calling_of_polled hmine hr' hreaches
      exact h.held hid (hsource ▸ Traffic.standsAt_of_entry he)

theorem tended (h : x.Ahead) (ht : x.Tended x') : x'.Ahead := by
  have hdispatched : x'.dispatched = x.dispatched := by
    rw [dispatched, ht.journal]
    rfl
  have hbehind : ∀ {n}, x.Behind n → x'.Behind n := fun hn e he => hn e (hdispatched ▸ he)
  refine ⟨fun e he => ?_, fun n => ?_, hdispatched ▸ h.increasing, fun hid hn => ?_,
    fun hk ho => ?_, fun hk hp => ?_⟩
  · rw [ht.traffic]
    exact h.genuine e (hdispatched ▸ he)
  · rw [hdispatched, ht.journal]
    exact h.received n
  · exact hbehind (h.held (ht.session ▸ hid) (ht.traffic ▸ hn))
  · exact hbehind (h.opening (ht.carried.subset hk) (ht.traffic ▸ ho))
  · exact hbehind (h.polling (ht.carried.subset hk) (ht.traffic ▸ hp))

/-- The controller makes a turn, and what it dispatches in it continues what was dispatched
before. -/
theorem turn (h : x.Ahead) {b : Bus} {c : Controller} {l : List (Asker × Nat)}
    (es : List Episode) (hfree : ∀ k, (.controller, k) ∉ l)
    (hsorted : (es.flatMap Episode.events).Pairwise fun e e' => e.sequence < e'.sequence)
    (hnew : ∀ e ∈ es.flatMap Episode.events, e ∈ x.traffic.published ∧
      ∀ e' ∈ x.dispatched, e'.sequence < e.sequence)
    (hreceived : ∀ n, (Episode.received n es).Sublist (es.flatMap Episode.events))
    (hheld : ∀ {id n}, b.session = some id → x.traffic.StandsAt id.source n →
      x.Behind n ∧ ∀ e ∈ es.flatMap Episode.events, e.sequence ≤ n) :
    Ahead { x with bus := b, controller := c, carried := l, journal := x.journal ++ es } := by
  have hdispatched : dispatched
      { x with bus := b, controller := c, carried := l, journal := x.journal ++ es } =
        x.dispatched ++ es.flatMap Episode.events :=
    List.flatMap_append
  have hbehind : ∀ {n}, x.Behind n → (∀ e ∈ es.flatMap Episode.events, e.sequence ≤ n) → Behind
      { x with bus := b, controller := c, carried := l, journal := x.journal ++ es } n := by
    intro n hn hes e he
    rw [hdispatched] at he
    exact (List.mem_append.1 he).elim (hn e) (hes e)
  refine ⟨fun e he => ?_, fun n => ?_, ?_, fun hid hn => ?_, fun hk => absurd hk (hfree _),
    fun hk => absurd hk (hfree _)⟩
  · rw [hdispatched] at he
    exact (List.mem_append.1 he).elim (h.genuine e) fun hin => (hnew e hin).1
  · rw [hdispatched, Episode.received_append]
    exact (h.received n).append (hreceived n)
  · rw [hdispatched]
    exact List.pairwise_append.2 ⟨h.increasing, hsorted, fun e' he' e he => (hnew e he).2 e' he'⟩
  · obtain ⟨hold, hes⟩ := hheld hid hn
    exact hbehind hold hes

/-- The controller makes a turn in which nothing is dispatched. -/
theorem still (h : x.Ahead) {b : Bus} {c : Controller} {l : List (Asker × Nat)}
    (es : List Episode) (hfree : ∀ k, (.controller, k) ∉ l) (hes : es.flatMap Episode.events = [])
    (hreceived : es.flatMap Episode.delivered = [])
    (hheld : ∀ {id n}, b.session = some id → x.traffic.StandsAt id.source n → x.Behind n) :
    Ahead { x with bus := b, controller := c, carried := l, journal := x.journal ++ es } := by
  refine h.turn es hfree ?_ ?_ (fun n => ?_) fun hid hn => ⟨hheld hid hn, ?_⟩ <;>
    simp [hes, Episode.received, hreceived]

theorem begin (h : x.Ahead) (hc : x.Coupled) {errand : Errand} (hready : x.Ready errand) :
    (x.steer errand (x.bus.start errand.operation)).Ahead := by
  have hturns := Controller.turns_start x.controller (hc.agrees_of_ready hready)
  have hstill := h.still (b := (x.controller.adopt errand (x.bus.start errand.operation)).2)
    (c := (x.controller.adopt errand (x.bus.start errand.operation)).1) []
    (hc.not_carried_of_ready hready) rfl rfl fun hid hn => h.held (hturns.kept rfl hid) hn
  rw [List.append_nil] at hstill
  exact hstill

theorem stop (h : x.Ahead) :
    Ahead { x.forget .controller with controller := x.controller.stop.1 } := by
  have hstill := h.still (b := x.bus) (c := x.controller.stop.1)
    (l := (x.forget .controller).carried) [] (fun k => not_mem_forget .controller) rfl
    rfl fun hid hn => h.held hid hn
  rw [List.append_nil] at hstill
  exact hstill

/-- A batch continues what was dispatched before it. -/
theorem dispatch (h : x.Ahead) (hc : x.Coupled) {id : SessionId} {generation : Nat} {b : Batch}
    (hheld : x.bus.session = some id)
    (hfrom : x.Brings .controller (.polling id generation) (.ok b)) :
    b.events.Pairwise (fun e e' => e.sequence < e'.sequence) ∧
      (∀ e ∈ b.events, e ∈ x.traffic.published ∧
        ∀ e' ∈ x.dispatched, e'.sequence < e.sequence) ∧
      ∀ {n}, x.traffic.StandsAt id.source n → x.Behind n ∧ ∀ e ∈ b.events, e.sequence ≤ n := by
  obtain ⟨k, session, hk, hpolled, hsource⟩ := hc.of_batch hheld hfrom
  have hevents := (hc.events_of_polled hpolled).2
  have hbetween : ∀ e ∈ b.events, session.lastSequence < e.sequence ∧ e.sequence ≤ b.cursor := by
    intro e he
    rw [hevents] at he
    simpa using (Bool.and_eq_true_iff.1 (List.mem_filter.1 he).2).1
  refine ⟨?_, fun e he => ⟨?_, fun e' he' => ?_⟩,
    fun {n} hn => ⟨h.held hheld hn, fun e he => Int.le_trans (hbetween e he).2 ?_⟩⟩
  · rw [hevents]
    exact hc.accounted.sound.ring.increasing.filter _
  · rw [hevents] at he
    exact (List.mem_filter.1 he).1
  · exact Int.lt_of_le_of_lt (h.polling hk hpolled e' he') (hbetween e he).1
  · obtain ⟨hs, hgranted⟩ := hc.held hheld
    obtain ⟨-, ⟨j, start, hopened⟩, -, -⟩ := hc.granted hgranted
    rw [← hsource] at hn hopened
    exact (hn.passes hc.accounted hopened hpolled).2.2

theorem hear (h : x.Ahead) (hc : x.Coupled) {errand : Errand} {p : Pending}
    {answer : p.call.Answer} (hp : x.controller.activity = .calling errand p)
    (hfrom : x.Brings .controller p answer) :
    ({ x.forget .controller with journal := x.journal ++ x.bus.episodes p answer }.steer errand
      (x.bus.resume p answer)).Ahead := by
  have hwaits := hc.waits hp
  have hturns := Controller.turns_resume x.controller hwaits answer
  have hfree : ∀ k, (.controller, k) ∉ (x.forget .controller).carried :=
    fun k => not_mem_forget .controller
  have hjournals := Bus.journals_episodes hwaits answer
  generalize x.bus.episodes p answer = es at hjournals
  cases hjournals with
  | nothing _ _ hnone hpoll =>
    exact h.still _ hfree rfl rfl fun hid hn => h.held (hturns.kept hnone hid) hn
  | fails => exact h.still _ hfree rfl rfl fun hid hn => h.held (hturns.kept rfl hid) hn
  | grants id hnone =>
    obtain ⟨-, ⟨k, start, hk, hopened⟩, -, -⟩ := hc.of_granted hfrom
    refine h.still _ hfree rfl rfl fun {id' n} hid hn => ?_
    rcases hturns.granted_or_kept hid with hnew | hkept
    · cases hnew
      exact (h.opening hk hopened).mono (hn.start_le hc.accounted hopened)
    · cases hnone.symm.trans hkept
  | dispatches id b hid =>
    obtain ⟨hsorted, hnew, hlast⟩ := h.dispatch hc hid hfrom
    refine h.turn _ hfree ?_ ?_ (fun n => ?_) fun {id' n} hid' hn => ?_
    · simpa [Episode.events] using hsorted
    · simpa [Episode.events] using hnew
    · simpa [Episode.received, Episode.delivered, Episode.events] using
        Bus.deliveries_sublist hc.numbered b n
    · cases hid.symm.trans (hturns.kept rfl hid')
      simpa [Episode.events] using hlast hn

/-- **Whatever happens next.** -/
theorem step (h : x.Ahead) (hc : x.Coupled) {m : Move} (hx : x.step m = some x') : x'.Ahead := by
  cases goes_of_step hc.numbers hc.isUsers hx with
  | serves m t hm ht => exact h.server hc ht fun c hc => .inl hc
  | carries who fresh p r t hp hr hfree ht =>
    refine h.server hc ht fun c hc => (List.mem_append.1 hc).imp_right fun hlast => ?_
    rw [List.mem_singleton.1 hlast]
  | tends m x' hm ht => exact h.tended ht
  | begins errand hready => exact h.begin hc hready
  | stops => exact h.stop
  | hears m errand p answer hm hp hfrom => exact h.hear hc hp hfrom

end Ahead
end Conversation
end EventRelay

/-
# Handlers get everything

While no poll of a session fails, the session stands where the client believes that it does:
at the cursor of the last batch that was dispatched, or at its start.  Only the poll that the
controller has out can move it, and if it does, the batch is still to come
(`Conversation.Delivers`).  So each batch begins where the last one ended, and a handler that
was there when the session was taken up is handed every event of its type that was published
since, once and in order.
-/

import EventRelay.Proofs.Client.Order
import EventRelay.Proofs.Client.Wanted

namespace EventRelay

namespace Conversation

variable {x x' : Conversation} {k : Nat} {id : SessionId}

/-- Whether no poll of a session has failed. -/
def Unfailed (x : Conversation) (id : SessionId) : Prop := ∀ fault, .failed id fault ∉ x.journal

/-- What the client has of the events of its sessions. -/
structure Delivers (x : Conversation) : Prop where
  known : ∀ {id b ds}, .dispatched id b ds ∈ x.journal →
    x.Granted id ∧ b.cursor ≤ x.traffic.server.log.cursor
  /-- No poll is under way but the one that the controller has out. -/
  alone : ∀ {id k r}, x.Holds id → x.Unfailed id → (k, r) ∈ x.traffic.arrivals →
    r.Reaches (.liningUp id.source) → k ∈ x.traffic.tickets → (.controller, k) ∈ x.carried
  /-- Until that poll ends the session stands where the client believes that it does. -/
  stands : ∀ {id j start}, x.Holds id → x.Unfailed id →
    .opened j id.source start ∈ x.traffic.told →
    (∀ k session a, (.controller, k) ∈ x.carried → .polled k session a ∉ x.traffic.told) →
      x.traffic.StandsAt id.source (Episode.reached id start x.journal)
  /-- A poll that has ended has moved it from there, with everything that is handled. -/
  polled : ∀ {id j start k session a}, x.Holds id → x.Unfailed id →
    .opened j id.source start ∈ x.traffic.told → (.controller, k) ∈ x.carried →
    .polled k session a ∈ x.traffic.told →
      session.lastSequence = Episode.reached id start x.journal ∧
      (∀ h, x.Keeps id h → session.isSubscribed h.typeId = true) ∧
      ∀ b, a = .ok b → x.traffic.StandsAt id.source b.cursor
  handed : ∀ {id j start h}, x.Unfailed id → .opened j id.source start ∈ x.traffic.told →
    x.Keeps id h → Episode.handed id h.id x.journal =
      Event.stretch x.traffic.published h.typeId start (Episode.reached id start x.journal)

namespace Coupled

/-- The controller has one call out. -/
theorem ticket_unique (h : x.Coupled) {j : Nat} (hj : (.controller, j) ∈ x.carried)
    (hk : (.controller, k) ∈ x.carried) : j = k :=
  (Prod.mk.inj (List.inj_on_of_nodup_map h.callers hj hk rfl)).2

/-- A session that was taken up keeps its start. -/
theorem opened_of_granted (h : x.Coupled) {m : EventRelay.Move} {t : Traffic}
    (ht : x.traffic.step m = some t) (hid : x.Granted id) {j : Nat} {start : Int}
    (ho : .opened j id.source start ∈ t.told) : .opened j id.source start ∈ x.traffic.told := by
  obtain ⟨hs, hid⟩ := hid
  obtain ⟨-, ⟨j', start', ho'⟩, -⟩ := h.granted hid
  have hkept := (Traffic.told_step ht).subset ho'
  cases (h.accounted.step ht).opened.unique (Traffic.mem_openings.2 ho)
    (Traffic.mem_openings.2 hkept) rfl
  exact ho'

/-- A session that was taken up starts at an event that was published. -/
theorem start_le (h : x.Coupled) (hid : x.Granted id) {j : Nat} {start : Int}
    (ho : .opened j id.source start ∈ x.traffic.told) : start ≤ x.traffic.server.log.cursor := by
  obtain ⟨hs, hid⟩ := hid
  obtain ⟨-, -, hsource, -⟩ := h.granted hid
  obtain ⟨n, hn⟩ := Traffic.exists_standsAt hsource
  exact Int.le_trans (hn.start_le h.accounted ho) (hn.le_cursor h.accounted.sound)

end Coupled

theorem Holds.granted (hc : x.Coupled) (h : x.Holds id) : x.Granted id := hc.held h.1

namespace Delivers

theorem new {config : ServerConfig} {epoch : Epoch} {fingerprint : Fingerprint} {keys : KeyOrder}
    {retryDelay : Duration} (hx : Conversation.new config epoch fingerprint keys retryDelay = .ok x) :
    x.Delivers := by
  obtain ⟨t, ht, rfl⟩ := eq_of_new hx
  refine ⟨?_, ?_, ?_, ?_, ?_⟩
  · rintro id b ds ⟨⟩
  · rintro id k r ⟨⟨⟩, -⟩
  · rintro id j start ⟨⟨⟩, -⟩
  · rintro id j start k session a ⟨⟨⟩, -⟩
  · rintro id j start h - - ⟨hs, ⟨⟩, -⟩

/-- A session has not got further than the log. -/
theorem reached_le (h : x.Delivers) (hc : x.Coupled) (hid : x.Granted id) {j : Nat} {start : Int}
    (ho : .opened j id.source start ∈ x.traffic.told) :
    Episode.reached id start x.journal ≤ x.traffic.server.log.cursor :=
  Episode.reached_le (hc.start_le hid ho) fun _ _ hb => (h.known hb).2

/-- A poll that has ended is not under way. -/
theorem not_mem_tickets (hc : x.Coupled) {session : Session} {a : Outcome Batch}
    (hp : .polled k session a ∈ x.traffic.told) : k ∉ x.traffic.tickets :=
  hc.traced.gone k (List.mem_filterMap.2 ⟨_, hp, rfl⟩)

/-- A poll that ends in a move of the server is the one that the controller has out. -/
theorem mine_of_polled (h : x.Delivers) (hc : x.Coupled) {m : EventRelay.Move} {t : Traffic}
    (ht : x.traffic.step m = some t) (hid : x.Holds id) (hgood : x.Unfailed id)
    {session : Session} {a : Outcome Batch} (hp : .polled k session a ∈ t.told)
    (hsource : session.source = id.source) (hnew : k ∈ x.traffic.tickets) :
    (.controller, k) ∈ x.carried := by
  have hs := hc.accounted.sound
  obtain ⟨r, hr, hreaches⟩ := (hc.traced.step hs ht).polled hp
  exact h.alone hid hgood (Traffic.arrived_of_lt hs ht hr (hs.issued _ hnew)) (hsource ▸ hreaches) hnew

/-- A move of the server that ends no poll of the controller leaves its session in place. -/
theorem still (h : x.Delivers) (hc : x.Coupled) {m : EventRelay.Move} {t : Traffic}
    (ht : x.traffic.step m = some t) (hid : x.Holds id) (hgood : x.Unfailed id)
    (hnone : ∀ k session a, (.controller, k) ∈ x.carried → k ∈ x.traffic.tickets →
      .polled k session a ∉ t.told) {n : Int} (hn : x.traffic.StandsAt id.source n) :
    t.StandsAt id.source n := by
  refine hn.still hc.accounted.sound hc.traced ht fun {j session a} hp hsource => ?_
  rcases Traffic.polled_step hc.accounted.sound ht hp with hold | ⟨hnew, -, -⟩
  · exact hold
  · exact absurd hp (hnone j session a (h.mine_of_polled hc ht hid hgood hp hsource hnew) hnew)

/-- A poll of the controller ends. -/
theorem polled_server (h : x.Delivers) (hw : x.Wanted) (hc : x.Coupled) {m : EventRelay.Move}
    {t : Traffic} (ht : x.traffic.step m = some t) (hid : x.Holds id) (hgood : x.Unfailed id)
    {j : Nat} {start : Int} (ho : .opened j id.source start ∈ x.traffic.told)
    {session : Session} {a : Outcome Batch} (hk : (.controller, k) ∈ x.carried)
    (hp : .polled k session a ∈ t.told) :
    session.lastSequence = Episode.reached id start x.journal ∧
      (∀ h, x.Keeps id h → session.isSubscribed h.typeId = true) ∧
      ∀ b, a = .ok b → t.StandsAt id.source b.cursor := by
  have hs := hc.accounted.sound
  rcases Traffic.polled_step hs ht hp with hold | ⟨hnew, ⟨e, he, rfl⟩, hmoved⟩
  · obtain ⟨hlast, hwants, hat⟩ := h.polled hid hgood ho hk hold
    refine ⟨hlast, hwants, fun b hb => h.still hc ht hid hgood (fun k' _ _ hk' hin _ => ?_) (hat b hb)⟩
    cases hc.ticket_unique hk' hk
    exact not_mem_tickets hc hold hin
  · obtain ⟨r, hr, hreaches⟩ := (hc.traced.step hs ht).polled hp
    obtain ⟨p, fresh, r', -, -, hr', -⟩ := hc.carried hk
    cases (hc.traced.step hs ht).unique hr (Traffic.arrivals_mono ht hr')
    obtain ⟨errand, id', generation, hactivity, hheld, hsource⟩ :=
      hc.calling_of_polled hk hr' hreaches
    cases hheld.symm.trans hid.1
    rw [← hsource] at he hmoved
    refine ⟨(Traffic.standsAt_of_entry he).unique hs (h.stands hid hgood ho ?_), fun a ha => ?_,
      hmoved⟩
    · intro k' session' a' hk' hp'
      cases hc.ticket_unique hk' hk
      exact not_mem_tickets hc hp' hnew
    · -- the session is polled once nothing is left to subscribe
      have hwanted := hw.wants hid ha
      rw [hactivity] at hwanted
      rw [← Registry.wants_of_entry he]
      exact hwanted.resolve_left (by simp [Activity.remaining])

/-- What is published in a move comes after everything that sessions have got to. -/
theorem stretch_server (h : x.Delivers) (hc : x.Coupled) {m : EventRelay.Move} {t : Traffic}
    (ht : x.traffic.step m = some t) (hid : x.Granted id) {j : Nat} {start : Int}
    (ho : .opened j id.source start ∈ x.traffic.told) (v : TypeId) :
    Event.stretch t.published v start (Episode.reached id start x.journal) =
      Event.stretch x.traffic.published v start (Episode.reached id start x.journal) := by
  have hs := hc.accounted.sound
  rw [Traffic.published_step hs ht]
  refine Event.stretch_later fun e he => ?_
  have hsequence : e.sequence = x.traffic.published.length := by
    cases m with
    | publish stamp typeId payload =>
      cases List.mem_singleton.1 he
      rfl
    | arrive | resume | abort | pass => cases he
  have hreached := h.reached_le hc hid ho
  have hcursor := hs.ring.cursor_eq
  omega

/-- The server makes a move; at most a call has become the request that arrives. -/
theorem server (h : x.Delivers) (hw : x.Wanted) (hc : x.Coupled) {m : EventRelay.Move}
    {t : Traffic} (ht : x.traffic.step m = some t) {l : List (Asker × Nat)} {own : List SourceId}
    (hl : ∀ c ∈ l, c ∈ x.carried ∨ c.2 = x.traffic.ticket) (hkept : ∀ c ∈ x.carried, c ∈ l)
    (hc' : Coupled { x with traffic := t, carried := l, own })
    (hpolls : ∀ r, m = .arrive r → ∀ {id}, x.Holds id → r.Reaches (.liningUp id.source) →
      (.controller, x.traffic.ticket) ∈ l) :
    Delivers { x with traffic := t, carried := l, own } := by
  have hs := hc.accounted.sound
  have hmine : ∀ {k session a}, (.controller, k) ∈ l → .polled k session a ∈ t.told →
      (.controller, k) ∈ x.carried := by
    intro k session a hk hp
    refine mem_carried_of_lt hl hk ?_
    rcases Traffic.polled_step hs ht hp with hold | ⟨hnew, -, -⟩
    · obtain ⟨r, hr, -⟩ := hc.traced.polled hold
      exact hc.traced.lt_of_mem hr
    · exact hs.issued _ hnew
  refine ⟨fun hb => ?_, fun {id k r} hid hgood hr hreaches hk => ?_,
    fun {id j start} hid hgood ho hnone => ?_, fun {id j start k session a} hid hgood ho hk hp => ?_,
    fun {id j start a} hgood ho ha => ?_⟩
  · obtain ⟨hid, hcursor⟩ := h.known hb
    exact ⟨hid, Int.le_trans hcursor (Traffic.cursor_step hs ht)⟩
  · rcases Traffic.tickets_step hs ht hk with hold | ⟨r', rfl, rfl⟩
    · exact hkept _ (h.alone hid hgood (Traffic.arrived_of_lt hs ht hr (hs.issued _ hold)) hreaches
        hold)
    · have hnew : (x.traffic.ticket, r') ∈ t.arrivals := by
        rw [Traffic.arrivals_step hs ht]
        exact List.mem_append_right _ (List.mem_singleton.2 rfl)
      cases hc'.traced.unique hr hnew
      exact hpolls r rfl hid hreaches
  · have hold := hc.opened_of_granted ht (hid.granted hc) ho
    refine h.still hc ht hid hgood (fun k session a hk _ => hnone k session a (hkept _ hk)) ?_
    refine h.stands hid hgood hold fun k session a hk hp => ?_
    exact hnone k session a (hkept _ hk) ((Traffic.told_step ht).subset hp)
  · exact h.polled_server hw hc ht hid hgood (hc.opened_of_granted ht (hid.granted hc) ho)
      (hmine hk hp) hp
  · have hold := hc.opened_of_granted ht ha.granted ho
    exact (h.handed hgood hold ha).trans (h.stretch_server hc ht ha.granted hold _).symm

/-- A user's operation goes on. -/
theorem tended (h : x.Delivers) (hc : x.Coupled) (ht : x.Tended x') : x'.Delivers := by
  have hholds : ∀ {id}, x'.Holds id → x.Holds id := fun ⟨hid, hgoing⟩ =>
    ⟨ht.session ▸ hid, ht.controller ▸ hgoing⟩
  have hgoods : ∀ {id}, x'.Unfailed id → x.Unfailed id := fun hgood fault =>
    ht.journal ▸ hgood fault
  refine ⟨fun hb => ?_, fun hid hgood hr hreaches hk => ?_, fun hid hgood ho hnone => ?_,
    fun hid hgood ho hk hp => ?_, fun hgood ho ha => ?_⟩
  · obtain ⟨⟨hs, hid⟩, hcursor⟩ := h.known (ht.journal ▸ hb)
    exact ⟨⟨hs, ht.journal ▸ hid⟩, ht.traffic ▸ hcursor⟩
  · exact ht.steers (h.alone (hholds hid) (hgoods hgood) (ht.traffic ▸ hr) hreaches
      (ht.traffic ▸ hk))
  · rw [ht.traffic, ht.journal]
    refine h.stands (hholds hid) (hgoods hgood) (ht.traffic ▸ ho) fun k session a hk => ?_
    exact ht.traffic ▸ hnone k session a (ht.steers hk)
  · obtain ⟨hlast, hwants, hat⟩ := h.polled (hholds hid) (hgoods hgood) (ht.traffic ▸ ho)
      (ht.carried.subset hk) (ht.traffic ▸ hp)
    rw [ht.journal, ht.traffic]
    exact ⟨hlast, fun a ha => hwants a (ha.tended hc ht), hat⟩
  · rw [ht.journal, ht.traffic]
    exact h.handed (hgoods hgood) (ht.traffic ▸ ho) (ha.tended hc ht)

/-- Whether nobody asks for the events of a session, and it stands where the client believes
that it does. -/
structure Rests (x : Conversation) (id : SessionId) (es : List Episode) : Prop where
  alone : ∀ {k r}, (k, r) ∈ x.traffic.arrivals → r.Reaches (.liningUp id.source) →
    k ∉ x.traffic.tickets
  stands : ∀ {j start}, .opened j id.source start ∈ x.traffic.told →
    x.traffic.StandsAt id.source (Episode.reached id start es)

/-- The session rests while the controller has no poll out. -/
theorem rests (h : x.Delivers) (hc : x.Coupled) (hid : x.Holds id) (hgood : x.Unfailed id)
    (hnone : ∀ errand id' generation,
      x.controller.activity ≠ .calling errand (.polling id' generation)) :
    Rests x id x.journal := by
  refine ⟨fun hr hreaches hk => ?_, fun ho => h.stands hid hgood ho fun k session a hk hp => ?_⟩
  · obtain ⟨errand, id', generation, hactivity, -⟩ :=
      hc.calling_of_polled (h.alone hid hgood hr hreaches hk) hr hreaches
    exact hnone _ _ _ hactivity
  · obtain ⟨r, hr, hreaches⟩ := hc.traced.polled hp
    obtain ⟨errand, id', generation, hactivity, -⟩ := hc.calling_of_polled hk hr hreaches
    exact hnone _ _ _ hactivity

/-- The controller makes a turn, which ends the call that it had out. -/
theorem turn (h : x.Delivers) {b : Bus} {c : Controller} {l : List (Asker × Nat)}
    (es : List Episode) (hfree : ∀ k, (.controller, k) ∉ l)
    (hhandlers : b.handlers = x.bus.handlers)
    (hknown : ∀ {id b ds}, .dispatched id b ds ∈ es →
      x.Granted id ∧ b.cursor ≤ x.traffic.server.log.cursor)
    (hrests : ∀ {id}, b.session = some id → (∀ fault, .failed id fault ∉ x.journal ++ es) →
      Rests x id (x.journal ++ es))
    (hhanded : ∀ {id j start a}, (∀ fault, .failed id fault ∉ x.journal ++ es) →
      .opened j id.source start ∈ x.traffic.told →
      Keeps { x with journal := x.journal ++ es } id a →
        Episode.handed id a.id (x.journal ++ es) =
          Event.stretch x.traffic.published a.typeId start
            (Episode.reached id start (x.journal ++ es))) :
    Delivers { x with bus := b, controller := c, carried := l, journal := x.journal ++ es } := by
  refine ⟨fun hb => ?_, fun hid hgood hr hreaches hk => ?_, fun hid hgood ho _ => ?_,
    fun _ _ _ hk => absurd hk (hfree _), fun hgood ho ⟨hs, hid, hmem, hnow⟩ => ?_⟩
  · obtain ⟨⟨hs, hid⟩, hcursor⟩ := (List.mem_append.1 hb).elim h.known hknown
    exact ⟨⟨hs, List.mem_append_left _ hid⟩, hcursor⟩
  · exact absurd hk ((hrests hid.1 hgood).alone hr hreaches)
  · exact (hrests hid.1 hgood).stands ho
  · exact hhanded hgood ho ⟨hs, hid, hmem, hhandlers ▸ hnow⟩

theorem begin (h : x.Delivers) (hc : x.Coupled) {errand : Errand} (hready : x.Ready errand) :
    (x.steer errand (x.bus.start errand.operation)).Delivers := by
  have hturns := Controller.turns_start x.controller (hc.agrees_of_ready hready)
  have hidle : x.controller.activity ≠ .stopped ∧ ∀ errand id generation,
      x.controller.activity ≠ .calling errand (.polling id generation) := by
    rcases hready with heq | ⟨pause, heq⟩ <;> rw [heq] <;> simp
  have hturn := h.turn (c := (x.controller.adopt errand (x.bus.start errand.operation)).1) []
    (hc.not_carried_of_ready hready) hturns.handlers (by simp) (fun {id} hid hgood => ?_)
    fun {id j start a} hgood ho ha => ?_
  · rw [List.append_nil] at hturn
    exact hturn
  · rw [List.append_nil] at hgood ⊢
    exact h.rests hc ⟨hturns.kept rfl hid, hidle.1⟩ hgood hidle.2
  · rw [List.append_nil] at hgood ha ⊢
    exact h.handed hgood ho ha

theorem stop (h : x.Delivers) :
    Delivers { x.forget .controller with controller := x.controller.stop.1 } := by
  refine ⟨h.known, fun hid => absurd x.controller.activity_stop hid.2,
    fun hid => absurd x.controller.activity_stop hid.2,
    fun hid => absurd x.controller.activity_stop hid.2, h.handed⟩

/-- What happens to other sessions changes nothing of what was handed over under one. -/
theorem untouched (h : x.Delivers) {es : List Episode}
    (hgood : ∀ fault, .failed id fault ∉ x.journal ++ es) {j : Nat} {start : Int}
    (ho : .opened j id.source start ∈ x.traffic.told) {a : Handler}
    (ha : Keeps { x with journal := x.journal ++ es } id a) (hgrants : ∀ hs, .granted id hs ∉ es)
    (hbatches : ∀ b ds, .dispatched id b ds ∉ es) :
    Episode.handed id a.id (x.journal ++ es) =
      Event.stretch x.traffic.published a.typeId start
        (Episode.reached id start (x.journal ++ es)) := by
  obtain ⟨hreached, hhanded⟩ := Episode.append_of_undispatched x.journal start a.id
    hbatches
  obtain ⟨hs, hid, hmem, hnow⟩ := ha
  rw [hreached, hhanded]
  exact h.handed (fun fault hin => hgood fault (List.mem_append_left _ hin)) ho
    ⟨hs, (List.mem_append.1 hid).resolve_right (hgrants hs), hmem, hnow⟩

/-- A handler that is there when a session is just being taken up has been handed nothing. -/
theorem grants (h : x.Delivers) (hc : x.Coupled) {id : SessionId}
    (hfrom : x.Brings .controller .opening (.ok id)) :
    Rests x id (x.journal ++ [.granted id x.bus.handlers]) ∧
      ∀ {start : Int} {n : Nat} {v : TypeId},
        Episode.handed id n (x.journal ++ [.granted id x.bus.handlers]) =
          Event.stretch x.traffic.published v start
            (Episode.reached id start (x.journal ++ [.granted id x.bus.handlers])) := by
  obtain ⟨hown, -, hsource, hfresh⟩ := hc.of_granted hfrom
  have hnothing : ∀ b ds, .dispatched id b ds ∉ x.journal ++ [.granted id x.bus.handlers] := by
    intro b ds hb
    rcases List.mem_append.1 hb with hold | hnew
    · exact hfresh (h.known hold).1 rfl
    · cases List.mem_singleton.1 hnew
  have hnobody : ∀ {k : Nat} {r : Server.Request}, (k, r) ∈ x.traffic.arrivals →
      ¬ r.Reaches (.liningUp id.source) := by
    rintro k r hr ⟨hnames, haim⟩
    obtain ⟨id', hid', hsame⟩ := hc.asked hr hown hnames (.inl haim)
    exact hfresh hid' hsame
  refine ⟨⟨fun hr hreaches => absurd hreaches (hnobody hr), fun {j start} ho => ?_⟩,
    fun {start n v} => ?_⟩
  · obtain ⟨m, hm⟩ := Traffic.exists_standsAt hsource
    have hstart := hm.eq_start hc.accounted ho fun {k session a} hp hsame => by
      obtain ⟨r, hr, hreaches⟩ := hc.traced.polled hp
      exact hnobody hr (hsame ▸ hreaches)
    rw [(Episode.nothing_of_undispatched start 0 hnothing).1, ← hstart]
    exact hm
  · obtain ⟨hreached, hhanded⟩ := Episode.nothing_of_undispatched start n hnothing
    rw [hreached, hhanded, Event.stretch_self]

/-- What a batch adds to what a handler was handed. -/
theorem dispatches (h : x.Delivers) (hc : x.Coupled) (hid : x.Holds id) (hgood : x.Unfailed id)
    {generation : Nat} {b : Batch} (hfrom : x.Brings .controller (.polling id generation) (.ok b)) :
    Rests x id (x.journal ++ [.dispatched id b (x.bus.deliveries b)]) ∧
      ∀ {j start a}, .opened j id.source start ∈ x.traffic.told → x.Keeps id a →
        Episode.handed id a.id (x.journal ++ [.dispatched id b (x.bus.deliveries b)]) =
          Event.stretch x.traffic.published a.typeId start
            (Episode.reached id start (x.journal ++ [.dispatched id b (x.bus.deliveries b)])) := by
  obtain ⟨k, session, hk, hpolled, hsource⟩ := hc.of_batch hid.1 hfrom
  refine ⟨⟨fun {k' r} hr hreaches hk' => ?_, fun {j start} ho => ?_⟩, fun {j start a} ho ha => ?_⟩
  · cases hc.ticket_unique (h.alone hid hgood hr hreaches hk') hk
    exact not_mem_tickets hc hpolled hk'
  · rw [Episode.reached_dispatched]
    exact (h.polled hid hgood ho hk hpolled).2.2 b rfl
  · obtain ⟨hlast, hwants, hat⟩ := h.polled hid hgood ho hk hpolled
    have hbetween := Traffic.StandsAt.passes hc.accounted (hsource ▸ ho) hpolled (hsource ▸ hat b rfl)
    have hevents : (b.events.filter fun e => e.typeId = a.typeId) =
        Event.stretch x.traffic.published a.typeId session.lastSequence b.cursor := by
      rw [(hc.events_of_polled hpolled).2, List.filter_filter]
      refine List.filter_congr fun e _ => ?_
      by_cases ht : e.typeId = a.typeId
      · simp [ht, hwants a ha]
      · simp [ht]
    have hhanded : Episode.handed id a.id [.dispatched id b (x.bus.deliveries b)] =
        b.events.filter fun e => e.typeId = a.typeId := by
      rw [← Bus.deliveries_of_mem hc.numbered ha.mem_handlers]
      simp [Episode.handed, Episode.deliveries]
    rw [Episode.handed_append, h.handed hgood ho ha, hhanded, hevents, Episode.reached_dispatched,
      ← hlast]
    exact (Event.stretch_append hc.accounted.sound.ring.increasing hbetween.1 hbetween.2.1).symm

/-- The controller hears an answer. -/
theorem hear (h : x.Delivers) (hc : x.Coupled) {errand : Errand} {p : Pending}
    {answer : p.call.Answer} (hp : x.controller.activity = .calling errand p)
    (hfrom : x.Brings .controller p answer) :
    ({ x.forget .controller with journal := x.journal ++ x.bus.episodes p answer }.steer errand
      (x.bus.resume p answer)).Delivers := by
  have hwaits := hc.waits hp
  have hturns := Controller.turns_resume x.controller hwaits answer
  have hgoing : x.controller.activity ≠ .stopped := by simp [hp]
  have hturn := fun es => h.turn (b := (x.controller.adopt errand (x.bus.resume p answer)).2)
    (c := (x.controller.adopt errand (x.bus.resume p answer)).1)
    (l := (x.forget .controller).carried) es (fun k => not_mem_forget .controller) hturns.handlers
  have hold : ∀ {es : List Episode} {id}, (∀ fault, .failed id fault ∉ x.journal ++ es) →
      x.Unfailed id := fun hgood fault hin => hgood fault (List.mem_append_left _ hin)
  have hjournals := Bus.journals_episodes hwaits answer
  generalize x.bus.episodes p answer = es at hjournals
  cases hjournals with
  | nothing _ _ hnone hpoll =>
    refine hturn [] (by simp) (fun {id} hid hgood => ?_) fun {id j start a} hgood ho ha => ?_
    · rw [List.append_nil]
      refine h.rests hc ⟨hturns.kept hnone hid, hgoing⟩ (hold hgood) fun errand' id' generation heq => ?_
      cases hp.symm.trans heq
      exact hpoll _ _ rfl
    · exact h.untouched hgood ho ha (by simp) (by simp)
  | fails id fault hid =>
    refine hturn _ (by simp) (fun {id'} hid' hgood => ?_) fun {id' j start a} hgood ho ha => ?_
    · cases hid.symm.trans (hturns.kept rfl hid')
      exact absurd (List.mem_append_right _ (List.mem_singleton.2 rfl)) (hgood fault)
    · exact h.untouched hgood ho ha (by simp) (by simp)
  | grants id hnone =>
    obtain ⟨hrests, hhanded⟩ := h.grants hc hfrom
    refine hturn _ (by simp) (fun {id'} hid' _ => ?_) fun {id' j start a} hgood ho ha => ?_
    · rcases hturns.granted_or_kept hid' with hnew | hkept
      · cases hnew
        exact hrests
      · cases hnone.symm.trans hkept
    · by_cases hid' : id' = id
      · subst hid'
        exact hhanded
      · exact h.untouched hgood ho ha (by simp [hid']) (by simp)
  | dispatches id b hid =>
    have hholds : x.Holds id := ⟨hid, hgoing⟩
    refine hturn _ (fun {id' b' ds} hb => ?_) (fun {id'} hid' hgood => ?_)
      fun {id' j start a} hgood ho ha => ?_
    · cases List.mem_singleton.1 hb
      obtain ⟨k, session, -, hpolled, -⟩ := hc.of_batch hid hfrom
      exact ⟨hc.held hid, (hc.events_of_polled hpolled).1⟩
    · cases hid.symm.trans (hturns.kept rfl hid')
      exact (h.dispatches hc hholds (hold hgood) hfrom).1
    · by_cases hid' : id' = id
      · subst hid'
        obtain ⟨hs, hgranted, hmem, hnow⟩ := ha
        exact (h.dispatches hc hholds (hold hgood) hfrom).2 ho
          ⟨hs, (List.mem_append.1 hgranted).resolve_right (by simp), hmem, hnow⟩
      · exact h.untouched hgood ho ha (by simp) (by simp [hid'])

/-- **Whatever happens next.** -/
theorem step (h : x.Delivers) (hw : x.Wanted) (hc : x.Coupled) {m : Move}
    (hx : x.step m = some x') : x'.Delivers := by
  have hc' := hc.step hx
  cases goes_of_step hc.numbers hc.isUsers hx with
  | serves m t hm ht =>
    refine h.server hw hc ht (fun c hc => .inl hc) (fun c hc => hc) hc' ?_
    rintro r rfl id hid ⟨hnames, haim⟩
    obtain ⟨hs, hgranted⟩ := hid.granted hc
    obtain ⟨hown, -⟩ := hc.granted hgranted
    cases r with
    | poll current =>
      cases current with
      | none => cases hnames
      | some id' =>
        have hsource : id'.source = id.source := Option.some.inj hnames
        simp [admits, hsource, hown] at hm
    | openSession | closeSession | subscribe | unsubscribe | lookup | sweep => cases haim
  | carries who fresh p r t hp hr hfree ht =>
    refine h.server hw hc ht (fun c hc => (List.mem_append.1 hc).imp_right fun hlast => ?_)
      (fun c hc => List.mem_append_left _ hc) hc' ?_
    · rw [List.mem_singleton.1 hlast]
    · rintro r' hr' id hid ⟨hnames, haim⟩
      cases hr'
      cases who with
      | controller => exact List.mem_append_right _ (List.mem_singleton.2 rfl)
      | user n =>
        rcases hc.isUsers _ (Tickets.mem_of_lookup hp) with ⟨id', v, i, rfl⟩ | ⟨id', v, rfl⟩ <;>
          cases hr <;> cases haim
  | tends m x' hm ht => exact h.tended hc ht
  | begins errand hready => exact h.begin hc hready
  | stops => exact h.stop
  | hears m errand p answer hm hp hfrom => exact h.hear hc hp hfrom

end Delivers
end Conversation
end EventRelay

/-
# How the two ends belong together

Between any two things that happen, each call that has reached the server is the request of its
ticket there, nobody else asks for events of a session of this client or changes what it wants,
and each session that was taken up was made for this client, and only once
(`Conversation.Coupled`).
-/

import EventRelay.Proofs.Client.Calls

namespace EventRelay
namespace Conversation

variable {x x' : Conversation} {k : Nat}

/-- What holds of the two ends and the calls between them. -/
structure Coupled (x : Conversation) : Prop where
  accounted : x.traffic.Accounted
  agrees : x.controller.activity.Agrees x.bus
  numbered : x.bus.Numbered
  numbers : ∀ q ∈ x.users, q.1 < x.number
  /-- A user's call is for a session that was taken up. -/
  users : ∀ q ∈ x.users, ∃ id, x.Granted id ∧
    ((∃ t n, q.2 = .adding id t n) ∨ ∃ t, q.2 = .removing id t)
  callers : (x.carried.map Prod.fst).Nodup
  /-- A call that has reached the server is the request of its ticket. -/
  carried : ∀ {who k}, (who, k) ∈ x.carried → ∃ p fresh r, x.pending? who = some p ∧
    p.call.request? fresh = some r ∧ (k, r) ∈ x.traffic.arrivals ∧ ∀ u, r.fresh? = some u → u ∈ x.own
  known : ∀ u ∈ x.own, x.traffic.knows u = true
  held : ∀ {id}, x.bus.session = some id → x.Granted id
  /-- A session that was taken up was made for this client. -/
  granted : ∀ {id hs}, .granted id hs ∈ x.journal → id.source ∈ x.own ∧
    (∃ k start, .opened k id.source start ∈ x.traffic.told) ∧
    id.source ∈ x.traffic.server.registry.sources ∧ ∀ h ∈ hs, h.id < x.bus.nextHandler
  once : ((x.journal.filterMap Episode.granted?).map SessionId.source).Nodup
  /-- A session that is still to be granted was not granted before. -/
  fresh : ∀ {who k r u}, (who, k) ∈ x.carried → (k, r) ∈ x.traffic.arrivals → r.fresh? = some u →
    ∀ {id}, x.Granted id → id.source ≠ u
  /-- Nobody asks for the events of a session, or takes a type away from it, but who has it. -/
  asked : ∀ {k r u}, (k, r) ∈ x.traffic.arrivals → u ∈ x.own → r.Names u →
    (r.aim? = some .poll ∨ ∃ v, r.aim? = some (.unsubscribe v)) → ∃ id, x.Granted id ∧ id.source = u

theorem eq_of_new {config : ServerConfig} {epoch : Epoch} {fingerprint : Fingerprint}
    {keys : KeyOrder} {retryDelay : Duration}
    (hx : Conversation.new config epoch fingerprint keys retryDelay = .ok x) :
    ∃ t, Traffic.new config epoch = .ok t ∧
      x = ⟨t, .new fingerprint keys, (Controller.new retryDelay (.new fingerprint keys)).1,
        [], 0, [], [], []⟩ := by
  unfold Conversation.new at hx
  cases ht : Traffic.new config epoch with
  | error fault =>
    rw [ht] at hx
    cases hx
  | ok t =>
    rw [ht] at hx
    cases hx
    exact ⟨t, rfl, rfl⟩

/-- There is a conversation with a server whose log can be kept. -/
theorem exists_new_iff {config : ServerConfig} {epoch : Epoch} {fingerprint : Fingerprint}
    {keys : KeyOrder} {retryDelay : Duration} :
    (∃ x, Conversation.new config epoch fingerprint keys retryDelay = .ok x) ↔
      0 < config.bufferCapacity ∧ config.bufferCapacity ≤ Log.maxCapacity := by
  have htraffic : (∃ t, Traffic.new config epoch = .ok t) ↔ _ := Traffic.exists_new_iff
  rw [← htraffic]
  constructor
  · rintro ⟨x, hx⟩
    obtain ⟨t, ht, -⟩ := eq_of_new hx
    exact ⟨t, ht⟩
  · rintro ⟨t, ht⟩
    exact ⟨_, by rw [Conversation.new, ht]; rfl⟩

/-- A call that is out with a ticket from before was out before. -/
theorem mem_carried_of_lt {l : List (Asker × Nat)} {who : Asker}
    (hl : ∀ c ∈ l, c ∈ x.carried ∨ c.2 = x.traffic.ticket) (hk : (who, k) ∈ l)
    (hlt : k < x.traffic.ticket) : (who, k) ∈ x.carried :=
  (hl _ hk).resolve_right (Nat.ne_of_lt hlt)

theorem mem_granted {id : SessionId} :
    id ∈ x.journal.filterMap Episode.granted? ↔ x.Granted id := by
  rw [List.mem_filterMap]
  constructor
  · rintro ⟨e, he, hid⟩
    cases e with
    | granted id' hs =>
      cases hid
      exact ⟨hs, he⟩
    | dispatched | failed => cases hid
  · rintro ⟨hs, he⟩
    exact ⟨_, he, rfl⟩

namespace Coupled

theorem traced (h : x.Coupled) : x.traffic.Traced := h.accounted.traced

/-- A session is taken up once. -/
theorem unique (h : x.Coupled) {id id' : SessionId} (hid : x.Granted id) (hid' : x.Granted id')
    (hsource : id.source = id'.source) : id = id' := by
  obtain ⟨hs, hid⟩ := hid
  obtain ⟨hs', hid'⟩ := hid'
  have honce := h.once
  rw [List.map_filterMap] at honce
  cases Tickets.unique_of_filterMap honce hid hid' (c := id.source) rfl (by rw [hsource]; rfl)
  rfl

theorem isUsers (h : x.Coupled) : ∀ q ∈ x.users, Pending.IsUsers q.2 := by
  intro q hq
  obtain ⟨id, -, ⟨t, n, hp⟩ | ⟨t, hp⟩⟩ := h.users q hq
  · exact .inl ⟨id, t, n, hp⟩
  · exact .inr ⟨id, t, hp⟩

theorem new {config : ServerConfig} {epoch : Epoch} {fingerprint : Fingerprint} {keys : KeyOrder}
    {retryDelay : Duration} (hx : Conversation.new config epoch fingerprint keys retryDelay = .ok x) :
    x.Coupled := by
  obtain ⟨t, ht, rfl⟩ := eq_of_new hx
  refine ⟨.new ht, ?_, Bus.Numbered.new fingerprint keys, by simp, by simp, List.nodup_nil,
    by simp, by simp, ?_, by simp, List.nodup_nil, by simp, by simp⟩
  · exact fun _ => rfl
  · rintro id ⟨⟩

/-- The server makes a move, and what is under way there goes on. -/
theorem server (h : x.Coupled) {m : EventRelay.Move} {t : Traffic} (ht : x.traffic.step m = some t)
    (hasked : ∀ r, m = .arrive r → ∀ u ∈ x.own, r.Names u →
      (r.aim? = some .poll ∨ ∃ v, r.aim? = some (.unsubscribe v)) →
      ∃ id, x.Granted id ∧ id.source = u) : Coupled { x with traffic := t } := by
  have htraced := h.traced.step h.accounted.sound ht
  refine ⟨h.accounted.step ht, h.agrees, h.numbered, h.numbers, h.users, h.callers,
    fun hk => ?_, fun u hu => Traffic.knows_step ht (h.known u hu), h.held, fun hid => ?_, h.once,
    fun {who k r u} hk hr hu => ?_, fun {k r u} hr hu hnames haim => ?_⟩
  · obtain ⟨p, fresh, r, hp, hreq, hr, hown⟩ := h.carried hk
    exact ⟨p, fresh, r, hp, hreq, Traffic.arrivals_mono ht hr, hown⟩
  · obtain ⟨hown, ⟨k, start, hopened⟩, hsource, hhandlers⟩ := h.granted hid
    exact ⟨hown, ⟨k, start, (Traffic.told_step ht).subset hopened⟩,
      Traffic.sources_step h.accounted.sound ht hsource, hhandlers⟩
  · obtain ⟨p, fresh, r', -, -, hr', -⟩ := h.carried hk
    cases htraced.unique hr (Traffic.arrivals_mono ht hr')
    exact h.fresh hk hr' hu
  · rw [Traffic.arrivals_step h.accounted.sound ht] at hr
    rcases List.mem_append.1 hr with hold | hnew
    · exact h.asked hold hu hnames haim
    · cases m with
      | arrive r' =>
        cases List.mem_singleton.1 hnew
        exact hasked r rfl u hu hnames haim
      | resume | abort | publish | pass => cases hnew

/-- A call reaches the server. -/
theorem carry (h : x.Coupled) {who : Asker} {fresh : SourceId} {p : Pending} {r : Server.Request}
    {t : Traffic} (hp : x.pending? who = some p) (hr : p.call.request? fresh = some r)
    (hfree : x.carried.lookup who = none) (ht : x.traffic.step (.arrive r) = some t)
    (hasked : ∀ u, r.Names u → (r.aim? = some .poll ∨ ∃ v, r.aim? = some (.unsubscribe v)) →
      ∃ id, x.Granted id ∧ id.source = u) :
    Coupled { x with
      traffic := t
      carried := x.carried ++ [(who, x.traffic.ticket)]
      own := x.own ++ r.fresh?.toList } := by
  have hserved := h.server ht fun r' hr' u _ => by
    cases hr'
    exact hasked u
  have harrived : (x.traffic.ticket, r) ∈ t.arrivals := by
    rw [Traffic.arrivals_step h.accounted.sound ht]
    exact List.mem_append_right _ (List.mem_singleton.2 rfl)
  have hnew : ∀ {u}, u ∈ r.fresh?.toList → r.fresh? = some u := fun hu => Option.mem_toList.1 hu
  refine
    { hserved with
      callers := ?_
      carried := fun hk => ?_
      known := fun u hu => ?_
      granted := fun hid => ?_
      fresh := fun {j k' r' u} hk hr' hu id hid => ?_
      asked := fun {k' r' u} hr' hu hnames haim => ?_ }
  · rw [List.map_append]
    refine List.concat_eq_append ▸ h.callers.concat fun hin => ?_
    obtain ⟨⟨who', k'⟩, hmem, rfl⟩ := List.mem_map.1 hin
    have hne := List.lookup_eq_none_iff.1 hfree _ hmem
    simp at hne
  · rcases List.mem_append.1 hk with hold | hlast
    · obtain ⟨p', fresh', r', hp', hreq, hr', hown⟩ := hserved.carried hold
      exact ⟨p', fresh', r', hp', hreq, hr', fun u hu => List.mem_append_left _ (hown u hu)⟩
    · cases List.mem_singleton.1 hlast
      exact ⟨p, fresh, r, hp, hr, harrived,
        fun u hu => List.mem_append_right _ (Option.mem_toList.2 hu)⟩
  · rcases List.mem_append.1 hu with hold | hown
    · exact hserved.known u hold
    · exact Traffic.knows_of_names harrived (.inr (hnew hown))
  · obtain ⟨hown, hrest⟩ := hserved.granted hid
    exact ⟨List.mem_append_left _ hown, hrest⟩
  · rcases List.mem_append.1 hk with hold | hlast
    · exact hserved.fresh hold hr' hu hid
    · cases List.mem_singleton.1 hlast
      cases hserved.traced.unique hr' harrived
      rintro rfl
      obtain ⟨hs, hmem⟩ := hid
      have hknown := h.known _ (h.granted hmem).1
      rw [Traffic.not_knows_of_arrive ht hu] at hknown
      cases hknown
  · rcases List.mem_append.1 hu with hold | hown
    · exact hserved.asked hr' hold hnames haim
    · -- nobody else has named the source, and the call itself only asks for the session
      cases Traffic.eq_of_names_fresh h.accounted.sound ht (hnew hown) hr' hnames
      cases r with
      | openSession => simp [Server.Request.aim?] at haim
      | closeSession | subscribe | unsubscribe | lookup | poll | sweep => cases hown

/-- A user's operation goes on. -/
theorem tended (h : x.Coupled) (ht : x.Tended x') : x'.Coupled := by
  have hgranted : ∀ {id}, x.Granted id → x'.Granted id := by
    rintro id ⟨hs, hid⟩
    exact ⟨hs, ht.journal ▸ hid⟩
  have hback : ∀ {id}, x'.Granted id → x.Granted id := by
    rintro id ⟨hs, hid⟩
    exact ⟨hs, ht.journal ▸ hid⟩
  refine ⟨ht.traffic ▸ h.accounted, ?_, ht.numbered h.numbered,
    fun q hq => ?_, fun q hq => ?_, h.callers.sublist (ht.carried.map _), fun hk => ?_,
    fun u hu => ?_, fun hid => hgranted (h.held (ht.session ▸ hid)), fun hid => ?_, ?_,
    fun hk hr hu _ hid => ?_, fun hr hu hnames haim => ?_⟩
  · exact ht.controller ▸ h.agrees.congr ht.session ht.generation
  · rcases ht.numbers q hq with hold | hnew
    · exact Nat.lt_of_lt_of_le (h.numbers q hold) ht.number
    · exact hnew
  · rcases ht.users q hq with hold | ⟨id, hid, hcall⟩
    · obtain ⟨id, hid, hcall⟩ := h.users q hold
      exact ⟨id, hgranted hid, hcall⟩
    · exact ⟨id, hgranted (h.held hid), hcall.imp_right fun ⟨t, hp, _⟩ => ⟨t, hp⟩⟩
  · obtain ⟨p, fresh, r, hp, hreq, hr, hown⟩ := h.carried (ht.carried.subset hk)
    exact ⟨p, fresh, r, ht.waits h.numbers hk hp, hreq, ht.traffic ▸ hr, ht.own ▸ hown⟩
  · rw [ht.traffic]
    exact h.known u (ht.own ▸ hu)
  · obtain ⟨hown, hopened, hsource, hhandlers⟩ := h.granted (ht.journal ▸ hid)
    rw [ht.own, ht.traffic]
    exact ⟨hown, hopened, hsource, fun a ha => Nat.lt_of_lt_of_le (hhandlers a ha) ht.nextHandler⟩
  · rw [ht.journal]
    exact h.once
  · exact h.fresh (ht.carried.subset hk) (ht.traffic ▸ hr) hu (hback hid)
  · obtain ⟨id, hid, hsource⟩ := h.asked (ht.traffic ▸ hr) (ht.own ▸ hu) hnames haim
    exact ⟨id, hgranted hid, hsource⟩

/-- The controller makes a turn, which ends the call that it had out; `es` is what it goes
through in it. -/
theorem turn (h : x.Coupled) {b : Bus} {c : Controller} {l : List (Asker × Nat)}
    (es : List Episode) (hhandlers : b.handlers = x.bus.handlers)
    (hnext : b.nextHandler = x.bus.nextHandler) (hagrees : c.activity.Agrees b)
    (hl : l.Sublist x.carried) (hfree : ∀ k, (.controller, k) ∉ l)
    (hheld : ∀ {id}, b.session = some id → x.Granted id ∨ ∃ hs, .granted id hs ∈ es)
    (hes : ∀ {id hs}, .granted id hs ∈ es → id.source ∈ x.own ∧
      (∃ k start, .opened k id.source start ∈ x.traffic.told) ∧
      id.source ∈ x.traffic.server.registry.sources ∧ ∀ h ∈ hs, h.id < x.bus.nextHandler)
    (honce : (((x.journal ++ es).filterMap Episode.granted?).map SessionId.source).Nodup) :
    Coupled { x with bus := b, controller := c, carried := l, journal := x.journal ++ es } := by
  have hgranted : ∀ {id}, x.Granted id →
      Granted { x with bus := b, controller := c, carried := l, journal := x.journal ++ es } id := by
    rintro id ⟨hs, hid⟩
    exact ⟨hs, List.mem_append_left _ hid⟩
  have hpending : ∀ {who k}, (who, k) ∈ l → ∃ n, who = .user n := by
    intro who k hk
    cases who with
    | controller => exact absurd hk (hfree k)
    | user n => exact ⟨n, rfl⟩
  refine ⟨h.accounted, hagrees, h.numbered.sublist (hhandlers ▸ List.Sublist.refl _) hnext,
    h.numbers, fun q hq => ?_, h.callers.sublist (hl.map _), fun hk => ?_, h.known, fun hid => ?_,
    fun hid => ?_, honce, fun hk hr hu id hid => ?_, fun hr hu hnames haim => ?_⟩
  · obtain ⟨id, hid, hcall⟩ := h.users q hq
    exact ⟨id, hgranted hid, hcall⟩
  · obtain ⟨p, fresh, r, hp, hrest⟩ := h.carried (hl.subset hk)
    obtain ⟨n, rfl⟩ := hpending hk
    exact ⟨p, fresh, r, hp, hrest⟩
  · rcases hheld hid with hold | ⟨hs, hnew⟩
    · exact hgranted hold
    · exact ⟨hs, List.mem_append_right _ hnew⟩
  · rw [hnext]
    rcases List.mem_append.1 hid with hold | hnew
    · exact h.granted hold
    · exact hes hnew
  · -- a user's call asks for no session
    obtain ⟨p, fresh, r', hp, hreq, hr', -⟩ := h.carried (hl.subset hk)
    obtain ⟨n, rfl⟩ := hpending hk
    cases h.traced.unique hr hr'
    rcases h.isUsers _ (Tickets.mem_of_lookup hp) with ⟨id', t, j, rfl⟩ | ⟨id', t, rfl⟩
    · cases hreq
      cases hu
    · cases hreq
      cases hu
  · obtain ⟨id, hid, hsource⟩ := h.asked hr hu hnames haim
    exact ⟨id, hgranted hid, hsource⟩

theorem not_carried_of_ready (h : x.Coupled) {errand : Errand} (hready : x.Ready errand) (k : Nat) :
    (.controller, k) ∉ x.carried := by
  intro hk
  obtain ⟨p, fresh, r, hp, -⟩ := h.carried hk
  rcases hready with heq | ⟨pause, heq⟩ <;> simp [pending?, heq] at hp

theorem agrees_of_ready (h : x.Coupled) {errand : Errand} (hready : x.Ready errand) :
    (Activity.ready errand).Agrees x.bus := by
  have hnow := h.agrees
  rcases hready with heq | ⟨pause, heq⟩ <;> rw [heq] at hnow <;> exact hnow

theorem waits (h : x.Coupled) {errand : Errand} {p : Pending}
    (hp : x.controller.activity = .calling errand p) : errand.Waits x.bus p := by
  have hnow := h.agrees
  rw [hp] at hnow
  exact hnow

/-- The controller begins an errand. -/
theorem begin (h : x.Coupled) {errand : Errand} (hready : x.Ready errand) :
    (x.steer errand (x.bus.start errand.operation)).Coupled := by
  have hturns := Controller.turns_start x.controller (h.agrees_of_ready hready)
  have hturn := h.turn [] hturns.handlers hturns.nextHandler hturns.agrees (List.Sublist.refl _)
    (h.not_carried_of_ready hready) (fun hid => .inl (h.held (hturns.kept rfl hid))) (by simp)
    (by simpa using h.once)
  rw [List.append_nil] at hturn
  exact hturn

theorem stop (h : x.Coupled) :
    Coupled { x.forget .controller with controller := x.controller.stop.1 } := by
  have hturn := h.turn (b := x.bus) (c := x.controller.stop.1)
    (l := (x.forget .controller).carried) [] rfl rfl (x.controller.activity_stop ▸ trivial)
    List.filter_sublist (fun k => not_mem_forget .controller) (fun hid => .inl (h.held hid))
    (by simp) (by simpa using h.once)
  rw [List.append_nil] at hturn
  exact hturn

/-- What an answer that grants a session says of it. -/
theorem of_granted (h : x.Coupled) {id : SessionId}
    (hfrom : x.Brings .controller .opening (.ok id)) : id.source ∈ x.own ∧
      (∃ k start, (.controller, k) ∈ x.carried ∧ .opened k id.source start ∈ x.traffic.told) ∧
      id.source ∈ x.traffic.server.registry.sources ∧
      ∀ {id'}, x.Granted id' → id'.source ≠ id.source := by
  obtain ⟨k, hk, ha⟩ := hfrom.session
  obtain ⟨instant, hnote⟩ := Traffic.mem_told.1 ha
  obtain ⟨-, hsource, start, hmade⟩ := h.accounted.opened.granted _ hnote rfl
  obtain ⟨r, hr, hgets⟩ := h.traced.answered ha
  have hfresh : r.fresh? = some id.source := hgets _ rfl
  obtain ⟨p, fresh, r', -, -, hr', hown⟩ := h.carried hk
  cases h.traced.unique hr hr'
  exact ⟨hown _ hfresh, ⟨k, start, hk, Traffic.mem_openings.1 hmade⟩, hsource,
    h.fresh hk hr hfresh⟩

/-- The controller hears an answer. -/
theorem hear (h : x.Coupled) {errand : Errand} {p : Pending} {answer : p.call.Answer}
    (hp : x.controller.activity = .calling errand p) (hfrom : x.Brings .controller p answer) :
    ({ x.forget .controller with journal := x.journal ++ x.bus.episodes p answer }.steer errand
      (x.bus.resume p answer)).Coupled := by
  have hwaits := h.waits hp
  have hturns := Controller.turns_resume x.controller hwaits answer
  have hturn := fun es => h.turn (b := (x.controller.adopt errand (x.bus.resume p answer)).2)
    (c := (x.controller.adopt errand (x.bus.resume p answer)).1)
    (l := (x.forget .controller).carried) es hturns.handlers hturns.nextHandler hturns.agrees
    List.filter_sublist (fun k => not_mem_forget .controller)
  have hjournals := Bus.journals_episodes hwaits answer
  generalize x.bus.episodes p answer = es at hjournals
  cases hjournals with
  | nothing _ _ hnone =>
    exact hturn [] (fun hid => .inl (h.held (hturns.kept hnone hid))) (by simp)
      (by simpa using h.once)
  | dispatches | fails =>
    exact hturn _ (fun hid => .inl (h.held (hturns.kept rfl hid))) (by simp)
      (by simpa [List.filterMap_cons, Episode.granted?] using h.once)
  | grants id hnone =>
    obtain ⟨hown, ⟨k, start, -, hopened⟩, hsource, hfresh⟩ := h.of_granted hfrom
    refine hturn _ (fun hid => ?_) (fun hid => ?_) ?_
    · rcases hturns.granted_or_kept hid with hnew | hkept
      · cases hnew
        exact .inr ⟨x.bus.handlers, List.mem_singleton.2 rfl⟩
      · cases hnone.symm.trans hkept
    · cases List.mem_singleton.1 hid
      exact ⟨hown, ⟨k, start, hopened⟩, hsource, h.numbered.issued⟩
    · rw [List.filterMap_append, List.map_append]
      refine List.concat_eq_append ▸ h.once.concat fun hin => ?_
      obtain ⟨id', hid', hsame⟩ := List.mem_map.1 hin
      exact hfresh (mem_granted.1 hid') hsame

/-- A controller that asks for events asks for those of the session that is held. -/
theorem polls_held (h : x.Coupled) {fresh u : SourceId} {p : Pending} {r : Server.Request}
    (hp : x.pending? .controller = some p) (hr : p.call.request? fresh = some r)
    (hnames : r.Names u) (haim : r.aim? = some .poll) :
    ∃ id generation, p = .polling id generation ∧ x.bus.session = some id ∧ id.source = u := by
  obtain ⟨errand, hactivity⟩ := calling_of_pending? hp
  have hwaits := h.waits hactivity
  cases p with
  | polling id generation =>
    cases hr
    cases errand with
    | poll => exact ⟨id, generation, rfl, hwaits.1, Option.some.inj hnames⟩
    | openSession | probe => cases hwaits
  | opening | subscribing | abandoning | closing | adding | removing =>
    cases hr
    cases haim
  | probing | publishing => cases hr

/-- Only a user takes a type away from a session, and only from one that was granted. -/
theorem removes_granted (h : x.Coupled) {who : Asker} {fresh u : SourceId} {p : Pending}
    {r : Server.Request} {v : TypeId} (hp : x.pending? who = some p)
    (hr : p.call.request? fresh = some r) (hnames : r.Names u)
    (haim : r.aim? = some (.unsubscribe v)) :
    ∃ n id, who = .user n ∧ p = .removing id v ∧ x.Granted id ∧ id.source = u := by
  cases who with
  | user n =>
    obtain ⟨id, hid, ⟨t, j, rfl⟩ | ⟨t, rfl⟩⟩ := h.users _ (Tickets.mem_of_lookup hp)
    · cases hr
      cases haim
    · cases hr
      cases haim
      exact ⟨n, id, rfl, rfl, hid, Option.some.inj hnames⟩
  | controller =>
    obtain ⟨errand, hactivity⟩ := calling_of_pending? hp
    have hwaits := h.waits hactivity
    cases p with
    | removing => cases errand <;> cases hwaits
    | opening | subscribing | abandoning | closing | adding | polling =>
      cases hr
      cases haim
    | probing | publishing => cases hr

/-- An asker that asks for events of a session, or takes a type away from it, has been granted
it. -/
theorem asks (h : x.Coupled) {who : Asker} {fresh u : SourceId} {p : Pending}
    {r : Server.Request} (hp : x.pending? who = some p) (hr : p.call.request? fresh = some r)
    (hnames : r.Names u) (haim : r.aim? = some .poll ∨ ∃ v, r.aim? = some (.unsubscribe v)) :
    ∃ id, x.Granted id ∧ id.source = u := by
  rcases haim with hpoll | ⟨v, hremove⟩
  · cases who with
    | controller =>
      obtain ⟨id, -, -, hid, hsource⟩ := h.polls_held hp hr hnames hpoll
      exact ⟨id, h.held hid, hsource⟩
    | user n =>
      rcases h.isUsers _ (Tickets.mem_of_lookup hp) with ⟨id', t, j, rfl⟩ | ⟨id', t, rfl⟩
      · cases hr
        cases hpoll
      · cases hr
        cases hpoll
  · obtain ⟨n, id, -, -, hid, hsource⟩ := h.removes_granted hp hr hnames hremove
    exact ⟨id, hid, hsource⟩

/-- **Whatever happens next.** -/
theorem step (h : x.Coupled) {m : Move} (hx : x.step m = some x') : x'.Coupled := by
  cases goes_of_step h.numbers h.isUsers hx with
  | serves m t hm ht =>
    refine h.server ht ?_
    rintro r rfl u hu hnames haim
    cases r with
    | unsubscribe current v | poll current =>
      cases current with
      | none => cases hnames
      | some id =>
        cases hnames
        simp [admits, hu] at hm
    | openSession | closeSession | subscribe | lookup | sweep => simp [Server.Request.aim?] at haim
  | carries who fresh p r t hp hr hfree ht =>
    exact h.carry hp hr hfree ht fun u hnames haim => h.asks hp hr hnames haim
  | tends m x' hm ht => exact h.tended ht
  | begins errand hready => exact h.begin hready
  | stops => exact h.stop
  | hears m errand p answer hm hp hfrom => exact h.hear hp hfrom

end Coupled
end Conversation
end EventRelay

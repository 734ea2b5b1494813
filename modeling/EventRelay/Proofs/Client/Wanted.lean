/-
# A session wants what is handled

A new session subscribes the types that have a handler, one after the other, and is polled
only then; a type is taken away from it only when its last handler has gone.  So once nothing
is left to subscribe, a session wants the type of every handler that was there when it was
taken up and still is (`Conversation.Wanted`), whichever calls are lost meanwhile: a type
whose call fails is one for which the session is given up.
-/

import EventRelay.Proofs.Client.Coupled

namespace EventRelay
namespace Conversation

variable {x x' : Conversation} {k : Nat} {id : SessionId} {a : Handler}

/-- A handler that was there when a session was taken up, and still is. -/
def Keeps (x : Conversation) (id : SessionId) (a : Handler) : Prop :=
  ∃ hs, .granted id hs ∈ x.journal ∧ a ∈ hs ∧ a ∈ x.bus.handlers

/-- A session that the controller keeps going. -/
def Holds (x : Conversation) (id : SessionId) : Prop :=
  x.bus.session = some id ∧ x.controller.activity ≠ .stopped

/-- What the sessions of a client want. -/
structure Wanted (x : Conversation) : Prop where
  wants : ∀ {id a}, x.Holds id → x.Keeps id a → a.typeId ∈ x.controller.activity.remaining ∨
    x.traffic.server.registry.wants id.source a.typeId = true
  /-- The server has subscribed a type before it says so. -/
  subscribed : ∀ {errand id generation t rest k b a},
    x.controller.activity = .calling errand (.subscribing id generation t rest) →
    (.controller, k) ∈ x.carried → .answered k (.ok (.changed b)) ∈ x.traffic.told →
    x.Keeps id a → a.typeId = t → x.traffic.server.registry.wants id.source t = true
  /-- No user takes a type away that is still handled. -/
  leaving : ∀ {q id t a}, q ∈ x.users → q.2 = .removing id t → x.Keeps id a → a.typeId ≠ t
  left : ∀ {k r id t a}, (k, r) ∈ x.traffic.arrivals → r.Names id.source →
    r.aim? = some (.unsubscribe t) → x.Keeps id a → a.typeId ≠ t

theorem Keeps.granted (ha : x.Keeps id a) : x.Granted id := by
  obtain ⟨hs, hid, -⟩ := ha
  exact ⟨hs, hid⟩

theorem Keeps.mem_handlers (ha : x.Keeps id a) : a ∈ x.bus.handlers := by
  obtain ⟨hs, -, -, hnow⟩ := ha
  exact hnow

theorem Keeps.tended (h : x.Coupled) (ht : x.Tended x') (ha : x'.Keeps id a) : x.Keeps id a := by
  obtain ⟨hs, hid, hmem, hnow⟩ := ha
  rw [ht.journal] at hid
  refine ⟨hs, hid, hmem, (ht.handlers a hnow).resolve_right fun hnew => ?_⟩
  obtain ⟨-, -, -, hold⟩ := h.granted hid
  exact absurd (hold a hmem) (by omega)

namespace Wanted

theorem new {config : ServerConfig} {epoch : Epoch} {fingerprint : Fingerprint} {keys : KeyOrder}
    {retryDelay : Duration} (hx : Conversation.new config epoch fingerprint keys retryDelay = .ok x) :
    x.Wanted := by
  obtain ⟨t, ht, rfl⟩ := eq_of_new hx
  refine ⟨?_, ?_, ?_, ?_⟩
  · rintro id a - ⟨hs, ⟨⟩, -⟩
  · rintro errand id generation t rest k b a - ⟨⟩
  · rintro q id t a ⟨⟩
  · rintro k r id t a - - - ⟨hs, ⟨⟩, -⟩

/-- The server makes a move; at most a call has become the request that arrives. -/
theorem server (h : x.Wanted) (hc : x.Coupled) {m : EventRelay.Move} {t : Traffic}
    (ht : x.traffic.step m = some t) {l : List (Asker × Nat)} {own : List SourceId}
    (hl : ∀ c ∈ l, c ∈ x.carried ∨ c.2 = x.traffic.ticket)
    (hc' : Coupled { x with traffic := t, carried := l, own })
    (hleft : ∀ r, m = .arrive r → ∀ {id t a}, r.Names id.source →
      r.aim? = some (.unsubscribe t) → x.Keeps id a → a.typeId ≠ t) :
    Wanted { x with traffic := t, carried := l, own } := by
  have hs := hc.accounted.sound
  have hkept : ∀ {id a}, x.Keeps id a →
      x.traffic.server.registry.wants id.source a.typeId = true →
        t.server.registry.wants id.source a.typeId = true := by
    intro id a ha hw
    refine Traffic.wants_step hs ht hw fun k hk => ?_
    obtain ⟨r, hr, hnames, haim⟩ := hc.traced.paused _ hk
    exact h.left hr hnames haim ha rfl
  refine ⟨fun hid ha => ?_, fun {errand id generation v rest k b a} hp hk htold ha hv => ?_,
    h.leaving, fun {k r id v a} hr hnames haim ha => ?_⟩
  · exact (h.wants hid ha).imp_right (hkept ha)
  · obtain ⟨p, fresh, r, hpending, hreq, hr, -⟩ := hc'.carried hk
    cases (pending?_of_calling hp).symm.trans hpending
    cases hreq
    rcases Traffic.wants_of_changed hs hc.traced ht hr rfl rfl htold with hold | hw
    · obtain ⟨r', hr', -⟩ := hc.traced.answered hold
      have hmine := mem_carried_of_lt hl hk (hc.traced.lt_of_mem hr')
      subst hv
      exact hkept ha (h.subscribed hp hmine hold ha rfl)
    · exact hw
  · have harrivals := Traffic.arrivals_step hs ht
    rw [show ({ x with traffic := t, carried := l, own } : Conversation).traffic.arrivals =
      t.arrivals from rfl, harrivals] at hr
    rcases List.mem_append.1 hr with hold | hnew
    · exact h.left hold hnames haim ha
    · cases m with
      | arrive r' =>
        cases List.mem_singleton.1 hnew
        exact hleft r rfl hnames haim ha
      | resume | abort | publish | pass => cases hnew

/-- A user's operation goes on. -/
theorem tended (h : x.Wanted) (hc : x.Coupled) (ht : x.Tended x') : x'.Wanted := by
  refine ⟨fun ⟨hid, hgoing⟩ ha => ?_, fun hp hk htold ha hv => ?_, fun hq hp ha => ?_,
    fun hr hnames haim ha => ?_⟩
  · rw [ht.controller, ht.traffic]
    exact h.wants ⟨ht.session ▸ hid, ht.controller ▸ hgoing⟩ (ha.tended hc ht)
  · rw [ht.traffic]
    exact h.subscribed (ht.controller ▸ hp) (ht.carried.subset hk) (ht.traffic ▸ htold)
      (ha.tended hc ht) hv
  · rcases ht.users _ hq with hold | ⟨id', -, ⟨t, j, hadd⟩ | ⟨t, hremove, hnone⟩⟩
    · exact h.leaving hold hp (ha.tended hc ht)
    · cases hp.symm.trans hadd
    · cases hp.symm.trans hremove
      obtain ⟨-, -, -, hnow⟩ := ha
      exact hnone _ hnow
  · exact h.left (ht.traffic ▸ hr) hnames haim (ha.tended hc ht)

/-- The controller makes a turn, which ends the call that it had out. -/
theorem turn (h : x.Wanted) (hc : x.Coupled) {b : Bus} {c : Controller} {l : List (Asker × Nat)}
    (es : List Episode) (hfree : ∀ k, (.controller, k) ∉ l)
    (hhandlers : b.handlers = x.bus.handlers)
    (hes : ∀ {id hs}, .granted id hs ∈ es → id.source ∈ x.own ∧
      ∀ {id'}, x.Granted id' → id'.source ≠ id.source)
    (hwants : ∀ {id}, b.session = some id → (∀ {a}, x.Keeps id a →
        a.typeId ∈ c.activity.remaining ∨
          x.traffic.server.registry.wants id.source a.typeId = true) ∧
      ∀ {hs}, .granted id hs ∈ es → ∀ a ∈ hs, a.typeId ∈ c.activity.remaining) :
    Wanted { x with bus := b, controller := c, carried := l, journal := x.journal ++ es } := by
  have hkeeps : ∀ {id a},
      Keeps { x with bus := b, controller := c, carried := l, journal := x.journal ++ es } id a →
        x.Keeps id a ∨ ∃ hs, .granted id hs ∈ es ∧ a ∈ hs := by
    rintro id a ⟨hs, hid, hmem, hnow⟩
    exact (List.mem_append.1 hid).imp (fun hold => ⟨hs, hold, hmem, hhandlers ▸ hnow⟩)
      fun hnew => ⟨hs, hnew, hmem⟩
  refine ⟨fun ⟨hid, _⟩ ha => ?_, fun _ hk => absurd hk (hfree _), fun hq hp ha => ?_,
    fun hr hnames haim ha => ?_⟩
  · rcases hkeeps ha with hold | ⟨hs, hnew, hmem⟩
    · exact (hwants hid).1 hold
    · exact .inl ((hwants hid).2 hnew _ hmem)
  · rcases hkeeps ha with hold | ⟨hs, hnew, -⟩
    · exact h.leaving hq hp hold
    · obtain ⟨id', hid', ⟨t, j, hadd⟩ | ⟨t, hremove⟩⟩ := hc.users _ hq
      · cases hp.symm.trans hadd
      · cases hp.symm.trans hremove
        exact absurd rfl ((hes hnew).2 hid')
  · rcases hkeeps ha with hold | ⟨hs, hnew, -⟩
    · exact h.left hr hnames haim hold
    · -- nobody has asked for anything of a session that is just being taken up
      obtain ⟨hown, hfresh⟩ := hes hnew
      obtain ⟨id', hid', hsource⟩ := hc.asked hr hown hnames (.inr ⟨_, haim⟩)
      exact absurd hsource (hfresh hid')

theorem begin (h : x.Wanted) (hc : x.Coupled) {errand : Errand} (hready : x.Ready errand) :
    (x.steer errand (x.bus.start errand.operation)).Wanted := by
  have hturns := Controller.turns_start x.controller (hc.agrees_of_ready hready)
  have hidle : x.controller.activity ≠ .stopped ∧ x.controller.activity.remaining = [] := by
    rcases hready with heq | ⟨pause, heq⟩ <;> rw [heq] <;> exact ⟨by simp, rfl⟩
  have hturn := h.turn hc (c := (x.controller.adopt errand (x.bus.start errand.operation)).1) []
    (hc.not_carried_of_ready hready) hturns.handlers (by simp)
    fun {id} hid => ⟨fun {a} ha => .inr ?_, by simp⟩
  · rw [List.append_nil] at hturn
    exact hturn
  · have hw := h.wants ⟨hturns.kept rfl hid, hidle.1⟩ ha
    rw [hidle.2] at hw
    exact hw.resolve_left (by simp)

theorem stop (h : x.Wanted) :
    Wanted { x.forget .controller with controller := x.controller.stop.1 } := by
  refine ⟨fun ⟨_, hgoing⟩ => absurd x.controller.activity_stop hgoing,
    fun _ hk => absurd hk (not_mem_forget _), h.leaving, h.left⟩

/-- What is left to subscribe when the controller hears an answer. -/
theorem left_hear (h : x.Wanted) {errand : Errand} {p : Pending} {answer : p.call.Answer}
    (hp : x.controller.activity = .calling errand p) (hwaits : errand.Waits x.bus p)
    (hfrom : x.Brings .controller p answer) (hid : x.bus.session = some id)
    (hkept : (x.controller.adopt errand (x.bus.resume p answer)).2.session = some id)
    (ha : x.Keeps id a) : a.typeId ∈ Controller.left x.bus p answer ∨
      x.traffic.server.registry.wants id.source a.typeId = true := by
  have hw := h.wants ⟨hid, by simp [hp]⟩ ha
  rw [hp] at hw
  cases p with
  | subscribing id' generation t rest =>
    cases answer with
    | error fault => cases (Controller.session_adopt_failed _ hwaits fault).symm.trans hkept
    | ok b =>
      rcases hw with hleft | hw
      · refine (List.mem_cons.1 hleft).symm.imp_right fun hv => ?_
        have hsame : id' = id := by
          cases errand with
          | poll | probe => cases hwaits
          | openSession => exact Option.some.inj (hwaits.1.symm.trans hid)
        subst hsame
        obtain ⟨k, hk, htold⟩ := hfrom.changed
        rw [hv]
        exact h.subscribed hp hk htold ha hv
      · exact .inr hw
  | opening | abandoning | closing | adding | removing | polling | probing | publishing =>
    exact .inr (hw.resolve_left (by simp [Activity.remaining]))

/-- The controller hears an answer. -/
theorem hear (h : x.Wanted) (hc : x.Coupled) {errand : Errand} {p : Pending}
    {answer : p.call.Answer} (hp : x.controller.activity = .calling errand p)
    (hfrom : x.Brings .controller p answer) :
    ({ x.forget .controller with journal := x.journal ++ x.bus.episodes p answer }.steer errand
      (x.bus.resume p answer)).Wanted := by
  have hwaits := hc.waits hp
  have hturns := Controller.turns_resume x.controller hwaits answer
  have hturn := fun es => h.turn hc (b := (x.controller.adopt errand (x.bus.resume p answer)).2)
    (c := (x.controller.adopt errand (x.bus.resume p answer)).1)
    (l := (x.forget .controller).carried) es (fun k => not_mem_forget .controller) hturns.handlers
  have hleft : ∀ {id a}, x.bus.session = some id →
      (x.controller.adopt errand (x.bus.resume p answer)).2.session = some id → x.Keeps id a →
        a.typeId ∈ (x.controller.adopt errand (x.bus.resume p answer)).1.activity.remaining ∨
          x.traffic.server.registry.wants id.source a.typeId = true := by
    intro id a hid hkept ha
    rw [hturns.remaining]
    exact h.left_hear hp hwaits hfrom hid hkept ha
  have hjournals := Bus.journals_episodes hwaits answer
  generalize x.bus.episodes p answer = es at hjournals
  cases hjournals with
  | nothing _ _ hnone =>
    exact hturn [] (by simp) fun hid => ⟨hleft (hturns.kept hnone hid) hid, by simp⟩
  | dispatches | fails =>
    exact hturn _ (by simp) fun hid => ⟨hleft (hturns.kept rfl hid) hid, by simp⟩
  | grants id hnone =>
    obtain ⟨hown, -, -, hfresh⟩ := hc.of_granted hfrom
    refine hturn _ (fun hnew => ?_) fun {id'} hid => ⟨fun {a} ha => ?_, fun {hs} hnew a ha => ?_⟩
    · cases List.mem_singleton.1 hnew
      exact ⟨hown, hfresh⟩
    · -- a session that is just being granted has no handlers from before
      rcases hturns.granted_or_kept hid with hnew | hkept
      · cases hnew
        exact absurd rfl (hfresh ha.granted)
      · cases hnone.symm.trans hkept
    · cases List.mem_singleton.1 hnew
      rw [hturns.remaining]
      exact Bus.mem_keys_hold.2 (List.mem_eraseDups.2 (List.mem_map_of_mem ha))

/-- **Whatever happens next.** -/
theorem step (h : x.Wanted) (hc : x.Coupled) {m : Move} (hx : x.step m = some x') : x'.Wanted := by
  have hc' := hc.step hx
  cases goes_of_step hc.numbers hc.isUsers hx with
  | serves m t hm ht =>
    refine h.server hc ht (fun c hc => .inl hc) hc' ?_
    rintro r rfl id v a hnames haim ⟨hs, hid, -⟩
    cases r with
    | unsubscribe current v =>
      cases current with
      | none => cases hnames
      | some id' =>
        obtain ⟨hown, -⟩ := hc.granted hid
        have hsource : id'.source = id.source := Option.some.inj hnames
        simp [admits, hsource, hown] at hm
    | openSession | closeSession | subscribe | lookup | poll | sweep => cases haim
  | carries who fresh p r t hp hr hfree ht =>
    refine h.server hc ht (fun c hc => (List.mem_append.1 hc).imp_right fun hlast => ?_) hc' ?_
    · rw [List.mem_singleton.1 hlast]
    · rintro r' hr' id v a hnames haim ha
      cases hr'
      obtain ⟨n, id', rfl, rfl, hid', hsource⟩ := hc.removes_granted hp hr hnames haim
      cases hc.unique hid' ha.granted hsource
      exact h.leaving (Tickets.mem_of_lookup hp) rfl ha
  | tends m x' hm ht => exact h.tended hc ht
  | begins errand hready => exact h.begin hc hready
  | stops => exact h.stop
  | hears m errand p answer hm hp hfrom => exact h.hear hc hp hfrom

end Wanted
end Conversation
end EventRelay

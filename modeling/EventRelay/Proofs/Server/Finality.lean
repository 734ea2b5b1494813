/-
# An ended session stays ended

Once the listeners were told that a session has ended, whoever asks for it from then on is denied it
(`Traffic.Denies`): a request is refused, and one to open a session gets a new one.  A request that
is refused, or granted to end the session, comes when that was told, or tells it; so its answer is
final (`Traffic.final`).

There is one gap.  A request that has found its session idle is refused even if a poll makes the
session fresh again before that request comes to end it (`Traffic.Overtaken`), and then the session
goes on (`Traffic.refused_and_live`).
-/

import EventRelay.Proofs.Server.Lifetimes
import EventRelay.Proofs.Server.Moves

namespace EventRelay
namespace Server

variable {s : Server} {r : Request} {id : SessionId} {aim : Aim} {a : Outcome Served} {p : Pause}
  {k : Nat}

/-- What a request is answered whose session has ended. -/
def Request.denial (epoch : Epoch) : Request → Outcome Served
  | openSession _ fresh => .ok (.session ⟨epoch, fresh⟩)
  | closeSession _ | subscribe _ _ | unsubscribe _ _ | lookup _ | poll _ | sweep =>
    .error .invalidSession

/-- Only a request for a session of another process is answered when it arrives. -/
theorem eq_denial_of_receive (hid : r.current = some id) (h : s.receive r = .answered a) :
    id.epoch ≠ s.epoch ∧ a = r.denial s.epoch := by
  by_cases hepoch : id.epoch = s.epoch
  · have hresolve : s.resolve id = .ok id.source := if_pos hepoch
    cases r with
    | openSession current | closeSession current | subscribe current | unsubscribe current
    | lookup current | poll current =>
      obtain rfl : current = some id := hid
      simp [receive, seek, resolveNamed, hresolve] at h
    | sweep => cases hid
  · have hresolve : s.resolve id = .error .invalidSession := if_neg hepoch
    refine ⟨hepoch, ?_⟩
    cases r with
    | openSession current =>
      obtain rfl : current = some id := hid
      simp [receive, hresolve, makeSession] at h
    | closeSession current | subscribe current | unsubscribe current | lookup current
    | poll current =>
      obtain rfl : current = some id := hid
      simpa [receive, seek, resolveNamed, hresolve, Request.denial] using h.symm
    | sweep => cases hid

/-- A request whose session is not there is denied it. -/
theorem eq_denial_of_missed (haim : r.aim? = some aim) (h : s.missed aim = .answered a) :
    a = r.denial s.epoch := by
  cases aim with
  | opening => cases h
  | subscribe | unsubscribe | lookup | poll =>
    cases h
    cases r with
    | openSession => cases haim
    | closeSession | subscribe | unsubscribe | lookup | poll | sweep => rfl

/-- A request whose session is off the list is denied it. -/
theorem eq_denial_of_proceed (hreaches : r.Reaches p) (hid : r.current = some id)
    (hgone : s.registry.live? id.source = none) (h : (s.proceed k p).2 = .answered a) :
    a = r.denial s.epoch := by
  have hnames : ∀ {u}, r.Names u → u = id.source := by
    intro u hu
    rw [Request.Names, hid] at hu
    exact (Option.some.inj hu).symm
  cases p with
  | seeking u aim =>
    obtain rfl := hnames hreaches.1
    rw [proceed_seeking_of_absent hgone] at h
    exact eq_denial_of_missed hreaches.2 h
  | expiring u aim => exact eq_denial_of_missed hreaches.2 h
  | enlisting e =>
    cases h
    cases r with
    | openSession current fresh =>
      obtain rfl : fresh = e.session.source := Option.some.inj hreaches
      rfl
    | closeSession | subscribe | unsubscribe | lookup | poll | sweep => cases hreaches
  | closing u =>
    obtain rfl := hnames hreaches.1
    simp only [proceed, Registry.invalidate, Registry.retire_of_not_live hgone] at h
    cases h
    rw [hreaches.2]
    rfl
  | sweeping since =>
    obtain rfl : r = .sweep := hreaches
    cases hid
  | liningUp u => cases h

/-- A request that has found its session found one that is on the list. -/
theorem eq_seeking_of_liningUp {u : SourceId} (h : (s.proceed k p).2 = .paused (.liningUp u)) :
    p = .seeking u .poll ∧ s.registry.live? u ≠ none := by
  cases p with
  | seeking v aim =>
    cases hlive : s.registry.live? v with
    | none =>
      rw [proceed_seeking_of_absent hlive] at h
      exact absurd h (not_lining_missed s aim u)
    | some e =>
      cases hstale : s.registry.isStale s.now e with
      | true =>
        rw [proceed_seeking_of_idle hlive hstale] at h
        cases h
      | false =>
        rw [proceed_seeking_of_live hlive hstale] at h
        cases aim with
        | opening | subscribe | unsubscribe | lookup => cases h
        | poll =>
          cases h
          exact ⟨rfl, by simp [hlive]⟩
  | expiring v aim => exact absurd h (not_lining_missed s aim u)
  | enlisting | sweeping | liningUp => cases h
  | closing v =>
    simp only [proceed] at h
    split at h <;> cases h

end Server

namespace Traffic

variable {t₀ t t' t'' : Traffic} {config : ServerConfig} {epoch : Epoch} {ms ms' : List Move}
  {m : Move} {k since : Nat} {u : SourceId} {r : Server.Request} {id : SessionId}
  {a : Outcome Served} {ttl : Duration}

/-! ### Who is answered -/

/-- Whether a move answers a request. -/
inductive Answers (t : Traffic) : Move → Nat → Outcome Served → Prop where
  | atOnce (r : Server.Request) (a : Outcome Served) (h : t.server.receive r = .answered a) :
    Answers t (.arrive r) t.ticket a
  | goesOn (k : Nat) (p : Pause) (a : Outcome Served) (hp : t.paused.lookup k = some p)
      (h : (t.server.proceed k p).2 = .answered a) : Answers t (.resume k) k a
  | polls (k : Nat) (q : Poll) (b : Outcome Batch) (hq : t.server.poll? k = some q)
      (h : (t.server.advancePoll k).2 = some b) : Answers t (.resume k) k (b.map .batch)

theorem answers_of_step (h : t.Sound) (ht : t.step m = some t') (ha : .answered k a ∈ t'.told) :
    .answered k a ∈ t.told ∨ t.Answers m k a := by
  cases happens_of_step ht with
  | arrives r hr =>
    rcases answered_settle ha with hnoted | ⟨rfl, hst⟩
    · rw [told_note] at hnoted
      exact .inl ((List.mem_append.1 hnoted).resolve_right (by simp))
    · exact .inr (.atOnce r a hst)
  | goesOn j p hp =>
    refine (answered_settle ha).imp_right ?_
    rintro ⟨rfl, hst⟩
    exact .goesOn k p a hp hst
  | polls j q hj hq =>
    obtain ⟨e, he⟩ := h.orderly.entry_of_poll hq
    rw [told_note] at ha
    refine (List.mem_append.1 ha).imp_right fun hnew => ?_
    rcases mem_pollNotes he hnew with hturn | ⟨b, hb, hend | hend⟩
    · cases hturn
    · cases hend
    · cases hend
      exact .polls k q b hq hb
  | leaves | hangsUp | publishes =>
    rw [told_note] at ha
    exact .inl ((List.mem_append.1 ha).resolve_right (by simp))
  | passes => exact .inl ha

/-- Who is answered later has stopped before, or polls. -/
theorem Regular.reaches_of_answers (h : Regular ttl t) (ht : t.step m = some t')
    (hr : (k, r) ∈ t'.arrivals) (ha : t.Answers m k a) :
    (m = .arrive r ∧ t.server.receive r = .answered a) ∨
    (∃ p, t.paused.lookup k = some p ∧ m = .resume k ∧ r.Reaches p ∧
      (t.server.proceed k p).2 = .answered a) ∨
    ∃ q b, t.server.poll? k = some q ∧ r.Reaches (.liningUp q.source) ∧
      (t.server.advancePoll k).2 = some b ∧ a = b.map .batch := by
  have h' := h.step ht
  cases ha with
  | atOnce r' a hst =>
    have hnew : (t.ticket, r') ∈ t'.arrivals := by
      rw [arrivals_step h.toSound ht]
      exact List.mem_append_right _ List.mem_cons_self
    obtain rfl := h'.traced.unique hr hnew
    exact .inl ⟨rfl, hst⟩
  | goesOn k p a hp hst =>
    obtain ⟨r', hr', hreaches⟩ := h.traced.paused _ (Tickets.mem_of_lookup hp)
    obtain rfl := h'.traced.unique hr (arrivals_mono ht hr')
    exact .inr (.inl ⟨p, hp, rfl, hreaches, hst⟩)
  | polls k q b hq hb =>
    obtain ⟨r', hr', hreaches⟩ := h.traced.polls _ (Server.mem_polls_of_poll? hq)
    obtain rfl := h'.traced.unique hr (arrivals_mono ht hr')
    exact .inr (.inr ⟨q, b, hq, hreaches, hb, rfl⟩)

/-! ### Sessions that have ended -/

/-- Whether a session has ended, and whoever has asked for it since a ticket is denied it. -/
structure Denies (u : SourceId) (since : Nat) (t : Traffic) : Prop where
  ended : t.server.registry.ToldEnded u
  /-- Nobody has found it since then. -/
  paused : ∀ k, since ≤ k → (k, .liningUp u) ∉ t.paused
  polls : ∀ q ∈ t.server.polls, since ≤ q.1 → q.2.source ≠ u
  answered : ∀ k r id a, since ≤ k → (k, r) ∈ t.arrivals → r.current = some id → id.source = u →
    .answered k a ∈ t.told → a = r.denial t.server.epoch

namespace Denies

/-- When a session has ended, nobody has asked for it since. -/
theorem start (h : Regular ttl t) (hu : t.server.registry.ToldEnded u) : Denies u t.ticket t where
  ended := hu
  paused _ hk hp := Nat.not_lt.2 hk
    (h.issued _ (List.mem_append_left _ (List.mem_map_of_mem (f := Prod.fst) hp)))
  polls q hq hk := absurd (h.issued q.1 (List.mem_append_right _ (List.mem_map_of_mem hq)))
    (Nat.not_lt.2 hk)
  answered _ _ _ _ hk hr := absurd (h.traced.lt_of_mem hr) (Nat.not_lt.2 hk)

/-- A poll on the session would have had to find it. -/
theorem polls_step (hd : Denies u since t) (h : Regular ttl t) (ht : t.step m = some t') :
    ∀ q ∈ t'.server.polls, since ≤ q.1 → q.2.source ≠ u := by
  intro q hq hk
  cases happens_of_step ht with
  | arrives r hr =>
    rw [arrive, server_settle] at hq
    exact hd.polls q hq hk
  | goesOn k p hp =>
    rw [server_settle] at hq
    by_cases hpolls : (t.server.proceed k p).1.polls = t.server.polls
    · exact hd.polls q (hpolls ▸ hq) hk
    · obtain ⟨v, rfl, hlined⟩ := Server.lineUp_of_proceed hpolls
      rcases List.mem_append.1 (hlined ▸ hq) with hold | hnew
      · exact hd.polls q hold hk
      · cases List.mem_singleton.1 hnew
        rintro rfl
        exact hd.paused k hk (Tickets.mem_of_lookup hp)
  | polls k p hk' hp =>
    obtain ⟨e, he⟩ := h.orderly.entry_of_poll hp
    rcases (h.orderly.pollStep h.ring hp he).mem_polls h.orderly.tickets hp hq
      with ⟨hold, -⟩ | ⟨-, w, rfl⟩
    · exact hd.polls q hold hk
    · exact hd.polls (k, p) (Server.mem_polls_of_poll? hp) hk
  | hangsUp k p hk' hp =>
    have hold : q ∈ (t.server.dropPoll k).polls := hq
    rw [Server.dropPoll_eq hp] at hold
    exact hd.polls q (Tickets.mem_without.1 hold).1 hk
  | leaves | publishes | passes => exact hd.polls q hq hk

/-- Whoever looks for the session does not find it. -/
theorem paused_step (hd : Denies u since t) (h : Regular ttl t) (ht : t.step m = some t') :
    ∀ k, since ≤ k → (k, .liningUp u) ∉ t'.paused := by
  have hgone := hd.ended.live_eq_none h.chronicled
  have hsettle : ∀ (t₁ : Traffic) (j : Nat) (st : Standing), st ≠ .paused (.liningUp u) →
      (∀ k, since ≤ k → (k, .liningUp u) ∉ t₁.paused) →
        ∀ k, since ≤ k → (k, .liningUp u) ∉ (t₁.settle j st).paused := by
    intro t₁ j st hst hold k hk hin
    cases st with
    | inLine | answered => exact hold k hk hin
    | paused p =>
      rcases List.mem_append.1 hin with hin | hnew
      · exact hold k hk hin
      · cases List.mem_singleton.1 hnew
        exact hst rfl
  have htake : ∀ j k, since ≤ k → (k, .liningUp u) ∉ (t.take j).paused :=
    fun j k hk hin => hd.paused k hk (Tickets.mem_without.1 hin).1
  cases happens_of_step ht with
  | arrives r hr => exact hsettle _ _ _ (Server.not_lining_receive _ r u) hd.paused
  | goesOn j p hp =>
    refine hsettle _ _ _ (fun hst => ?_) (htake j)
    exact (Server.eq_seeking_of_liningUp hst).2 hgone
  | leaves j p hp => exact htake j
  | polls | hangsUp | publishes | passes => exact hd.paused

/-- **Whoever asks for the session is denied it.** -/
theorem answered_step (hd : Denies u since t) (h : Regular ttl t) (ht : t.step m = some t') :
    ∀ k r id a, since ≤ k → (k, r) ∈ t'.arrivals → r.current = some id → id.source = u →
      .answered k a ∈ t'.told → a = r.denial t'.server.epoch := by
  rintro k r id a hk hr hid rfl ha
  have hgone := hd.ended.live_eq_none h.chronicled
  rw [(h.settings_step ht).2]
  rcases answers_of_step h.toSound ht ha with hold | hnew
  · obtain ⟨r', hr', -⟩ := h.traced.answered hold
    exact hd.answered k r id a hk (arrived_of_lt h.toSound ht hr (h.traced.lt_of_mem hr')) hid rfl hold
  · rcases h.reaches_of_answers ht hr hnew with ⟨-, hst⟩ | ⟨p, hp, -, hreaches, hst⟩ |
      ⟨q, b, hq, ⟨hnames, -⟩, -⟩
    · exact (Server.eq_denial_of_receive hid hst).2
    · exact Server.eq_denial_of_proceed hreaches hid hgone hst
    · rw [Server.Request.Names, hid] at hnames
      exact absurd (Option.some.inj hnames).symm
        (hd.polls _ (Server.mem_polls_of_poll? hq) hk)

theorem step (hd : Denies u since t) (h : Regular ttl t) (ht : t.step m = some t') :
    Denies u since t' :=
  ⟨h.toldEnded_step ht hd.ended, hd.paused_step h ht, hd.polls_step h ht, hd.answered_step h ht⟩

theorem run (hd : Denies u since t) (h : Regular ttl t) (ht : t.run ms = some t') :
    Denies u since t' := by
  have hkept : Regular ttl t' ∧ Denies u since t' :=
    run_induction (P := fun t => Regular ttl t ∧ Denies u since t) ⟨h, hd⟩
      (fun hkept hstep => ⟨hkept.1.step hstep, hkept.2.step hkept.1 hstep⟩) ht
  exact hkept.2

end Denies

/-! ### Answers that are final -/

/-- Whether a request that has found a session idle comes to end it when it is fresh again. -/
def Overtaken (t : Traffic) (m : Move) (u : SourceId) : Prop :=
  ∃ k aim e, m = .resume k ∧ t.paused.lookup k = some (.expiring u aim) ∧
    t.server.registry.live? u = some e ∧ t.server.registry.isStale t.server.now e = false

/-- Then the session goes on. -/
theorem Overtaken.live (h : t.Overtaken m u) (ht : t.step m = some t') :
    ∃ e, t'.server.registry.live? u = some e := by
  obtain ⟨k, aim, e, rfl, hp, he, hfresh⟩ := h
  rw [resume_of_paused hp] at ht
  obtain rfl := Option.some.inj ht
  refine ⟨e, ?_⟩
  rw [next, server_settle]
  simp only [Server.proceed, Server.withRegistry, Registry.expire, he, hfresh]
  exact he

/-- Whoever comes to end a session leaves it ended, but for that. -/
theorem Regular.ended_of_pause (h : Regular ttl t) {p : Pause} (hp : t.paused.lookup k = some p)
    (ht : t.step (.resume k) = some t') (hu : u ∈ t.server.registry.sources)
    (hends : p = .closing u ∨ ∃ aim, p = .expiring u aim) :
    t'.server.registry.ToldEnded u ∨ t.Overtaken (.resume k) u := by
  have htold : ∀ x ∈ t.news (.resume k), x.source = u → x.isTerminal = true →
      t'.server.registry.ToldEnded u := by
    intro x hx hsource hterminal
    refine ⟨x, ?_, hsource, hterminal⟩
    rw [(tells_news h.toSound ht).sent]
    exact List.mem_append_right _ hx
  simp only [news, hp, Option.map_some, Option.getD_some] at htold
  cases hlive : t.server.registry.live? u with
  | none =>
    exact .inl (h.toldEnded_step ht ((Registry.toldEnded_iff h.chronicled hu).2 hlive))
  | some e =>
    rcases hends with rfl | ⟨aim, rfl⟩
    · exact .inl (htold (.invalidated u) (by simp [Pause.news, hlive]) rfl rfl)
    · cases hstale : t.server.registry.isStale t.server.now e with
      | true => exact .inl (htold (.expired u) (by simp [Pause.news, hlive, hstale]) rfl rfl)
      | false => exact .inr ⟨k, aim, e, rfl, hp, hlive, hstale⟩

/-- Who looks for a session and is refused it does not find it. -/
theorem not_live_of_seeking {s : Server} {aim : Aim}
    (hst : (s.proceed k (.seeking u aim)).2 = .answered (.error .invalidSession)) :
    s.registry.live? u = none := by
  cases hlive : s.registry.live? u with
  | none => rfl
  | some e =>
    cases hstale : s.registry.isStale s.now e with
    | true =>
      rw [Server.proceed_seeking_of_idle hlive hstale] at hst
      cases hst
    | false =>
      rw [Server.proceed_seeking_of_live hlive hstale] at hst
      cases aim <;> cases hst

/-- A poll that is refused finds its session ended. -/
theorem Regular.not_live_of_poll (h : Regular ttl t) {q : Poll} (hq : t.server.poll? k = some q)
    (hb : (t.server.advancePoll k).2 = some (.error .invalidSession)) :
    t.server.registry.live? q.source = none := by
  obtain ⟨e, he⟩ := h.orderly.entry_of_poll hq
  have hstep := h.orderly.pollStep h.ring hq he
  rw [hb] at hstep
  generalize (t.server.advancePoll k).1 = s' at hstep
  cases hstep with
  | refuses hturn hlag hover hended =>
    have hsettled : e.session.invalidated = !e.listed := h.settled.of_entry he
    rw [hended] at hsettled
    rw [Registry.live?, he, Option.filter_eq_none_iff]
    rintro e' he'
    cases he'
    simpa using hsettled.symm

/-- **Whoever is refused a session comes when it has ended**, or is overtaken. -/
theorem Regular.ended_of_refused (h : Regular ttl t) (ht : t.step m = some t')
    (hr : (k, r) ∈ t'.arrivals) (hid : r.current = some id) (hepoch : id.epoch = t.server.epoch)
    (hthere : id.source ∈ t.server.registry.sources) (ha : t.Answers m k a)
    (hrefused : a = .error .invalidSession ∨ a = .ok .done ∧ r = .closeSession (some id)) :
    t'.server.registry.ToldEnded id.source ∨ t.Overtaken m id.source := by
  have hnames : ∀ {u}, r.Names u → u = id.source := by
    intro u hu
    rw [Server.Request.Names, hid] at hu
    exact (Option.some.inj hu).symm
  have hgone : t.server.registry.live? id.source = none →
      t'.server.registry.ToldEnded id.source := fun hlive =>
    h.toldEnded_step ht ((Registry.toldEnded_iff h.chronicled hthere).2 hlive)
  rcases h.reaches_of_answers ht hr ha with ⟨-, hst⟩ | ⟨p, hp, rfl, hreaches, hst⟩ |
    ⟨q, b, hq, hreaches, hb, rfl⟩
  · exact absurd hepoch (Server.eq_denial_of_receive hid hst).1
  · cases p with
    | seeking u aim =>
      obtain rfl := hnames hreaches.1
      rcases hrefused with rfl | ⟨rfl, rfl⟩
      · exact .inl (hgone (not_live_of_seeking hst))
      · cases hreaches.2
    | expiring u aim =>
      obtain rfl := hnames hreaches.1
      exact h.ended_of_pause hp ht hthere (.inr ⟨aim, rfl⟩)
    | closing u =>
      obtain rfl := hnames hreaches.1
      exact h.ended_of_pause hp ht hthere (.inl rfl)
    | enlisting e =>
      cases hst
      rcases hrefused with hsession | ⟨hsession, -⟩ <;> cases hsession
    | sweeping since =>
      obtain rfl : r = .sweep := hreaches
      cases hid
    | liningUp u => cases hst
  · have hsource := hnames hreaches.1
    rcases hrefused with hbatch | ⟨hbatch, -⟩
    · cases b with
      | ok => cases hbatch
      | error fault =>
        cases hbatch
        exact .inl (hgone (hsource ▸ h.not_live_of_poll hq hb))
    · cases b <;> cases hbatch

/-- **A refusal is final.**  Once a request has been refused a session of this process, or has ended
it, whoever asks for it from then on is denied it; but for a request that was overtaken, whose
session goes on. -/
theorem final (hnew : Traffic.new config epoch = .ok t₀) (hrun : t₀.run ms = some t)
    (ht : t.step m = some t') (ha : t.Answers m k a) (hr : (k, r) ∈ t'.arrivals)
    (hid : r.current = some id) (hepoch : id.epoch = t.server.epoch)
    (hthere : id.source ∈ t.server.registry.sources)
    (hrefused : a = .error .invalidSession ∨ a = .ok .done ∧ r = .closeSession (some id)) :
    (t.Overtaken m id.source ∧ ∃ e, t'.server.registry.live? id.source = some e) ∨
      ¬ t.Overtaken m id.source ∧
        ∀ ms' t'', t'.run ms' = some t'' → Denies id.source t'.ticket t'' := by
  have h := (Regular.new hnew).run hrun
  have h' := h.step ht
  by_cases hover : t.Overtaken m id.source
  · exact .inl ⟨hover, hover.live ht⟩
  · have hended := (h.ended_of_refused ht hr hid hepoch hthere ha hrefused).resolve_right hover
    exact .inr ⟨hover, fun ms' t'' hlater => (Denies.start h' hended).run h' hlater⟩

/-- While a poll waits, another request finds its session idle; then the poll gets an event. -/
def Sample.refreshed : List Move := overdue ++ [publish, .pass 100000000000, .resume 1]

/-- **A session can go on after it was refused.** -/
theorem refused_and_live : ∃ t₀ t t' e, Traffic.new Sample.brief Sample.epoch = .ok t₀ ∧
    t₀.run Sample.refreshed = some t ∧ t.step (.resume 2) = some t' ∧
    t'.answer? 2 = some (.error .invalidSession) ∧
    t'.server.registry.live? Sample.source = some e := by
  have hrun : (Sample.play Sample.brief Sample.refreshed).bind (fun t =>
      (t.step (.resume 2)).bind fun t' => (t'.answer? 2).bind fun a =>
        (t'.server.registry.live? Sample.source).map fun e => (a, e.queue)) =
      some (.error .invalidSession, []) := by
    rfl
  obtain ⟨t, hplay, hrun⟩ := Option.bind_eq_some_iff.1 hrun
  obtain ⟨t', ht, hrun⟩ := Option.bind_eq_some_iff.1 hrun
  obtain ⟨a, ha, hrun⟩ := Option.bind_eq_some_iff.1 hrun
  obtain ⟨e, he, heq⟩ := Option.map_eq_some_iff.1 hrun
  cases (Prod.mk.inj heq).1
  obtain ⟨t₀, hnew, hstart⟩ := Sample.run_of_play hplay
  exact ⟨t₀, t, t', e, hnew, hstart, ht, ha, he⟩

end Traffic
end EventRelay

/-
# When sessions expire

A session expires at one of two places: a sweep finds it idle, or a request that has found
it idle comes to end it.  Both ask for how long it has been idle; only the sweep asks
whether somebody polls.  So no session expires before it has been idle for its time to
live, and while somebody polls it expires exactly when a request that has found it idle
goes on and it still is so (`Traffic.expires_iff`).

A poll starts the idle time anew when it looks its session up and when it gives a batch,
and not in between: a poll that waits longer than the time to live makes its session one
that the next request ends under it (`Traffic.expires_under_poll`).
-/

import EventRelay.Proofs.Server.Telling

namespace EventRelay

namespace Traffic

variable {t₀ t t' : Traffic} {config : ServerConfig} {epoch : Epoch} {ms : List Move} {m : Move}
  {u : SourceId}

/-- Whether a move makes a session expire: it is a request that has found it idle, or a sweep,
and the session has been idle for its time to live; a sweep passes over those with a poll. -/
def Expires (t : Traffic) (m : Move) (u : SourceId) : Prop :=
  ∃ k e, m = .resume k ∧ t.server.registry.live? u = some e ∧
    ((∃ aim, t.paused.lookup k = some (.expiring u aim) ∧
        t.server.registry.ttl.nanos ≤ e.idle t.server.now) ∨
      ∃ since, t.paused.lookup k = some (.sweeping since) ∧ e.isPolling = false ∧
        t.server.registry.ttl.nanos ≤ e.idle since)

/-- What is told of a session that expires. -/
theorem expired_mem_news_iff (h : t.Sound) : .expired u ∈ t.news m ↔ t.Expires m u := by
  cases m with
  | arrive | abort | publish | pass =>
    refine iff_of_false List.not_mem_nil ?_
    rintro ⟨k, e, hk, -⟩
    cases hk
  | resume k =>
    have hlookup : t.Expires (.resume k) u ↔ ∃ e, t.server.registry.live? u = some e ∧
        ((∃ aim, t.paused.lookup k = some (.expiring u aim) ∧
            t.server.registry.ttl.nanos ≤ e.idle t.server.now) ∨
          ∃ since, t.paused.lookup k = some (.sweeping since) ∧ e.isPolling = false ∧
            t.server.registry.ttl.nanos ≤ e.idle since) := by
      constructor
      · rintro ⟨k', e, hk, hlive, hcases⟩
        cases hk
        exact ⟨e, hlive, hcases⟩
      · rintro ⟨e, hlive, hcases⟩
        exact ⟨k, e, rfl, hlive, hcases⟩
    rw [hlookup, news]
    cases hp : t.paused.lookup k with
    | none => simp
    | some p =>
      cases p with
      | seeking | enlisting | liningUp => simp [Pause.news]
      | closing v =>
        simp only [Option.map_some, Option.getD_some, Pause.news]
        split <;> simp
      | expiring v aim =>
        by_cases huv : u = v
        · subst huv
          cases hlive : t.server.registry.live? u <;> simp [Pause.news, hlive, Registry.isStale]
        · have hvu : v ≠ u := fun heq => huv heq.symm
          simp only [Option.map_some, Option.getD_some, Pause.news]
          split <;> simp [huv, hvu]
      | sweeping since =>
        have hmem : u ∈ t.server.registry.sweepable since ↔ _ :=
          Registry.mem_sweepable h.orderly.sources
        simp [Pause.news, hmem]

/-- **When a session expires.** -/
theorem tells_step (h : t.Sound) (ht : t.step m = some t') :
    ∃ told, t.server.registry.Tells t'.server.registry told ∧
      ∀ u, SessionEvent.expired u ∈ told ↔ t.Expires m u :=
  ⟨t.news m, tells_news h ht, fun _ => expired_mem_news_iff h⟩

/-- The time to live stays. -/
theorem ttl_run (h : t.Sound) (hrun : t.run ms = some t') :
    t'.server.registry.ttl = t.server.registry.ttl := by
  have hkept : t'.Sound ∧ t'.server.registry.ttl = t.server.registry.ttl :=
    run_induction (P := fun t₁ => t₁.Sound ∧ t₁.server.registry.ttl = t.server.registry.ttl)
      ⟨h, rfl⟩ (fun hkept hstep => ⟨hkept.1.step hstep,
        (tells_news hkept.1 hstep).ttl.trans hkept.2⟩) hrun
  exact hkept.2

/-- **No session expires early, and one with a poll expires only by a request.**  In any move of
any run the listeners are told that a session has expired only if it was on the list and had
been idle for its time to live.  If somebody polls on it, that is told exactly when a request
that has found the session idle comes to end it and it still is so; a sweep never tells it. -/
theorem expires_iff (hnew : Traffic.new config epoch = .ok t₀) (hrun : t₀.run ms = some t)
    (ht : t.step m = some t') :
    ∃ told, t'.server.registry.feed.sent = t.server.registry.feed.sent ++ told ∧
      ∀ u, (SessionEvent.expired u ∈ told → ∃ e, t.server.registry.live? u = some e ∧
          config.sessionTtl.nanos ≤ t.server.now - e.lastAccess) ∧
        ∀ e, t.server.registry.live? u = some e → e.isPolling = true →
          (SessionEvent.expired u ∈ told ↔ ∃ k aim, m = .resume k ∧
            t.paused.lookup k = some (.expiring u aim) ∧
            config.sessionTtl.nanos ≤ t.server.now - e.lastAccess) := by
  have hs₀ := Sound.new hnew
  have hs := hs₀.run hrun
  have httl : t.server.registry.ttl = config.sessionTtl := by
    rw [ttl_run hs₀ hrun]
    obtain ⟨log, -, rfl⟩ := eq_of_new hnew
    rfl
  obtain ⟨told, htold, hexpired⟩ := tells_step hs ht
  refine ⟨told, htold.sent, fun u => ⟨fun hin => ?_, fun e hlive hpolling => ?_⟩⟩
  · obtain ⟨k, e, -, hlive, ⟨aim, -, hidle⟩ | ⟨since, hsweep, -, hidle⟩⟩ := (hexpired u).1 hin
    · exact ⟨e, hlive, httl ▸ hidle⟩
    · -- a sweep goes by the instant at which it was asked for, which is past
      have hpast : since ≤ t.server.now := hs.fits _ (Tickets.mem_of_lookup hsweep)
      rw [httl] at hidle
      exact ⟨e, hlive, Nat.le_trans hidle (Nat.sub_le_sub_right hpast _)⟩
  · rw [hexpired u]
    constructor
    · rintro ⟨k, e', rfl, hlive', ⟨aim, hfound, hidle⟩ | ⟨since, -, hnobody, -⟩⟩
      · cases hlive.symm.trans hlive'
        exact ⟨k, aim, rfl, hfound, httl ▸ hidle⟩
      · cases hlive.symm.trans hlive'
        rw [hpolling] at hnobody
        cases hnobody
    · rintro ⟨k, aim, rfl, hfound, hidle⟩
      exact ⟨k, e, rfl, hlive, .inl ⟨aim, hfound, httl.symm ▸ hidle⟩⟩

/-- Settings by which a session expires after a second. -/
def Sample.brief : ServerConfig := { ServerConfig.default with sessionTtl := .ofSeconds 1 }

/-- While a poll waits, another request finds its session idle. -/
def Sample.overdue : List Move :=
  waiting ++ [.pass 2000000000, .arrive (.subscribe (some id) typeId), .resume 2]

/-- What is told when that request goes on. -/
theorem exists_overdue : ∃ t₀ t t' e, Traffic.new Sample.brief Sample.epoch = .ok t₀ ∧
    t₀.run Sample.overdue = some t ∧ t.step (.resume 2) = some t' ∧
    t.server.registry.live? Sample.source = some e ∧ e.isPolling = true ∧
    t'.server.registry.feed.sent =
      t.server.registry.feed.sent ++ [.expired Sample.source] := by
  have hrun : (Sample.play Sample.brief Sample.overdue).bind (fun t =>
      (t.step (.resume 2)).bind fun t' =>
        (t.server.registry.live? Sample.source).map fun e =>
          (e.isPolling, t.server.registry.feed.sent, t'.server.registry.feed.sent)) =
      some (true, [.created Sample.source], [.created Sample.source, .expired Sample.source]) := by
    decide
  obtain ⟨t, hplay, hrun⟩ := Option.bind_eq_some_iff.1 hrun
  obtain ⟨t', ht, hrun⟩ := Option.bind_eq_some_iff.1 hrun
  obtain ⟨e, he, heq⟩ := Option.map_eq_some_iff.1 hrun
  obtain ⟨hpolling, heq⟩ := Prod.mk.inj heq
  obtain ⟨hsent, hsent'⟩ := Prod.mk.inj heq
  obtain ⟨t₀, hnew, hstart⟩ := Sample.run_of_play hplay
  exact ⟨t₀, t, t', e, hnew, hstart, ht, he, hpolling, by rw [hsent, hsent']; rfl⟩

theorem expires_iff_sample : ∃ t₀ t t' told, Traffic.new Sample.brief Sample.epoch = .ok t₀ ∧
    t₀.run Sample.overdue = some t ∧ t.step (.resume 2) = some t' ∧
    t'.server.registry.feed.sent = t.server.registry.feed.sent ++ told ∧
    ∃ e, t.server.registry.live? Sample.source = some e ∧ e.isPolling = true ∧
      (SessionEvent.expired Sample.source ∈ told ↔ ∃ k aim, Move.resume 2 = .resume k ∧
        t.paused.lookup k = some (.expiring Sample.source aim) ∧
        Sample.brief.sessionTtl.nanos ≤ t.server.now - e.lastAccess) := by
  obtain ⟨t₀, t, t', e, hnew, hstart, ht, he, hpolling, -⟩ := exists_overdue
  obtain ⟨told, hsent, hall⟩ := expires_iff hnew hstart ht
  exact ⟨t₀, t, t', told, hnew, hstart, ht, hsent, e, he, hpolling, (hall _).2 e he hpolling⟩

/-- **A session can expire under a poll.** -/
theorem expires_under_poll : ¬ ∀ t₀ t t' ms m u e,
    Traffic.new Sample.brief Sample.epoch = .ok t₀ → t₀.run ms = some t → t.step m = some t' →
    t.server.registry.live? u = some e → e.isPolling = true →
    t'.server.registry.feed.sent ≠ t.server.registry.feed.sent ++ [.expired u] := by
  intro hnever
  obtain ⟨t₀, t, t', e, hnew, hstart, ht, he, hpolling, hsent⟩ := exists_overdue
  exact hnever t₀ t t' _ _ _ e hnew hstart ht he hpolling hsent

end Traffic
end EventRelay

/-
# Overflows

A poll looks twice at what the log still has for its session: when it gets the turn, and when
its wait is over.  `Traffic.overflowsExactly` says of every run:

| of | is said |
| --- | --- |
| a poll that looks | it is answered an overflow in that very move exactly if its session lags, and nothing else is ever answered so |
| a session that lags | some event that it has not consumed is no longer in the ring |
| an overflow | it leaves the session as it was, but at the last event |
| where a session stands | no move takes it back |
| two overflows of one session | more than `capacity` events are published between them |

None of this asks whether the session has ended.
-/

import EventRelay.Proofs.Server.Resumable
import EventRelay.Proofs.Server.Runs

namespace EventRelay

/-- Whether a failure is that of a request which has not lined up. -/
def Fault.IsRefusal (fault : Fault) : Prop :=
  fault = .invalidSession ∨ fault = .noActiveSession ∨ fault = .sessionActive

namespace Server

variable {s : Server} {k : Nat} {p : Poll} {e : Entry}

/-- A poll whose session lags when it gets the turn does not wait. -/
theorem advancePoll_of_lags (hp : s.poll? k = some p) (he : s.registry.entry? p.source = some e)
    (hphase : p.phase = .queued) (hholds : e.holds k = true)
    (hlow : Log.emptyCursor ≤ e.session.lastSequence) (hlag : s.Lags e.session) :
    s.advancePoll k = ((s.withRegistry (s.resynced p.source)).dropPoll k,
      some (.error (s.log.overflow e.session.lastSequence))) := by
  have hturn : s.registry.holds p.source k = true := by
    simpa [Registry.holds, he] using hholds
  simp only [advancePoll, hp, hphase, hturn, if_true, takeTurn, he, ensureRetained_eq hlow,
    if_pos hlag]
  rfl

/-- A request that is answered before it looks for its session is refused. -/
theorem eq_refused_of_seek {current : Option SessionId} {aim : Aim} {a : Outcome Served}
    (h : s.seek current aim = .answered a) : a = .error .invalidSession := by
  unfold seek resolveNamed resolve at h
  cases current with
  | none =>
    cases h
    rfl
  | some id =>
    by_cases hepoch : id.epoch = s.epoch
    · simp [hepoch] at h
    · simp only [hepoch, if_false, Standing.answered.injEq] at h
      exact h.symm

/-- A request that fails when it arrives is refused. -/
theorem isRefusal_receive {r : Request} {fault : Fault}
    (h : s.receive r = .answered (.error fault)) : fault.IsRefusal := by
  cases r with
  | openSession current fresh =>
    cases current with
    | none => cases h
    | some id =>
      simp only [receive] at h
      split at h <;> cases h
  | closeSession current =>
    cases current with
    | none =>
      cases h
      exact .inr (.inl rfl)
    | some id =>
      by_cases hepoch : id.epoch = s.epoch
      · simp [receive, resolve, hepoch] at h
      · simp only [receive, resolve, hepoch, if_false, Standing.answered.injEq,
          Except.error.injEq] at h
        exact .inl h.symm
  | subscribe | unsubscribe | lookup | poll =>
    cases eq_refused_of_seek h
    exact .inl rfl
  | sweep => cases h

theorem isRefusal_missed {aim : Aim} {fault : Fault}
    (h : s.missed aim = .answered (.error fault)) : fault.IsRefusal := by
  cases aim with
  | opening => cases h
  | subscribe | unsubscribe | lookup | poll =>
    cases h
    exact .inl rfl

/-- A request that fails when it goes on from a pause is refused. -/
theorem isRefusal_proceed {p : Pause} {fault : Fault}
    (h : (s.proceed k p).2 = .answered (.error fault)) : fault.IsRefusal := by
  cases p with
  | seeking source aim =>
    simp only [proceed] at h
    split at h
    · exact isRefusal_missed h
    · cases h
    · cases aim with
      | opening =>
        cases h
        exact .inr (.inr rfl)
      | subscribe | unsubscribe | lookup | poll => cases h
  | expiring source aim => exact isRefusal_missed h
  | enlisting | sweeping | liningUp => cases h
  | closing source =>
    simp only [proceed] at h
    split at h
    · cases h
    · cases h
      exact .inl rfl

end Server

namespace Traffic

variable {t₀ t t' : Traffic} {config : ServerConfig} {epoch : Epoch} {ms : List Move} {m : Move}
  {k : Nat} {u : SourceId} {session : Session}

/-- Whether the wait of the poll of a ticket is over when it goes on. -/
def Drains (t : Traffic) (k : Nat) (session : Session) : Prop :=
  ∃ p e, t.server.poll? k = some p ∧ t.server.registry.entry? p.source = some e ∧
    e.session = session ∧ Server.HasTurn k p e ∧ t.server.WaitOver p session

/-- Whether the poll of a ticket looks at what the log has for its session when it goes on. -/
def Looks (t : Traffic) (k : Nat) (session : Session) : Prop :=
  t.TakesTurn k session ∨ t.Drains k session

/-- Who looks for a session that is there. -/
theorem Looks.entry (hl : t.Looks k session) :
    ∃ p e, t.server.poll? k = some p ∧ t.server.registry.entry? p.source = some e ∧
      e.session = session ∧ session.source = p.source := by
  rcases hl with ⟨p, e, hp, he, rfl, -⟩ | ⟨p, e, hp, he, rfl, -⟩
  · exact ⟨p, e, hp, he, rfl, Registry.source_of_entry he⟩
  · exact ⟨p, e, hp, he, rfl, Registry.source_of_entry he⟩

theorem Looks.standsAt (hl : t.Looks k session) : t.StandsAt session.source session.lastSequence := by
  obtain ⟨p, e, -, he, rfl, hsource⟩ := hl.entry
  exact hsource ▸ standsAt_of_entry he

/-- **Whoever looks for a session that lags is answered an overflow at once.** -/
theorem Looks.overflows (h : t.Sound) (hl : t.Looks k session) (hlag : t.server.Lags session) :
    ∃ p e, t.server.poll? k = some p ∧ t.server.registry.entry? p.source = some e ∧
      e.session = session ∧ t.server.advancePoll k =
        ((t.server.withRegistry (t.server.resynced p.source)).dropPoll k,
          some (.error (t.server.log.overflow session.lastSequence))) := by
  rcases hl with ⟨p, e, hp, he, rfl, hphase, hholds⟩ | ⟨p, e, hp, he, rfl, hturn, hover⟩
  · have hlow := (h.orderly.level_of_entry he).1
    exact ⟨p, e, hp, he, rfl, Server.advancePoll_of_lags hp he hphase hholds hlow hlag⟩
  · refine ⟨p, e, hp, he, rfl, ?_⟩
    have hstep := h.orderly.pollStep h.ring hp he
    generalize t.server.advancePoll k = result at hstep ⊢
    obtain ⟨s', answer⟩ := result
    cases hstep with
    | stays hphase hnone =>
      rcases hturn with hne | hholds
      · exact absurd hphase hne
      · rw [hholds] at hnone
        cases hnone
    | waits _ w hw | timesOut _ w hw => cases hover.symm.trans hw
    | refuses _ hnear | consumes _ hnear => exact absurd hlag hnear
    | overflows => rfl

/-- **When an overflow is answered.** -/
theorem answers_overflow_iff (h : t.Sound) {cursor last : Int} {capacity : Nat} :
    t.Answers m k (.error (.overflow cursor last capacity)) ↔ m = .resume k ∧
      ∃ session, t.Looks k session ∧ t.server.Lags session ∧ cursor = t.server.log.cursor ∧
        last = session.lastSequence ∧ capacity = t.server.log.capacity := by
  constructor
  · intro ha
    generalize hfault : Except.error (Fault.overflow cursor last capacity) = a at ha
    cases ha with
    | atOnce r a hst =>
      subst hfault
      rcases Server.isRefusal_receive hst with h | h | h <;> cases h
    | goesOn k p a hp hst =>
      subst hfault
      rcases Server.isRefusal_proceed hst with h | h | h <;> cases h
    | polls k q b hq hb =>
      refine ⟨rfl, ?_⟩
      obtain ⟨e, he⟩ := h.orderly.entry_of_poll hq
      have hstep := h.orderly.pollStep h.ring hq he
      rw [hb] at hstep
      generalize (t.server.advancePoll k).1 = s' at hstep
      cases hstep with
      | timesOut | refuses | consumes => cases hfault
      | overflows hturn hlag hover =>
        cases hfault
        refine ⟨e.session, ?_, hlag, rfl, rfl, rfl⟩
        rcases hover with hphase | hover
        · exact .inl ⟨q, e, hq, he, rfl, hphase, h.orderly.holds_of_hasTurn hq he hturn⟩
        · exact .inr ⟨q, e, hq, he, rfl, hturn, hover⟩
  · rintro ⟨rfl, session, hl, hlag, rfl, rfl, rfl⟩
    obtain ⟨p, e, hp, -, -, hadvance⟩ := hl.overflows h hlag
    exact .polls k p _ hp (by rw [hadvance])

/-- **What an overflow does to its session.** -/
theorem Looks.resyncs (h : t.Sound) (hl : t.Looks k session) (hlag : t.server.Lags session)
    (ht : t.step (.resume k) = some t') :
    t'.server.log = t.server.log ∧ ∃ e, t.server.registry.entry? session.source = some e ∧
      e.session = session ∧ t'.server.registry.entry? session.source = some
        { e with
          session := { session with lastSequence := t.server.log.cursor }
          queue := e.queue.filter (· ≠ k) } := by
  obtain ⟨p, e, hp, he, rfl, hadvance⟩ := hl.overflows h hlag
  have hstep := h.orderly.pollStep h.ring hp he
  cases happens_of_step ht with
  | goesOn _ p' hp' => cases (h.paused_eq_none hp).symm.trans hp'
  | polls _ q hk hq =>
    cases hp.symm.trans hq
    refine ⟨hstep.steady.log, e, Registry.source_of_entry he ▸ he, rfl, ?_⟩
    have hresynced := Registry.entry_release (Registry.entry_update he t.server.log.cursor) k
    simp only [note, hadvance]
    rw [Server.dropPoll_withRegistry hp]
    exact (congrArg (Registry.entry? _) (Registry.source_of_entry he)).trans hresynced

/-- No session goes back in a run. -/
theorem StandsAt.run (hs : t.Sound) (hrun : t.run ms = some t') {n : Int} (hn : t.StandsAt u n) :
    ∃ n', t'.StandsAt u n' ∧ n ≤ n' := by
  have hkept : t'.Sound ∧ ∃ n', t'.StandsAt u n' ∧ n ≤ n' := by
    refine run_induction (P := fun t => t.Sound ∧ ∃ n', t.StandsAt u n' ∧ n ≤ n')
      ⟨hs, n, hn, Int.le_refl n⟩ ?_ hrun
    rintro t₁ m t₂ ⟨hs₁, n₁, hn₁, hle⟩ ht
    obtain ⟨n₂, hn₂, hnext⟩ := hn₁.step hs₁ ht
    exact ⟨hs₁.step ht, n₂, hn₂, Int.le_trans hle hnext⟩
  exact hkept.2

/-- The room for events stays. -/
theorem capacity_run (hs : t.Sound) (hrun : t.run ms = some t') :
    t'.server.log.capacity = t.server.log.capacity := by
  have hstep : ∀ {t m t'}, Traffic.Sound t → t.step m = some t' →
      t'.server.log.capacity = t.server.log.capacity := by
    intro t m t' hs ht
    cases happens_of_step ht with
    | arrives r hr =>
      rw [arrive, server_settle]
      rfl
    | goesOn k p hp =>
      rw [server_settle]
      exact congrArg Log.capacity (Server.steady_proceed t.server k p).log
    | polls k p hk hp =>
      obtain ⟨e, he⟩ := hs.orderly.entry_of_poll hp
      exact congrArg Log.capacity (hs.orderly.pollStep hs.ring hp he).steady.log
    | hangsUp k p hk hp => exact congrArg Log.capacity (Server.steady_dropPoll t.server k).log
    | leaves | publishes | passes => rfl
  have hkept : t'.Sound ∧ t'.server.log.capacity = t.server.log.capacity :=
    run_induction (P := fun t₁ => t₁.Sound ∧ t₁.server.log.capacity = t.server.log.capacity)
      ⟨hs, rfl⟩ (fun hkept ht => ⟨hkept.1.step ht, (hstep hkept.1 ht).trans hkept.2⟩) hrun
  exact hkept.2

/-- **Between two overflows of one session** more events are published than the log has room for. -/
theorem lt_events_of_overflows (h : t.Sound) (hl : t.Looks k session) (hlag : t.server.Lags session)
    (ht : t.step (.resume k) = some t') {t'' : Traffic} (hrun : t'.run ms = some t'') {k' : Nat}
    {session' : Session} (hl' : t''.Looks k' session') (hsource : session'.source = session.source)
    (hlag' : t''.server.Lags session') :
    t.server.log.capacity < (Move.events t'.published.length ms).length := by
  have h' := h.step ht
  obtain ⟨hlog, e, -, -, he'⟩ := hl.resyncs h hlag ht
  obtain ⟨n, hn, hle⟩ := (standsAt_of_entry he').run h' hrun
  have hstands := StandsAt.unique (h'.run hrun) hn (hsource ▸ hl'.standsAt)
  have hpublished := congrArg List.length (published_run h' hrun)
  have hcursor := h'.ring.cursor_eq
  have hcursor' := (h'.run hrun).ring.cursor_eq
  have hcapacity := capacity_run h' hrun
  rw [hlog] at hcursor hcapacity
  rw [List.length_append] at hpublished
  unfold Server.Lags at hlag'
  rw [hcapacity] at hlag'
  simp only at hle
  omega

/-- What is said of the overflows of a run. -/
structure OverflowsExactly (t₀ : Traffic) (ms : List Move) (t : Traffic) : Prop where
  exact : ∀ {instant k cursor last capacity},
    (instant, .answered k (.error (.overflow cursor last capacity))) ∈ t.notes ↔
      ∃ t₁ t₂ session, t₀.Goes ms t₁ (.resume k) t₂ ∧ t₁.Looks k session ∧
        t₁.server.Lags session ∧ instant = t₁.server.now ∧ cursor = t₁.server.log.cursor ∧
        last = session.lastSequence ∧ capacity = t₁.server.log.capacity
  /-- Who lags when it gets the turn does not wait. -/
  atOnce : ∀ {t₁ t₂ k session}, t₀.Goes ms t₁ (.resume k) t₂ → t₁.TakesTurn k session →
    t₁.server.Lags session → (t₁.server.now, .turned k session) ∈ t.notes ∧
      (t₁.server.now, .answered k (.error (t₁.server.log.overflow session.lastSequence))) ∈ t.notes
  gone : ∀ {t₁ m t₂ k session}, t₀.Goes ms t₁ m t₂ → t₁.Looks k session →
    (t₁.server.Lags session ↔
      ∃ e ∈ t₁.published, session.lastSequence < e.sequence ∧ e ∉ t₁.server.log.slots)
  resynced : ∀ {t₁ t₂ k session}, t₀.Goes ms t₁ (.resume k) t₂ → t₁.Looks k session →
    t₁.server.Lags session → ∃ e e', t₁.server.registry.entry? session.source = some e ∧
      e.session = session ∧ t₂.server.registry.entry? session.source = some e' ∧
      e'.session = { session with lastSequence := t₂.server.log.cursor } ∧ e'.listed = e.listed
  forward : ∀ {t₁ m t₂ u e}, t₀.Goes ms t₁ m t₂ → t₁.server.registry.entry? u = some e →
    ∃ e', t₂.server.registry.entry? u = some e' ∧ e.session.lastSequence ≤ e'.session.lastSequence
  /-- However the run goes on after an overflow. -/
  again : ∀ {t₁ t₂ t₃ k k' session session' later}, t₀.Goes ms t₁ (.resume k) t₂ →
    t₁.Looks k session → t₁.server.Lags session → t₂.run later = some t₃ →
    t₃.Looks k' session' → session'.source = session.source → t₃.server.Lags session' →
    t₁.server.log.capacity < (Move.events t₂.published.length later).length

/-- A session does not go back in a move. -/
theorem entry_forward (hs : t.Sound) (ht : t.step m = some t') {e : Entry}
    (he : t.server.registry.entry? u = some e) : ∃ e', t'.server.registry.entry? u = some e' ∧
      e.session.lastSequence ≤ e'.session.lastSequence := by
  obtain ⟨n, hn, hle⟩ := (standsAt_of_entry he).step hs ht
  have hthere : u ∈ t'.server.registry.sources :=
    sources_step hs ht (Registry.entry_isSome_iff.1 (by rw [he]; rfl))
  obtain ⟨e', he'⟩ := Option.isSome_iff_exists.1 (Registry.entry_isSome_iff.2 hthere)
  refine ⟨e', he', ?_⟩
  rw [StandsAt.unique (hs.step ht) (standsAt_of_entry he') hn]
  exact hle

/-- **Overflows are exact, and can be recovered from**, in every run: see `OverflowsExactly`. -/
theorem overflowsExactly (hnew : Traffic.new config epoch = .ok t₀) (hrun : t₀.run ms = some t) :
    OverflowsExactly t₀ ms t := by
  have hs₀ := Sound.new hnew
  have hempty : t₀.notes = [] := by
    obtain ⟨log, -, rfl⟩ := eq_of_new hnew
    rfl
  refine ⟨fun {instant k cursor last capacity} => ?_, fun {t₁ t₂ k session} hg hturn hlag => ⟨?_, ?_⟩,
    fun {t₁ m t₂ k session} hg hl => ?_, fun {t₁ t₂ k session} hg hl hlag => ?_,
    fun hg he => entry_forward (hg.sound hs₀) hg.step he,
    fun hg hl hlag hlater hl' hsource hlag' =>
      lt_events_of_overflows (hg.sound hs₀) hl hlag hg.step hlater hl' hsource hlag'⟩
  · rw [answered_iff hs₀ hempty hrun]
    constructor
    · rintro ⟨t₁, m, t₂, hg, ha, hnow⟩
      obtain ⟨rfl, session, hl, hlag, hfault⟩ := (answers_overflow_iff (hg.sound hs₀)).1 ha
      exact ⟨t₁, t₂, session, hg, hl, hlag, hnow, hfault⟩
    · rintro ⟨t₁, t₂, session, hg, hl, hlag, hnow, hfault⟩
      exact ⟨t₁, _, t₂, hg,
        (answers_overflow_iff (hg.sound hs₀)).2 ⟨rfl, session, hl, hlag, hfault⟩, hnow⟩
  · exact (turned_iff hs₀ hempty hrun).2 ⟨t₁, t₂, hg, hturn, rfl⟩
  · refine (answered_iff hs₀ hempty hrun).2 ⟨t₁, _, t₂, hg, ?_, rfl⟩
    exact (answers_overflow_iff (hg.sound hs₀)).2 ⟨rfl, session, .inl hturn, hlag, rfl, rfl, rfl⟩
  · obtain ⟨p, e, hp, he, rfl, -⟩ := hl.entry
    have hlow := ((hg.sound hs₀).orderly.level_of_entry he).1
    exact ((hg.sound hs₀).ring.exists_gone_iff hlow).symm
  · obtain ⟨hlog, e, he, hsame, he'⟩ := hl.resyncs (hg.sound hs₀) hlag hg.step
    exact ⟨e, _, he, hsame, he', by rw [hlog], rfl⟩

/-- A poll lags when it gets the turn; the next one on its session lags when its wait is over. -/
def Sample.lagging : List Move :=
  opened ++ [publish, publish, publish, .arrive (.poll (some id)), .resume 1, .resume 1, .resume 1,
    .arrive (.poll (some id)), .resume 2, .resume 2, .resume 2, publish, publish, publish,
    .pass 1000000000, .resume 2]

theorem overflowsExactly_lagging : ∃ t₀ t, Traffic.new Sample.small Sample.epoch = .ok t₀ ∧
    t₀.run Sample.lagging = some t ∧ OverflowsExactly t₀ Sample.lagging t ∧
    t.answer? 1 = some (.error (.overflow 2 (-1) 2)) ∧
    t.answer? 2 = some (.error (.overflow 5 2 2)) := by
  have hrun : (Sample.play Sample.small Sample.lagging).bind (fun t =>
      (t.answer? 1).bind fun a => (t.answer? 2).map fun a' => (a, a')) =
      some (.error (.overflow 2 (-1) 2), .error (.overflow 5 2 2)) := by
    rfl
  obtain ⟨t, hplay, hrun⟩ := Option.bind_eq_some_iff.1 hrun
  obtain ⟨a, ha, hrun⟩ := Option.bind_eq_some_iff.1 hrun
  obtain ⟨a', ha', heq⟩ := Option.map_eq_some_iff.1 hrun
  cases heq
  obtain ⟨t₀, hnew, hstart⟩ := Sample.run_of_play hplay
  exact ⟨t₀, t, hnew, hstart, overflowsExactly hnew hstart, ha, ha'⟩

end Traffic
end EventRelay

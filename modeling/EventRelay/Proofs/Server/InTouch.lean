/-
# A client that keeps in touch keeps its session

Whoever keeps in touch is served: that is `Traffic.Attended.advances` for one request that goes on.
The session is changed by the requests of that client, which leave it live, and by sweeps, which
pass it over because it has been looked up not long ago (`Traffic.Attended.kept_foreign`).  So
every move keeps what `Traffic.Attended` says, and no run in which the client keeps in touch comes to
refuse it or to let the session expire (`Traffic.keepsSession`).

That takes requests that look the session up: with those counted that were given up before, a client
that comes in time is refused all the same (`Traffic.not_kept_unless_looked`).
-/

import EventRelay.Proofs.Server.Attended

namespace EventRelay
namespace Traffic

variable {t₀ t t' : Traffic} {config : ServerConfig} {epoch : Epoch} {ms ms' : List Move} {m : Move}
  {id : SessionId} {u : SourceId} {since : Option Nat} {e e' : Entry} {i j k : Nat}
  {counts : Traffic → Nat → Bool}

namespace Attended

variable (h : t.Attended config id since)
include h

/-- **Whoever comes in time is served.** -/
theorem advances (hk : t.Kept config id i e) (hvalid : config.validate = .ok ())
    (hlt : config.maxWait.nanos < config.sessionTtl.nanos) (hj : t.UnderWay id k)
    (ht : t.step (.resume k) = some t') :
    ∃ e', Advances config id (i + config.leeway) k t t' e' := by
  have hin : t.InTouch id (i + config.leeway) := .inr ⟨k, hj⟩
  have hlisted := hk.listed hin
  have hfresh := h.now_lt hk hvalid hlt hin
  cases hk.stands k hj with
  | seeks aim hp =>
    refine advances_of_seeking h.toSound hk.entry hlisted ?_ hp ht
    rw [h.ttl_eq, Entry.idle]
    omega
  | linesUp hp hnow => exact advances_of_lining h.toSound hk.entry hlisted hnow hp ht
  | queues hq hnow =>
    exact advances_of_poll h.toSound hq rfl hk.entry hlisted (.inl ⟨rfl, hnow⟩) (by omega) ht
  | waits last deadline w hq hs hnow =>
    have hle := hs.due_le (h.config_eq ▸ hvalid)
    rw [h.config_eq] at hle
    exact advances_of_poll h.toSound hq rfl hk.entry hlisted (.inr ⟨last, deadline, w, rfl, hs⟩)
      (by omega) ht

/-- Who is under way once a request of that client has gone on or was given up. -/
theorem eq_of_underWay (hm : m = .resume k ∨ m = .abort k) (hk : t.UnderWay id k)
    (ht : t.step m = some t') (hj : t'.UnderWay id j) : j = k := by
  rcases h.underWay_step ht hj with hold | ⟨r, rfl, -⟩
  · exact h.single hold hk
  · rcases hm with hm | hm <;> cases hm

/-- A request of that client goes on. -/
theorem kept_resume (hk : t.Kept config id i e) (hvalid : config.validate = .ok ())
    (hlt : config.maxWait.nanos < config.sessionTtl.nanos) (hj : t.UnderWay id k)
    (ht : t.step (.resume k) = some t') :
    ∃ i' e', t.heard hasLooked id t' (some i) = some i' ∧ t'.Kept config id i' e' := by
  have hin : t.InTouch id (i + config.leeway) := .inr ⟨k, hj⟩
  have hunexpired := not_expired_step h.toSound ht (h.not_expires hk hvalid hlt hin)
    (hk.unexpired hin)
  have hnow := now_le_step h.toSound ht
  have hpast := hk.past
  obtain ⟨e', hadvances⟩ := h.advances hk hvalid hlt hj ht
  have hrecent := hadvances.recent
  rcases hadvances.stands with ⟨a, ha, -⟩ | ⟨hnone, hstands⟩
  · have hgone : k ∉ t'.tickets := by
      obtain ⟨ns, hns⟩ := notes_step h.toSound ht
      refine (h.traced.step h.toSound ht).gone k (List.mem_filterMap.2 ⟨.answered k a, ?_, rfl⟩)
      rw [told, hns.notes, List.map_append]
      exact List.mem_append_right _ (List.mem_map.2
        ⟨_, List.mem_map_of_mem ((hns.answered k a).2 ha), rfl⟩)
    refine ⟨t.server.now, e', if_pos ((ends_iff h.toSound ht).2 (.inl ⟨k, a, ha, .inl hj.1⟩)),
      hadvances.entry, hnow, hrecent, fun j hj' => ?_, fun _ => hadvances.listed,
      fun _ => hunexpired⟩
    rw [h.eq_of_underWay (.inl rfl) hj ht hj'] at hj'
    exact absurd hj'.2 hgone
  · have hheard : t.heard hasLooked id t' (some i) = some i := by
      refine if_neg fun hends => ?_
      rcases (ends_iff h.toSound ht).1 hends with ⟨j, a, ha, -⟩ | ⟨j, hm, -⟩
      · obtain rfl := ha.eq_of_resume
        exact hnone a ha
      · cases hm
    refine ⟨i, e', hheard, hadvances.entry, by omega, by omega, fun j hj' => ?_,
      fun _ => hadvances.listed, fun _ => hunexpired⟩
    rw [h.eq_of_underWay (.inl rfl) hj ht hj']
    exact hstands

/-- A request of that client is given up. -/
theorem kept_abort (hk : t.Kept config id i e) (hvalid : config.validate = .ok ())
    (hlt : config.maxWait.nanos < config.sessionTtl.nanos) (hj : t.UnderWay id k)
    (ht : t.step (.abort k) = some t') :
    ∃ i' e', t.heard hasLooked id t' (some i) = some i' ∧ t'.Kept config id i' e' := by
  have hin : t.InTouch id (i + config.leeway) := .inr ⟨k, hj⟩
  have hlisted := hk.listed hin
  have hunexpired := not_expired_step h.toSound ht (h.not_expires hk hvalid hlt hin)
    (hk.unexpired hin)
  have hnow := now_le_step h.toSound ht
  have hpast := hk.past
  have hgone : ∀ j, ¬ t'.UnderWay id j := fun j hj' => by
    rw [h.eq_of_underWay (.inr rfl) hj ht hj'] at hj'
    exact not_mem_tickets_of_abort h.toSound ht hj'.2
  have hstands := hk.stands k hj
  have hentry : ∃ e', t'.server.registry.entry? id.source = some e' ∧ e'.listed = true ∧
      e'.lastAccess = e.lastAccess := by
    cases happens_of_step ht with
    | leaves _ p hp => exact ⟨e, hk.entry, hlisted, rfl⟩
    | hangsUp _ q hnone hq =>
      have hsource : q.source = id.source := by
        cases hstands with
        | seeks aim hp | linesUp hp => cases hnone.symm.trans hp
        | queues hq' | waits _ _ _ hq' =>
          cases hq.symm.trans hq'
          rfl
      simp only [note]
      rw [Server.dropPoll_eq hq, hsource]
      exact ⟨_, Registry.entry_release hk.entry k, hlisted, rfl⟩
  obtain ⟨e', he', hlisted', haccess⟩ := hentry
  cases hlooked : t.hasLooked k with
  | false =>
    have hheard : t.heard hasLooked id t' (some i) = some i := by
      refine if_neg fun hends => ?_
      rcases (ends_iff h.toSound ht).1 hends with ⟨j, a, ha, -⟩ | ⟨j, hm, -, hcounts⟩
      · cases ha
      · cases hm
        cases hlooked.symm.trans hcounts
    exact ⟨i, e', hheard, he', by omega, haccess ▸ hk.recent, fun j hj' => absurd hj' (hgone j),
      fun _ => hlisted', fun _ => hunexpired⟩
  | true =>
    have hheard : t.heard hasLooked id t' (some i) = some t.server.now :=
      if_pos ((ends_iff h.toSound ht).2 (.inr ⟨k, rfl, hj.1, hlooked⟩))
    have hrecent : t.server.now ≤ e.lastAccess + config.maxWait.nanos := by
      cases hstands with
      | seeks aim hp =>
        simp only [hasLooked, hp] at hlooked
        cases hlooked
      | linesUp _ heq | queues _ heq => omega
      | waits last deadline w hq hs hle =>
        have hdue := hs.due_le (h.config_eq ▸ hvalid)
        rw [h.config_eq] at hdue
        omega
    exact ⟨t.server.now, e', hheard, he', hnow, haccess ▸ hrecent,
      fun j hj' => absurd hj' (hgone j), fun _ => hlisted', fun _ => hunexpired⟩

/-- A request of that client arrives. -/
theorem kept_arrive (hk : t.Kept config id i e) (hvalid : config.validate = .ok ())
    (hlt : config.maxWait.nanos < config.sessionTtl.nanos) {r : Server.Request}
    (hr : r.current = some id) (ht : t.step (.arrive r) = some t')
    (hsuits : t.Suits config id (some i) (.arrive r)) :
    t.heard hasLooked id t' (some i) = some i ∧ t'.Kept config id i e := by
  obtain ⟨hclose, hnobody, i', hi', hlater⟩ := hsuits hr
  cases hi'
  have hin : t.InTouch id (i + config.leeway) := .inl hlater
  have hunexpired := not_expired_step h.toSound ht (h.not_expires hk hvalid hlt hin)
    (hk.unexpired hin)
  obtain ⟨aim, haim⟩ := Server.receive_of_current hr h.epoch_eq hclose
  have hheard : t.heard hasLooked id t' (some i) = some i := by
    refine if_neg fun hends => ?_
    rcases (ends_iff h.toSound ht).1 hends with ⟨j, a, ha, -⟩ | ⟨j, hm, -⟩
    · cases ha with
      | atOnce _ _ hst => cases haim.symm.trans hst
    · cases hm
  have hunder : ∀ j, t'.UnderWay id j → j = t.ticket := by
    intro j hj
    rcases h.underWay_step ht hj with ⟨⟨r', hr', hid⟩, hticket⟩ | ⟨r', -, hj, -⟩
    · exact absurd hticket (hnobody _ hr' hid)
    · exact hj
  cases happens_of_step ht with
  | arrives r hadmits =>
    have hserver : (t.arrive r).server = t.server := server_settle _ _ _
    refine ⟨hheard, ?_, ?_, hk.recent, fun j hj => ?_, fun _ => hk.listed hin, fun _ => hunexpired⟩
    · rw [hserver]
      exact hk.entry
    · rw [hserver]
      exact hk.past
    · rw [hunder j hj]
      refine .seeks aim ?_ (hserver ▸ hlater)
      rw [lookup_arrive h.toSound, if_pos rfl, haim]
      rfl

omit h in
/-- Time passes. -/
theorem kept_pass (hk : t.Kept config id i e) {nanos : Nat}
    (hsuits : t.Suits config id (some i) (.pass nanos)) :
    Kept config id i { t with server := { t.server with now := t.server.now + nanos } } e := by
  obtain ⟨hpaused, hpolls⟩ := hsuits
  have hin : InTouch { t with server := { t.server with now := t.server.now + nanos } } id
      (i + config.leeway) → t.InTouch id (i + config.leeway) :=
    fun hin => hin.imp_left fun hlater => Nat.lt_of_le_of_lt (Nat.le_add_right _ _) hlater
  refine ⟨hk.entry, Nat.le_trans hk.past (Nat.le_add_right _ _), hk.recent, fun j hj => ?_,
    fun hlater => hk.listed (hin hlater), fun hlater => hk.unexpired (hin hlater)⟩
  cases hk.stands j hj with
  | seeks aim hp | linesUp hp => exact absurd rfl (hpaused _ (Tickets.mem_of_lookup hp))
  | queues hq =>
    obtain ⟨due, hdue, -⟩ := hpolls _ (Server.mem_polls_of_poll? hq) rfl
    cases hdue
  | waits last deadline w hq hs hle =>
    obtain ⟨due, hdue, hlater⟩ := hpolls _ (Server.mem_polls_of_poll? hq) rfl
    cases hdue
    exact .waits last deadline w hq hs hlater

/-! ### What others do -/

theorem foreign_underWay (hm : t.Foreign id m) (ht : t.step m = some t')
    (hj : t'.UnderWay id j) : t.UnderWay id j := by
  rcases h.underWay_step ht hj with hold | ⟨r, hr, -, hid⟩
  · exact hold
  · exact absurd hid (hm.arrives hr)

theorem foreign_heard (hm : t.Foreign id m) (ht : t.step m = some t') :
    t.heard hasLooked id t' since = since := by
  refine if_neg fun hends => ?_
  rcases (ends_iff h.toSound ht).1 hends with ⟨j, a, ha, hpresents | hgrants⟩ | ⟨j, rfl, hj, -⟩
  · obtain ⟨r, hr, hid⟩ := hpresents
    cases ha with
    | atOnce => exact Nat.lt_irrefl _ (h.traced.lt_of_mem hr)
    | goesOn _ p a hp =>
      exact hm.goesOn (.inl rfl) ⟨⟨r, hr, hid⟩, mem_tickets_of_paused hp⟩
    | polls _ q b hq =>
      exact hm.goesOn (.inl rfl) ⟨⟨r, hr, hid⟩, mem_tickets_of_poll hq⟩
  · obtain ⟨e, rfl, hp, hid⟩ := enlisting_of_grants ha hgrants
    exact hm.enlists rfl hp (by rw [hid])
  · refine hm.goesOn (.inr rfl) ⟨hj, ?_⟩
    cases happens_of_step ht with
    | leaves _ p hp => exact mem_tickets_of_paused hp
    | hangsUp _ q _ hq => exact mem_tickets_of_poll hq

/-- What others do leaves the session alone, unless it is a sweep. -/
theorem foreign_entry (hm : t.Foreign id m) (ht : t.step m = some t') :
    t'.server.registry.entry? id.source = t.server.registry.entry? id.source ∨
      ∃ k since, m = .resume k ∧ t.paused.lookup k = some (.sweeping since) ∧
        t'.server.registry.entry? id.source = (t.server.registry.entry? id.source).map fun e =>
          if t.server.registry.isSweepable since e then e.retire else e := by
  by_cases hsweep : ∃ k since, m = .resume k ∧ t.paused.lookup k = some (.sweeping since)
  · obtain ⟨k, since, rfl, hp⟩ := hsweep
    exact .inr ⟨k, since, rfl, hp, entry_step_of_sweep h.toSound ht hp id.source⟩
  · refine .inl (entry_step_of_apart h.toSound ht (fun k hk htouches => ?_) (fun k q hk hq hu => ?_)
      fun k since hk hp => hsweep ⟨k, since, hk, hp⟩)
    · rcases h.underWay_of_touches htouches with hunder | ⟨e, hp, hu⟩
      · exact hm.goesOn (.inl hk) hunder
      · exact hm.enlists hk hp hu
    · rcases h.underWay_of_touches (.inr ⟨q, hq, hu⟩) with hunder | ⟨e, hp, -⟩
      · exact hm.goesOn (.inr hk) hunder
      · cases (h.poll_eq_none hp).symm.trans hq

/-- Others do something, at one instant. -/
theorem kept_foreign (hk : t.Kept config id i e) (hvalid : config.validate = .ok ())
    (hlt : config.maxWait.nanos < config.sessionTtl.nanos) (hm : t.Foreign id m)
    (ht : t.step m = some t') (hnow : t'.server.now = t.server.now) :
    ∃ e', t'.Kept config id i e' := by
  have hin : t'.InTouch id (i + config.leeway) → t.InTouch id (i + config.leeway) := by
    rintro (hlater | ⟨j, hj⟩)
    · exact .inl (hnow ▸ hlater)
    · exact .inr ⟨j, h.foreign_underWay hm ht hj⟩
  have hentry : ∃ e', t'.server.registry.entry? id.source = some e' ∧
      e'.lastAccess = e.lastAccess ∧ (t.InTouch id (i + config.leeway) → e'.listed = true) := by
    rcases h.foreign_entry hm ht with hsame | ⟨k, since, rfl, hp, hswept⟩
    · exact ⟨e, hsame.trans hk.entry, rfl, hk.listed⟩
    · rw [hk.entry, Option.map_some] at hswept
      refine ⟨_, hswept, by split <;> rfl, fun hin => ?_⟩
      have hfresh := h.now_lt hk hvalid hlt hin
      have hpast : since ≤ t.server.now := h.fits _ (Tickets.mem_of_lookup hp)
      have hkeeps : t.server.registry.isSweepable since e = false := by
        have hstale : t.server.registry.isStale since e = false :=
          decide_eq_false (by rw [h.ttl_eq, Entry.idle]; omega)
        rw [Registry.isSweepable, hstale, Bool.and_false]
      rw [hkeeps]
      exact hk.listed hin
  obtain ⟨e', he', haccess, hlisted⟩ := hentry
  refine ⟨e', he', hnow ▸ hk.past, haccess ▸ hk.recent, fun j hj => ?_,
    fun hlater => hlisted (hin hlater), fun hlater => ?_⟩
  · have hj' := h.foreign_underWay hm ht hj
    obtain ⟨hpaused, hpolls⟩ := places_step h.toSound ht
      (fun heq => absurd (h.issued j hj'.2) (by rw [heq]; exact Nat.lt_irrefl _))
      (fun heq => hm.goesOn (.inl heq) hj') fun heq => hm.goesOn (.inr heq) hj'
    exact (hk.stands j hj').congr hpaused hpolls hnow (h.config_step ht) haccess
  · exact not_expired_step h.toSound ht (h.not_expires hk hvalid hlt (hin hlater))
      (hk.unexpired (hin hlater))

/-! ### Any move -/

omit h in
/-- Whose move it is. -/
theorem foreign_or (id : SessionId) (t : Traffic) (m : Move) : t.Foreign id m ∨
    (∃ r, m = .arrive r ∧ r.current = some id) ∨
    (∃ k, (m = .resume k ∨ m = .abort k) ∧ t.UnderWay id k) ∨
    ∃ k e, m = .resume k ∧ t.paused.lookup k = some (.enlisting e) ∧
      e.session.source = id.source := by
  by_contra hno
  simp only [not_or, not_exists, not_and] at hno
  obtain ⟨hforeign, harrives, hown, hmade⟩ := hno
  exact hforeign ⟨fun {r} hr => harrives r hr, fun {k} hk => hown k hk,
    fun {k e} hk hp => hmade k e hk hp⟩

/-- **Whatever happens**, the session of a client that keeps in touch is kept. -/
theorem kept_step (hk : t.Kept config id i e) (hvalid : config.validate = .ok ())
    (hlt : config.maxWait.nanos < config.sessionTtl.nanos) (hsince : since = some i)
    (ht : t.step m = some t') (hsuits : t.Suits config id since m) :
    ∃ i' e', t.heard hasLooked id t' since = some i' ∧ t'.Kept config id i' e' := by
  subst hsince
  rcases foreign_or id t m with hm | ⟨r, rfl, hr⟩ | ⟨k, rfl | rfl, hunder⟩ | ⟨k, e', rfl, hp, hu⟩
  · refine ⟨i, ?_⟩
    simp only [h.foreign_heard hm ht, true_and]
    rcases now_step h.toSound ht with hnow | ⟨nanos, rfl, -⟩
    · exact h.kept_foreign hk hvalid hlt hm ht hnow
    · cases happens_of_step ht with
      | passes => exact ⟨e, kept_pass hk hsuits⟩
  · obtain ⟨hheard, hkept⟩ := h.kept_arrive hk hvalid hlt hr ht hsuits
    exact ⟨i, e, hheard, hkept⟩
  · exact h.kept_resume hk hvalid hlt hunder ht
  · exact h.kept_abort hk hvalid hlt hunder ht
  · have hfree := (h.not_mem_reserved_take hp rfl).1
    rw [hu] at hfree
    exact absurd (List.mem_append_left _ (Registry.entry_isSome_iff.1 (by rw [hk.entry]; rfl))) hfree

omit h in
/-- A session is put on the list. -/
theorem kept_of_enlisting (h : t.Attended config id none)
    (ht : t.step (.resume k) = some t') (hp : t.paused.lookup k = some (.enlisting e))
    (hu : e.session.source = id.source) :
    t.heard hasLooked id t' none = some t.server.now ∧ t'.Kept config id t.server.now e := by
  obtain ⟨hnobody, hnone, hunexpired⟩ := h.absent rfl
  obtain ⟨madeAt, start, he, -⟩ := h.fits _ (Tickets.mem_of_lookup hp)
  have hlisted : e.listed = true := by rw [he]; rfl
  have haccess := h.made hp hu
  have hnow := now_le_step h.toSound ht
  have hheard : t.heard hasLooked id t' none = some t.server.now := by
    refine if_pos ((ends_iff h.toSound ht).2 (.inl ⟨k, _, .goesOn k _ _ hp rfl, .inr ?_⟩))
    rw [Grants, hu]
    exact h.id_eq
  have hnotExpired := not_expired_step h.toSound ht (u := id.source) (fun hexpires => by
    obtain ⟨k, e, -, hlive, -⟩ := hexpires
    cases hnone.symm.trans (Registry.live?_eq_some_iff.1 hlive).1) hunexpired
  refine ⟨hheard, ?_, hnow, by omega, fun j hj => ?_, fun _ => hlisted, fun _ => hnotExpired⟩
  · cases (resume_of_paused hp).symm.trans ht
    rw [next, server_settle]
    refine (Registry.entry_enlist t.server.registry e id.source).trans ?_
    rw [hnone, if_pos hu, Option.none_or]
  · rcases h.underWay_step ht hj with hold | ⟨r, hr, -⟩
    · exact absurd hold.1 (hnobody j)
    · cases hr

omit h in
/-- Before there is the session, nobody presents its id. -/
theorem absent_step (h : t.Attended config id none) (ht : t.step m = some t')
    (hsuits : t.Suits config id none m) :
    (t.heard hasLooked id t' none = none ∧ (∀ k, ¬ t'.Presents id k) ∧
      t'.server.registry.entry? id.source = none ∧
      .expired id.source ∉ t'.server.registry.feed.sent) ∨
    ∃ i e, t.heard hasLooked id t' none = some i ∧ t'.Kept config id i e := by
  obtain ⟨hnobody, hnone, hunexpired⟩ := h.absent rfl
  rcases foreign_or id t m with hm | ⟨r, rfl, hr⟩ | ⟨k, -, hunder⟩ | ⟨k, e', rfl, hp, hu⟩
  · refine .inl ⟨h.foreign_heard hm ht, fun k hk => ?_, ?_, ?_⟩
    · rcases presents_step h.toSound ht hk with hold | ⟨r, hr, -, hid⟩
      · exact hnobody k hold
      · exact hm.arrives hr hid
    · rcases h.foreign_entry hm ht with hsame | ⟨k, since, -, -, hswept⟩
      · exact hsame.trans hnone
      · rw [hswept, hnone]
        rfl
    · refine not_expired_step h.toSound ht (fun hexpires => ?_) hunexpired
      obtain ⟨k, e, -, hlive, -⟩ := hexpires
      cases hnone.symm.trans (Registry.live?_eq_some_iff.1 hlive).1
  · obtain ⟨-, -, i, hi, -⟩ := hsuits hr
    cases hi
  · exact absurd hunder.1 (hnobody k)
  · exact .inr ⟨_, _, kept_of_enlisting h ht hp hu⟩

theorem single_step (ht : t.step m = some t') (hsuits : t.Suits config id since m)
    (hj : t'.UnderWay id j) (hk : t'.UnderWay id k) : j = k := by
  have hnew : ∀ {j r}, m = .arrive r → r.current = some id → t.UnderWay id j → False := by
    rintro j r rfl hr ⟨⟨r', hr', hid⟩, hticket⟩
    exact (hsuits hr).2.1 _ hr' hid hticket
  rcases h.underWay_step ht hj with hj | ⟨r, hm, hj, hr⟩
  · rcases h.underWay_step ht hk with hk | ⟨r, hm, -, hr⟩
    · exact h.single hj hk
    · exact absurd hj (hnew hm hr)
  · rcases h.underWay_step ht hk with hk | ⟨-, -, hk, -⟩
    · exact absurd hk (hnew hm hr)
    · rw [hj, hk]

/-- No time passes between the making of a session and its being put on the list. -/
theorem made_step (ht : t.step m = some t') (hsuits : t.Suits config id since m)
    (hp : t'.paused.lookup k = some (.enlisting e)) (hu : e.session.source = id.source) :
    e.lastAccess = t'.server.now := by
  have hold : t.paused.lookup k = some (.enlisting e) → t'.server.now = t.server.now →
      e.lastAccess = t'.server.now := fun hp hnow => (h.made hp hu).trans hnow.symm
  cases happens_of_step ht with
  | arrives r hr =>
    have hserver : (t.arrive r).server = t.server := server_settle _ _ _
    rw [lookup_arrive h.toSound] at hp
    split at hp
    · rw [hserver]
      exact Server.access_of_receive (Standing.pause?_eq_some_iff.1 hp)
    · exact hold hp (by rw [hserver])
  | goesOn j p hp' =>
    have hnow := (Server.steady_proceed t.server j p).now
    rw [lookup_goesOn] at hp
    rw [server_settle] at hold ⊢
    split at hp
    · exact (Server.access_of_proceed (Standing.pause?_eq_some_iff.1 hp)).trans hnow.symm
    · exact hold hp hnow
  | polls j q hj hq =>
    obtain ⟨e', he'⟩ := h.orderly.entry_of_poll hq
    exact hold hp (h.orderly.pollStep h.ring hq he').steady.now
  | leaves j p hp' =>
    have hp : (t.take j).paused.lookup k = some (.enlisting e) := hp
    rw [lookup_take] at hp
    split at hp
    · cases hp
    · exact hold hp rfl
  | hangsUp j q hj hq => exact hold hp (Server.steady_dropPoll t.server j).now
  | publishes => exact hold hp rfl
  | passes nanos => exact absurd (congrArg some hu) (hsuits.1 _ (Tickets.mem_of_lookup hp))

/-- Nobody who presents the id is refused. -/
theorem served_step (hvalid : config.validate = .ok ())
    (hlt : config.maxWait.nanos < config.sessionTtl.nanos) (ht : t.step m = some t')
    (hsuits : t.Suits config id since m) {a : Outcome Served} (hk : t'.Presents id k)
    (ha : .answered k a ∈ t'.told) : a ≠ .error .invalidSession := by
  have hkept : t.Presents id k → ∃ i e, t.Kept config id i e := by
    intro hk
    cases hsince : since with
    | none => exact absurd hk ((h.absent hsince).1 k)
    | some i => exact ⟨i, h.kept hsince⟩
  rcases answers_of_step h.toSound ht ha with hold | hnew
  · obtain ⟨r, hr, -⟩ := h.traced.answered hold
    rcases presents_step h.toSound ht hk with hpresents | ⟨-, -, rfl, -⟩
    · exact h.served hpresents hold
    · exact absurd (h.traced.lt_of_mem hr) (Nat.lt_irrefl _)
  · rcases presents_step h.toSound ht hk with hpresents | ⟨r, rfl, rfl, hr⟩
    · obtain ⟨i, e, hkept⟩ := hkept hpresents
      have hgoes : m = .resume k → t.UnderWay id k → a ≠ .error .invalidSession := by
        rintro rfl hunder
        obtain ⟨e', hadvances⟩ := h.advances hkept hvalid hlt hunder ht
        rcases hadvances.stands with ⟨a', ha', hne⟩ | ⟨hnone, -⟩
        · exact ha'.unique h.toSound hnew ▸ hne
        · exact absurd hnew (hnone a)
      cases hnew with
      | atOnce r a hst =>
        obtain ⟨r', hr', -⟩ := hpresents
        exact absurd (h.traced.lt_of_mem hr') (Nat.lt_irrefl _)
      | goesOn _ p a hp =>
        exact hgoes rfl ⟨hpresents, mem_tickets_of_paused hp⟩
      | polls _ q b hq =>
        exact hgoes rfl ⟨hpresents, mem_tickets_of_poll hq⟩
    · obtain ⟨aim, haim⟩ := Server.receive_of_current hr h.epoch_eq (hsuits hr).1
      cases hnew with
      | atOnce _ _ hst => cases haim.symm.trans hst

theorem step (hvalid : config.validate = .ok ())
    (hlt : config.maxWait.nanos < config.sessionTtl.nanos) (ht : t.step m = some t')
    (hsuits : t.Suits config id since m) : t'.Attended config id (t.heard hasLooked id t' since) where
  toSound := h.toSound.step ht
  traced := h.traced.step h.toSound ht
  addressed := h.addressed.step h.toSound ht
  config_eq := (h.config_step ht).trans h.config_eq
  epoch_eq := h.epoch_eq.trans (h.settings_step ht).2.symm
  ttl_eq := (tells_news h.toSound ht).ttl.trans h.ttl_eq
  single := h.single_step ht hsuits
  made := h.made_step ht hsuits
  absent hnone := by
    cases hsince : since with
    | none =>
      subst hsince
      rcases h.absent_step ht hsuits with ⟨-, habsent⟩ | ⟨i, e, hheard, -⟩
      · exact habsent
      · cases hheard.symm.trans hnone
    | some i =>
      obtain ⟨e, hk⟩ := h.kept hsince
      obtain ⟨i', -, hheard, -⟩ := h.kept_step hk hvalid hlt hsince ht hsuits
      cases hheard.symm.trans hnone
  kept {j} hj := by
    cases hsince : since with
    | none =>
      subst hsince
      rcases h.absent_step ht hsuits with ⟨hheard, -⟩ | ⟨i, e, hheard, hk⟩
      · cases hheard.symm.trans hj
      · cases hheard.symm.trans hj
        exact ⟨e, hk⟩
    | some i =>
      obtain ⟨e, hk⟩ := h.kept hsince
      obtain ⟨i', e', hheard, hk'⟩ := h.kept_step hk hvalid hlt hsince ht hsuits
      cases hheard.symm.trans hj
      exact ⟨e', hk'⟩
  served := h.served_step hvalid hlt ht hsuits

/-- **What holds as long as a client keeps in touch.** -/
theorem run (hvalid : config.validate = .ok ())
    (hlt : config.maxWait.nanos < config.sessionTtl.nanos) (hrun : t.run ms = some t')
    (htouch : KeepsInTouch hasLooked config id since t ms) :
    t'.Attended config id (lastHeard hasLooked id since t ms) := by
  induction ms generalizing t since with
  | nil =>
    cases hrun
    exact h
  | cons m ms ih =>
    obtain ⟨t₁, ht, hrest⟩ := Option.bind_eq_some_iff.1 hrun
    obtain ⟨hsuits, hlater⟩ := htouch
    simp only [lastHeard, ht]
    exact ih (h.step hvalid hlt ht hsuits) hrest (hlater t₁ ht)

omit h in
theorem new (hnew : Traffic.new config epoch = .ok t) :
    t.Attended config ⟨epoch, u⟩ none where
  toSound := .new hnew
  traced := .new hnew
  addressed := .new hnew
  config_eq := by
    obtain ⟨log, -, rfl⟩ := eq_of_new hnew
    rfl
  epoch_eq := by
    obtain ⟨log, -, rfl⟩ := eq_of_new hnew
    rfl
  ttl_eq := by
    obtain ⟨log, -, rfl⟩ := eq_of_new hnew
    rfl
  single hj := by
    obtain ⟨log, -, rfl⟩ := eq_of_new hnew
    cases hj.2
  made hp := by
    obtain ⟨log, -, rfl⟩ := eq_of_new hnew
    cases hp
  absent _ := by
    obtain ⟨log, -, rfl⟩ := eq_of_new hnew
    refine ⟨fun k hk => ?_, rfl, List.not_mem_nil⟩
    obtain ⟨r, hr, -⟩ := hk
    cases hr
  kept hi := nomatch hi
  served hk := by
    obtain ⟨log, -, rfl⟩ := eq_of_new hnew
    obtain ⟨r, hr, -⟩ := hk
    cases hr

end Attended

theorem keepsInTouch_of_append (h : KeepsInTouch counts config id since t (ms ++ ms')) :
    KeepsInTouch counts config id since t ms := by
  induction ms generalizing t since with
  | nil => trivial
  | cons m ms ih => exact ⟨h.1, fun t' ht' => ih (h.2 t' ht')⟩

/-- What is said of a client that has kept in touch. -/
structure KeepsSession (config : ServerConfig) (id : SessionId) (t₀ : Traffic) (ms : List Move)
    (t : Traffic) : Prop where
  /-- No request that presents the id is refused. -/
  served : ∀ {k r a}, (k, r) ∈ t.arrivals → r.current = some id → .answered k a ∈ t.told →
    a ≠ .error .invalidSession
  /-- At any time at which the client can come again in time, or has come, the session is live, and
  nobody was told that it has expired. -/
  live : ∀ {past future t₁ i}, ms = past ++ future → t₀.run past = some t₁ →
    lastHeard hasLooked id none t₀ past = some i → t₁.InTouch id (i + config.leeway) →
      (∃ e, t₁.server.registry.live? id.source = some e) ∧
        .expired id.source ∉ t₁.server.registry.feed.sent

/-- **A client that keeps in touch keeps its session.**  Whatever others do, and whenever sweeps are
made: if one request after the other presents the id of a session, each less than `leeway` after
the one before has ended, and none of them ends the session, then none of them is refused, and
the session does not expire. -/
theorem keepsSession (hvalid : config.validate = .ok ())
    (hlt : config.maxWait.nanos < config.sessionTtl.nanos)
    (hnew : Traffic.new config epoch = .ok t₀) (hrun : t₀.run ms = some t)
    (htouch : KeepsInTouch hasLooked config ⟨epoch, u⟩ none t₀ ms) :
    KeepsSession config ⟨epoch, u⟩ t₀ ms t := by
  have h₀ := Attended.new (u := u) hnew
  refine ⟨fun hr hid ha => (h₀.run hvalid hlt hrun htouch).served ⟨_, hr, hid⟩ ha, ?_⟩
  rintro past future t₁ i rfl hpast hsince hin
  have h := h₀.run hvalid hlt hpast (keepsInTouch_of_append htouch)
  obtain ⟨e, hk⟩ := h.kept hsince
  exact ⟨⟨e, Registry.live?_eq_some_iff.2 ⟨hk.entry, hk.listed hin⟩⟩, hk.unexpired hin⟩

/-- A poll overflows; a sweep is made; the next poll is given up, and the request after it comes so
late that the session has not been looked up for almost its time to live. -/
def Sample.late : List Move :=
  waiting ++ [publish, publish, publish, .pass 1000000000, .resume 1, .pass 19000000000,
    .arrive .sweep, .resume 2, .arrive (.poll (some Sample.id)), .resume 3, .resume 3, .resume 3,
    .pass 1000000000, .resume 3, .pass 8000000000, .abort 3, .arrive .sweep, .pass 19999999999,
    .resume 4, .arrive (.subscribe (some Sample.id) typeId), .resume 5]

instance decidableKeepsInTouch (counts : Traffic → Nat → Bool) (config : ServerConfig)
    (id : SessionId) : (since : Option Nat) → (t : Traffic) → (ms : List Move) →
      Decidable (KeepsInTouch counts config id since t ms)
  | _, _, [] => .isTrue trivial
  | since, t, m :: ms =>
    match h : t.step m with
    | none => decidable_of_iff (t.Suits config id since m)
      ⟨fun hm => ⟨hm, fun _ ht' => nomatch h.symm.trans ht'⟩, And.left⟩
    | some t₁ =>
      have := decidableKeepsInTouch counts config id (t.heard counts id t₁ since) t₁ ms
      decidable_of_iff (t.Suits config id since m ∧
          KeepsInTouch counts config id (t.heard counts id t₁ since) t₁ ms)
        ⟨fun hm => ⟨hm.1, fun _ ht' => Option.some.inj (h.symm.trans ht') ▸ hm.2⟩,
          fun hm => ⟨hm.1, hm.2 t₁ h⟩⟩

theorem exists_late : ∃ t₀ t, Traffic.new Sample.small Sample.epoch = .ok t₀ ∧
    t₀.run Sample.late = some t ∧ KeepsInTouch hasLooked Sample.small Sample.id none t₀ Sample.late ∧
    (1000000000, .answered 1 (.error (.overflow 2 (-1) 2))) ∈ t.notes ∧
    (48999999999, .answered 5 (.ok (.changed true))) ∈ t.notes :=
  ⟨_, _, rfl, rfl, by decide, List.mem_of_getElem? (i := 9) rfl,
    List.mem_of_getElem? (i := 18) rfl⟩

theorem keepsSession_late : Sample.small.validate = .ok () ∧
    Sample.small.maxWait.nanos < Sample.small.sessionTtl.nanos ∧
    ∃ t₀ t, Traffic.new Sample.small Sample.epoch = .ok t₀ ∧ t₀.run Sample.late = some t ∧
      KeepsInTouch hasLooked Sample.small Sample.id none t₀ Sample.late ∧
      KeepsSession Sample.small Sample.id t₀ Sample.late t ∧
      (1000000000, .answered 1 (.error (.overflow 2 (-1) 2))) ∈ t.notes ∧
      (48999999999, .answered 5 (.ok (.changed true))) ∈ t.notes := by
  obtain ⟨t₀, t, hnew, hrun, htouch, hover, hlate⟩ := exists_late
  have hvalid : Sample.small.validate = .ok () := by decide
  have hlt : Sample.small.maxWait.nanos < Sample.small.sessionTtl.nanos := by decide
  exact ⟨hvalid, hlt, t₀, t, hnew, hrun, htouch, keepsSession hvalid hlt hnew hrun htouch,
    hover, hlate⟩

/-- A poll is given up before it has looked the session up, and the next one comes as long after
that as the poll came after the opening. -/
def Sample.givenUp : List Move :=
  opened ++ [.pass 19000000000, .arrive (.poll (some Sample.id)), .abort 1, .pass 19000000000,
    .arrive (.poll (some Sample.id)), .resume 2, .resume 2]

/-- Nobody presents the id of the session until a sweep is made. -/
def Sample.forgotten : List Move := opened ++ [.pass 40000000000, .arrive .sweep, .resume 1]

theorem exists_givenUp : ∃ t₀ t, Traffic.new Sample.small Sample.epoch = .ok t₀ ∧
    t₀.run Sample.givenUp = some t ∧
    KeepsInTouch (fun _ _ => true) Sample.small Sample.id none t₀ Sample.givenUp ∧
    (2, .poll (some Sample.id)) ∈ t.arrivals ∧ .answered 2 (.error .invalidSession) ∈ t.told :=
  ⟨_, _, rfl, rfl, by decide, List.mem_of_getElem? (i := 2) rfl,
    List.mem_of_getElem? (i := 6) rfl⟩

theorem exists_forgotten : ∃ t₀ t, Traffic.new Sample.small Sample.epoch = .ok t₀ ∧
    t₀.run Sample.forgotten = some t ∧
    KeepsInTouch hasLooked Sample.small Sample.id none t₀ Sample.forgotten ∧
    .expired Sample.id.source ∈ t.server.registry.feed.sent :=
  ⟨_, _, rfl, rfl, by decide, by decide⟩

/-- **A request that is given up before it has looked its session up does not keep it**, and a
session expires once no request can come in time any more. -/
theorem not_kept_unless_looked :
    (¬ ∀ config epoch u ms t₀ t, config.validate = .ok () →
      config.maxWait.nanos < config.sessionTtl.nanos → Traffic.new config epoch = .ok t₀ →
      t₀.run ms = some t → KeepsInTouch (fun _ _ => true) config ⟨epoch, u⟩ none t₀ ms →
        ∀ k r a, (k, r) ∈ t.arrivals → r.current = some ⟨epoch, u⟩ → .answered k a ∈ t.told →
          a ≠ .error .invalidSession) ∧
    ¬ ∀ config epoch u ms t₀ t, config.validate = .ok () →
      config.maxWait.nanos < config.sessionTtl.nanos → Traffic.new config epoch = .ok t₀ →
      t₀.run ms = some t → KeepsInTouch hasLooked config ⟨epoch, u⟩ none t₀ ms →
        .expired u ∉ t.server.registry.feed.sent := by
  have hvalid : Sample.small.validate = .ok () := by decide
  have hlt : Sample.small.maxWait.nanos < Sample.small.sessionTtl.nanos := by decide
  constructor
  · intro hserved
    obtain ⟨t₀, t, hnew, hrun, htouch, harrived, hrefused⟩ := exists_givenUp
    exact hserved _ _ _ _ t₀ t hvalid hlt hnew hrun htouch 2 _ _ harrived rfl hrefused rfl
  · intro hkept
    obtain ⟨t₀, t, hnew, hrun, htouch, hexpired⟩ := exists_forgotten
    exact hkept _ _ _ _ t₀ t hvalid hlt hnew hrun htouch hexpired

end Traffic
end EventRelay

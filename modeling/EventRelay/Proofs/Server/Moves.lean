/-
# What one move can do

A client knows nothing of a server but the answers it gets.  What it may conclude from them
rests on what one move of the server can do, whoever's request it is about:

| of | a move |
| --- | --- |
| the requests under way | adds the one that arrives, and no other |
| a session | leaves it where it stands or moves it on, and moves it only when it notes that a poll of it has ended |
| the end of a poll | says how the session stood just before |
| a new session | starts at the last event |
| what a session wants | takes a type away only for a request that asks for it, and adds one before it says so |
-/

import EventRelay.Proofs.Server.Consumption
import EventRelay.Proofs.Server.Replies
import EventRelay.Proofs.Session.Wanting

namespace EventRelay
namespace Server

variable {s : Server} {u : SourceId} {v : TypeId} {k : Nat}

/-- A request that goes on takes no type away, unless it was sent to. -/
theorem wants_proceed {p : Pause} (h : s.registry.wants u v = true)
    (hp : p ≠ .seeking u (.unsubscribe v)) : (s.proceed k p).1.registry.wants u v = true := by
  cases p with
  | seeking source aim =>
    simp only [proceed]
    cases hglance : s.registry.glance s.now source with
    | mk r sighting =>
      have hr : r.wants u v = true := by
        simpa [hglance, h] using Registry.wants_glance (r := s.registry) (s := source) (u := u)
          (t := v) s.now
      cases sighting with
      | absent | idle => exact hr
      | live =>
        cases aim with
        | opening | lookup | poll => exact hr
        | subscribe t => exact Registry.wants_addType hr
        | unsubscribe t =>
          have hne : ¬ (u = source ∧ v = t) := by
            rintro ⟨rfl, rfl⟩
            exact hp rfl
          have hkept := Registry.wants_removeType (r := r) (s := source) (u := u) (t := v) (v := t)
          simp only [found, withRegistry]
          rw [hkept, hr]
          simpa using not_and_or.1 hne
  | expiring source aim => exact (Registry.wants_expire s.now).trans h
  | enlisting e => exact Registry.wants_enlist h
  | closing source =>
    have hclosed := (Registry.wants_invalidate (r := s.registry) (s := source) (t := v)).trans h
    simp only [proceed]
    generalize s.registry.invalidate source = result at hclosed
    obtain ⟨r, _ | _⟩ := result <;> exact hclosed
  | sweeping since => exact (Registry.wants_sweep since).trans h
  | liningUp source => exact (Registry.wants_enqueue k).trans h

/-- A request that is told of a change has found its session. -/
theorem found_of_changed {p : Pause} {b : Bool}
    (h : (s.proceed k p).2 = .answered (.ok (.changed b))) :
    ∃ source t, (p = .seeking source (.subscribe t) ∧
        (s.proceed k p).1.registry.wants source t = true) ∨
      p = .seeking source (.unsubscribe t) := by
  cases p with
  | seeking source aim =>
    simp only [proceed] at h ⊢
    cases hglance : s.registry.glance s.now source with
    | mk r sighting =>
      rw [hglance] at h
      cases sighting with
      | absent => cases aim <;> cases h
      | idle => cases h
      | live =>
        obtain ⟨hr, e, hlive, -⟩ := Registry.glance_eq_live hglance
        have hsource : source ∈ r.sources := by
          rw [hr, Registry.sources, Registry.marks_touch]
          exact Registry.entry_isSome_iff.1
            (Option.isSome_iff_exists.2 ⟨e, (Registry.live?_eq_some_iff.1 hlive).1⟩)
        cases aim with
        | opening | lookup | poll => cases h
        | subscribe t => exact ⟨source, t, .inl ⟨rfl, Registry.wants_addType_self hsource⟩⟩
        | unsubscribe t => exact ⟨source, t, .inr rfl⟩
  | expiring source aim => cases aim <;> cases h
  | enlisting | sweeping | liningUp => cases h
  | closing source =>
    simp only [proceed] at h
    generalize s.registry.invalidate source = result at h
    obtain ⟨r, _ | _⟩ := result <;> cases h

/-- A request that has just arrived is not told of a change. -/
theorem not_changed_receive (r : Request) (b : Bool) :
    s.receive r ≠ .answered (.ok (.changed b)) := by
  have hseek : ∀ current aim, s.seek current aim ≠ .answered (.ok (.changed b)) := by
    intro current aim
    unfold seek
    split <;> simp
  cases r with
  | openSession current fresh | closeSession current =>
    cases current with
    | none => simp [receive, makeSession]
    | some id =>
      simp only [receive]
      split <;> simp [makeSession]
  | subscribe | unsubscribe | lookup | poll => exact hseek _ _
  | sweep => simp [receive]

/-- A step of a poll changes nothing that sessions want. -/
theorem PollStep.wants {events : List Event} {p : Poll} {e : Entry} {s' : Server}
    {answer : Option (Outcome Batch)} (h : PollStep s events k p e s' answer)
    (hp : s.poll? k = some p) : s'.registry.wants u v = s.registry.wants u v := by
  have hresynced : (s.resynced p.source).wants u v = s.registry.wants u v :=
    Registry.wants_update _
  cases h with
  | stays | waits => rfl
  | timesOut | refuses =>
    rw [dropPoll_eq hp]
    exact Registry.wants_release k
  | overflows =>
    rw [dropPoll_withRegistry hp]
    exact (Registry.wants_release k).trans hresynced
  | consumes =>
    rw [dropPoll_withRegistry hp]
    exact (Registry.wants_release k).trans ((Registry.wants_touch s.now).trans hresynced)

end Server

namespace Traffic

variable {t t' : Traffic} {k : Nat} {u : SourceId}

/-- Whether the session of a source stands at an event. -/
def StandsAt (t : Traffic) (u : SourceId) (n : Int) : Prop :=
  (u, n) ∈ t.server.registry.positions

theorem mem_told {n : Note} : n ∈ t.told ↔ ∃ instant, (instant, n) ∈ t.notes := by
  simp [told]

/-- Notes are only added. -/
theorem told_step {m : Move} (ht : t.step m = some t') : t.told <+: t'.told :=
  (prefix_notes (happens_of_step ht)).map _

theorem arrivals_mono {m : Move} (ht : t.step m = some t') {a : Nat × Server.Request}
    (ha : a ∈ t.arrivals) : a ∈ t'.arrivals :=
  ((told_step ht).filterMap _).subset ha

theorem knows_step {m : Move} (ht : t.step m = some t') (hu : t.knows u = true) :
    t'.knows u = true := by
  obtain ⟨n, hn, hmentions⟩ := List.any_eq_true.1 hu
  exact List.any_eq_true.2 ⟨n, (prefix_notes (happens_of_step ht)).subset hn, hmentions⟩

/-- Whoever names a source is noted to. -/
theorem knows_of_names {r : Server.Request} (hr : (k, r) ∈ t.arrivals)
    (hu : r.Names u ∨ r.fresh? = some u) : t.knows u = true := by
  obtain ⟨note, hnote, harrived⟩ := List.mem_filterMap.1 hr
  obtain ⟨instant, hn⟩ := mem_told.1 hnote
  refine List.any_eq_true.2 ⟨(instant, note), hn, ?_⟩
  cases note with
  | arrived =>
    cases harrived
    rcases hu with hnames | hfresh
    · simp [Note.mentions, Server.Request.mentions, show _ = some u from hnames]
    · simp [Note.mentions, Server.Request.mentions, hfresh]
  | published | opened | turned | polled | answered | aborted => cases harrived

/-! ### Requests -/

theorem arrivals_settle (t : Traffic) (k : Nat) (st : Standing) :
    (t.settle k st).arrivals = t.arrivals := by
  cases st with
  | inLine => rfl
  | answered => exact (arrivals_note _ _).trans (List.append_nil _)
  | paused p =>
    refine (arrivals_note _ _).trans ?_
    cases p <;> exact List.append_nil _

/-- What has arrived after a move: the request that the move brings, after the others. -/
theorem arrivals_step (hs : t.Sound) {m : Move} (ht : t.step m = some t') :
    t'.arrivals = t.arrivals ++ match m with
      | .arrive r => [(t.ticket, r)]
      | .resume _ | .abort _ | .publish _ _ _ | .pass _ => [] := by
  cases happens_of_step ht with
  | arrives r hr => exact (arrivals_settle _ _ _).trans (arrivals_note _ _)
  | goesOn k p hp => exact (arrivals_settle _ _ _).trans (List.append_nil _).symm
  | polls k p hk hp =>
    obtain ⟨e, he⟩ := hs.orderly.entry_of_poll hp
    refine (arrivals_note _ _).trans (congrArg (t.arrivals ++ ·) ?_)
    rw [List.filterMap_eq_nil_iff]
    intro n hn
    rcases mem_pollNotes he hn with rfl | ⟨a, -, rfl | rfl⟩ <;> rfl
  | leaves | hangsUp | publishes => exact arrivals_note _ _
  | passes => exact (List.append_nil _).symm

/-- Who has arrived after a move has done so before, or has just arrived. -/
theorem arrived_step (hs : t.Sound) {m : Move} (ht : t.step m = some t') {r : Server.Request}
    (hr : (k, r) ∈ t'.arrivals) : (k, r) ∈ t.arrivals ∨ m = .arrive r ∧ k = t.ticket := by
  rw [arrivals_step hs ht] at hr
  refine (List.mem_append.1 hr).imp_right fun hlast => ?_
  cases m with
  | arrive r' =>
    cases List.mem_singleton.1 hlast
    exact ⟨rfl, rfl⟩
  | resume | abort | publish | pass => cases hlast

/-- A request with a ticket from before has arrived before. -/
theorem arrived_of_lt (hs : t.Sound) {m : Move} (ht : t.step m = some t') {r : Server.Request}
    (hr : (k, r) ∈ t'.arrivals) (hk : k < t.ticket) : (k, r) ∈ t.arrivals :=
  (arrived_step hs ht hr).resolve_right fun hnew => Nat.lt_irrefl _ (hnew.2 ▸ hk)

/-- A request that asks for a session brings a source that nobody has named. -/
theorem not_knows_of_arrive {r : Server.Request} (ht : t.step (.arrive r) = some t')
    (hu : r.fresh? = some u) : t.knows u = false := by
  cases happens_of_step ht with
  | arrives r hr =>
    simp only [admits, hu] at hr
    simpa using (Bool.and_eq_true_iff.1 hr).1

theorem not_named_of_arrive {r r' : Server.Request} (ht : t.step (.arrive r) = some t')
    (hu : r.fresh? = some u) (hr' : (k, r') ∈ t.arrivals) :
    ¬ (r'.Names u ∨ r'.fresh? = some u) := by
  intro hnamed
  have hunknown := not_knows_of_arrive ht hu
  rw [knows_of_names hr' hnamed] at hunknown
  cases hunknown

/-- Only the request for which a source is kept names it when it arrives. -/
theorem eq_of_names_fresh (hs : t.Sound) {r r' : Server.Request} (ht : t.step (.arrive r) = some t')
    (hu : r.fresh? = some u) (hr' : (k, r') ∈ t'.arrivals) (hnames : r'.Names u) : r' = r := by
  rcases arrived_step hs ht hr' with hbefore | ⟨heq, -⟩
  · exact absurd (.inl hnames) (not_named_of_arrive ht hu hbefore)
  · exact (Move.arrive.inj heq).symm

/-- What is under way after a move was under way before, or has just arrived. -/
theorem tickets_step (hs : t.Sound) {m : Move} (ht : t.step m = some t') {j : Nat}
    (hj : j ∈ t'.tickets) : j ∈ t.tickets ∨ ∃ r, m = .arrive r ∧ j = t.ticket := by
  cases happens_of_step ht with
  | arrives r hr =>
    rcases List.mem_append.1 hj with hpaused | hpolled
    · rcases mem_paused_settle hpaused with hold | rfl
      · exact .inl (List.mem_append_left _ hold)
      · exact .inr ⟨r, rfl, rfl⟩
    · have hserver : (t.arrive r).server = t.server := server_settle _ _ _
      exact .inl (List.mem_append_right _ (hserver ▸ hpolled))
  | goesOn k p hp =>
    have hk : k ∈ t.tickets := mem_tickets_of_paused hp
    left
    rcases List.mem_append.1 hj with hpaused | hpolled
    · rcases mem_paused_settle hpaused with hold | rfl
      · exact List.mem_append_left _ (mem_paused_take hold)
      · exact hk
    · rw [server_settle] at hpolled
      by_cases hpolls : (t.server.proceed k p).1.polls = t.server.polls
      · exact List.mem_append_right _ (hpolls ▸ hpolled)
      · obtain ⟨source, -, hlined⟩ := Server.lineUp_of_proceed hpolls
        obtain ⟨q, hq, rfl⟩ := List.mem_map.1 hpolled
        rcases List.mem_append.1 (hlined ▸ hq) with hold | hnew
        · exact List.mem_append_right _ (List.mem_map_of_mem hold)
        · rw [List.mem_singleton.1 hnew]
          exact hk
  | polls k p hk hp =>
    obtain ⟨e, he⟩ := hs.orderly.entry_of_poll hp
    have hstep := hs.orderly.pollStep hs.ring hp he
    exact .inl (((List.Sublist.refl _).append (hstep.tickets hp)).subset hj)
  | leaves k p hp =>
    exact .inl (((List.filter_sublist.map _).append (List.Sublist.refl _)).subset hj)
  | hangsUp k p hk hp =>
    refine .inl (((List.Sublist.refl _).append ?_).subset hj)
    rw [Server.dropPoll_eq hp]
    exact List.filter_sublist.map _
  | publishes | passes => exact .inl hj

/-! ### Where sessions stand -/

/-- The last event never comes before what it was. -/
theorem cursor_step (hs : t.Sound) {m : Move} (ht : t.step m = some t') :
    t.server.log.cursor ≤ t'.server.log.cursor := by
  have hlength := congrArg List.length (published_step hs ht)
  have hcursor := hs.ring.cursor_eq
  have hcursor' := (hs.step ht).ring.cursor_eq
  rw [List.length_append] at hlength
  omega

theorem StandsAt.unique (hs : t.Sound) {n n' : Int} (hn : t.StandsAt u n) (hn' : t.StandsAt u n') :
    n = n' := by
  obtain ⟨m, hm, heq⟩ := List.mem_map.1 hn
  obtain ⟨m', hm', heq'⟩ := List.mem_map.1 hn'
  cases heq
  obtain ⟨hsource, rfl⟩ := Prod.mk.inj heq'
  rw [Registry.mark_unique hs.orderly.sources hm hm' hsource.symm]

theorem exists_standsAt (hu : u ∈ t.server.registry.sources) : ∃ n, t.StandsAt u n := by
  rw [← Registry.map_fst_positions] at hu
  obtain ⟨⟨u', n⟩, hn, rfl⟩ := List.mem_map.1 hu
  exact ⟨n, hn⟩

theorem standsAt_of_entry {e : Entry} (he : t.server.registry.entry? u = some e) :
    t.StandsAt u e.session.lastSequence := by
  refine List.mem_map.2 ⟨e.mark, Registry.mark_mem_of_entry he, ?_⟩
  rw [Entry.mark_source, Entry.mark_last, Registry.source_of_entry he]

/-- No session is ahead of the log. -/
theorem StandsAt.le_cursor (hs : t.Sound) {n : Int} (hn : t.StandsAt u n) :
    n ≤ t.server.log.cursor := by
  obtain ⟨m, hm, heq⟩ := List.mem_map.1 hn
  cases heq
  exact (hs.orderly.levels m hm).2

/-- What the polls of a session have moved it over, up to where it stands. -/
theorem StandsAt.tiles (h : t.Accounted) {start n : Int} (ho : .opened k u start ∈ t.told)
    (hn : t.StandsAt u n) : Tiles start (t.passages u) n := by
  obtain ⟨j, start', hmade, htiles⟩ := h.toured.tiled _ hn
  cases h.opened.unique (mem_openings.2 ho) hmade rfl
  exact htiles

/-- A session never stands before the event that it started at. -/
theorem StandsAt.start_le (h : t.Accounted) {start n : Int} (ho : .opened k u start ∈ t.told)
    (hn : t.StandsAt u n) : start ≤ n :=
  (hn.tiles h ho).le

/-- A session without a poll that has ended stands where it started. -/
theorem StandsAt.eq_start (h : t.Accounted) {start n : Int} (ho : .opened k u start ∈ t.told)
    (hn : t.StandsAt u n) (hnone : ∀ {j s a}, .polled j s a ∈ t.told → s.source ≠ u) : n = start := by
  have hpassages : t.passages u = [] := by
    refine List.filterMap_eq_nil_iff.2 fun n hn => ?_
    obtain ⟨instant, note⟩ := n
    cases note with
    | polled j s a => exact if_neg (hnone (mem_told.2 ⟨instant, hn⟩))
    | arrived | published | opened | turned | answered | aborted => rfl
  have htiles := hn.tiles h ho
  rw [hpassages] at htiles
  exact htiles.symm

/-- What a session has consumed lies between its start and where it stands. -/
theorem StandsAt.passes (h : t.Accounted) {j : Nat} {start : Int} {session : Session} {b : Batch}
    (ho : .opened j session.source start ∈ t.told) (hp : .polled k session (.ok b) ∈ t.told)
    {n : Int} (hn : t.StandsAt session.source n) :
    start ≤ session.lastSequence ∧ session.lastSequence ≤ b.cursor ∧ b.cursor ≤ n := by
  obtain ⟨instant, hnote⟩ := mem_told.1 hp
  refine (hn.tiles h ho).mem (p := (session.lastSequence, b.cursor)) ?_
  exact List.mem_filterMap.2 ⟨_, hnote, if_pos rfl⟩

theorem StandsAt.quiet (hq : t.Quiet t') {n : Int} (hn : t.StandsAt u n) : t'.StandsAt u n := by
  show (u, n) ∈ t'.server.registry.positions
  rcases hq.positions with heq | ⟨k, e, -, heq⟩
  · rw [heq]
    exact hn
  · rw [heq]
    exact List.mem_append_left _ hn

/-- Where sessions stand after a step of a poll. -/
theorem StandsAt.poll (hs : t.Sound) {p : Poll} (hp : t.server.poll? k = some p) {n : Int}
    (hn : t.StandsAt u n) : (u, n) ∈ (t.server.advancePoll k).1.registry.positions ∨
      p.source = u ∧ (∃ a, (t.server.advancePoll k).2 = some a) ∧
        (u, t.server.log.cursor) ∈ (t.server.advancePoll k).1.registry.positions := by
  obtain ⟨e, he⟩ := hs.orderly.entry_of_poll hp
  have hstep := hs.orderly.pollStep hs.ring hp he
  cases hpass : (t.server.advancePoll k).2.bind e.session.passage? with
  | none =>
    rw [positions_of_stays hstep hp hpass]
    exact .inl hn
  | some x =>
    obtain ⟨a, ha, -⟩ := Option.bind_eq_some_iff.1 hpass
    rw [positions_of_passes hstep hp hpass]
    by_cases hu : u = p.source
    · exact .inr ⟨hu.symm, ⟨a, ha⟩, List.mem_map.2 ⟨_, hn, if_pos hu⟩⟩
    · exact .inl (List.mem_map.2 ⟨_, hn, if_neg hu⟩)

/-- **A session that moves, moves on.** -/
theorem StandsAt.step (hs : t.Sound) {m : Move} (ht : t.step m = some t') {n : Int}
    (hn : t.StandsAt u n) : ∃ n', t'.StandsAt u n' ∧ n ≤ n' := by
  rcases quiet_of_happens hs (happens_of_step ht) with hquiet | ⟨k, p, -, -, hp, rfl⟩
  · exact ⟨n, hn.quiet hquiet, Int.le_refl n⟩
  · rcases hn.poll hs hp with hstays | ⟨-, -, hmoves⟩
    · exact ⟨n, hstays, Int.le_refl n⟩
    · exact ⟨_, hmoves, hn.le_cursor hs⟩

theorem sources_step (hs : t.Sound) {m : Move} (ht : t.step m = some t')
    (hu : u ∈ t.server.registry.sources) : u ∈ t'.server.registry.sources := by
  obtain ⟨n, hn⟩ := exists_standsAt hu
  obtain ⟨n', hn', -⟩ := hn.step hs ht
  rw [← Registry.map_fst_positions]
  exact List.mem_map_of_mem hn'

/-- **Only the end of a poll moves a session.** -/
theorem StandsAt.still (hs : t.Sound) (htraced : t.Traced) {m : Move} (ht : t.step m = some t')
    {n : Int} (hn : t.StandsAt u n)
    (hnone : ∀ {j s a}, .polled j s a ∈ t'.told → s.source = u → .polled j s a ∈ t.told) :
    t'.StandsAt u n := by
  rcases quiet_of_happens hs (happens_of_step ht) with hquiet | ⟨k, p, -, -, hp, rfl⟩
  · exact hn.quiet hquiet
  · rcases hn.poll hs hp with hstays | ⟨hsource, ⟨a, ha⟩, -⟩
    · exact hstays
    · obtain ⟨e, he⟩ := hs.orderly.entry_of_poll hp
      have hnew : .polled k e.session a ∈ Traffic.told
          ({ t with server := (t.server.advancePoll k).1 }.note
            (pollNotes t.server k p (t.server.advancePoll k).2)) := by
        rw [told_note, pollNotes_eq he, ha]
        simp
      -- a poll that ends now has not ended before
      have hended : k ∈ t.ended := List.mem_filterMap.2
        ⟨_, hnone hnew ((Registry.source_of_entry he).trans hsource), rfl⟩
      exact absurd (List.mem_append_right _
        (List.mem_map_of_mem (Server.mem_polls_of_poll? hp))) (htraced.gone k hended)

/-- **The end of a poll tells how its session stood just before**, and a batch how it stands
now. -/
theorem polled_step (h : t.Sound) {m : Move} (ht : t.step m = some t') {session : Session}
    {a : Outcome Batch} (hp : .polled k session a ∈ t'.told) : .polled k session a ∈ t.told ∨
      k ∈ t.tickets ∧ (∃ e, t.server.registry.entry? session.source = some e ∧
        e.session = session) ∧ ∀ b, a = .ok b → t'.StandsAt session.source b.cursor := by
  rcases quiet_of_happens h (happens_of_step ht) with hquiet | ⟨k, p, -, -, hpoll, rfl⟩
  · obtain ⟨instant, hnote⟩ := mem_told.1 hp
    have hturn : (instant, Note.polled k session a) ∈ t'.turnNotes :=
      List.mem_filter.2 ⟨hnote, rfl⟩
    rw [hquiet.turnNotes] at hturn
    exact .inl (mem_told.2 ⟨instant, (List.mem_filter.1 hturn).1⟩)
  · obtain ⟨e, he⟩ := h.orderly.entry_of_poll hpoll
    have hstep := h.orderly.pollStep h.ring hpoll he
    rw [told_note] at hp
    refine (List.mem_append.1 hp).imp_right fun hnew => ?_
    rcases mem_pollNotes he hnew with hturn | ⟨a', ha, hend | hend⟩
    · cases hturn
    · cases hend
      have hsource := Registry.source_of_entry he
      refine ⟨List.mem_append_right _ (List.mem_map_of_mem (Server.mem_polls_of_poll? hpoll)),
        ⟨e, hsource ▸ he, rfl⟩, ?_⟩
      rintro b rfl
      have hpass : (t.server.advancePoll k).2.bind e.session.passage? =
          some (e.session.lastSequence, b.cursor) := by
        rw [ha]
        rfl
      have hcursor := (Prod.mk.inj (passage_of_pollStep hstep hpass)).2
      have hmoved := List.mem_map_of_mem
        (f := fun y => if y.1 = p.source then (y.1, t.server.log.cursor) else y)
        (standsAt_of_entry he)
      rw [← positions_of_passes hstep hpoll hpass, if_pos rfl] at hmoved
      exact hsource ▸ hcursor ▸ hmoved
    · cases hend

/-- A session that is made starts at the last event. -/
theorem opened_step (h : t.Sound) {m : Move} (ht : t.step m = some t') {start : Int}
    (ho : .opened k u start ∈ t'.told) :
    .opened k u start ∈ t.told ∨ start = t.server.log.cursor := by
  have hsettle : ∀ (t₁ : Traffic) (j : Nat) (st : Standing),
      .opened k u start ∈ (t₁.settle j st).told →
        .opened k u start ∈ t₁.told ∨ start = t₁.server.log.cursor := by
    intro t₁ j st hin
    cases st with
    | inLine => exact .inl hin
    | answered answer =>
      rw [settle, told_note] at hin
      exact .inl ((List.mem_append.1 hin).resolve_right (by simp))
    | paused p =>
      rw [settle, told_note] at hin
      refine (List.mem_append.1 hin).imp_right fun hnew => ?_
      cases p with
      | enlisting e =>
        cases List.mem_singleton.1 hnew
        rfl
      | seeking | expiring | closing | sweeping | liningUp => cases hnew
  cases happens_of_step ht with
  | arrives r hr =>
    refine (hsettle _ _ _ ho).imp_left fun hin => ?_
    rw [told_note] at hin
    exact (List.mem_append.1 hin).resolve_right (by simp)
  | goesOn j p hp =>
    refine (hsettle _ _ _ ho).imp_right fun hstart => ?_
    rw [hstart]
    exact congrArg Log.cursor (Server.steady_proceed t.server j p).log
  | polls j p hk hp =>
    obtain ⟨e, he⟩ := h.orderly.entry_of_poll hp
    rw [told_note] at ho
    refine .inl ((List.mem_append.1 ho).resolve_right fun hnew => ?_)
    rcases mem_pollNotes he hnew with hturn | ⟨a, -, hend | hend⟩
    · cases hturn
    · cases hend
    · cases hend
  | leaves | hangsUp | publishes =>
    rw [told_note] at ho
    exact .inl ((List.mem_append.1 ho).resolve_right (by simp))
  | passes => exact .inl ho

/-! ### What sessions want -/

/-- **A session goes on to want a type** unless a request asks to take it away. -/
theorem wants_step (h : t.Sound) {m : Move} (ht : t.step m = some t') {v : TypeId}
    (hw : t.server.registry.wants u v = true)
    (hnone : ∀ k, (k, Pause.seeking u (.unsubscribe v)) ∉ t.paused) :
    t'.server.registry.wants u v = true := by
  cases happens_of_step ht with
  | arrives r hr =>
    have hserver : (t.arrive r).server = t.server := server_settle _ _ _
    exact hserver ▸ hw
  | goesOn k p hp =>
    rw [server_settle]
    refine Server.wants_proceed hw ?_
    rintro rfl
    exact hnone k (Tickets.mem_of_lookup hp)
  | polls k p hk hp =>
    obtain ⟨e, he⟩ := h.orderly.entry_of_poll hp
    exact ((h.orderly.pollStep h.ring hp he).wants hp).trans hw
  | hangsUp k p hk hp =>
    have hdropped : (t.server.dropPoll k).registry.wants u v = true := by
      rw [Server.dropPoll_eq hp]
      exact (Registry.wants_release k).trans hw
    exact hdropped
  | leaves | publishes | passes => exact hw

theorem answered_settle {j : Nat} {st : Standing} {a : Outcome Served}
    (ha : .answered k a ∈ (t.settle j st).told) :
    .answered k a ∈ t.told ∨ k = j ∧ st = .answered a := by
  cases st with
  | inLine => exact .inl ha
  | answered answer =>
    rw [settle, told_note] at ha
    refine (List.mem_append.1 ha).imp_right fun hnew => ?_
    cases List.mem_singleton.1 hnew
    exact ⟨rfl, rfl⟩
  | paused p =>
    rw [settle, told_note] at ha
    exact .inl ((List.mem_append.1 ha).resolve_right (by cases p <;> simp [stopNotes]))

/-- **A type that a request was told to have added is wanted.** -/
theorem wants_of_changed (hs : t.Sound) (htraced : t.Traced) {m : Move} (ht : t.step m = some t')
    {r : Server.Request} {v : TypeId} {b : Bool} (hr : (k, r) ∈ t'.arrivals) (hnames : r.Names u)
    (haim : r.aim? = some (.subscribe v)) (ha : .answered k (.ok (.changed b)) ∈ t'.told) :
    .answered k (.ok (.changed b)) ∈ t.told ∨ t'.server.registry.wants u v = true := by
  cases happens_of_step ht with
  | arrives r' hr' =>
    rcases answered_settle ha with hnoted | ⟨-, hst⟩
    · rw [told_note] at hnoted
      exact .inl ((List.mem_append.1 hnoted).resolve_right (by simp))
    · exact absurd hst (Server.not_changed_receive r' b)
  | goesOn j p hp =>
    refine (answered_settle ha).imp_right ?_
    rintro ⟨rfl, hst⟩
    obtain ⟨r', hr', hreaches⟩ := htraced.paused _ (Tickets.mem_of_lookup hp)
    rw [arrivals_settle] at hr
    cases htraced.unique hr hr'
    rw [server_settle]
    obtain ⟨source, v', ⟨rfl, hwants⟩ | rfl⟩ := Server.found_of_changed hst
    · cases haim.symm.trans hreaches.2
      cases hnames.symm.trans hreaches.1
      exact hwants
    · cases haim.symm.trans hreaches.2
  | polls j p hk hp =>
    obtain ⟨e, he⟩ := hs.orderly.entry_of_poll hp
    rw [told_note] at ha
    refine .inl ((List.mem_append.1 ha).resolve_right fun hnew => ?_)
    rcases mem_pollNotes he hnew with hturn | ⟨a, -, hend | hend⟩
    · cases hturn
    · cases hend
    · cases a <;> cases hend
  | leaves | hangsUp | publishes =>
    rw [told_note] at ha
    exact .inl ((List.mem_append.1 ha).resolve_right (by simp))
  | passes => exact .inl ha

end Traffic
end EventRelay

/-
# Every event is consumed once

`Traffic.consumesOnce` says what a session goes through in any run, however its polls, the
other requests and the publications are interleaved:

| of | is said |
| --- | --- |
| a batch | it holds what was published, of the subscribed types, from where the poll found the session when it got the turn up to the cursor |
| the batches of a session | the stretches that they consume never overlap, and go up |
| batches and overflows | their stretches tile what the session has gone through, from the cursor with which it was made to where it stands |
| a poll | it gets the turn of its session once, and ends once |
| anything else | a move that notes neither a batch nor an overflow of a session leaves it where it stands |

What was published is read off the moves (`Move.events`); everything else off the notes.
-/

import EventRelay.Proofs.Server.Replies

namespace EventRelay

/-- The event that a move publishes, if it gets number `n`. -/
def Move.event? (n : Nat) : Move → Option Event
  | publish stamp typeId payload => some
    { sequence := n
      eventId := stamp.eventId
      typeId := typeId
      occurredAt := stamp.occurredAt
      payload := payload }
  | arrive _ | resume _ | abort _ | pass _ => none

/-- The events that moves publish, numbered from `n` on. -/
def Move.events (n : Nat) : List Move → List Event
  | [] => []
  | m :: ms =>
    match m.event? n with
    | some e => e :: events (n + 1) ms
    | none => events n ms

/-- The poll that a note says had the turn and has ended. -/
def Note.finish? : Note → Option Nat
  | polled k _ _ => some k
  | arrived _ _ | published _ | opened _ _ _ | turned _ _ | answered _ _ | aborted _ => none

/-- The stretch that a session consumes, if a note says that it was given a batch. -/
def Note.consumed? (u : SourceId) : Note → Option (Int × Int)
  | polled _ session (.ok b) =>
    if session.source = u then some (session.lastSequence, b.cursor) else none
  | arrived _ _ | published _ | opened _ _ _ | turned _ _ | polled _ _ _ | answered _ _
  | aborted _ => none

namespace Traffic

variable {t t' : Traffic} {k : Nat}

theorem published_step (h : t.Sound) {m : Move} (ht : t.step m = some t') :
    t'.published = t.published ++ (m.event? t.published.length).toList := by
  have hsettle : ∀ (t₁ : Traffic) (k : Nat) (st : Standing),
      (t₁.settle k st).published = t₁.published := by
    intro t₁ k st
    cases st with
    | inLine => rfl
    | answered answer => exact (published_note _ _).trans (List.append_nil _)
    | paused p =>
      refine (published_note _ _).trans ?_
      cases p <;> exact List.append_nil _
  cases happens_of_step ht with
  | arrives r hr =>
    have hnoted := published_note { t with ticket := t.ticket + 1 } [.arrived t.ticket r]
    exact (hsettle _ _ _).trans hnoted
  | goesOn k p hp =>
    exact (hsettle _ _ _).trans (List.append_nil _).symm
  | polls k p hk hp =>
    refine (published_note _ _).trans ?_
    rw [events_pollNotes]
    rfl
  | leaves | hangsUp => exact published_note _ _
  | passes => exact (List.append_nil _).symm
  | publishes stamp typeId payload =>
    refine (published_note _ _).trans ?_
    rw [← h.ring.published]
    rfl

/-- What a run has published. -/
theorem published_run (h : t.Sound) {ms : List Move} (ht : t.run ms = some t') :
    t'.published = t.published ++ Move.events t.published.length ms := by
  induction ms generalizing t with
  | nil =>
    cases ht
    exact (List.append_nil _).symm
  | cons m ms ih =>
    obtain ⟨t₁, hstep, hrest⟩ := Option.bind_eq_some_iff.1 ht
    have hpublished := published_step h hstep
    rw [ih (h.step hstep) hrest, hpublished, List.append_assoc]
    congr 1
    simp only [Move.events]
    cases hm : m.event? t.published.length with
    | none => simp
    | some e => simp

/-! ### Polls that have ended -/

/-- The polls that had the turn and have ended. -/
def finished (t : Traffic) : List Nat := t.notes.filterMap fun n => n.2.finish?

/-- A poll that has finished is a request that has ended. -/
theorem finished_subset_ended (t : Traffic) : t.finished ⊆ t.ended := by
  intro k hk
  obtain ⟨⟨instant, n⟩, hn, hfinish⟩ := List.mem_filterMap.1 hk
  refine List.mem_filterMap.2 ⟨n, List.mem_map_of_mem hn, ?_⟩
  cases n with
  | polled => exact hfinish
  | arrived | published | opened | turned | answered | aborted => cases hfinish

theorem finished_of_turnNotes (hnotes : t'.turnNotes = t.turnNotes) : t'.finished = t.finished := by
  refine filterMap_of_turnNotes (fun n hn => ?_) hnotes
  cases n <;> first | rfl | cases hn

/-- A poll that goes on may finish. -/
theorem finished_note_poll {s : Server} {p : Poll} {e : Entry}
    (he : s.registry.entry? p.source = some e) (answer : Option (Outcome Batch)) :
    (t.note (pollNotes s k p answer)).finished =
      t.finished ++ if answer.isSome then [k] else [] := by
  have hnote : ∀ ns : List Note,
      (t.note ns).finished = t.finished ++ ns.filterMap Note.finish? := by
    intro ns
    simp [finished, note, List.filterMap_map]
  rw [hnote, pollNotes_eq he]
  congr 1
  simp only [turnNote]
  split <;> cases answer <;> rfl

/-- **A poll finishes once.** -/
theorem nodup_finished_step (h : t.finished.Nodup) (hs : t.Sound) (htraced : t.Traced) {m : Move}
    (ht : t.step m = some t') : t'.finished.Nodup := by
  rcases quiet_of_happens hs (happens_of_step ht) with hquiet | ⟨k, p, -, -, hp, rfl⟩
  · rw [finished_of_turnNotes hquiet.turnNotes]
    exact h
  · obtain ⟨e, he⟩ := hs.orderly.entry_of_poll hp
    rw [finished_note_poll he]
    split
    · have hunder : k ∈ t.tickets :=
        List.mem_append_right _ (List.mem_map_of_mem (Server.mem_polls_of_poll? hp))
      have hopen : k ∉ t.finished := fun hk => htraced.gone k (finished_subset_ended t hk) hunder
      exact List.concat_eq_append ▸ h.concat hopen
    · exact (List.append_nil t.finished).symm ▸ h

/-! ### Batches -/

/-- What the notes say of batches. -/
structure Delivered (t : Traffic) : Prop where
  /-- A batch holds what its session had not consumed and wanted. -/
  events : ∀ n ∈ t.turnNotes, ∀ {k session b}, n.2 = .polled k session (.ok b) →
    b.cursor ≤ t.server.log.cursor ∧ b.events = t.published.filter fun e =>
      session.lastSequence < e.sequence && e.sequence ≤ b.cursor && session.isSubscribed e.typeId
  /-- Its poll got the turn before, and found the session where it then left it. -/
  turned : ∀ n ∈ t.turnNotes, ∀ {k session b}, n.2 = .polled k session (.ok b) →
    ∃ instant found, [(instant, .turned k found), n].Sublist t.turnNotes ∧
      found.source = session.source ∧ found.lastSequence = session.lastSequence
  /-- Whoever is given a batch is given that of a poll that has ended. -/
  answers : ∀ n ∈ t.turnNotes, ∀ {k b}, n.2 = .answered k (.ok (.batch b)) →
    ∃ session, (n.1, .polled k session (.ok b)) ∈ t.turnNotes

/-- The batch of a session that consumes everything. -/
theorem events_batchOf {s : Server} {events : List Event} (hring : s.log.Holds events)
    (session : Session) :
    (s.batchOf events session).events = events.filter fun e =>
      session.lastSequence < e.sequence && e.sequence ≤ s.log.cursor &&
        session.isSubscribed e.typeId := by
  simp only [Server.batchOf, Server.batchFor]
  rw [← hring.filter_sequence_eq_drop, List.filter_filter]
  refine List.filter_congr fun e he => ?_
  have hle := (hring.sequence_le_cursor he).2
  simp [hle, Bool.and_comm]

/-- What is noted of the end of a poll. -/
theorem eq_of_polled_mem {s : Server} {p : Poll} {e : Entry}
    (he : s.registry.entry? p.source = some e) {answer : Option (Outcome Batch)} {j : Nat}
    {session : Session} {a : Outcome Batch}
    (hn : .polled j session a ∈ pollNotes s k p answer) :
    j = k ∧ session = e.session ∧ answer = some a := by
  rw [pollNotes_eq he, turnNote] at hn
  cases answer with
  | none => split at hn <;> simp at hn
  | some a' => split at hn <;> simp_all

theorem eq_of_answered_mem {s : Server} {p : Poll} {e : Entry}
    (he : s.registry.entry? p.source = some e) {answer : Option (Outcome Batch)} {j : Nat}
    {b : Batch} (hn : .answered j (.ok (.batch b)) ∈ pollNotes s k p answer) :
    j = k ∧ answer = some (.ok b) := by
  rw [pollNotes_eq he, turnNote] at hn
  cases answer with
  | none => split at hn <;> simp at hn
  | some a =>
    cases a with
    | error fault => split at hn <;> simp [Except.map] at hn
    | ok b' => split at hn <;> simp_all [Except.map]

/-- A poll that gives a batch had the turn, and consumes everything. -/
theorem batch_of_pollStep {s s' : Server} {events : List Event} {p : Poll} {e : Entry}
    {answer : Option (Outcome Batch)} (h : s.PollStep events k p e s' answer) {b : Batch}
    (hb : answer = some (.ok b)) : Server.HasTurn k p e ∧ b = s.batchOf events e.session := by
  cases h with
  | stays | waits | timesOut | overflows | refuses => cases hb
  | consumes hturn hlag hover hlive =>
    cases hb
    exact ⟨hturn, rfl⟩

namespace Delivered

theorem new {config : ServerConfig} {epoch : Epoch} (ht : Traffic.new config epoch = .ok t) :
    t.Delivered := by
  obtain ⟨log, -, rfl⟩ := eq_of_new ht
  exact ⟨by simp [turnNotes], by simp [turnNotes], by simp [turnNotes]⟩

/-- Events published later are none of a batch. -/
theorem events_later (h : t.Delivered) (hs : t.Sound) {m : Move} (ht : t.step m = some t')
    {n : Nat × Note} (hn : n ∈ t.turnNotes) {session : Session} {b : Batch}
    (hb : n.2 = .polled k session (.ok b)) :
    b.cursor ≤ t'.server.log.cursor ∧ b.events = t'.published.filter fun e =>
      session.lastSequence < e.sequence && e.sequence ≤ b.cursor &&
        session.isSubscribed e.typeId := by
  obtain ⟨hle, hevents⟩ := h.events n hn hb
  have hpublished := published_step hs ht
  have hcursor := hs.ring.cursor_eq
  have hcursor' := (hs.step ht).ring.cursor_eq
  constructor
  · have hlen := congrArg List.length hpublished
    rw [List.length_append] at hlen
    omega
  · rw [hpublished, List.filter_append, hevents]
    suffices hnone : (m.event? t.published.length).toList.filter (fun e =>
        session.lastSequence < e.sequence && e.sequence ≤ b.cursor &&
          session.isSubscribed e.typeId) = [] by
      rw [hnone, List.append_nil]
    rw [List.filter_eq_nil_iff]
    intro e he
    have hnumber : e.sequence = t.published.length := by
      cases m with
      | publish =>
        rw [List.mem_singleton.1 he]
      | arrive | resume | abort | pass => cases he
    have hgt : ¬ e.sequence ≤ b.cursor := by omega
    simp [hgt]

/-- A poll that ends with a batch got the turn before, where its session still stands. -/
theorem turned_poll (hs : t.Sound) (hturned : t.Turned) {p : Poll}
    (hp : t.server.poll? k = some p) {e : Entry} (he : t.server.registry.entry? p.source = some e)
    {b : Batch} (hanswer : (t.server.advancePoll k).2 = some (.ok b)) :
    ∃ instant found, [(instant, .turned k found),
        ((t.server.advancePoll k).1.now, .polled k e.session (.ok b))].Sublist
          ({ t with server := (t.server.advancePoll k).1 }.note
            (pollNotes t.server k p (t.server.advancePoll k).2)).turnNotes ∧
      found.source = e.session.source ∧ found.lastSequence = e.session.lastSequence := by
  have hstep := hs.orderly.pollStep hs.ring hp he
  obtain ⟨hturn, -⟩ := batch_of_pollStep hstep hanswer
  rw [turnNotes_note, pollNotes_eq he, hanswer]
  cases hphase : p.phase with
  | queued =>
    -- the poll got the turn in this very step
    have hholds := hs.orderly.holds_of_hasTurn hp he hturn
    refine ⟨(t.server.advancePoll k).1.now, e.session,
      List.Sublist.trans ?_ (List.sublist_append_right _ _), rfl, rfl⟩
    rw [turnNote, if_pos ⟨hphase, hholds⟩]
    exact List.sublist_append_left
      [(_, Note.turned k e.session), (_, Note.polled k e.session (.ok b))]
      [(_, Note.answered k (.ok (.batch b)))]
  | waiting last deadline w =>
    obtain ⟨instant, found, hfound, hsource, hlast⟩ :=
      hturned.waiting _ (Server.mem_polls_of_poll? hp) hphase
    refine ⟨instant, found, ?_, hsource.trans (Registry.source_of_entry he).symm,
      hlast.trans (hs.orderly.last_of_waiting hp he hphase).1⟩
    refine (List.singleton_sublist.2 hfound).append (List.singleton_sublist.2 ?_)
    exact List.mem_map_of_mem (List.mem_filter.2 ⟨by simp, rfl⟩)

/-- A poll that goes on. -/
theorem poll (h : t.Delivered) (hs : t.Sound) (hturned : t.Turned) {p : Poll}
    (hp : t.server.poll? k = some p) (ht : t.step (.resume k) =
      some ({ t with server := (t.server.advancePoll k).1 }.note
        (pollNotes t.server k p (t.server.advancePoll k).2))) :
    Delivered ({ t with server := (t.server.advancePoll k).1 }.note
      (pollNotes t.server k p (t.server.advancePoll k).2)) := by
  obtain ⟨e, he⟩ := hs.orderly.entry_of_poll hp
  have hstep := hs.orderly.pollStep hs.ring hp he
  have hnotes := turnNotes_note { t with server := (t.server.advancePoll k).1 }
    (pollNotes t.server k p (t.server.advancePoll k).2)
  have hnew : ∀ n ∈ ((pollNotes t.server k p (t.server.advancePoll k).2).filter
      Note.isOfTurn).map (fun n => ((t.server.advancePoll k).1.now, n)),
      n.1 = (t.server.advancePoll k).1.now ∧
        n.2 ∈ pollNotes t.server k p (t.server.advancePoll k).2 := by
    intro n hn
    obtain ⟨n', hn', rfl⟩ := List.mem_map.1 hn
    exact ⟨rfl, (List.mem_filter.1 hn').1⟩
  refine ⟨fun n hn j session b hb => ?_, fun n hn j session b hb => ?_, fun n hn j b hb => ?_⟩
  · rw [hnotes] at hn
    rcases List.mem_append.1 hn with hold | hin
    · exact h.events_later hs ht hold hb
    · have hmem := hb ▸ (hnew n hin).2
      obtain ⟨rfl, rfl, hanswer⟩ := eq_of_polled_mem he hmem
      obtain ⟨-, rfl⟩ := batch_of_pollStep hstep hanswer
      refine ⟨Int.le_of_eq (congrArg Log.cursor hstep.steady.log.symm), ?_⟩
      rw [published_note, events_pollNotes, List.append_nil]
      exact events_batchOf hs.ring e.session
  · rw [hnotes] at hn ⊢
    rcases List.mem_append.1 hn with hold | hin
    · obtain ⟨instant, found, hsub, hsame⟩ := h.turned n hold hb
      exact ⟨instant, found, hsub.trans (List.sublist_append_left _ _), hsame⟩
    · have hmem := hb ▸ (hnew n hin).2
      obtain ⟨rfl, rfl, hanswer⟩ := eq_of_polled_mem he hmem
      have heq : n = ((t.server.advancePoll j).1.now, .polled j e.session (.ok b)) :=
        Prod.ext (hnew n hin).1 hb
      rw [heq, ← hnotes]
      exact turned_poll hs hturned hp he hanswer
  · rw [hnotes] at hn ⊢
    rcases List.mem_append.1 hn with hold | hin
    · obtain ⟨session, hsession⟩ := h.answers n hold hb
      exact ⟨session, List.mem_append_left _ hsession⟩
    · have hmem := hb ▸ (hnew n hin).2
      obtain ⟨rfl, hanswer⟩ := eq_of_answered_mem he hmem
      refine ⟨e.session, List.mem_append_right _ (List.mem_map.2
        ⟨.polled j e.session (.ok b), List.mem_filter.2 ⟨?_, rfl⟩, by rw [(hnew n hin).1]⟩)⟩
      rw [pollNotes_eq he, hanswer]
      exact List.mem_append_right _ (List.mem_cons_self ..)

theorem step (h : t.Delivered) (hs : t.Sound) (hturned : t.Turned) {m : Move}
    (ht : t.step m = some t') : t'.Delivered := by
  rcases quiet_of_happens hs (happens_of_step ht) with hquiet | ⟨k, p, rfl, hk, hp, rfl⟩
  · refine ⟨fun n hn k session b hb => ?_, hquiet.turnNotes ▸ h.turned,
      hquiet.turnNotes ▸ h.answers⟩
    exact h.events_later hs ht (hquiet.turnNotes ▸ hn) hb
  · exact h.poll hs hturned hp ht

end Delivered

/-! ### Runs -/

/-- What holds between any two moves of a server with its requests, and of the notes taken. -/
structure Accounted (t : Traffic) : Prop where
  sound : t.Sound
  turned : t.Turned
  opened : t.Opened
  toured : t.Toured
  traced : t.Traced
  finished : t.finished.Nodup
  delivered : t.Delivered

namespace Accounted

theorem new {config : ServerConfig} {epoch : Epoch} (ht : Traffic.new config epoch = .ok t) :
    t.Accounted := by
  refine ⟨.new ht, .new ht, .new ht, .new ht, .new ht, ?_, .new ht⟩
  obtain ⟨log, -, rfl⟩ := eq_of_new ht
  exact List.nodup_nil

theorem step (h : t.Accounted) {m : Move} (ht : t.step m = some t') : t'.Accounted where
  sound := h.sound.step ht
  turned := h.turned.step h.sound ht
  opened := h.opened.step h.sound ht
  toured := h.toured.step h.sound h.opened ht
  traced := h.traced.step h.sound ht
  finished := nodup_finished_step h.finished h.sound h.traced ht
  delivered := h.delivered.step h.sound h.turned ht

theorem run (h : t.Accounted) {ms : List Move} (ht : t.run ms = some t') : t'.Accounted :=
  run_induction h (fun h hstep => h.step hstep) ht

end Accounted

/-- The stretches that the batches of a session consume, one batch after the other. -/
def consumed (t : Traffic) (u : SourceId) : List (Int × Int) :=
  t.notes.filterMap fun n => n.2.consumed? u

/-- What a run in which `events` were published says of the sessions that were granted in it. -/
structure ConsumesOnce (t : Traffic) (events : List Event) : Prop where
  /-- Whoever is given a batch is given that of a poll that has just ended. -/
  answers : ∀ n ∈ t.notes, ∀ {k b}, n.2 = .answered k (.ok (.batch b)) →
    ∃ session, (n.1, .polled k session (.ok b)) ∈ t.notes
  /-- The poll got the turn before, and once, and its session has not moved since. -/
  turned : ∀ n ∈ t.notes, ∀ {k session b}, n.2 = .polled k session (.ok b) →
    ∃ instant found, [(instant, .turned k found), n].Sublist t.notes ∧
      found.source = session.source ∧ found.lastSequence = session.lastSequence
  once : t.turns.Nodup
  /-- It ends once. -/
  finished : t.finished.Nodup
  /-- The batch is what was published between there and its cursor, as it was published, of
  the types that the session wanted when the poll ended. -/
  batches : ∀ n ∈ t.notes, ∀ {k session b}, n.2 = .polled k session (.ok b) →
    b.events = events.filter fun e =>
      session.lastSequence < e.sequence && e.sequence ≤ b.cursor && session.isSubscribed e.typeId
  increasing : ∀ n ∈ t.notes, ∀ {k session b}, n.2 = .polled k session (.ok b) →
    b.events.Pairwise fun e e' => e.sequence < e'.sequence
  /-- The stretches that the batches of a session consume do not overlap, and go up. -/
  apart : ∀ u, (t.consumed u).Pairwise fun p q => p.2 ≤ q.1
  forward : ∀ u, ∀ p ∈ t.consumed u, p.1 ≤ p.2
  /-- Together with those that overflows skip, they tile what the session has gone through. -/
  tiled : ∀ n ∈ t.notes, ∀ {k id}, n.2 = .answered k (.ok (.session id)) →
    ∃ instant start e, (instant, .opened k id.source start) ∈ t.notes ∧
      t.server.registry.entry? id.source = some e ∧
      Tiles start (t.passages id.source) e.session.lastSequence
  /-- A session is made once. -/
  openedOnce : (t.openings.map fun o => o.2.1).Nodup
  /-- Nothing but a batch or an overflow moves a session. -/
  still : ∀ {m t'}, t.step m = some t' → ∀ {u e e'}, t.server.registry.entry? u = some e →
    t'.server.registry.entry? u = some e' → t'.passages u = t.passages u →
      e'.session.lastSequence = e.session.lastSequence

theorem mem_turnNotes {n : Nat × Note} (hn : n ∈ t.notes) (hturn : n.2.isOfTurn = true) :
    n ∈ t.turnNotes :=
  List.mem_filter.2 ⟨hn, hturn⟩

/-- The stretches that batches consume are among those that a session goes through. -/
theorem consumed_sublist (t : Traffic) (u : SourceId) : (t.consumed u).Sublist (t.passages u) := by
  have hsub : ∀ notes : List (Nat × Note), (notes.filterMap fun n => n.2.consumed? u).Sublist
      (notes.filterMap fun n => n.2.passage? u) := by
    intro notes
    induction notes with
    | nil => exact List.Sublist.refl _
    | cons n notes ih =>
      obtain ⟨instant, n⟩ := n
      rw [List.filterMap_cons, List.filterMap_cons]
      cases hc : n.consumed? u with
      | none =>
        cases n.passage? u with
        | none => exact ih
        | some p => exact ih.cons p
      | some p =>
        have hp : n.passage? u = some p := by
          cases n with
          | polled k session answer =>
            cases answer with
            | ok b => exact hc
            | error fault => cases hc
          | arrived | published | opened | turned | answered | aborted => cases hc
        rw [hp]
        exact ih.cons_cons p
  exact hsub t.notes

/-- The sessions that were made have each one start. -/
theorem Opened.unique (h : t.Opened) {o o' : Nat × SourceId × Int} (ho : o ∈ t.openings)
    (ho' : o' ∈ t.openings) (hsource : o.2.1 = o'.2.1) : o = o' :=
  List.inj_on_of_nodup_map h.once ho ho' hsource

theorem exists_note_of_opening {u : SourceId} {start : Int} (h : (k, u, start) ∈ t.openings) :
    ∃ instant, (instant, .opened k u start) ∈ t.notes := by
  obtain ⟨⟨instant, n⟩, hn, heq⟩ := List.mem_filterMap.1 h
  cases n with
  | opened =>
    cases heq
    exact ⟨instant, hn⟩
  | arrived | published | turned | polled | answered | aborted => cases heq

/-- Where a session stands, its passages end. -/
theorem Toured.tiles (h : t.Toured) {u : SourceId} {e : Entry}
    (he : t.server.registry.entry? u = some e) :
    ∃ k start, (k, u, start) ∈ t.openings ∧ Tiles start (t.passages u) e.session.lastSequence := by
  have hx : (e.session.source, e.session.lastSequence) ∈ t.server.registry.positions :=
    List.mem_map_of_mem (Registry.mark_mem_of_entry he)
  obtain ⟨k, start, hstart, htiles⟩ := h.tiled _ hx
  rw [Registry.source_of_entry he] at hstart htiles
  exact ⟨k, start, hstart, htiles⟩

theorem Toured.pairwise (h : t.Toured) (u : SourceId) :
    (t.passages u).Pairwise (fun p q => p.2 ≤ q.1) ∧ ∀ p ∈ t.passages u, p.1 ≤ p.2 := by
  by_cases hu : u ∈ t.server.registry.sources
  · obtain ⟨e, he⟩ := Option.isSome_iff_exists.1 (Registry.entry_isSome_iff.2 hu)
    obtain ⟨k, start, -, htiles⟩ := h.tiles he
    exact ⟨htiles.pairwise, fun p hp => (htiles.mem hp).2.1⟩
  · rw [h.nowhere u hu]
    exact ⟨List.Pairwise.nil, nofun⟩

theorem consumesOnce_of_accounted (h : t.Accounted) : t.ConsumesOnce t.published := by
  have hnotes : t.turnNotes.Sublist t.notes := List.filter_sublist
  refine ⟨fun n hn k b hb => ?_, fun n hn k session b hb => ?_, h.turned.once,
    h.finished, fun n hn k session b hb => ?_, fun n hn k session b hb => ?_, fun u => ?_,
    fun u p hp => ?_, fun n hn k id hid => ?_, h.opened.once, fun {m t'} ht {u e e'} he he' hsame => ?_⟩
  · obtain ⟨session, hsession⟩ := h.delivered.answers n (mem_turnNotes hn (by rw [hb]; rfl)) hb
    exact ⟨session, hnotes.subset hsession⟩
  · obtain ⟨instant, found, hsub, hfound⟩ :=
      h.delivered.turned n (mem_turnNotes hn (by rw [hb]; rfl)) hb
    exact ⟨instant, found, hsub.trans hnotes, hfound⟩
  · exact (h.delivered.events n (mem_turnNotes hn (by rw [hb]; rfl)) hb).2
  · rw [(h.delivered.events n (mem_turnNotes hn (by rw [hb]; rfl)) hb).2]
    exact h.sound.ring.increasing.filter _
  · exact (h.toured.pairwise u).1.sublist (t.consumed_sublist u)
  · exact (h.toured.pairwise u).2 p ((t.consumed_sublist u).subset hp)
  · obtain ⟨-, hsource, start, hmade⟩ := h.opened.granted n hn hid
    obtain ⟨e, he⟩ := Option.isSome_iff_exists.1 (Registry.entry_isSome_iff.2 hsource)
    obtain ⟨k', start', hmade', htiles⟩ := h.toured.tiles he
    cases h.opened.unique hmade hmade' rfl
    obtain ⟨instant, hnote⟩ := exists_note_of_opening hmade
    exact ⟨instant, start, e, hnote, he, htiles⟩
  · obtain ⟨k, start, hmade, htiles⟩ := h.toured.tiles he
    obtain ⟨k', start', hmade', htiles'⟩ := (h.step ht).toured.tiles he'
    have hkept := ((prefix_notes (happens_of_step ht)).filterMap fun n => n.2.opening?).subset hmade
    cases (h.step ht).opened.unique hkept hmade' rfl
    exact (htiles.unique (hsame ▸ htiles')).symm

/-- **Every event is consumed once.**  There is a server for every capacity that there can be a log
of, and whatever the order in which requests arrive, go on and are given up, events are published
and time passes: see `ConsumesOnce`. -/
theorem consumesOnce (config : ServerConfig) (epoch : Epoch) :
    ((∃ t₀, Traffic.new config epoch = .ok t₀) ↔
        0 < config.bufferCapacity ∧ config.bufferCapacity ≤ Log.maxCapacity) ∧
      ∀ t₀, Traffic.new config epoch = .ok t₀ →
        ∀ ms t, t₀.run ms = some t → t.ConsumesOnce (Move.events 0 ms) := by
  refine ⟨exists_new_iff, fun t₀ hnew ms t ht => ?_⟩
  have haccounted := Accounted.new hnew
  have hpublished := published_run haccounted.sound ht
  have hstart : t₀.published = [] := by
    obtain ⟨log, -, rfl⟩ := eq_of_new hnew
    rfl
  rw [hstart, List.nil_append] at hpublished
  exact hpublished ▸ consumesOnce_of_accounted (haccounted.run ht)

/-- A poll waits, an event is published, and the wait comes to its end. -/
def Sample.consumed : List Move := waiting ++ [publish, .pass 1000000000, .resume 1]

/-- An event is consumed, although its type is not delivered. -/
theorem consumesOnce_sample :
    0 < ServerConfig.default.bufferCapacity ∧
      ∃ t₀ t, Traffic.new .default Sample.epoch = .ok t₀ ∧ t₀.run Sample.consumed = some t ∧
        t.consumed Sample.source = [(-1, 0)] ∧
        t.ConsumesOnce (Move.events 0 Sample.consumed) := by
  have hcapacity : 0 < ServerConfig.default.bufferCapacity := by decide
  have hrun : (Sample.play .default Sample.consumed).map (fun t => t.consumed Sample.source) =
      some [(-1, 0)] := by
    decide
  obtain ⟨t, hplay, hconsumed⟩ := Option.map_eq_some_iff.1 hrun
  obtain ⟨t₀, hnew, ht⟩ := Sample.run_of_play hplay
  exact ⟨hcapacity, t₀, t, hnew, ht, hconsumed,
    (consumesOnce .default Sample.epoch).2 t₀ hnew _ _ ht⟩

end Traffic
end EventRelay

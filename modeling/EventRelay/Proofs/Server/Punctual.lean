/-
# Polls are answered in time

A server does nothing by itself: somebody has to let a poll go on, and nobody has to do so on
time.  A run is punctual for a poll if time never passes the instant at which the poll is due
(`Traffic.Punctual`), which is what timers are for; what else happens, and when, is left open.

With settings that are valid (`Traffic.answeredInTime`):

| of | is said |
| --- | --- |
| whatever a poll is answered | it is a batch, an overflow, or that the session is not there |
| any request | it is told neither of a timeout nor of an internal failure |
| a poll that has had the turn | it can go on, and then is answered or is due later, but no later than `maxWait` after the turn |
| a poll that has had the turn, in a punctual run | it ends no later than `maxWait` after the turn |
-/

import EventRelay.Proofs.Server.Apart
import EventRelay.Proofs.Server.Overflow

namespace EventRelay
namespace Server

variable {s s' : Server} {events : List Event} {k : Nat} {p : Poll} {e : Entry}
  {answer : Option (Outcome Batch)}

/-- Who waits after a step of a poll has waited before, or is that poll and is due later. -/
theorem PollStep.mem_waiting (h : PollStep s events k p e s' answer)
    (htickets : (s.polls.map Prod.fst).Nodup) (hp : s.poll? k = some p) {q : Nat × Poll}
    (hq : q ∈ s'.polls) {last : Int} {deadline : Nat} {w : Wait}
    (hw : q.2.phase = .waiting last deadline w) : (q ∈ s.polls ∧ q.1 ≠ k) ∨
      q.1 = k ∧ HasTurn k p e ∧ deadline = s.deadlineOf p ∧
        (s.waitOf p e.session).advance s.now s.log.cursor = some w ∧ s.now < deadline := by
  have hwithout : q ∈ s.polls.filter (fun q => q.1 ≠ k) → q ∈ s.polls ∧ q.1 ≠ k :=
    Tickets.mem_without.1
  cases h with
  | stays hphase =>
    refine .inl ⟨hq, ?_⟩
    rintro rfl
    rw [Tickets.unique htickets hq (mem_polls_of_poll? hp), hphase] at hw
    cases hw
  | waits hturn w' hw' htime =>
    rcases mem_setPhase htickets hp hq with hold | rfl
    · exact .inl hold
    · cases hw
      exact .inr ⟨rfl, hturn, rfl, hw', htime⟩
  | timesOut | refuses =>
    rw [dropPoll_eq hp] at hq
    exact .inl (hwithout hq)
  | overflows | consumes =>
    rw [dropPoll_withRegistry hp] at hq
    exact .inl (hwithout hq)

/-- A poll that goes on without an answer waits, if it had or gets the turn. -/
theorem PollStep.waiting (h : PollStep s events k p e s' none) (hp : s.poll? k = some p)
    (hturn : HasTurn k p e) :
    ∃ w, s'.poll? k = some ⟨p.source, .waiting e.session.lastSequence (s.deadlineOf p) w⟩ ∧
      (s.waitOf p e.session).advance s.now s.log.cursor = some w ∧ s.now < s.deadlineOf p := by
  cases h with
  | stays hphase hnone =>
    rcases hturn with hne | hholds
    · exact absurd hphase hne
    · rw [hholds] at hnone
      cases hnone
  | waits _ w hw htime =>
    refine ⟨w, ?_, hw, htime⟩
    rw [poll_setPhase, if_pos rfl, hp, Option.map_some]

/-- A wait that is scheduled with valid settings is over `maxWait` after its start. -/
theorem Schedule.due_le {config : ServerConfig} {since deadline : Nat} {w : Wait}
    (h : Schedule config since deadline w) (hvalid : config.validate = .ok ()) :
    w.due ≤ since + config.maxWait.nanos := by
  obtain ⟨-, hmin, -⟩ := ServerConfig.validate_eq_ok_iff.1 hvalid
  unfold Wait.due
  rw [h.minDue, h.maxDue]
  split <;> omega

/-- A poll is refused before it lines up only because its session is not there. -/
theorem eq_refused_of_proceed {r : Request} {p : Pause} {a : Outcome Served}
    (haim : r.aim? = some .poll) (hreaches : r.Reaches p)
    (h : (s.proceed k p).2 = .answered a) : a = .error .invalidSession := by
  cases p with
  | seeking source aim =>
    cases haim.symm.trans hreaches.2
    simp only [proceed] at h
    split at h <;> cases h
    rfl
  | expiring source aim =>
    cases haim.symm.trans hreaches.2
    cases h
    rfl
  | enlisting e =>
    cases r with
    | poll => cases hreaches
    | openSession | closeSession | subscribe | unsubscribe | lookup | sweep => cases haim
  | closing source =>
    rw [hreaches.2] at haim
    cases haim
  | sweeping since =>
    cases (show r = .sweep from hreaches)
    cases haim
  | liningUp => cases h

end Server

namespace Traffic

variable {t₀ t t' : Traffic} {config : ServerConfig} {epoch : Epoch} {ms : List Move} {m : Move}
  {k instant : Nat} {session : Session} {ttl : Duration}

/-- When the poll of a ticket is due, if it waits. -/
def due? (t : Traffic) (k : Nat) : Option Nat := (t.server.poll? k).bind Server.pollDue?

/-- Whether a move does not take time past the instant at which the poll of a ticket is due. -/
def Punctual (k : Nat) (t : Traffic) (m : Move) : Prop :=
  match m with
  | .pass nanos => ∀ due ∈ t.due? k, t.server.now + nanos ≤ due
  | .arrive _ | .resume _ | .abort _ | .publish _ _ _ => True

instance (k : Nat) (t : Traffic) (m : Move) : Decidable (Punctual k t m) :=
  match m with
  | .pass nanos => inferInstanceAs (Decidable (∀ due ∈ t.due? k, t.server.now + nanos ≤ due))
  | .arrive _ | .resume _ | .abort _ | .publish _ _ _ => .isTrue trivial

/-- Whether every wait was scheduled when its poll got the turn. -/
def Timed (t : Traffic) : Prop :=
  ∀ q ∈ t.server.polls, ∀ {last deadline w}, q.2.phase = .waiting last deadline w →
    ∃ since found, (since, .turned q.1 found) ∈ t.notes ∧ since ≤ t.server.now ∧
      Server.Schedule t.server.config since deadline w

/-- A poll gets the turn at one instant. -/
theorem Turned.instant_unique (h : t.Turned) {i j : Nat} {found found' : Session}
    (hi : (i, .turned k found) ∈ t.notes) (hj : (j, .turned k found') ∈ t.notes) : i = j := by
  have heq := Tickets.unique_of_filterMap h.once hi hj
    (c := k) rfl rfl
  exact (Prod.mk.inj heq).1

theorem notes_subset (ht : t.step m = some t') {n : Nat × Note} (hn : n ∈ t.notes) : n ∈ t'.notes :=
  (prefix_notes (happens_of_step ht)).subset hn

/-- Time passes only when it is let pass. -/
theorem now_step (h : t.Sound) (ht : t.step m = some t') : t'.server.now = t.server.now ∨
    ∃ nanos, m = .pass nanos ∧ t'.server.now = t.server.now + nanos := by
  cases happens_of_step ht with
  | arrives r hr =>
    rw [arrive, server_settle]
    exact .inl rfl
  | goesOn k p hp =>
    rw [server_settle]
    exact .inl (Server.steady_proceed t.server k p).now
  | polls k p hk hp =>
    obtain ⟨e, he⟩ := h.orderly.entry_of_poll hp
    exact .inl (h.orderly.pollStep h.ring hp he).steady.now
  | hangsUp k p hk hp => exact .inl (Server.steady_dropPoll t.server k).now
  | leaves | publishes => exact .inl rfl
  | passes nanos => exact .inr ⟨nanos, rfl, rfl⟩

theorem now_le_step (h : t.Sound) (ht : t.step m = some t') : t.server.now ≤ t'.server.now := by
  rcases now_step h ht with hnow | ⟨nanos, -, hnow⟩ <;> omega

/-- The wait that a poll is in once it has gone on. -/
theorem schedule_of_advance (h : t.Sound) (htimed : t.Timed) {p : Poll} {e : Entry}
    (hp : t.server.poll? k = some p) (he : t.server.registry.entry? p.source = some e)
    (ht : t.step (.resume k) = some t') (hturn : Server.HasTurn k p e) {w : Wait}
    (hw : (t.server.waitOf p e.session).advance t.server.now t.server.log.cursor = some w) :
    ∃ since found, (since, .turned k found) ∈ t'.notes ∧ since ≤ t.server.now ∧
      Server.Schedule t.server.config since (t.server.deadlineOf p) w := by
  obtain ⟨-, hmin, hmax⟩ := Wait.advance_keeps hw
  cases hphase : p.phase with
  | queued =>
    obtain ⟨ns, hns⟩ := notes_step h ht
    have hnoted := (hns.turned k e.session).2
      ⟨rfl, p, e, hp, he, rfl, hphase, h.orderly.holds_of_hasTurn hp he hturn⟩
    simp only [Server.waitOf, Server.deadlineOf, hphase] at hmin hmax ⊢
    refine ⟨t.server.now, e.session, ?_, Nat.le_refl _, hmin, hmax, rfl⟩
    rw [hns.notes]
    exact List.mem_append_right _ (List.mem_map.2 ⟨_, hnoted, rfl⟩)
  | waiting last deadline w' =>
    obtain ⟨since, found, hfound, hpast, hschedule⟩ :=
      htimed _ (Server.mem_polls_of_poll? hp) hphase
    simp only [Server.waitOf, Server.deadlineOf, hphase] at hmin hmax ⊢
    exact ⟨since, found, notes_subset ht hfound, hpast, hmin.trans hschedule.minDue,
      hmax.trans hschedule.maxDue, hschedule.deadline⟩

namespace Timed

theorem new (hnew : Traffic.new config epoch = .ok t) : t.Timed := by
  obtain ⟨log, -, rfl⟩ := eq_of_new hnew
  exact fun q hq => nomatch hq

theorem step (htimed : t.Timed) (h : t.Sound) (ht : t.step m = some t') : t'.Timed := by
  have hconfig := h.config_step ht
  have hnow := now_le_step h ht
  have hold : ∀ q ∈ t.server.polls, ∀ {last deadline w}, q.2.phase = .waiting last deadline w →
      ∃ since found, (since, .turned q.1 found) ∈ t'.notes ∧ since ≤ t'.server.now ∧
        Server.Schedule t'.server.config since deadline w := by
    intro q hq last deadline w hw
    obtain ⟨since, found, hfound, hpast, hschedule⟩ := htimed q hq hw
    exact ⟨since, found, notes_subset ht hfound, Nat.le_trans hpast hnow, hconfig ▸ hschedule⟩
  intro q hq last deadline w hw
  rcases quiet_of_happens h (happens_of_step ht) with hquiet | ⟨k, p, rfl, hk, hp, rfl⟩
  · exact hold q (hquiet.waiting q hq (by simp [hw])) hw
  · obtain ⟨e, he⟩ := h.orderly.entry_of_poll hp
    have hstep := h.orderly.pollStep h.ring hp he
    rcases hstep.mem_waiting h.orderly.tickets hp hq hw with ⟨hq, -⟩ |
      ⟨rfl, hturn, rfl, hw', -⟩
    · exact hold q hq hw
    · obtain ⟨since, found, hfound, hpast, hschedule⟩ :=
        schedule_of_advance h htimed hp he ht hturn hw'
      exact ⟨since, found, hfound, Nat.le_trans hpast hnow, hconfig ▸ hschedule⟩

end Timed

/-! ### Nothing but batches, overflows and refusals -/

/-- Whether an answer is one that polls get from a server with valid settings. -/
def IsPollAnswer (a : Outcome Served) : Prop :=
  (∃ b, a = .ok (.batch b)) ∨ (∃ cursor last capacity, a = .error (.overflow cursor last capacity)) ∨
    a = .error .invalidSession

/-- **A poll that goes on does not time out.** -/
theorem isPollAnswer_of_advance (h : t.Sound) (hvalid : t.server.config.validate = .ok ()) {q : Poll}
    {b : Outcome Batch} (hq : t.server.poll? k = some q)
    (hb : (t.server.advancePoll k).2 = some b) : IsPollAnswer (b.map .batch) := by
  obtain ⟨e, he⟩ := h.orderly.entry_of_poll hq
  have hstep := h.orderly.pollStep h.ring hq he
  rw [hb] at hstep
  generalize (t.server.advancePoll k).1 = s' at hstep
  cases hstep with
  | timesOut hturn w hw htime =>
    exact absurd htime (Nat.not_le_of_lt (h.orderly.in_time hq he hvalid hw))
  | overflows => exact .inr (.inl ⟨_, _, _, rfl⟩)
  | refuses => exact .inr (.inr rfl)
  | consumes => exact .inl ⟨_, rfl⟩

/-- What a move answers a poll. -/
theorem Regular.isPollAnswer (h : Regular ttl t) (hvalid : t.server.config.validate = .ok ())
    (ht : t.step m = some t') {current : Option SessionId} {a : Outcome Served}
    (hr : (k, .poll current) ∈ t'.arrivals) (ha : t.Answers m k a) : IsPollAnswer a := by
  rcases h.reaches_of_answers ht hr ha with ⟨-, hst⟩ | ⟨p, hp, -, hreaches, hst⟩ |
    ⟨q, b, hq, -, hb, rfl⟩
  · exact .inr (.inr (Server.eq_refused_of_seek hst))
  · exact .inr (.inr (Server.eq_refused_of_proceed rfl hreaches hst))
  · exact isPollAnswer_of_advance h.toSound hvalid hq hb

/-- What a move answers any request that fails. -/
theorem Answers.fault (ha : t.Answers m k a) (h : t.Sound)
    (hvalid : t.server.config.validate = .ok ()) {fault : Fault} (hfault : a = .error fault) :
    fault.IsRefusal ∨ ∃ cursor last capacity, fault = .overflow cursor last capacity := by
  subst hfault
  generalize hfault : Except.error fault = a at ha
  cases ha with
  | atOnce r a hst => exact .inl (Server.isRefusal_receive (hfault ▸ hst))
  | goesOn k p a hp hst => exact .inl (Server.isRefusal_proceed (hfault ▸ hst))
  | polls k q b hq hb =>
    rcases isPollAnswer_of_advance h hvalid hq hb with ⟨b', hbatch⟩ | ⟨c, l, n, hover⟩ | hrefused
    · cases hfault.trans hbatch
    · cases hfault.trans hover
      exact .inr ⟨c, l, n, rfl⟩
    · cases hfault.trans hrefused
      exact .inl (.inl rfl)

/-! ### No later than `maxWait` after the turn -/

/-- A poll with the turn that goes on waits, or is answered at once. -/
theorem waits_or_answers (h : t.Sound) {p : Poll} {e : Entry} (hp : t.server.poll? k = some p)
    (he : t.server.registry.entry? p.source = some e) (hturn : Server.HasTurn k p e)
    (ht : t.step (.resume k) = some t') :
    (∃ due, t'.due? k = some due ∧ t.server.now < due) ∨
      ∃ a, (t.server.now, .answered k a) ∈ t'.notes := by
  have hstep := h.orderly.pollStep h.ring hp he
  obtain ⟨ns, hns⟩ := notes_step h ht
  cases hb : (t.server.advancePoll k).2 with
  | some b =>
    refine .inr ⟨b.map .batch, ?_⟩
    rw [hns.notes]
    exact List.mem_append_right _
      (List.mem_map.2 ⟨_, (hns.answered k _).2 (.polls k p b hp hb), rfl⟩)
  | none =>
    rw [hb] at hstep
    obtain ⟨w, hp', hw, htime⟩ := hstep.waiting hp hturn
    have hdue := Wait.due_gt_of_advance hw
    refine .inl ⟨min (t.server.deadlineOf p) w.due, ?_, by omega⟩
    cases happens_of_step ht with
    | goesOn _ p' hpaused => cases (h.paused_eq_none hp).symm.trans hpaused
    | polls _ q hk hq =>
      simp only [due?, note, hp', Option.bind_some, Server.pollDue?]

theorem due_of_waiting {p : Poll} {last : Int} {deadline : Nat} {w : Wait}
    (hp : t.server.poll? k = some p) (hw : p.phase = .waiting last deadline w) :
    t.due? k = some (min deadline w.due) := by
  simp only [due?, hp, Option.bind_some, Server.pollDue?, hw]

theorem exists_waiting_of_due {due : Nat} (hdue : t.due? k = some due) :
    ∃ p last deadline w, t.server.poll? k = some p ∧ p.phase = .waiting last deadline w ∧
      due = min deadline w.due := by
  obtain ⟨p, hp, hphase⟩ := Option.bind_eq_some_iff.1 hdue
  unfold Server.pollDue? at hphase
  split at hphase
  · cases hphase
  · rename_i last deadline w hw
    exact ⟨p, last, deadline, w, hp, hw, (Option.some.inj hphase).symm⟩

/-- What holds of the polls of every run, whether or not somebody lets them go on. -/
structure Clocked (t : Traffic) : Prop extends Sound t where
  turned : t.Turned
  timed : t.Timed

namespace Clocked

theorem new (hnew : Traffic.new config epoch = .ok t) : t.Clocked where
  toSound := .new hnew
  turned := .new hnew
  timed := .new hnew

theorem step (h : t.Clocked) (ht : t.step m = some t') : t'.Clocked where
  toSound := h.toSound.step ht
  turned := h.turned.step h.toSound ht
  timed := h.timed.step h.toSound ht

theorem run (h : t.Clocked) (ht : t.run ms = some t') : t'.Clocked :=
  run_induction h (fun h hstep => h.step hstep) ht

/-- Whoever waits is due no later than `maxWait` after its turn. -/
theorem due_le (h : t.Clocked) (hvalid : t.server.config.validate = .ok ())
    (hturn : (instant, .turned k session) ∈ t.notes) {due : Nat} (hdue : t.due? k = some due) :
    instant ≤ t.server.now ∧ due ≤ instant + t.server.config.maxWait.nanos := by
  obtain ⟨p, last, deadline, w, hp, hw, rfl⟩ := exists_waiting_of_due hdue
  obtain ⟨since, found, hfound, hpast, hschedule⟩ := h.timed _ (Server.mem_polls_of_poll? hp) hw
  cases h.turned.instant_unique hturn hfound
  have hle := hschedule.due_le hvalid
  exact ⟨hpast, by omega⟩

/-- A poll that has had the turn and has not ended waits. -/
theorem exists_due (h : t.Clocked) (hturn : (instant, .turned k session) ∈ t.notes) {p : Poll}
    (hp : t.server.poll? k = some p) : ∃ due, t.due? k = some due ∧ p.phase ≠ .queued := by
  have hturned : k ∈ t.turns := List.mem_filterMap.2 ⟨_, hturn, rfl⟩
  have hphase : p.phase ≠ .queued := fun hphase => h.turned.fresh k
    (List.mem_append_right _ (List.mem_map.2
      ⟨(k, p), List.mem_filter.2 ⟨Server.mem_polls_of_poll? hp, by simp [hphase]⟩, rfl⟩)) hturned
  cases hw : p.phase with
  | queued => exact absurd hw hphase
  | waiting last deadline w =>
    exact ⟨min deadline w.due, due_of_waiting hp hw, by simp⟩

/-- **Whoever has had the turn can go on**, and then is answered, or is due later. -/
theorem goesOn (h : t.Clocked) (hvalid : t.server.config.validate = .ok ())
    (hturn : (instant, .turned k session) ∈ t.notes) {p : Poll} (hp : t.server.poll? k = some p) :
    ∃ t', t.step (.resume k) = some t' ∧ ((∃ a, (t.server.now, .answered k a) ∈ t'.notes) ∨
      ∃ due, t'.due? k = some due ∧ t.server.now < due ∧
        due ≤ instant + t.server.config.maxWait.nanos) := by
  obtain ⟨due, hdue, hphase⟩ := h.exists_due hturn hp
  obtain ⟨e, he⟩ := h.orderly.entry_of_poll hp
  obtain ⟨t', ht⟩ : ∃ t', t.step (.resume k) = some t' := by
    simp only [Traffic.step, resume, h.paused_eq_none hp, hp, Option.map_some]
    exact ⟨_, rfl⟩
  refine ⟨t', ht, ?_⟩
  rcases waits_or_answers h.toSound hp he (.inl hphase) ht with ⟨due', hdue', hlater⟩ | ha
  · have hconfig := h.config_step ht
    have hle := ((h.step ht).due_le (hconfig ▸ hvalid) (notes_subset ht hturn) hdue').2
    exact .inr ⟨due', hdue', hlater, hconfig ▸ hle⟩
  · exact .inl ha

end Clocked

/-- What holds of the poll of a ticket as long as time does not pass it by. -/
structure InTime (k : Nat) (t : Traffic) : Prop where
  notLate : ∀ {due}, t.due? k = some due → t.server.now ≤ due
  /-- A poll that has had the turn waits, or has ended in time. -/
  turned : ∀ {i session}, (i, .turned k session) ∈ t.notes → (∃ due, t.due? k = some due) ∨
    ∃ j, i ≤ j ∧ j ≤ i + t.server.config.maxWait.nanos ∧
      ((∃ a, (j, .answered k a) ∈ t.notes) ∨ (j, .aborted k) ∈ t.notes)

namespace InTime

theorem new (hnew : Traffic.new config epoch = .ok t) : t.InTime k := by
  obtain ⟨log, -, rfl⟩ := eq_of_new hnew
  exact ⟨fun hdue => by simp [due?, Server.poll?] at hdue, fun hturn => nomatch hturn⟩

/-- Nobody becomes late by a move that is punctual. -/
theorem notLate_step (hin : t.InTime k) (h : t.Clocked) (ht : t.step m = some t')
    (hpunctual : Punctual k t m) {due : Nat} (hdue : t'.due? k = some due) :
    t'.server.now ≤ due := by
  have hold : t.due? k = some due → t'.server.now ≤ due := by
    intro hdue
    rcases now_step h.toSound ht with hnow | ⟨nanos, hm, hnow⟩
    · exact hnow ▸ hin.notLate hdue
    · subst hm
      exact hnow ▸ hpunctual due hdue
  obtain ⟨p, last, deadline, w, hp, hw, rfl⟩ := exists_waiting_of_due hdue
  have hsame : (k, p) ∈ t.server.polls → t'.server.now ≤ min deadline w.due := by
    intro hmem
    have hlookup : t.server.poll? k = some p := Tickets.lookup_of_mem h.orderly.tickets hmem
    exact hold (due_of_waiting hlookup hw)
  rcases quiet_of_happens h.toSound (happens_of_step ht) with hquiet | ⟨j, q, rfl, hj, hq, rfl⟩
  · exact hsame (hquiet.waiting _ (Server.mem_polls_of_poll? hp) (by simp [hw]))
  · obtain ⟨e, he⟩ := h.orderly.entry_of_poll hq
    have hstep := h.orderly.pollStep h.ring hq he
    have hnow := hstep.steady.now
    rcases hstep.mem_waiting h.orderly.tickets hq (Server.mem_polls_of_poll? hp) hw with
      ⟨hmem, -⟩ | ⟨-, -, -, hw', htime⟩
    · exact hsame hmem
    · have hlater := Wait.due_gt_of_advance hw'
      simp only [note]
      omega

/-- Who has had the turn goes on to wait, or ends in time. -/
theorem turned_step (hin : t.InTime k) (h : t.Clocked) (hvalid : t.server.config.validate = .ok ())
    (ht : t.step m = some t') (hturn : (instant, .turned k session) ∈ t'.notes) :
    (∃ due, t'.due? k = some due) ∨
      ∃ j, instant ≤ j ∧ j ≤ instant + t'.server.config.maxWait.nanos ∧
        ((∃ a, (j, .answered k a) ∈ t'.notes) ∨ (j, .aborted k) ∈ t'.notes) := by
  rw [h.config_step ht]
  obtain ⟨ns, hns⟩ := notes_step h.toSound ht
  rw [hns.notes, List.mem_append] at hturn
  rcases hturn with hold | hnew
  · rcases hin.turned hold with ⟨due, hdue⟩ | ⟨j, hij, hj, hended⟩
    · obtain ⟨hpast, hle⟩ := h.due_le hvalid hold hdue
      have hnow := hin.notLate hdue
      have hnoted : ∀ {n}, n ∈ ns → (t.server.now, n) ∈ t'.notes := fun hn => by
        rw [hns.notes]
        exact List.mem_append_right _ (List.mem_map.2 ⟨_, hn, rfl⟩)
      obtain ⟨p, last, deadline, w, hp, hw, rfl⟩ := exists_waiting_of_due hdue
      by_cases hresume : m = .resume k
      · subst hresume
        obtain ⟨e, he⟩ := h.orderly.entry_of_poll hp
        rcases waits_or_answers h.toSound hp he (.inl (by simp [hw])) ht with
          ⟨due', hdue', -⟩ | ha
        · exact .inl ⟨due', hdue'⟩
        · exact .inr ⟨t.server.now, hpast, by omega, .inl ha⟩
      by_cases habort : m = .abort k
      · exact .inr ⟨t.server.now, hpast, by omega, .inr (hnoted ((hns.aborted k).2 habort))⟩
      · have hnew := Nat.ne_of_lt (h.issued k (mem_tickets_of_poll hp))
        have hp' := (places_step h.toSound ht hnew hresume habort).2.trans hp
        exact .inl ⟨_, due_of_waiting hp' hw⟩
    · exact .inr ⟨j, hij, hj, hended.imp (fun ⟨a, ha⟩ => ⟨a, notes_subset ht ha⟩)
        (notes_subset ht)⟩
  · obtain ⟨n, hn, heq⟩ := List.mem_map.1 hnew
    cases heq
    obtain ⟨rfl, p, e, hp, he, -, -, hholds⟩ := (hns.turned k session).1 hn
    rcases waits_or_answers h.toSound hp he (.inr hholds) ht with ⟨due', hdue', -⟩ | ha
    · exact .inl ⟨due', hdue'⟩
    · exact .inr ⟨t.server.now, Nat.le_refl _, Nat.le_add_right _ _, .inl ha⟩

theorem step (hin : t.InTime k) (h : t.Clocked) (hvalid : t.server.config.validate = .ok ())
    (ht : t.step m = some t') (hpunctual : Punctual k t m) : t'.InTime k :=
  ⟨hin.notLate_step h ht hpunctual, hin.turned_step h hvalid ht⟩

/-- **A punctual run keeps a poll in time.** -/
theorem run (hnew : Traffic.new config epoch = .ok t₀) (hvalid : config.validate = .ok ())
    (hrun : t₀.run ms = some t) (hpunctual : t₀.Throughout (Punctual k) ms) : t.InTime k := by
  have h₀ := Clocked.new hnew
  have hconfig : ∀ {ms t}, t₀.run ms = some t → t.server.config.validate = .ok () := by
    intro ms t hrun
    obtain ⟨log, -, rfl⟩ := eq_of_new hnew
    rw [h₀.config_run hrun]
    exact hvalid
  refine run_induction_concat (Q := fun ms t => t₀.Throughout (Punctual k) ms → t.InTime k)
    (fun _ => new hnew) ?_ hrun hpunctual
  intro ms t m t' hbefore ih ht hpunctual
  obtain ⟨hpast, hlast⟩ := (throughout_concat hbefore).1 hpunctual
  exact (ih hpast).step (h₀.run hbefore) (hconfig hbefore) ht hlast

end InTime

/-- What is said of the answers of a run. -/
structure AnsweredInTime (config : ServerConfig) (t₀ : Traffic) (ms : List Move) (t : Traffic) :
    Prop where
  polls : ∀ {k current a}, (k, .poll current) ∈ t.arrivals → .answered k a ∈ t.told → IsPollAnswer a
  faults : ∀ {k fault}, .answered k (.error fault) ∈ t.told →
    fault ≠ .connectionTimeout ∧ ∀ text, fault ≠ .internal text
  /-- Whether or not somebody has let it go on in time. -/
  goesOn : ∀ {k i session p}, (i, .turned k session) ∈ t.notes → t.server.poll? k = some p →
    ∃ t', t.step (.resume k) = some t' ∧ ((∃ a, (t.server.now, .answered k a) ∈ t'.notes) ∨
      ∃ due, t'.due? k = some due ∧ t.server.now < due ∧ due ≤ i + config.maxWait.nanos)
  inTime : ∀ {k i session}, t₀.Throughout (Punctual k) ms →
    (i, .turned k session) ∈ t.notes →
      (∃ due, t.due? k = some due ∧ t.server.now ≤ due ∧ due ≤ i + config.maxWait.nanos) ∨
      ∃ j, i ≤ j ∧ j ≤ i + config.maxWait.nanos ∧
        ((∃ a, (j, .answered k a) ∈ t.notes) ∨ (j, .aborted k) ∈ t.notes)

/-- What a poll has been answered in a run. -/
theorem isPollAnswer_of_run (hnew : Traffic.new config epoch = .ok t₀)
    (hvalid : config.validate = .ok ()) (hrun : t₀.run ms = some t) {current : Option SessionId}
    {a : Outcome Served} (hr : (k, .poll current) ∈ t.arrivals) (ha : .answered k a ∈ t.told) :
    IsPollAnswer a := by
  have hconfig : t₀.server.config = config := by
    obtain ⟨log, -, rfl⟩ := eq_of_new hnew
    rfl
  have h₀ := Regular.new hnew
  have hkept : Regular config.sessionTtl t ∧ t.server.config = config ∧
      ∀ k current a, (k, .poll current) ∈ t.arrivals → .answered k a ∈ t.told →
        IsPollAnswer a := by
    refine run_induction (P := fun t => Regular config.sessionTtl t ∧ t.server.config = config ∧
      ∀ k current a, (k, .poll current) ∈ t.arrivals → .answered k a ∈ t.told → IsPollAnswer a)
      ⟨h₀, hconfig, fun k current a hr => ?_⟩ ?_ hrun
    · exact absurd (h₀.traced.lt_of_mem hr) (by
        obtain ⟨log, -, rfl⟩ := eq_of_new hnew
        exact Nat.not_lt_zero k)
    · rintro t m t' ⟨h, hconfig, hold⟩ ht
      refine ⟨h.step ht, (h.config_step ht).trans hconfig, fun k current a hr ha => ?_⟩
      rcases answers_of_step h.toSound ht ha with hbefore | hnew
      · obtain ⟨r, hr', -⟩ := h.traced.answered hbefore
        exact hold k current a (arrived_of_lt h.toSound ht hr (h.traced.lt_of_mem hr')) hbefore
      · exact h.isPollAnswer (hconfig ▸ hvalid) ht hr hnew
  exact hkept.2.2 k current a hr ha

/-- **Polls are answered in time, and as they should be.**  With settings that are valid there is a
server, unless there can be no room for its log, and of every run of it holds what
`AnsweredInTime` says. -/
theorem answeredInTime (hvalid : config.validate = .ok ()) (epoch : Epoch) :
    ((∃ t₀, Traffic.new config epoch = .ok t₀) ↔ config.bufferCapacity ≤ Log.maxCapacity) ∧
      (Traffic.new config epoch = .error .panic ↔ Log.maxCapacity < config.bufferCapacity) ∧
      ∀ t₀, Traffic.new config epoch = .ok t₀ →
        ∀ ms t, t₀.run ms = some t → AnsweredInTime config t₀ ms t := by
  have hcapacity := (ServerConfig.validate_eq_ok_iff.1 hvalid).1
  refine ⟨exists_new_iff.trans (and_iff_right hcapacity), new_eq_panic_iff,
    fun t₀ hnew ms t hrun => ?_⟩
  have h₀ := Clocked.new hnew
  have h := h₀.run hrun
  have hconfig : ∀ {ms t}, t₀.run ms = some t → t.server.config = config := by
    intro ms t hrun
    rw [h₀.config_run hrun]
    obtain ⟨log, -, rfl⟩ := eq_of_new hnew
    rfl
  have hempty : t₀.notes = [] := by
    obtain ⟨log, -, rfl⟩ := eq_of_new hnew
    rfl
  refine ⟨isPollAnswer_of_run hnew hvalid hrun, fun {k fault} ha => ?_,
    fun {k i session p} hturn hp => ?_, fun {k i session} hpunctual hturn => ?_⟩
  · obtain ⟨instant, hnote⟩ := mem_told.1 ha
    obtain ⟨t₁, m, t₂, hg, ha, -⟩ := (answered_iff h₀.toSound hempty hrun).1 hnote
    obtain ⟨before, after, -, hbefore, -⟩ := id hg
    rcases ha.fault (hg.sound h₀.toSound) ((hconfig hbefore).symm ▸ hvalid) rfl with
      (rfl | rfl | rfl) | ⟨c, l, n, rfl⟩ <;> simp
  · have hgoes := h.goesOn ((hconfig hrun).symm ▸ hvalid) hturn hp
    rw [hconfig hrun] at hgoes
    exact hgoes
  · have hin := InTime.run hnew hvalid hrun hpunctual
    rcases hin.turned hturn with ⟨due, hdue⟩ | hended
    · have hle := (h.due_le ((hconfig hrun).symm ▸ hvalid) hturn hdue).2
      exact .inl ⟨due, hdue, hin.notLate hdue, hconfig hrun ▸ hle⟩
    · exact .inr (hconfig hrun ▸ hended)

/-- A poll waits for as long as it can, while nothing is published. -/
def Sample.idle : List Move :=
  waiting ++ [.pass 1000000000, .resume 1, .pass 9000000000, .resume 1]

theorem exists_idle : ∃ t₀ t session b, Traffic.new .default Sample.epoch = .ok t₀ ∧
    t₀.run Sample.idle = some t ∧ t₀.Throughout (Punctual 1) Sample.idle ∧
    (0, .turned 1 session) ∈ t.notes ∧
    (ServerConfig.default.maxWait.nanos, .answered 1 (.ok (.batch b))) ∈ t.notes :=
  ⟨_, _, _, _, rfl, rfl, by decide, List.mem_of_getElem? (i := 4) rfl,
    List.mem_of_getElem? (i := 6) rfl⟩

theorem answeredInTime_idle : ServerConfig.default.validate = .ok () ∧
    ∃ t₀ t, Traffic.new .default Sample.epoch = .ok t₀ ∧ t₀.run Sample.idle = some t ∧
      AnsweredInTime .default t₀ Sample.idle t ∧ t₀.Throughout (Punctual 1) Sample.idle ∧
      ∃ session b, (0, .turned 1 session) ∈ t.notes ∧
        (ServerConfig.default.maxWait.nanos, .answered 1 (.ok (.batch b))) ∈ t.notes := by
  obtain ⟨t₀, t, session, b, hnew, hrun, hpunctual, hturn, ha⟩ := exists_idle
  have hall := (answeredInTime ServerConfig.validate_default Sample.epoch).2.2 t₀ hnew
  exact ⟨ServerConfig.validate_default, t₀, t, hnew, hrun, hall _ _ hrun, hpunctual, session, b,
    hturn, ha⟩

/-- **Settings are accepted that no server can be made with.** -/
theorem validate_without_room : ¬ ∀ config epoch, config.validate = .ok () →
    ∃ t₀, Traffic.new config epoch = .ok t₀ := by
  intro h
  have hroom := exists_new_iff.1 (h { ServerConfig.default with
    bufferCapacity := 18446744073709551615 } Sample.epoch (by decide))
  exact absurd hroom.2 (by decide)

end Traffic
end EventRelay

/-
# What is noted of polls

Of the notes of a run, `Traffic.turnNotes` are those that tell of a poll: that it got the
turn of its session, how it ended, and what batch its caller was given.  Only a poll that
goes on adds to them (`Traffic.Quiet`).

`Traffic.Turned` ties them to the polls under way.  A poll gets the turn once, which is
noted once, and from then on it waits from where it found its session.
-/

import EventRelay.Proofs.Server.Sound

namespace EventRelay

/-- Whether a note tells of a poll's turn, its end, or its batch. -/
def Note.isOfTurn : Note → Bool
  | turned _ _ | polled _ _ _ | answered _ (.ok (.batch _)) => true
  | arrived _ _ | published _ | opened _ _ _ | answered _ _ | aborted _ => false

/-- The poll that a note says got the turn. -/
def Note.turn? : Note → Option Nat
  | turned k _ => some k
  | arrived _ _ | published _ | opened _ _ _ | polled _ _ _ | answered _ _ | aborted _ => none

namespace Traffic

/-- The notes that tell of polls. -/
def turnNotes (t : Traffic) : List (Nat × Note) := t.notes.filter (·.2.isOfTurn)

/-- The polls that have had the turn. -/
def turns (t : Traffic) : List Nat := t.notes.filterMap fun n => n.2.turn?

/-- The requests that are on their way and have not had a turn. -/
def unturned (t : Traffic) : List Nat :=
  t.paused.map Prod.fst ++ (t.server.polls.filter (·.2.phase = .queued)).map Prod.fst

variable {t t' : Traffic} {k : Nat}

/-- What is read off notes of polls alone is read off those notes. -/
theorem filterMap_turnNotes {α : Type} {f : Note → Option α}
    (hf : ∀ n, n.isOfTurn = false → f n = none) (t : Traffic) :
    (t.turnNotes.filterMap fun n => f n.2) = t.notes.filterMap fun n => f n.2 := by
  rw [turnNotes, List.filterMap_filter]
  refine List.filterMap_congr fun n _ => ?_
  cases hn : n.2.isOfTurn with
  | true => rfl
  | false => exact (hf n.2 hn).symm

/-- It stays what it is while those notes do. -/
theorem filterMap_of_turnNotes {α : Type} {f : Note → Option α}
    (hf : ∀ n, n.isOfTurn = false → f n = none) (hnotes : t'.turnNotes = t.turnNotes) :
    (t'.notes.filterMap fun n => f n.2) = t.notes.filterMap fun n => f n.2 := by
  rw [← filterMap_turnNotes hf, ← filterMap_turnNotes hf, hnotes]

theorem turnNotes_note (t : Traffic) (ns : List Note) :
    (t.note ns).turnNotes =
      t.turnNotes ++ (ns.filter Note.isOfTurn).map fun n => (t.server.now, n) := by
  simp [turnNotes, note, List.filter_map, Function.comp_def]

theorem turnNotes_note_of_quiet (t : Traffic) {ns : List Note}
    (hns : ns.filter Note.isOfTurn = []) : (t.note ns).turnNotes = t.turnNotes := by
  rw [turnNotes_note, hns]
  simp

/-- Whether a move tells nothing of polls.  Then sessions stay where they stand, but for a
new one. -/
structure Quiet (t t' : Traffic) : Prop where
  turnNotes : t'.turnNotes = t.turnNotes
  ticket : t.ticket ≤ t'.ticket
  unturned : ∀ k ∈ t'.unturned, k ∈ t.unturned ∨ k = t.ticket ∧ t.ticket < t'.ticket
  waiting : ∀ q ∈ t'.server.polls, q.2.phase ≠ .queued → q ∈ t.server.polls
  positions : t'.server.registry.positions = t.server.registry.positions ∨
    ∃ k e, t.paused.lookup k = some (.enlisting e) ∧ t'.server.registry.positions =
      t.server.registry.positions ++ [(e.session.source, e.session.lastSequence)]

/-- A request that stops, or gets its answer, tells nothing of polls. -/
theorem turnNotes_settle (t : Traffic) {st : Standing} {kept : Option SourceId} {s : Server}
    (hst : st.Follows s kept) : (t.settle k st).turnNotes = t.turnNotes := by
  cases st with
  | paused p =>
    refine turnNotes_note_of_quiet { t with paused := t.paused ++ [(k, p)] } ?_
    cases p <;> rfl
  | inLine => rfl
  | answered answer =>
    refine turnNotes_note_of_quiet t ?_
    cases answer with
    | error fault => rfl
    | ok served =>
      cases served with
      | batch b => exact absurd rfl (hst.1 b)
      | session | done | changed | swept => rfl

theorem ticket_settle (t : Traffic) (k : Nat) (st : Standing) :
    (t.settle k st).ticket = t.ticket := by
  cases st <;> rfl

theorem mem_paused_settle {st : Standing} {j : Nat}
    (hj : j ∈ (t.settle k st).paused.map Prod.fst) : j ∈ t.paused.map Prod.fst ∨ j = k := by
  cases st with
  | paused p => simpa [settle, note] using hj
  | inLine | answered => exact .inl hj

/-- The tickets of paused requests after one of them is taken. -/
theorem mem_paused_take {j : Nat} (hj : j ∈ (t.take k).paused.map Prod.fst) :
    j ∈ t.paused.map Prod.fst := by
  obtain ⟨q, hq, rfl⟩ := List.mem_map.1 hj
  exact List.mem_map_of_mem (Tickets.mem_without.1 hq).1

/-- A request that goes on and has not lined up tells nothing of polls; at most it lines up as
one, or enlists its session. -/
theorem proceed_quietly (h : t.Sound) {p : Pause} (hp : t.paused.lookup k = some p) :
    (∀ t₁ : Traffic, (t₁.settle k (t.server.proceed k p).2).turnNotes = t₁.turnNotes) ∧
      ((t.server.proceed k p).1.polls = t.server.polls ∨ ∃ source,
        (t.server.proceed k p).1.polls = t.server.polls ++ [(k, ⟨source, .queued⟩)]) ∧
      ((t.server.proceed k p).1.registry.positions = t.server.registry.positions ∨
        ∃ e, p = .enlisting e ∧ (t.server.proceed k p).1.registry.positions =
          t.server.registry.positions ++ [(e.session.source, e.session.lastSequence)]) := by
  by_cases hnew : ∃ e, p = .enlisting e
  · obtain ⟨e, rfl⟩ := hnew
    refine ⟨fun t₁ => turnNotes_note_of_quiet t₁ rfl, .inl rfl, .inr ⟨e, rfl, ?_⟩⟩
    simp [Server.proceed, Server.withRegistry, Registry.marks_enlist, Registry.positions]
  by_cases hline : ∃ source, p = .liningUp source
  · obtain ⟨source, rfl⟩ := hline
    exact ⟨fun _ => rfl, .inr ⟨source, rfl⟩, .inl (Registry.positions_enqueue _ _ _)⟩
  obtain ⟨r, hserver, hmarks, -, hfollows⟩ := Server.proceed_of_keeps (k := k) h.cursor_ge
    h.settled (fun e he => hnew ⟨e, he⟩) fun source hs => hline ⟨source, hs⟩
  rw [hserver]
  refine ⟨fun t₁ => turnNotes_settle t₁ hfollows, .inl rfl, .inl ?_⟩
  simp [Server.withRegistry, hmarks, Registry.positions]

/-- What becomes of sessions and polls when such a request goes on. -/
theorem quiet_goesOn (h : t.Sound) {p : Pause} (hp : t.paused.lookup k = some p) :
    t.Quiet ({ t.take k with server := (t.server.proceed k p).1 }.settle k
      (t.server.proceed k p).2) := by
  have hk : k ∈ t.paused.map Prod.fst := List.mem_map_of_mem (Tickets.mem_of_lookup hp)
  obtain ⟨hnotes, hpolls, hpositions⟩ := proceed_quietly h hp
  refine ⟨hnotes _, by rw [ticket_settle]; exact Nat.le_refl _, fun j hj => .inl ?_, ?_, ?_⟩
  · rcases List.mem_append.1 hj with hpaused | hqueued
    · rcases mem_paused_settle hpaused with hold | rfl
      · exact List.mem_append_left _ (mem_paused_take hold)
      · exact List.mem_append_left _ hk
    · rw [server_settle] at hqueued
      rcases hpolls with heq | ⟨source, heq⟩
      · rw [heq] at hqueued
        exact List.mem_append_right _ hqueued
      · rw [heq, List.filter_append, List.map_append] at hqueued
        rcases List.mem_append.1 hqueued with hold | hnew
        · exact List.mem_append_right _ hold
        · have : j = k := by simpa using hnew
          exact List.mem_append_left _ (this ▸ hk)
  · intro q hq hphase
    rw [server_settle] at hq
    rcases hpolls with heq | ⟨source, heq⟩
    · exact heq ▸ hq
    · rw [heq] at hq
      rcases List.mem_append.1 hq with hold | hnew
      · exact hold
      · rw [List.mem_singleton.1 hnew] at hphase
        exact absurd rfl hphase
  · rw [server_settle]
    rcases hpositions with heq | ⟨e, rfl, heq⟩
    · exact .inl heq
    · exact .inr ⟨k, e, hp, heq⟩

/-- **Only polls tell of polls.** -/
theorem quiet_of_happens (h : t.Sound) {m : Move} (ht : Happens t m t') :
    t.Quiet t' ∨ ∃ k p, m = .resume k ∧ t.paused.lookup k = none ∧
      t.server.poll? k = some p ∧ t' = { t with server := (t.server.advancePoll k).1 }.note
        (pollNotes t.server k p (t.server.advancePoll k).2) := by
  cases ht with
  | polls k p hk hp => exact .inr ⟨k, p, rfl, hk, hp, rfl⟩
  | arrives r hr =>
    left
    have hfollows := Server.follows_receive h.cursor_ge r
    have hserver : (t.arrive r).server = t.server := server_settle _ _ _
    have hticket : (t.arrive r).ticket = t.ticket + 1 := ticket_settle _ _ _
    refine ⟨?_, by omega, fun j hj => ?_, fun q hq _ => hserver ▸ hq, .inl ?_⟩
    · exact (turnNotes_settle _ hfollows).trans (turnNotes_note_of_quiet _ rfl)
    · rcases List.mem_append.1 hj with hpaused | hqueued
      · rcases mem_paused_settle hpaused with hold | rfl
        · exact .inl (List.mem_append_left _ hold)
        · exact .inr ⟨rfl, by omega⟩
      · exact .inl (List.mem_append_right _ (hserver ▸ hqueued))
    · rw [hserver]
  | goesOn k p hp => exact .inl (quiet_goesOn h hp)
  | leaves k p hp =>
    refine .inl ⟨turnNotes_note_of_quiet _ rfl, Nat.le_refl _, fun j hj => .inl ?_,
      fun q hq _ => hq, .inl rfl⟩
    rcases List.mem_append.1 hj with hpaused | hqueued
    · exact List.mem_append_left _ (mem_paused_take hpaused)
    · exact List.mem_append_right _ hqueued
  | hangsUp k p hk hp =>
    rw [Server.dropPoll_eq hp]
    refine .inl ⟨turnNotes_note_of_quiet _ rfl, Nat.le_refl _, fun j hj => .inl ?_, fun q hq _ => ?_,
      .inl (Registry.positions_release _ _ _)⟩
    · rcases List.mem_append.1 hj with hpaused | hqueued
      · exact List.mem_append_left _ hpaused
      · refine List.mem_append_right _ ?_
        exact ((List.filter_sublist.filter _).map _).subset hqueued
    · exact (Tickets.mem_without.1 hq).1
  | publishes stamp typeId payload =>
    exact .inl ⟨turnNotes_note_of_quiet _ rfl, Nat.le_refl _, fun _ hk => .inl hk,
      fun _ hq _ => hq, .inl rfl⟩
  | passes nanos =>
    exact .inl ⟨rfl, Nat.le_refl _, fun _ hk => .inl hk, fun _ hq _ => hq, .inl rfl⟩

/-! ### Turns -/

/-- What the notes say of turns: each poll got it once at most, and one that waits got it where
its session stood. -/
structure Turned (t : Traffic) : Prop where
  once : t.turns.Nodup
  past : ∀ k ∈ t.turns, k < t.ticket
  fresh : ∀ k ∈ t.unturned, k ∉ t.turns
  waiting : ∀ q ∈ t.server.polls, ∀ {last deadline w}, q.2.phase = .waiting last deadline w →
    ∃ instant found, (instant, .turned q.1 found) ∈ t.turnNotes ∧ found.source = q.2.source ∧
      found.lastSequence = last

/-- The turn that a poll gets in a step. -/
def turnNote (p : Poll) (e : Entry) (k : Nat) : List Note :=
  if p.phase = .queued ∧ e.holds k then [.turned k e.session] else []

theorem pollNotes_eq {s : Server} {p : Poll} {e : Entry}
    (he : s.registry.entry? p.source = some e) (answer : Option (Outcome Batch)) :
    pollNotes s k p answer = turnNote p e k ++ (match answer with
      | none => []
      | some a => [.polled k e.session a, .answered k (a.map .batch)]) := by
  simp only [pollNotes, he]
  rfl

theorem turns_note (t : Traffic) (ns : List Note) :
    (t.note ns).turns = t.turns ++ ns.filterMap Note.turn? := by
  simp [turns, note, List.filterMap_map]

theorem turns_of_turnNotes (hnotes : t'.turnNotes = t.turnNotes) : t'.turns = t.turns := by
  refine filterMap_of_turnNotes (fun n hn => ?_) hnotes
  cases n <;> first | rfl | cases hn

theorem mem_turnNotes_note {ns : List Note} {n : Note} (hn : n ∈ ns) (hturn : n.isOfTurn = true) :
    (t.server.now, n) ∈ (t.note ns).turnNotes := by
  rw [turnNotes_note]
  exact List.mem_append_right _ (List.mem_map_of_mem (List.mem_filter.2 ⟨hn, hturn⟩))

theorem mem_turnNotes_of_mem {ns : List Note} {n : Nat × Note} (hn : n ∈ t.turnNotes) :
    n ∈ (t.note ns).turnNotes := by
  rw [turnNotes_note]
  exact List.mem_append_left _ hn

/-- A poll that goes on is noted to get the turn if it does. -/
theorem turns_note_poll {s : Server} {p : Poll} {e : Entry}
    (he : s.registry.entry? p.source = some e) (answer : Option (Outcome Batch)) :
    (t.note (pollNotes s k p answer)).turns =
      t.turns ++ if p.phase = .queued ∧ e.holds k then [k] else [] := by
  rw [turns_note, pollNotes_eq he]
  congr 1
  simp only [turnNote]
  split <;> cases answer <;> rfl

namespace Turned

theorem new {config : ServerConfig} {epoch : Epoch} (ht : Traffic.new config epoch = .ok t) :
    t.Turned := by
  obtain ⟨log, -, rfl⟩ := eq_of_new ht
  exact ⟨by simp [turns], by simp [turns], by simp [unturned], by simp⟩

theorem quiet (h : t.Turned) (hq : t.Quiet t') : t'.Turned := by
  have hturns := turns_of_turnNotes hq.turnNotes
  refine ⟨hturns ▸ h.once, fun k hk => ?_, fun k hk => ?_, fun q hpoll => ?_⟩
  · exact Nat.lt_of_lt_of_le (h.past k (hturns ▸ hk)) hq.ticket
  · rw [hturns]
    rcases hq.unturned k hk with hold | ⟨rfl, -⟩
    · exact h.fresh k hold
    · exact fun hin => Nat.lt_irrefl _ (h.past _ hin)
  · intro last deadline w hw
    rw [hq.turnNotes]
    exact h.waiting q (hq.waiting q hpoll (by rw [hw]; nofun)) hw

/-- A poll that waits once a poll has gone on got the turn where its session stands. -/
theorem waiting_poll (h : t.Turned) (hs : t.Sound) {p : Poll} (hp : t.server.poll? k = some p)
    {q : Nat × Poll} (hq : q ∈ (t.server.advancePoll k).1.polls) {last : Int} {deadline : Nat}
    {w : Wait} (hw : q.2.phase = .waiting last deadline w) :
    ∃ instant found, (instant, .turned q.1 found) ∈ ({ t with server :=
        (t.server.advancePoll k).1 }.note
          (pollNotes t.server k p (t.server.advancePoll k).2)).turnNotes ∧
      found.source = q.2.source ∧ found.lastSequence = last := by
  obtain ⟨e, he⟩ := hs.orderly.entry_of_poll hp
  have hstep := hs.orderly.pollStep hs.ring hp he
  rcases hstep.mem_polls hs.orderly.tickets hp hq with ⟨hold, -⟩ | ⟨hturn, w', rfl⟩
  · obtain ⟨instant, found, hfound, hsame⟩ := h.waiting q hold hw
    exact ⟨instant, found, mem_turnNotes_of_mem hfound, hsame⟩
  · cases hw
    cases hphase : p.phase with
    | queued =>
      have hholds : e.holds k = true := by
        rcases hturn with hne | hholds
        · exact absurd hphase hne
        · exact hholds
      refine ⟨_, e.session, mem_turnNotes_note ?_ rfl, Registry.source_of_entry he, rfl⟩
      rw [pollNotes_eq he, turnNote, if_pos ⟨hphase, hholds⟩]
      exact List.mem_append_left _ (List.mem_singleton.2 rfl)
    | waiting last' deadline' w'' =>
      obtain ⟨instant, found, hfound, hsource, hlast⟩ :=
        h.waiting _ (Server.mem_polls_of_poll? hp) hphase
      rw [(hs.orderly.last_of_waiting hp he hphase).1] at hlast
      exact ⟨instant, found, mem_turnNotes_of_mem hfound, hsource, hlast⟩

/-- Whoever has no turn once a poll has gone on had none before, and is not that poll unless it
has gone on without. -/
theorem unturned_poll (h : t.Turned) (hs : t.Sound) {p : Poll} (hk : t.paused.lookup k = none)
    (hp : t.server.poll? k = some p) {e : Entry} (he : t.server.registry.entry? p.source = some e)
    {j : Nat} (hj : j ∈ unturned { t with server := (t.server.advancePoll k).1 }) :
    j ∉ t.turns ∧ (j = k → e.holds k = false) := by
  rcases List.mem_append.1 hj with hpaused | hqueued
  · refine ⟨h.fresh j (List.mem_append_left _ hpaused), ?_⟩
    rintro rfl
    exact absurd hpaused (Tickets.not_mem_of_lookup hk)
  · obtain ⟨q, hq, rfl⟩ := List.mem_map.1 hqueued
    obtain ⟨hq, hphase⟩ := List.mem_filter.1 hq
    have hstep := hs.orderly.pollStep hs.ring hp he
    rcases hstep.mem_polls hs.orderly.tickets hp hq with ⟨hold, hholds⟩ | ⟨-, w, rfl⟩
    · refine ⟨h.fresh _ (List.mem_append_right _ ?_), fun heq => (hholds heq).2⟩
      exact List.mem_map_of_mem (List.mem_filter.2 ⟨hold, hphase⟩)
    · simp at hphase

/-- A poll that goes on. -/
theorem poll (h : t.Turned) (hs : t.Sound) {p : Poll} (hk : t.paused.lookup k = none)
    (hp : t.server.poll? k = some p) :
    Turned ({ t with server := (t.server.advancePoll k).1 }.note
      (pollNotes t.server k p (t.server.advancePoll k).2)) := by
  obtain ⟨e, he⟩ := hs.orderly.entry_of_poll hp
  have hturns := turns_note_poll (t := { t with server := (t.server.advancePoll k).1 }) (k := k) he
    (t.server.advancePoll k).2
  have hnew : ∀ {j}, j ∈ (if p.phase = .queued ∧ e.holds k then [k] else []) →
      j = k ∧ p.phase = .queued ∧ e.holds k = true := by
    intro j hj
    split at hj
    · rename_i hturn
      exact ⟨List.mem_singleton.1 hj, hturn⟩
    · cases hj
  refine ⟨?_, fun j hj => ?_, fun j hj => ?_, fun q hq _ _ _ => h.waiting_poll hs hp hq⟩
  · rw [hturns]
    split
    · rename_i hturn
      refine List.concat_eq_append ▸ h.once.concat (h.fresh k (List.mem_append_right _ ?_))
      exact List.mem_map.2 ⟨(k, p), List.mem_filter.2
        ⟨Server.mem_polls_of_poll? hp, by simpa using hturn.1⟩, rfl⟩
    · exact (List.append_nil t.turns).symm ▸ h.once
  · rw [hturns] at hj
    rcases List.mem_append.1 hj with hold | hlast
    · exact h.past j hold
    · obtain ⟨rfl, -⟩ := hnew hlast
      exact hs.issued _ (List.mem_append_right _
        (List.mem_map_of_mem (Server.mem_polls_of_poll? hp)))
  · rw [hturns]
    intro hin
    obtain ⟨hnone, hwithout⟩ := h.unturned_poll hs hk hp he hj
    rcases List.mem_append.1 hin with hold | hlast
    · exact hnone hold
    · obtain ⟨heq, -, hholds⟩ := hnew hlast
      rw [hwithout heq] at hholds
      cases hholds

theorem step (h : t.Turned) (hs : t.Sound) {m : Move} (ht : t.step m = some t') : t'.Turned := by
  rcases quiet_of_happens hs (happens_of_step ht) with hquiet | ⟨k, p, -, hk, hp, rfl⟩
  · exact h.quiet hquiet
  · exact h.poll hs hk hp

end Turned
end Traffic
end EventRelay

/-
# Polls stand in line

`Server.Orderly` is what holds of a server between any two steps: the queue of a session is
the line of the polls on it, in the order in which they arrived; a poll that waits is at the
front of its line and remembers where its session stands; and no session stands after the
last event.

A session moves only when the poll at the front of its line is answered, and then nobody
else waits on it.  That is `Server.Orderly.leave`, which covers a poll that is given up as
well as one that is answered; every other step leaves all marks as they are, appends to one
queue, or adds a session of a new source.
-/

import EventRelay.Proofs.Server.PollStep
import EventRelay.Proofs.Tickets
import EventRelay.Server.Request

namespace EventRelay
namespace Server

/-- The polls on a session, the one that arrived first in front. -/
def line (s : Server) (source : SourceId) : List Nat :=
  (s.polls.filter fun q => q.2.source = source).map Prod.fst

/-- When a wait is over, counted from an instant at which its poll had the turn. -/
structure Schedule (config : ServerConfig) (since deadline : Nat) (w : Wait) : Prop where
  minDue : w.minDue = since + config.minWait.nanos
  maxDue : w.maxDue = since + max config.maxWait.nanos config.minWait.nanos
  deadline : deadline = since + config.requestTimeout.nanos

/-- What holds of the polls and the sessions of a server between two steps. -/
structure Orderly (s : Server) : Prop where
  tickets : (s.polls.map Prod.fst).Nodup
  sources : s.registry.sources.Nodup
  queues : ∀ m ∈ s.registry.marks, m.queue = s.line m.source
  homes : ∀ q ∈ s.polls, q.2.source ∈ s.registry.sources
  levels : ∀ m ∈ s.registry.marks, -1 ≤ m.last ∧ m.last ≤ s.log.cursor
  /-- A poll that waits has the turn, and knows where its session stands. -/
  waiting : ∀ q ∈ s.polls, ∀ {last deadline w}, q.2.phase = .waiting last deadline w →
    ∀ m ∈ s.registry.marks, m.source = q.2.source → m.last = last ∧ m.queue.head? = some q.1
  waits : ∀ q ∈ s.polls, ∀ {last deadline w}, q.2.phase = .waiting last deadline w →
    w.target = last + 1 ∧ ∃ since ≤ s.now, Schedule s.config since deadline w

variable {s : Server} {k : Nat} {p : Poll}

theorem mem_polls_of_poll? (hp : s.poll? k = some p) : (k, p) ∈ s.polls :=
  Tickets.mem_of_lookup hp

theorem mem_line {source : SourceId} :
    k ∈ s.line source ↔ ∃ p, (k, p) ∈ s.polls ∧ p.source = source := by
  simp [line, List.mem_map]

theorem poll_setPhase (s : Server) (k : Nat) (phase : PollPhase) (j : Nat) :
    (s.setPhase k phase).poll? j =
      if j = k then (s.poll? k).map fun p => { p with phase } else s.poll? j := by
  simp only [poll?, setPhase]
  induction s.polls with
  | nil => simp
  | cons q polls ih =>
    obtain ⟨k', p⟩ := q
    simp only [List.map_cons, List.lookup_cons, ih]
    by_cases hjk : j = k
    · subst hjk
      by_cases hj : j = k'
      · subst hj
        simp
      · have hne : (j == k') = false := by simpa using hj
        simp [hne]
    · by_cases hj : j = k'
      · subst hj
        simp [hjk]
      · have hne : (j == k') = false := by simpa using hj
        simp [hne, hjk]

/-- The polls after one of them has changed its phase. -/
theorem mem_setPhase (htickets : (s.polls.map Prod.fst).Nodup) (hp : s.poll? k = some p)
    {phase : PollPhase} {q : Nat × Poll} (hq : q ∈ (s.setPhase k phase).polls) :
    (q ∈ s.polls ∧ q.1 ≠ k) ∨ q = (k, { p with phase }) := by
  obtain ⟨⟨k', p'⟩, hq', rfl⟩ := List.mem_map.1 hq
  by_cases hk : k' = k
  · subst hk
    rw [Tickets.unique htickets hq' (mem_polls_of_poll? hp)]
    exact .inr (by simp)
  · exact .inl ⟨by simpa [hk] using hq', hk⟩

/-- The polls after a step of one of them: the others, and it if it goes on. -/
theorem PollStep.mem_polls {events : List Event} {e : Entry} {s' : Server}
    {answer : Option (Outcome Batch)} (h : PollStep s events k p e s' answer)
    (htickets : (s.polls.map Prod.fst).Nodup) (hp : s.poll? k = some p) {q : Nat × Poll}
    (hq : q ∈ s'.polls) :
    (q ∈ s.polls ∧ (q.1 = k → p.phase = .queued ∧ e.holds k = false)) ∨
      (HasTurn k p e ∧ ∃ w,
        q = (k, ⟨p.source, .waiting e.session.lastSequence (s.deadlineOf p) w⟩)) := by
  cases h with
  | stays hphase hturn => exact .inl ⟨hq, fun _ => ⟨hphase, hturn⟩⟩
  | waits hturn w hw htime =>
    rcases mem_setPhase htickets hp hq with ⟨hold, hne⟩ | rfl
    · exact .inl ⟨hold, fun hk => absurd hk hne⟩
    · exact .inr ⟨hturn, w, rfl⟩
  | timesOut | refuses =>
    rw [dropPoll_eq hp] at hq
    obtain ⟨hold, hne⟩ := Tickets.mem_without.1 hq
    exact .inl ⟨hold, fun hk => absurd hk hne⟩
  | overflows | consumes =>
    rw [dropPoll_withRegistry hp] at hq
    obtain ⟨hold, hne⟩ := Tickets.mem_without.1 hq
    exact .inl ⟨hold, fun hk => absurd hk hne⟩

namespace Orderly

/-- A server without sessions. -/
theorem new {config : ServerConfig} {epoch : Epoch} (hs : Server.new config epoch = .ok s) :
    s.Orderly := by
  unfold Server.new at hs
  cases hl : Log.new config.bufferCapacity with
  | error fault =>
    rw [hl] at hs
    cases hs
  | ok log =>
    rw [hl] at hs
    cases hs
    exact ⟨by simp, by simp [Registry.sources, Registry.marks, Registry.new],
      by simp [Registry.marks, Registry.new], by simp, by simp [Registry.marks, Registry.new],
      by simp, by simp⟩

/-- The session of a poll is there. -/
theorem entry_of_poll (h : s.Orderly) (hp : s.poll? k = some p) :
    ∃ e, s.registry.entry? p.source = some e :=
  Option.isSome_iff_exists.1
    (Registry.entry_isSome_iff.2 (h.homes _ (mem_polls_of_poll? hp)))

theorem level_of_entry (h : s.Orderly) {source : SourceId} {e : Entry}
    (he : s.registry.entry? source = some e) :
    -1 ≤ e.session.lastSequence ∧ e.session.lastSequence ≤ s.log.cursor :=
  h.levels _ (Registry.mark_mem_of_entry he)

/-- A poll that waits and its session agree. -/
theorem last_of_waiting (h : s.Orderly) (hp : s.poll? k = some p) {e : Entry}
    (he : s.registry.entry? p.source = some e) {last : Int} {deadline : Nat} {w : Wait}
    (hw : p.phase = .waiting last deadline w) :
    last = e.session.lastSequence ∧ e.holds k = true := by
  have hm := h.waiting _ (mem_polls_of_poll? hp) hw _ (Registry.mark_mem_of_entry he)
    (Registry.source_of_entry he)
  exact ⟨hm.1.symm, by simpa [Entry.holds] using hm.2⟩

/-- Whoever has the turn is at the front of the line. -/
theorem holds_of_hasTurn (h : s.Orderly) (hp : s.poll? k = some p) {e : Entry}
    (he : s.registry.entry? p.source = some e) (hturn : HasTurn k p e) : e.holds k = true := by
  rcases hturn with hphase | hholds
  · cases hw : p.phase with
    | queued => exact absurd hw hphase
    | waiting last deadline w => exact (h.last_of_waiting hp he hw).2
  · exact hholds

/-- **One waits at a time.**  While a poll has the turn, nobody else waits on its session. -/
theorem alone (h : s.Orderly) (hp : s.poll? k = some p) {e : Entry}
    (he : s.registry.entry? p.source = some e) (hturn : HasTurn k p e) :
    ∀ q ∈ s.polls, q.1 ≠ k → ∀ {last deadline w}, q.2.phase = .waiting last deadline w →
      q.2.source ≠ p.source := by
  intro q hq hne last deadline w hw hsource
  have hfront := (h.waiting q hq hw _ (Registry.mark_mem_of_entry he)
    (by rw [hsource, Entry.mark_source, Registry.source_of_entry he])).2
  have hk : e.queue.head? = some k := by simpa [Entry.holds] using h.holds_of_hasTurn hp he hturn
  rw [Entry.mark_queue, hk] at hfront
  exact hne (Option.some.inj hfront).symm

/-- The wait that a poll with the turn is in, or begins, has been scheduled. -/
theorem schedule (h : s.Orderly) (hp : s.poll? k = some p) {e : Entry}
    (he : s.registry.entry? p.source = some e) :
    (s.waitOf p e.session).target = e.session.lastSequence + 1 ∧
      ∃ since ≤ s.now, Schedule s.config since (s.deadlineOf p) (s.waitOf p e.session) := by
  cases hphase : p.phase with
  | queued =>
    simp only [waitOf, deadlineOf, hphase]
    exact ⟨rfl, s.now, Nat.le_refl _, rfl, rfl, rfl⟩
  | waiting last deadline w =>
    simp only [waitOf, deadlineOf, hphase]
    rw [← (h.last_of_waiting hp he hphase).1]
    exact h.waits _ (mem_polls_of_poll? hp) hphase

/-- **A wait is over in time**, if the settings say that it must be. -/
theorem in_time (h : s.Orderly) (hp : s.poll? k = some p) {e : Entry}
    (he : s.registry.entry? p.source = some e) (hvalid : s.config.validate = .ok ()) {w : Wait}
    (hw : (s.waitOf p e.session).advance s.now s.log.cursor = some w) :
    s.now < s.deadlineOf p := by
  obtain ⟨-, hmin, hmax⟩ := ServerConfig.validate_eq_ok_iff.1 hvalid
  obtain ⟨-, since, hsince, hschedule⟩ := h.schedule hp he
  obtain ⟨-, hminDue, hmaxDue⟩ := Wait.advance_keeps hw
  have hdue := Wait.due_gt_of_advance hw
  have hle : w.due ≤ since + max s.config.maxWait.nanos s.config.minWait.nanos := by
    unfold Wait.due
    rw [hminDue, hmaxDue, hschedule.minDue, hschedule.maxDue]
    split <;> omega
  rw [hschedule.deadline]
  omega

/-! ### Steps that move nobody -/

/-- A change of sessions that keeps their marks. -/
theorem withRegistry (h : s.Orderly) {r : Registry} (hr : r.marks = s.registry.marks) :
    (s.withRegistry r).Orderly := by
  have hsources : r.sources = s.registry.sources := by rw [Registry.sources, hr]; rfl
  refine ⟨h.tickets, ?_, ?_, ?_, ?_, ?_, h.waits⟩
  · exact hsources ▸ h.sources
  · exact fun m hm => h.queues m (hr ▸ hm)
  · exact fun q hq => hsources ▸ h.homes q hq
  · exact fun m hm => h.levels m (hr ▸ hm)
  · exact fun q hq _ _ _ hw m hm => h.waiting q hq hw m (hr ▸ hm)

/-- An event is published. -/
theorem publish (h : s.Orderly) (stamp : Stamp) (t : TypeId) (payload : Json.Value) :
    (s.publish stamp t payload).Orderly := by
  refine { h with levels := fun m hm => ?_ }
  have hl := h.levels m hm
  simp only [Server.publish, Log.cursor_publish]
  omega

/-- Time passes. -/
theorem pass (h : s.Orderly) (nanos : Nat) : Orderly { s with now := s.now + nanos } := by
  refine { h with waits := fun q hq => ?_ }
  intro last deadline w hw
  obtain ⟨htarget, since, hsince, hschedule⟩ := h.waits q hq hw
  exact ⟨htarget, since, Nat.le_add_right_of_le hsince, hschedule⟩

/-- A session of a new source is put on the list. -/
theorem enlist (h : s.Orderly) {e : Entry} (hnew : e.session.source ∉ s.registry.sources)
    (hqueue : e.queue = []) (hlow : -1 ≤ e.session.lastSequence)
    (hhigh : e.session.lastSequence ≤ s.log.cursor) :
    (s.withRegistry (s.registry.enlist e)).Orderly := by
  have hmarks := Registry.marks_enlist s.registry e
  have hsources := Registry.sources_enlist s.registry e
  have hmem : ∀ m ∈ (s.registry.enlist e).marks, m ∈ s.registry.marks ∨ m = e.mark := by
    intro m hm
    simpa [hmarks] using hm
  have hnobody : ∀ q ∈ s.polls, q.2.source ≠ e.session.source := fun q hq heq =>
    hnew (heq ▸ h.homes q hq)
  refine ⟨h.tickets, ?_, ?_, ?_, ?_, ?_, h.waits⟩
  · simp only [Server.withRegistry, hsources]
    exact List.concat_eq_append ▸ h.sources.concat hnew
  · intro m hm
    rcases hmem m hm with hold | rfl
    · exact h.queues m hold
    · have hline : s.line e.session.source = [] := by
        simpa [line] using hnobody
      exact hqueue.trans hline.symm
  · intro q hq
    simp only [Server.withRegistry, hsources]
    exact List.mem_append_left _ (h.homes q hq)
  · intro m hm
    rcases hmem m hm with hold | rfl
    · exact h.levels m hold
    · exact ⟨hlow, hhigh⟩
  · intro q hq last deadline w hw m hm hsource
    rcases hmem m hm with hold | rfl
    · exact h.waiting q hq hw m hold hsource
    · exact absurd hsource.symm (hnobody q hq)

/-- A poll queues up. -/
theorem lineUp (h : s.Orderly) {source : SourceId} (hk : k ∉ s.polls.map Prod.fst)
    (hsource : source ∈ s.registry.sources) : (s.lineUp k source).Orderly := by
  have hmarks := Registry.marks_enqueue s.registry source k
  have hsources := Registry.sources_enqueue s.registry source k
  have hmem : ∀ m' ∈ (s.registry.enqueue source k).marks, ∃ m ∈ s.registry.marks,
      m' = if m.source = source then { m with queue := m.queue ++ [k] } else m := by
    intro m' hm'
    rw [hmarks] at hm'
    obtain ⟨m, hm, rfl⟩ := List.mem_map.1 hm'
    exact ⟨m, hm, rfl⟩
  refine ⟨?_, ?_, ?_, ?_, ?_, ?_, ?_⟩
  · simp only [Server.lineUp, List.map_append, List.map_cons, List.map_nil]
    exact List.concat_eq_append ▸ h.tickets.concat hk
  · simpa only [Server.lineUp, hsources] using h.sources
  · intro m' hm'
    obtain ⟨m, hm, rfl⟩ := hmem m' hm'
    have hq := h.queues m hm
    by_cases hs : m.source = source
    · simp [hs, line, Server.lineUp, hq]
    · simp [hs, line, Server.lineUp, hq, Ne.symm hs]
  · intro q hq
    simp only [Server.lineUp, hsources] at hq ⊢
    rcases List.mem_append.1 hq with hold | hnew
    · exact h.homes q hold
    · rw [List.mem_singleton.1 hnew]
      exact hsource
  · intro m' hm'
    obtain ⟨m, hm, rfl⟩ := hmem m' hm'
    have hl := h.levels m hm
    split <;> exact hl
  · intro q hq last deadline w hw m' hm' heq
    rcases List.mem_append.1 hq with hold | hnew
    · obtain ⟨m, hm, rfl⟩ := hmem m' hm'
      by_cases hs : m.source = source
      · rw [if_pos hs] at heq ⊢
        obtain ⟨hlast, hfront⟩ := h.waiting q hold hw m hm heq
        exact ⟨hlast, by simp [List.head?_append, hfront]⟩
      · rw [if_neg hs] at heq ⊢
        exact h.waiting q hold hw m hm heq
    · rw [List.mem_singleton.1 hnew] at hw
      cases hw
  · intro q hq last deadline w hw
    rcases List.mem_append.1 hq with hold | hnew
    · exact h.waits q hold hw
    · rw [List.mem_singleton.1 hnew] at hw
      cases hw

/-- A poll that has the turn waits on. -/
theorem setPhase (h : s.Orderly) (hp : s.poll? k = some p) {e : Entry}
    (he : s.registry.entry? p.source = some e) (hturn : HasTurn k p e) {w : Wait}
    (hw : (s.waitOf p e.session).advance s.now s.log.cursor = some w) :
    (s.setPhase k (.waiting e.session.lastSequence (s.deadlineOf p) w)).Orderly := by
  have hmem : ∀ q ∈ (s.setPhase k (.waiting e.session.lastSequence (s.deadlineOf p) w)).polls,
      (q ∈ s.polls ∧ q.1 ≠ k) ∨
        q = (k, ⟨p.source, .waiting e.session.lastSequence (s.deadlineOf p) w⟩) :=
    fun q hq => mem_setPhase h.tickets hp hq
  have hkeys : (s.setPhase k (.waiting e.session.lastSequence (s.deadlineOf p) w)).polls.map
      Prod.fst = s.polls.map Prod.fst := by
    simp [Server.setPhase, Function.comp_def]
  have hline : ∀ source, (s.setPhase k (.waiting e.session.lastSequence (s.deadlineOf p) w)).line
      source = s.line source := by
    intro source
    simp only [line, Server.setPhase, List.filter_map, List.map_map, Function.comp_def]
    refine congrArg (List.map _) (List.filter_congr fun q _ => ?_)
    split <;> rfl
  refine ⟨hkeys ▸ h.tickets, h.sources, fun m hm => (h.queues m hm).trans (hline _).symm, ?_,
    h.levels, ?_, ?_⟩
  · intro q hq
    rcases hmem q hq with ⟨hold, -⟩ | rfl
    · exact h.homes q hold
    · exact h.homes (k, p) (mem_polls_of_poll? hp)
  · intro q hq last deadline w' hw' m hm hsource
    rcases hmem q hq with ⟨hold, -⟩ | rfl
    · exact h.waiting q hold hw' m hm hsource
    · cases hw'
      have hmark : m = e.mark := Registry.mark_unique h.sources hm (Registry.mark_mem_of_entry he)
        (hsource.trans (Registry.source_of_entry he).symm)
      subst hmark
      exact ⟨rfl, by simpa [Entry.holds] using h.holds_of_hasTurn hp he hturn⟩
  · intro q hq last deadline w' hw'
    rcases hmem q hq with ⟨hold, -⟩ | rfl
    · exact h.waits q hold hw'
    · cases hw'
      obtain ⟨htarget, hmin, hmax⟩ := Wait.advance_keeps hw
      obtain ⟨htarget', since, hsince, hschedule⟩ := h.schedule hp he
      exact ⟨htarget.trans htarget', since, hsince, hmin.trans hschedule.minDue,
        hmax.trans hschedule.maxDue, hschedule.deadline⟩

/-! ### A poll leaves -/

/-- **A poll leaves its line.**  As it does, sessions may move, unless somebody else waits on
them. -/
theorem leave (h : s.Orderly) (hp : s.poll? k = some p) {r : Registry} {f : Mark → Mark}
    (hr : r.marks = s.registry.marks.map f) (hsource : ∀ m, (f m).source = m.source)
    (hqueue : ∀ m, (f m).queue = m.queue)
    (hlevel : ∀ m ∈ s.registry.marks, -1 ≤ (f m).last ∧ (f m).last ≤ s.log.cursor)
    (hkeep : ∀ q ∈ s.polls, q.1 ≠ k → ∀ {last deadline w}, q.2.phase = .waiting last deadline w →
      ∀ m ∈ s.registry.marks, m.source = q.2.source → (f m).last = m.last) :
    ((s.withRegistry r).dropPoll k).Orderly := by
  have hmem : ∀ m' ∈ (r.release p.source k).marks, ∃ m ∈ s.registry.marks,
      m'.source = m.source ∧ m'.last = (f m).last ∧ m'.queue = m.queue.filter (· ≠ k) := by
    intro m' hm'
    rw [Registry.marks_release, hr, List.map_map] at hm'
    obtain ⟨m, hm, rfl⟩ := List.mem_map.1 hm'
    refine ⟨m, hm, ?_⟩
    by_cases hs : m.source = p.source
    · simp [hsource, hqueue, hs]
    · have hnot : k ∉ m.queue := by
        rw [h.queues m hm, mem_line]
        rintro ⟨p', hp', hsame⟩
        rw [Tickets.unique h.tickets hp' (mem_polls_of_poll? hp)] at hsame
        exact hs hsame.symm
      have hall : m.queue.filter (· ≠ k) = m.queue := by
        rw [List.filter_eq_self]
        intro a ha
        simpa using fun heq : a = k => hnot (heq ▸ ha)
      simp only [Function.comp, hsource, hs, if_false, hqueue, hall, and_self]
  have hsources : (r.release p.source k).sources = s.registry.sources :=
    (Registry.sources_release r p.source k).trans (Registry.sources_of_marks hr hsource)
  rw [dropPoll_withRegistry hp]
  refine ⟨?_, hsources ▸ h.sources, ?_, ?_, ?_, ?_, ?_⟩
  · rw [Tickets.map_fst_without]
    exact h.tickets.filter _
  · intro m' hm'
    obtain ⟨m, hm, hs, -, hq⟩ := hmem m' hm'
    rw [hq, h.queues m hm, hs]
    simp only [line, List.filter_filter, List.filter_map, Function.comp_def]
    exact congrArg (List.map _) (List.filter_congr fun q _ => Bool.and_comm _ _)
  · exact fun q hq => hsources ▸ h.homes q (Tickets.mem_without.1 hq).1
  · intro m' hm'
    obtain ⟨m, hm, -, hlast, -⟩ := hmem m' hm'
    rw [hlast]
    exact hlevel m hm
  · intro q hq last deadline w hw m' hm' heq
    obtain ⟨hold, hne⟩ := Tickets.mem_without.1 hq
    obtain ⟨m, hm, hs, hlast, hq'⟩ := hmem m' hm'
    obtain ⟨hl, hfront⟩ := h.waiting q hold hw m hm (hs ▸ heq)
    refine ⟨by rw [hlast, hkeep q hold hne hw m hm (hs ▸ heq), hl], ?_⟩
    obtain ⟨rest, hqueue⟩ := List.head?_eq_some_iff.1 hfront
    rw [hq', hqueue, List.filter_cons_of_pos (by simpa using hne), List.head?_cons]
  · exact fun q hq => h.waits q (Tickets.mem_without.1 hq).1

/-- A poll is given up, or is answered and moves nobody. -/
theorem dropPoll (h : s.Orderly) (hp : s.poll? k = some p) : (s.dropPoll k).Orderly :=
  h.leave (r := s.registry) (f := id) hp (by simp) (fun _ => rfl) (fun _ => rfl) h.levels
    fun _ _ _ _ _ _ _ _ _ _ => rfl

/-- A poll with the turn is answered, and its session then stands at the last event. -/
theorem moveOn (h : s.Orderly) (hp : s.poll? k = some p) {e : Entry}
    (he : s.registry.entry? p.source = some e) (hturn : HasTurn k p e) {r : Registry}
    (hr : r.marks = s.registry.marks.map fun m =>
      if m.source = p.source then { m with last := s.log.cursor } else m) :
    ((s.withRegistry r).dropPoll k).Orderly := by
  refine h.leave hp hr (fun m => by split <;> rfl) (fun m => by split <;> rfl) ?_ ?_
  · intro m hm
    have hl := h.levels m hm
    split
    · exact ⟨by simp only; omega, Int.le_refl _⟩
    · exact hl
  · intro q hq hne last deadline w hw m hm hsource
    rw [if_neg (hsource ▸ h.alone hp he hturn q hq hne hw)]

/-- What one step of a poll does. -/
theorem pollStep (h : s.Orderly) {events : List Event} (hring : s.log.Holds events)
    (hp : s.poll? k = some p) {e : Entry} (he : s.registry.entry? p.source = some e) :
    PollStep s events k p e (s.advancePoll k).1 (s.advancePoll k).2 := by
  have hlevel := h.level_of_entry he
  exact pollStep_of_advancePoll h.tickets hring hp he hlevel fun hw =>
    (h.last_of_waiting hp he hw).1

/-- **Whatever a poll does**, the lines stay in order. -/
theorem advancePoll (h : s.Orderly) {events : List Event} (hring : s.log.Holds events)
    (k : Nat) : (s.advancePoll k).1.Orderly := by
  cases hp : s.poll? k with
  | none =>
    unfold Server.advancePoll
    rw [hp]
    exact h
  | some p =>
    obtain ⟨e, he⟩ := h.entry_of_poll hp
    have hstep := h.pollStep hring hp he
    generalize (s.advancePoll k).1 = s', (s.advancePoll k).2 = answer at hstep
    cases hstep with
    | stays hphase hturn => exact h
    | waits hturn w hw htime => exact h.setPhase hp he hturn hw
    | timesOut hturn w hw htime => exact h.dropPoll hp
    | overflows hturn hlag hover => exact h.moveOn hp he hturn (marks_resynced _ _)
    | refuses hturn hlag hover hended => exact h.dropPoll hp
    | consumes hturn hlag hover hlive => exact h.moveOn hp he hturn (marks_consumed _ _)

end Orderly
end Server
end EventRelay

/-
# One step of a poll

`Server.PollStep` lists everything that one step of a poll can do.  A poll without the turn
stays where it is.  A poll with the turn waits on, runs out of time, or comes to an end, and
then the session decides:

| session | answer | the session then stands at |
| --- | --- | --- |
| more than `capacity` events behind | overflow | the last event |
| ended, not that far behind | invalid session | where it stood |
| live, not that far behind | everything after where it stood | the last event |

An overflow is found before the wait or after it, and is found in an ended session too.
`Server.pollStep_of_advancePoll` says that the list is complete.
-/

import EventRelay.Proofs.Log.Ring
import EventRelay.Proofs.Session.Ending
import EventRelay.Proofs.Session.Marks
import EventRelay.Proofs.Tickets
import EventRelay.Server.Poll

namespace EventRelay
namespace Server

variable {s : Server} {events : List Event}

/-- Whether a server differs from another in nothing but its sessions and its polls. -/
structure Steady (s s' : Server) : Prop where
  config : s'.config = s.config
  epoch : s'.epoch = s.epoch
  log : s'.log = s.log
  now : s'.now = s.now

theorem steady_withRegistry (s : Server) (r : Registry) : s.Steady (s.withRegistry r) :=
  ⟨rfl, rfl, rfl, rfl⟩

theorem Steady.trans {s s' s'' : Server} (h : s.Steady s') (h' : s'.Steady s'') :
    s.Steady s'' :=
  ⟨h'.config.trans h.config, h'.epoch.trans h.epoch, h'.log.trans h.log, h'.now.trans h.now⟩

theorem steady_dropPoll (s : Server) (ticket : Nat) : s.Steady (s.dropPoll ticket) := by
  unfold dropPoll
  split <;> exact ⟨rfl, rfl, rfl, rfl⟩

/-- A poll that is dropped leaves the list of polls and the queue of its session. -/
theorem dropPoll_eq {s : Server} {ticket : Nat} {p : Poll} (hp : s.poll? ticket = some p) :
    s.dropPoll ticket =
      { s with
        polls := s.polls.filter fun q => q.1 ≠ ticket
        registry := s.registry.release p.source ticket } := by
  simp only [dropPoll, hp]

theorem dropPoll_withRegistry {s : Server} {ticket : Nat} {p : Poll}
    (hp : s.poll? ticket = some p) (r : Registry) :
    (s.withRegistry r).dropPoll ticket =
      { s with
        polls := s.polls.filter fun q => q.1 ≠ ticket
        registry := r.release p.source ticket } :=
  dropPoll_eq (s := s.withRegistry r) hp

/-- The batch of a session that consumes everything up to the last event. -/
def batchOf (s : Server) (events : List Event) (session : Session) : Batch :=
  batchFor session ⟨events.drop (session.lastSequence + 1).toNat, s.log.cursor⟩

/-- Whether a session is further behind than the log reaches back. -/
def Lags (s : Server) (session : Session) : Prop :=
  (s.log.capacity : Int) < s.log.cursor - session.lastSequence

instance (s : Server) (session : Session) : Decidable (s.Lags session) :=
  inferInstanceAs (Decidable (_ < _))

/-- Whether a session that stands at one of the cursors so far is refused. -/
theorem ensureRetained_eq {s : Server} {session : Session}
    (hlow : Log.emptyCursor ≤ session.lastSequence) :
    s.log.ensureRetained session.lastSequence =
      if s.Lags session then .error (s.log.overflow session.lastSequence) else .ok () := by
  rw [Log.ensureRetained_of_le hlow]
  by_cases hlag : s.Lags session
  · rw [if_pos hlag, if_neg (Int.not_le.2 hlag)]
  · rw [if_neg hlag, if_pos (Int.not_lt.1 hlag)]

/-- The registry after a session has lost events. -/
def resynced (s : Server) (source : SourceId) : Registry :=
  s.registry.modifySession source (·.update s.log.cursor)

/-- The registry after a session has consumed everything. -/
def consumed (s : Server) (source : SourceId) : Registry :=
  (s.resynced source).modify source (·.touch s.now)

theorem marks_resynced (s : Server) (source : SourceId) :
    (s.resynced source).marks =
      s.registry.marks.map fun m => if m.source = source then { m with last := s.log.cursor } else m :=
  Registry.marks_update s.registry source s.log.cursor

theorem marks_consumed (s : Server) (source : SourceId) :
    (s.consumed source).marks =
      s.registry.marks.map fun m => if m.source = source then { m with last := s.log.cursor } else m := by
  rw [consumed, Registry.marks_touch, marks_resynced]

theorem settled_resynced (h : s.registry.Settled) (source : SourceId) :
    (s.resynced source).Settled :=
  Registry.settled_modifySession h fun _ => rfl

theorem settled_consumed (h : s.registry.Settled) (source : SourceId) :
    (s.consumed source).Settled :=
  Registry.settled_modify (settled_resynced h source) fun _ he => he

/-- When the wait of a poll has to be over: of the wait it is in, or of one that begins. -/
def deadlineOf (s : Server) (p : Poll) : Nat :=
  match p.phase with
  | .queued => s.now + s.config.requestTimeout.nanos
  | .waiting _ deadline _ => deadline

/-- The wait of a poll on a session: the one it is in, or one that begins. -/
def waitOf (s : Server) (p : Poll) (session : Session) : Wait :=
  match p.phase with
  | .queued => .start s.now (session.lastSequence + 1) s.config.minWait s.config.maxWait
  | .waiting _ _ w => w

/-- Whether a poll has the turn. -/
def HasTurn (ticket : Nat) (p : Poll) (e : Entry) : Prop :=
  p.phase ≠ .queued ∨ e.holds ticket = true

/-- Whether the wait of a poll is over. -/
def WaitOver (s : Server) (p : Poll) (session : Session) : Prop :=
  (s.waitOf p session).advance s.now s.log.cursor = none

/-- What one step of a poll on a session can do. -/
inductive PollStep (s : Server) (events : List Event) (ticket : Nat) (p : Poll) (e : Entry) :
    Server → Option (Outcome Batch) → Prop where
  | stays (hphase : p.phase = .queued) (hturn : e.holds ticket = false) :
    PollStep s events ticket p e s none
  | waits (hturn : HasTurn ticket p e) (w : Wait)
      (hw : (s.waitOf p e.session).advance s.now s.log.cursor = some w)
      (htime : s.now < s.deadlineOf p) :
    PollStep s events ticket p e
      (s.setPhase ticket (.waiting e.session.lastSequence (s.deadlineOf p) w)) none
  | timesOut (hturn : HasTurn ticket p e) (w : Wait)
      (hw : (s.waitOf p e.session).advance s.now s.log.cursor = some w)
      (htime : s.deadlineOf p ≤ s.now) :
    PollStep s events ticket p e (s.dropPoll ticket) (some (.error .connectionTimeout))
  | overflows (hturn : HasTurn ticket p e) (hlag : s.Lags e.session)
      (hover : p.phase = .queued ∨ s.WaitOver p e.session) :
    PollStep s events ticket p e ((s.withRegistry (s.resynced p.source)).dropPoll ticket)
      (some (.error (s.log.overflow e.session.lastSequence)))
  | refuses (hturn : HasTurn ticket p e) (hlag : ¬ s.Lags e.session)
      (hover : s.WaitOver p e.session) (hended : e.session.invalidated = true) :
    PollStep s events ticket p e (s.dropPoll ticket) (some (.error .invalidSession))
  | consumes (hturn : HasTurn ticket p e) (hlag : ¬ s.Lags e.session)
      (hover : s.WaitOver p e.session) (hlive : e.session.invalidated = false) :
    PollStep s events ticket p e ((s.withRegistry (s.consumed p.source)).dropPoll ticket)
      (some (.ok (s.batchOf events e.session)))

theorem PollStep.steady {ticket : Nat} {p : Poll} {e : Entry} {s' : Server}
    {answer : Option (Outcome Batch)} (h : PollStep s events ticket p e s' answer) :
    s.Steady s' := by
  cases h with
  | stays | waits => exact ⟨rfl, rfl, rfl, rfl⟩
  | timesOut | refuses => exact steady_dropPoll s ticket
  | overflows | consumes =>
    exact (steady_withRegistry s _).trans (steady_dropPoll _ ticket)

/-- A step of a poll leaves the other polls where they are. -/
theorem PollStep.tickets {ticket : Nat} {p : Poll} {e : Entry} {s' : Server}
    {answer : Option (Outcome Batch)} (h : PollStep s events ticket p e s' answer)
    (hp : s.poll? ticket = some p) :
    (s'.polls.map Prod.fst).Sublist (s.polls.map Prod.fst) := by
  cases h with
  | stays => exact List.Sublist.refl _
  | waits => simp [setPhase, Function.comp_def]
  | timesOut | refuses =>
    rw [dropPoll_eq hp]
    exact List.filter_sublist.map _
  | overflows | consumes =>
    rw [dropPoll_withRegistry hp]
    exact List.filter_sublist.map _

/-- A step of a poll neither makes nor forgets a session. -/
theorem PollStep.sources {ticket : Nat} {p : Poll} {e : Entry} {s' : Server}
    {answer : Option (Outcome Batch)} (h : PollStep s events ticket p e s' answer)
    (hp : s.poll? ticket = some p) : s'.registry.sources = s.registry.sources := by
  cases h with
  | stays | waits => rfl
  | timesOut | refuses =>
    rw [dropPoll_eq hp]
    exact Registry.sources_release _ _ _
  | overflows =>
    rw [dropPoll_withRegistry hp]
    exact (Registry.sources_release _ _ _).trans
      (Registry.sources_of_marks (marks_resynced s _) fun m => by split <;> rfl)
  | consumes =>
    rw [dropPoll_withRegistry hp]
    exact (Registry.sources_release _ _ _).trans
      (Registry.sources_of_marks (marks_consumed s _) fun m => by split <;> rfl)

theorem PollStep.settled {ticket : Nat} {p : Poll} {e : Entry} {s' : Server}
    {answer : Option (Outcome Batch)} (h : PollStep s events ticket p e s' answer)
    (hp : s.poll? ticket = some p) (hs : s.registry.Settled) : s'.registry.Settled := by
  cases h with
  | stays | waits => exact hs
  | timesOut | refuses =>
    rw [dropPoll_eq hp]
    exact Registry.settled_release hs _
  | overflows =>
    rw [dropPoll_withRegistry hp]
    exact Registry.settled_release (settled_resynced hs _) _
  | consumes =>
    rw [dropPoll_withRegistry hp]
    exact Registry.settled_release (settled_consumed hs _) _

/-- A step of a poll ends no session and brings none back. -/
theorem PollStep.entry {ticket : Nat} {p : Poll} {e : Entry} {s' : Server}
    {answer : Option (Outcome Batch)} (h : PollStep s events ticket p e s' answer)
    (hp : s.poll? ticket = some p) (he : s.registry.entry? p.source = some e) :
    ∃ e', s'.registry.entry? p.source = some e' ∧ e'.listed = e.listed ∧
      e'.session.invalidated = e.session.invalidated := by
  have hresynced := Registry.entry_update he s.log.cursor
  cases h with
  | stays | waits => exact ⟨e, he, rfl, rfl⟩
  | timesOut | refuses =>
    rw [dropPoll_eq hp]
    exact ⟨_, Registry.entry_release he ticket, rfl, rfl⟩
  | overflows =>
    rw [dropPoll_withRegistry hp]
    exact ⟨_, Registry.entry_release hresynced ticket, rfl, rfl⟩
  | consumes =>
    rw [dropPoll_withRegistry hp]
    exact ⟨_, Registry.entry_release (Registry.entry_touch hresynced s.now) ticket, rfl, rfl⟩

/-- **What the end of a wait comes to.** -/
theorem finishWait_eq (hring : s.log.Holds events) {source : SourceId} {e : Entry}
    (he : s.registry.entry? source = some e)
    (hlevel : Log.emptyCursor ≤ e.session.lastSequence ∧ e.session.lastSequence ≤ s.log.cursor) :
    s.finishWait source e.session.lastSequence =
      if s.Lags e.session then
        (s.withRegistry (s.resynced source), .error (s.log.overflow e.session.lastSequence))
      else if e.session.invalidated then (s, .error .invalidSession)
      else (s.withRegistry (s.consumed source), .ok (s.batchOf events e.session)) := by
  have hdrain : s.log.drain (e.session.lastSequence + 1) = if s.Lags e.session then _ else _ :=
    hring.drain_eq hlevel.1 hlevel.2
  unfold finishWait
  rw [hdrain]
  by_cases hlag : s.Lags e.session
  · rw [if_pos hlag, if_pos hlag]
    rfl
  · rw [if_neg hlag, if_neg hlag]
    simp only [consume, he]
    split <;> rfl

/-- A poll with the turn, as long as its session is not found to lag beforehand. -/
theorem pollStep_of_stepWaiting (hring : s.log.Holds events) {k : Nat} {p : Poll} {e : Entry}
    (he : s.registry.entry? p.source = some e)
    (hlevel : Log.emptyCursor ≤ e.session.lastSequence ∧ e.session.lastSequence ≤ s.log.cursor)
    (hturn : HasTurn k p e) :
    match s.stepWaiting p.source e.session.lastSequence (s.deadlineOf p)
        (s.waitOf p e.session) with
    | (s', .inl phase) => PollStep s events k p e (s'.setPhase k phase) none
    | (s', .inr answer) => PollStep s events k p e (s'.dropPoll k) (some answer) := by
  unfold stepWaiting
  cases hw : (s.waitOf p e.session).advance s.now s.log.cursor with
  | none =>
    simp only [finishWait_eq hring he hlevel]
    by_cases hlag : s.Lags e.session
    · simp only [if_pos hlag]
      exact .overflows hturn hlag (.inr hw)
    · simp only [if_neg hlag]
      cases hended : e.session.invalidated with
      | true => exact .refuses hturn hlag hw hended
      | false => exact .consumes hturn hlag hw hended
  | some w =>
    by_cases htime : s.deadlineOf p ≤ s.now
    · simp only [if_pos htime]
      exact .timesOut hturn w hw htime
    · simp only [if_neg htime]
      exact .waits hturn w hw (Nat.lt_of_not_le htime)

/-- A poll that stays in its phase leaves the server as it is. -/
theorem setPhase_self (htickets : (s.polls.map Prod.fst).Nodup) {ticket : Nat} {p : Poll}
    (hp : s.poll? ticket = some p) : s.setPhase ticket p.phase = s := by
  have hpolls : (s.polls.map fun q =>
      (q.1, if q.1 = ticket then { q.2 with phase := p.phase } else q.2)) = s.polls := by
    conv_rhs => rw [← List.map_id s.polls]
    refine List.map_congr_left fun q hq => ?_
    obtain ⟨t, q⟩ := q
    by_cases ht : t = ticket
    · subst ht
      rw [Tickets.unique htickets hq (Tickets.mem_of_lookup hp)]
      simp
    · simp [ht]
  show { s with polls := _ } = s
  rw [hpolls]

/-- **The list is complete.**  A poll that waits remembers where its session stands. -/
theorem pollStep_of_advancePoll (htickets : (s.polls.map Prod.fst).Nodup)
    (hring : s.log.Holds events) {ticket : Nat} {p : Poll} {e : Entry}
    (hp : s.poll? ticket = some p) (he : s.registry.entry? p.source = some e)
    (hlevel : Log.emptyCursor ≤ e.session.lastSequence ∧ e.session.lastSequence ≤ s.log.cursor)
    (hlast : ∀ {last deadline w}, p.phase = .waiting last deadline w →
      last = e.session.lastSequence) :
    PollStep s events ticket p e (s.advancePoll ticket).1 (s.advancePoll ticket).2 := by
  unfold advancePoll
  simp only [hp]
  cases hphase : p.phase with
  | queued =>
    have hholds : s.registry.holds p.source ticket = e.holds ticket := by
      simp [Registry.holds, he]
    simp only [hholds]
    cases hturn : e.holds ticket with
    | false =>
      have hself : s.setPhase ticket .queued = s := hphase ▸ setPhase_self htickets hp
      simp only [Bool.false_eq_true, if_false, hself]
      exact .stays hphase hturn
    | true =>
      simp only [if_true, takeTurn, he]
      by_cases hlag : s.Lags e.session
      · simp only [ensureRetained_eq hlevel.1, if_pos hlag]
        exact .overflows (.inr hturn) hlag (.inl hphase)
      · simp only [ensureRetained_eq hlevel.1, if_neg hlag]
        have hstep := pollStep_of_stepWaiting hring he hlevel (k := ticket) (.inr hturn)
        simp only [deadlineOf, waitOf, hphase] at hstep
        generalize s.stepWaiting p.source e.session.lastSequence
          (s.now + s.config.requestTimeout.nanos)
          (Wait.start s.now (e.session.lastSequence + 1) s.config.minWait s.config.maxWait) =
            result at hstep ⊢
        obtain ⟨s', phase | answer⟩ := result <;> exact hstep
  | waiting last deadline w =>
    have hstep := pollStep_of_stepWaiting hring he hlevel (k := ticket)
      (.inl (by rw [hphase]; simp))
    simp only [deadlineOf, waitOf, hphase] at hstep
    simp only [hlast hphase]
    generalize s.stepWaiting p.source e.session.lastSequence deadline w = result at hstep ⊢
    obtain ⟨s', phase | answer⟩ := result <;> exact hstep

end Server
end EventRelay

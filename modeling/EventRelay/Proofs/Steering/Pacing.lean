/-
# What a controller tells its listeners, and when it goes on

A controller that nobody stops goes on for ever.  `Drive` follows one through its turns, each of
which leaves a call out or ends the errand, whatever the service answers and whatever becomes of the
bus meanwhile.  Of each errand that is over it keeps what was reported and what followed
(`Drive.Entry`).

`Drive.paced` says that the connection polls exactly while it is in session, that its listeners hear
of connections and disconnections in turn, each of which says truly what it came from, and that
there is a pause before an errand exactly if the one before it failed.  The reports are then any at
all, as long as each is of the errand that was due (`Connection.Due`).
-/

import EventRelay.Proofs.Steering.Course
import Mathlib.Data.List.Induction

namespace EventRelay

/-- The errand that is next or under way. -/
def Activity.errand? : Activity → Option Errand
  | .ready errand | .pausing _ errand | .calling errand _ => some errand
  | .stopped => none

/-- Whether listeners hear of connections and disconnections in turn, of a connection first. -/
def ConnectionChange.Alternating (changes : List ConnectionChange) : Prop :=
  ∀ (i : Nat) (hi : i < changes.length), changes[i].inSession = (i % 2 == 0)

namespace ConnectionChange.Alternating

variable {changes : List ConnectionChange} {change : ConnectionChange}

theorem concat (h : Alternating changes)
    (hchange : change.inSession = (changes.length % 2 == 0)) :
    Alternating (changes ++ [change]) := by
  intro i hi
  rcases Nat.lt_or_ge i changes.length with hold | hnew
  · rw [List.getElem_append_left hold]
    exact h i hold
  · obtain rfl : i = changes.length := by
      rw [List.length_append, List.length_singleton] at hi
      omega
    simpa using hchange

/-- The last one is a connection exactly if there is an odd number of them. -/
theorem last (h : Alternating changes) :
    changes.getLast?.any ConnectionChange.inSession = (changes.length % 2 == 1) := by
  rcases List.eq_nil_or_concat changes with rfl | ⟨before, change, rfl⟩
  · rfl
  · rw [List.concat_eq_append] at h ⊢
    have hlast := h before.length (by simp)
    rw [List.getElem_concat_length rfl] at hlast
    rw [List.getLast?_concat, Option.any_some, hlast, List.length_append, List.length_singleton,
      Bool.eq_iff_iff, beq_iff_eq, beq_iff_eq]
    omega

end ConnectionChange.Alternating

namespace Connection

/-- Where reports lead that come one after the other, from the start on. -/
def course (delay : Duration) (reports : List Report) : Connection × Decision :=
  reports.foldl (fun reached r => reached.1.handle r) (new delay).start

/-- Whether each report is of the errand that was decided on last. -/
def Due (delay : Duration) (reports : List Report) : Prop :=
  ∀ before r after, reports = before ++ r :: after → r.errand = (course delay before).2.errand

variable {delay : Duration} {r : Report} {reports : List Report} {change : ConnectionChange}

@[simp] theorem course_nil (delay : Duration) : course delay [] = (new delay).start := rfl

theorem course_concat (delay : Duration) (reports : List Report) (r : Report) :
    course delay (reports ++ [r]) = (course delay reports).1.handle r := by
  simp only [course, List.foldl_append, List.foldl_cons, List.foldl_nil]

@[simp] theorem retryDelay_course (delay : Duration) (reports : List Report) :
    (course delay reports).1.retryDelay = delay := by
  induction reports using List.reverseRecOn with
  | nil => rfl
  | append_singleton reports r ih => rw [course_concat]; exact ih

theorem due_nil (delay : Duration) : Due delay [] := by
  intro before r after h
  simp at h

theorem due_concat_iff :
    Due delay (reports ++ [r]) ↔
      Due delay reports ∧ r.errand = (course delay reports).2.errand := by
  constructor
  · intro h
    refine ⟨fun before r' after heq => h before r' (after ++ [r]) ?_, h reports r [] rfl⟩
    rw [heq, List.append_assoc, List.cons_append]
  · rintro ⟨hdue, hlast⟩ before r' after heq
    rcases List.eq_nil_or_concat after with rfl | ⟨after, r'', rfl⟩
    · obtain ⟨rfl, hr⟩ := List.append_inj' heq rfl
      cases hr
      exact hlast
    · have heq' : reports ++ [r] = (before ++ r' :: after) ++ [r''] := by
        rw [heq, List.concat_eq_append, List.append_assoc, List.cons_append]
      exact hdue before r' after (List.append_inj' heq' rfl).1

/-- A change says that the connection is in session exactly if it is. -/
theorem inSession_of_notify (h : (decide delay r).notify = some change) :
    change.inSession = true ↔ (decide delay r).state = .inSession := by
  revert h
  fun_cases decide delay r <;> rintro ⟨⟩ <;>
    simp [ConnectionChange.connectedNew, ConnectionChange.disconnected, ConnectionChange.resumed]

/-- A change is told exactly when the connection enters its session or leaves it. -/
theorem notify_isSome_iff (delay : Duration) (r : Report) :
    (decide delay r).notify.isSome ↔
      ((decide delay r).state = .inSession ↔ r.errand ≠ .poll) := by
  fun_cases decide delay r <;> simp [Report.errand]

/-- A connection is told to be new exactly after a session was opened. -/
theorem isNew_of_notify (h : (decide delay r).notify = some change) :
    change.isNew = true ↔ r = .sessionOpened := by
  revert h
  fun_cases decide delay r <;> rintro ⟨⟩ <;>
    simp [ConnectionChange.connectedNew, ConnectionChange.disconnected, ConnectionChange.resumed]

/-- A disconnection names the kind of failure that the poll met, and a connection none. -/
theorem cause_of_notify (h : (decide delay r).notify = some change) :
    (change.inSession = true ∧ change.cause = none) ∨
      ∃ kind, change.inSession = false ∧ change.cause = some kind ∧ r = .pollFailed kind := by
  revert h
  fun_cases decide delay r <;> rintro ⟨⟩ <;>
    simp [ConnectionChange.connectedNew, ConnectionChange.disconnected, ConnectionChange.resumed]

end Connection

/-- What followed when an errand was over. -/
structure Drive.Entry where
  report : Report
  /-- What the listeners were told. -/
  told : List ConnectionChange
  shown : ConnectionState
  /-- What was under way then: the next errand, at once or after a pause. -/
  activity : Activity

/-- A controller and the errands that it has ended, the first one first. -/
structure Drive where
  controller : Controller
  past : List Drive.Entry

namespace Drive

/-- A controller that starts on a bus. -/
def new (delay : Duration) (b : Bus) : Drive := ⟨(Controller.new delay b).1, []⟩

/-- What is over with a turn. -/
def entries (c : Controller) (errand : Errand) (turn : Turn) : List Entry :=
  match turn.progress with
  | .waiting _ => []
  | .finished result =>
    let next := (c.finish turn.bus errand result).1
    [⟨(errand.report turn.bus result).2, next.changes.sent.drop c.changes.sent.length, next.shown,
      next.activity⟩]

/-- The controller takes over a turn of the operation of its errand. -/
def take (d : Drive) (turn : Turn) : Drive :=
  match d.controller.activity.errand? with
  | none => d
  | some errand =>
    ⟨(d.controller.adopt errand turn).1, d.past ++ entries d.controller errand turn⟩

/-- The controller takes over one turn after the other. -/
def run (d : Drive) (turns : List Turn) : Drive := turns.foldl take d

/-- What has been reported so far. -/
def reports (d : Drive) : List Report := d.past.map Entry.report

/-- Whether an errand that is over was followed as it should be. -/
structure Entry.Sound (delay : Duration) (e : Entry) : Prop where
  /-- The connection polls next exactly if it is in session. -/
  polls : e.activity.errand? = some .poll ↔ e.shown = .inSession
  /-- A pause follows a failure, and nothing else. -/
  pause : ∃ errand, e.activity = if e.report.isFailure then .pausing delay errand else .ready errand
  /-- A connection is new exactly if a session was opened for it. -/
  isNew : ∀ change ∈ e.told, change.isNew = true ↔ e.report = .sessionOpened
  /-- A disconnection names the kind of failure that the poll met, and a connection none. -/
  cause : ∀ change ∈ e.told, (change.inSession = true ∧ change.cause = none) ∨
    ∃ kind, change.inSession = false ∧ change.cause = some kind ∧ e.report = .pollFailed kind

/-- What holds of a controller that nobody has stopped. -/
structure Paced (delay : Duration) (d : Drive) : Prop where
  /-- The reports so far lead to where the controller is, and there is an errand. -/
  connection : d.controller.connection = (Connection.course delay d.reports).1
  shown : d.controller.shown = (Connection.course delay d.reports).2.state
  errand : d.controller.activity.errand? = some (Connection.course delay d.reports).2.errand
  polls : d.controller.activity.errand? = some .poll ↔ d.controller.shown = .inSession
  sound : ∀ e ∈ d.past, e.Sound delay
  /-- The listeners were told what followed the errands that are over. -/
  told : d.controller.changes.sent = d.past.flatMap Entry.told
  /-- They hear of connections and disconnections in turn, of a connection first. -/
  alternates : ConnectionChange.Alternating d.controller.changes.sent
  /-- They heard of a connection last exactly if the controller is in session. -/
  last : d.controller.changes.sent.getLast?.any ConnectionChange.inSession = true ↔
    d.controller.shown = .inSession

variable {delay : Duration} {d : Drive} {turn : Turn} {turns : List Turn} {errand : Errand}
  {result : Outcome Success} {reports : List Report}

theorem run_concat (d : Drive) (turns : List Turn) (turn : Turn) :
    d.run (turns ++ [turn]) = (d.run turns).take turn := by
  simp only [run, List.foldl_append, List.foldl_cons, List.foldl_nil]

/-- A turn that leaves a call out ends nothing. -/
theorem take_of_waiting {p : Pending} (herrand : d.controller.activity.errand? = some errand)
    (h : turn.progress = .waiting p) :
    d.take turn = ⟨{ d.controller with activity := .calling errand p }, d.past⟩ := by
  simp only [take, herrand, entries, h, Controller.adopt, List.append_nil]

/-- What an errand that is over leaves under way. -/
theorem activity_finish (c : Controller) (b : Bus) (errand : Errand) (result : Outcome Success) :
    (c.finish b errand result).1.activity =
      let r := (errand.report b result).2
      let next := (Connection.decide c.connection.retryDelay r).errand
      if r.isFailure then .pausing c.connection.retryDelay next else .ready next := by
  simp only [Controller.finish, Connection.handle, Controller.enter, Connection.decide_pause]
  cases (errand.report b result).2.isFailure <;> rfl

/-- What is kept of an errand with a given report. -/
def Entry.after (delay : Duration) (r : Report) : Entry :=
  let d := Connection.decide delay r
  ⟨r, d.notify.toList, d.state, if r.isFailure then .pausing delay d.errand else .ready d.errand⟩

/-- **An errand is over.** -/
theorem take_of_finished (herrand : d.controller.activity.errand? = some errand)
    (hdelay : d.controller.connection.retryDelay = delay)
    (h : turn.progress = .finished result) :
    let r := (errand.report turn.bus result).2
    let e := Entry.after delay r
    (d.take turn).past = d.past ++ [e] ∧
      (d.take turn).controller.connection = (d.controller.connection.handle r).1 ∧
      (d.take turn).controller.shown = e.shown ∧
      (d.take turn).controller.activity = e.activity ∧
      (d.take turn).controller.changes.sent = d.controller.changes.sent ++ e.told := by
  subst hdelay
  obtain ⟨-, hsent, -⟩ := Steering.finish_eq d.controller turn.bus errand result
  have hactivity := activity_finish d.controller turn.bus errand result
  have htake : d.take turn = ⟨(d.controller.finish turn.bus errand result).1,
      d.past ++ entries d.controller errand turn⟩ := by
    simp only [take, herrand, Controller.adopt, h]
  have hentries : entries d.controller errand turn =
      [Entry.after d.controller.connection.retryDelay (errand.report turn.bus result).2] := by
    simp only [entries, h, hsent, hactivity, List.drop_left, Entry.after]
    rfl
  rw [htake]
  exact ⟨congrArg _ hentries, rfl, rfl, hactivity, hsent⟩

/-! ### What a report brings about -/

theorem Entry.errand?_after (delay : Duration) (r : Report) :
    (Entry.after delay r).activity.errand? = some (Connection.decide delay r).errand := by
  simp only [Entry.after]
  split <;> rfl

/-- Every report is followed as it should be. -/
theorem Entry.sound_after (delay : Duration) (r : Report) : (Entry.after delay r).Sound delay where
  polls := by
    rw [errand?_after, Option.some_inj]
    exact Connection.decide_errand_eq_poll_iff delay r
  pause := ⟨(Connection.decide delay r).errand, rfl⟩
  isNew change h := Connection.isNew_of_notify (Option.mem_toList.1 h)
  cause change h := Connection.cause_of_notify (Option.mem_toList.1 h)

/-- A controller that has just started. -/
theorem paced_new (delay : Duration) (b : Bus) : Paced delay (new delay b) where
  connection := rfl
  shown := rfl
  errand := rfl
  polls := by simp [new, Controller.new, Connection.start, Connection.first, Controller.enter,
    Activity.errand?]
  sound _ h := absurd h List.not_mem_nil
  told := rfl
  alternates _ hi := absurd hi (Nat.not_lt_zero _)
  last := by simp [new, Controller.new, Connection.start, Connection.first, Controller.enter,
    Feed.new]

/-- A report changes what the listeners heard last exactly if the connection enters its session or
leaves it. -/
theorem Entry.alternating_after (delay : Duration) {sent : List ConnectionChange} {r : Report}
    (hsent : ConnectionChange.Alternating sent)
    (hlast : sent.getLast?.any ConnectionChange.inSession = true ↔ r.errand = .poll) :
    ConnectionChange.Alternating (sent ++ (Entry.after delay r).told) ∧
      ((sent ++ (Entry.after delay r).told).getLast?.any ConnectionChange.inSession = true ↔
        (Entry.after delay r).shown = .inSession) := by
  have htold := Connection.notify_isSome_iff delay r
  have hshown : (Entry.after delay r).shown = (Connection.decide delay r).state := rfl
  cases hn : (Connection.decide delay r).notify with
  | none =>
    have hnone : (Entry.after delay r).told = [] := by simp [Entry.after, hn]
    rw [hn] at htold
    rw [hnone, List.append_nil, hlast, hshown]
    refine ⟨hsent, ?_⟩
    by_contra hne
    exact absurd (htold.2 (by tauto)) (by simp)
  | some change =>
    have hsome : (Entry.after delay r).told = [change] := by simp [Entry.after, hn]
    have hin := Connection.inSession_of_notify hn
    rw [hsent.last, beq_iff_eq] at hlast
    have hturned : change.inSession = true ↔ r.errand ≠ .poll :=
      hin.trans (htold.1 (by rw [hn]; rfl))
    rw [hsome, List.getLast?_concat, Option.any_some, hshown]
    refine ⟨hsent.concat ?_, hin⟩
    rw [Bool.eq_iff_iff, hturned, ne_eq, ← hlast, beq_iff_eq]
    omega

/-- **A turn keeps the pace.** -/
theorem Paced.take (h : Paced delay d) (turn : Turn) : Paced delay (d.take turn) := by
  cases hprogress : turn.progress with
  | waiting p =>
    rw [take_of_waiting h.errand hprogress]
    refine ⟨h.connection, h.shown, rfl, ?_, h.sound, h.told, h.alternates, h.last⟩
    rw [← h.polls, h.errand]
    rfl
  | finished result =>
    have hdelay : d.controller.connection.retryDelay = delay := by
      rw [h.connection, Connection.retryDelay_course]
    obtain ⟨hpast, hconnection, hshown, hactivity, hsent⟩ :=
      take_of_finished h.errand hdelay hprogress
    have hr := Errand.report_errand turn.bus (Connection.course delay d.reports).2.errand result
    generalize ((Connection.course delay d.reports).2.errand.report turn.bus result).2 = r at *
    have hcourse : Connection.course delay (d.take turn).reports =
        (Connection.course delay d.reports).1.handle r := by
      rw [reports, hpast, List.map_append, List.map_singleton]
      exact Connection.course_concat delay d.reports r
    have hdecision : (Connection.course delay (d.take turn).reports).2 =
        Connection.decide delay r := by
      rw [hcourse]
      exact congrArg (Connection.decide · r) (Connection.retryDelay_course delay d.reports)
    have hsound := Entry.sound_after delay r
    obtain ⟨halternates, hlast⟩ := Entry.alternating_after delay h.alternates
      (h.last.trans (h.polls.symm.trans (by rw [h.errand, hr, Option.some_inj])))
    exact {
      connection := by rw [hconnection, hcourse, h.connection]
      shown := by rw [hshown, hdecision]; rfl
      errand := by rw [hactivity, hdecision]; exact Entry.errand?_after delay r
      polls := by rw [hactivity, hshown]; exact hsound.polls
      sound := by
        intro e he
        rw [hpast] at he
        rcases List.mem_append.1 he with hold | hnew
        · exact h.sound e hold
        · rw [List.mem_singleton.1 hnew]
          exact hsound
      told := by
        rw [hsent, hpast, h.told, List.flatMap_append, List.flatMap_singleton]
      alternates := by rw [hsent]; exact halternates
      last := by rw [hsent, hshown]; exact hlast }

theorem paced_run (delay : Duration) (b : Bus) (turns : List Turn) :
    Paced delay ((new delay b).run turns) := by
  induction turns using List.reverseRecOn with
  | nil => exact paced_new delay b
  | append_singleton turns turn ih =>
    rw [run_concat]
    exact ih.take turn

/-! ### Which reports there can be -/

/-- What a turn adds to the reports is of the errand that was due. -/
theorem due_take (h : Paced delay d) (hdue : Connection.Due delay d.reports) (turn : Turn) :
    Connection.Due delay (d.take turn).reports := by
  cases hprogress : turn.progress with
  | waiting p =>
    rw [take_of_waiting h.errand hprogress]
    exact hdue
  | finished result =>
    have hdelay : d.controller.connection.retryDelay = delay := by
      rw [h.connection, Connection.retryDelay_course]
    obtain ⟨hpast, -⟩ := take_of_finished h.errand hdelay hprogress
    rw [reports, hpast, List.map_append, List.map_singleton]
    exact Connection.due_concat_iff.2 ⟨hdue, Errand.report_errand turn.bus _ result⟩

/-- Any report can come of the errand that it is of. -/
theorem exists_report (b : Bus) (r : Report) :
    ∃ (b' : Bus) (result : Outcome Success), (r.errand.report b' result).2 = r := by
  cases r with
  | sessionOpened | polled => exact ⟨b, .ok .done, rfl⟩
  | sessionFailed kind | pollFailed kind | probeFailed kind =>
    exact ⟨b, .error (.remote kind ""), rfl⟩
  | probed hasSession =>
    cases hasSession with
    | false => exact ⟨{ b with session := none }, .ok .done, rfl⟩
    | true => exact ⟨b.hold ⟨⟨0, by decide⟩, ⟨⟨0, by decide⟩⟩⟩, .ok .done, rfl⟩

/-- **The reports of a controller are those that are each of the errand that was due.** -/
theorem due_iff_exists_run (delay : Duration) (b : Bus) (reports : List Report) :
    Connection.Due delay reports ↔ ∃ turns, ((new delay b).run turns).reports = reports := by
  constructor
  · intro h
    induction reports using List.reverseRecOn with
    | nil => exact ⟨[], rfl⟩
    | append_singleton reports r ih =>
      obtain ⟨hdue, hr⟩ := Connection.due_concat_iff.1 h
      obtain ⟨turns, rfl⟩ := ih hdue
      have hpaced := paced_run delay b turns
      obtain ⟨b', result, hreport⟩ := exists_report b r
      refine ⟨turns ++ [b'.finish result], ?_⟩
      have hdelay : ((new delay b).run turns).controller.connection.retryDelay = delay := by
        rw [hpaced.connection, Connection.retryDelay_course]
      have hover : (b'.finish result).progress = .finished result := rfl
      obtain ⟨hpast, -⟩ := take_of_finished hpaced.errand hdelay hover
      rw [hr] at hreport
      rw [run_concat, Drive.reports, hpast, List.map_append, List.map_singleton]
      exact congrArg (_ ++ [·]) hreport
  · rintro ⟨turns, rfl⟩
    induction turns using List.reverseRecOn with
    | nil => exact Connection.due_nil delay
    | append_singleton turns turn ih =>
      rw [run_concat]
      exact due_take (paced_run delay b turns) ih turn

/-- **A controller keeps its pace.**  Whatever the service answers, and whatever becomes of the bus
meanwhile, a controller that nobody stops keeps to `Paced` at all times; and its reports are any at
all that are each of the errand that was due. -/
theorem paced (delay : Duration) (b : Bus) :
    (∀ turns, Paced delay ((new delay b).run turns)) ∧
      ∀ reports, Connection.Due delay reports ↔
        ∃ turns, ((new delay b).run turns).reports = reports :=
  ⟨paced_run delay b, due_iff_exists_run delay b⟩

end Drive

namespace Steering

variable {x x' y : Steering} {m : Move} {ms : List Move} {d : Drive}

/-- A move that does not stop the controller leaves it or is a turn of its errand. -/
theorem controller_of_step (h : x.step m = some x') (hm : m ≠ .stop) :
    x'.controller = x.controller ∨
      ∃ errand turn, x.controller.activity.errand? = some errand ∧
        x'.controller = (x.controller.adopt errand turn).1 := by
  cases m with
  | add | remove =>
    obtain rfl := Option.some.inj h
    exact .inl (by simp only [request, attend]; split <;> rfl)
  | tidy =>
    obtain rfl := Option.some.inj h
    exact .inl rfl
  | reply n answer =>
    obtain ⟨p, -, rfl⟩ := Option.map_eq_some_iff.1 h
    exact .inl (by simp only [attend]; split <;> rfl)
  | leave n =>
    obtain ⟨p, -, rfl⟩ := Option.map_eq_some_iff.1 h
    exact .inl rfl
  | begin =>
    right
    simp only [step] at h
    split at h
    · obtain rfl := Option.some.inj h
      rename_i errand hactivity
      exact ⟨errand, _, by rw [hactivity]; rfl, rfl⟩
    · obtain rfl := Option.some.inj h
      rename_i pause errand hactivity
      exact ⟨errand, _, by rw [hactivity]; rfl, rfl⟩
    · cases h
    · cases h
  | hear answer =>
    right
    simp only [step] at h
    split at h
    · obtain rfl := Option.some.inj h
      rename_i errand p hactivity
      exact ⟨errand, _, by rw [hactivity]; rfl, rfl⟩
    · cases h
    · cases h
    · cases h
  | stop => exact absurd rfl hm

/-- **Until its controller is stopped, a bus that one controller sees to drives it.** -/
theorem exists_turns_of_run (h : x.run ms = some y) (hstop : Move.stop ∉ ms)
    (hd : d.controller = x.controller) : ∃ turns, (d.run turns).controller = y.controller := by
  induction ms generalizing x d with
  | nil =>
    obtain rfl := Option.some.inj h
    exact ⟨[], hd⟩
  | cons m ms ih =>
    obtain ⟨x', hstep, hrun⟩ := Option.bind_eq_some_iff.1 h
    rw [List.mem_cons, not_or] at hstop
    rcases controller_of_step hstep (Ne.symm hstop.1) with hsame | ⟨errand, turn, herrand, hturn⟩
    · exact ih hrun hstop.2 (hd.trans hsame.symm)
    · have htake : (d.take turn).controller = x'.controller := by
        rw [← hd] at herrand hturn
        rw [hturn, Drive.take, herrand]
      obtain ⟨turns, hturns⟩ := ih hrun hstop.2 htake
      exact ⟨turn :: turns, hturns⟩

end Steering
end EventRelay

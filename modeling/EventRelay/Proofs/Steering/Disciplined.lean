/-
# The sessions that a controller polls

The listeners of a controller are told of each session that is connected, of each failure that a
poll meets, and of each session that goes on.  `Steering.disciplined` says that the polls keep to
this: a poll is for the session that was granted for the last connection before it
(`Steering.Current`), each connection is that of one session which was never granted before, a
session that is resumed is the one that is held, one that is lost for good is never polled again,
and one that is lost for a while is the next to be polled once a probe has succeeded.  All of that
can be read off the course of the notes.
-/

import EventRelay.Proofs.Steering.Course
import EventRelay.Proofs.Switchboard.Moves
import Mathlib.Data.List.Induction

namespace EventRelay

namespace Connection

variable {delay : Duration} {r : Report}

/-- A new connection is told only of a session that was opened. -/
theorem eq_sessionOpened_of_notify (h : (decide delay r).notify = some .connectedNew) :
    r = .sessionOpened := by
  cases r with
  | sessionOpened => rfl
  | sessionFailed | polled => cases h
  | pollFailed kind =>
    simp only [decide] at h
    split at h <;> cases h
  | probed hasSession => cases hasSession <;> cases h
  | probeFailed kind => cases kind <;> cases h

/-- A session is said to go on only after a probe under it. -/
theorem eq_probed_of_notify (h : (decide delay r).notify = some .resumed) : r = .probed true := by
  cases r with
  | probed hasSession =>
    cases hasSession with
    | true => rfl
    | false => cases h
  | sessionOpened | sessionFailed | polled => cases h
  | pollFailed kind =>
    simp only [decide] at h
    split at h <;> cases h
  | probeFailed kind => cases kind <;> cases h

end Connection

theorem Decision.eq_of_keeps {d : Decision} {held : Option SessionId} {id : SessionId}
    (h : d.keeps held = some id) : held = some id := by
  unfold Decision.keeps at h
  split at h
  · cases h
  · exact h

/-- Whether the session that is held is lost for good. -/
def Report.loses : Report → Bool
  | .pollFailed kind => !kind.isResumable
  | .probeFailed kind => kind == .deploymentMismatch
  | .sessionOpened | .sessionFailed _ | .polled | .probed _ => false

theorem Report.keeps_of_loses {delay : Duration} {r : Report} (h : r.loses = true)
    (held : Option SessionId) : (Connection.decide delay r).keeps held = none := by
  refine Connection.keeps_of_opens held ?_
  cases r with
  | pollFailed kind =>
    have hfinal : kind.isResumable = false := by simpa [Report.loses] using h
    simp [Connection.decide, hfinal]
  | probeFailed kind => cases kind <;> first | rfl | cases h
  | sessionOpened | sessionFailed | polled | probed => cases h

namespace Steering

variable {delay : Duration} {x y : Steering} {ms : List Move} {n : Note} {ns a b : List Note}
  {errand : Errand} {last : Option Note} {id : SessionId} {r : Report}
  {held kept : Option SessionId} {told : Option ConnectionChange}

/-- What is noted of a new connection. -/
def Note.connected (id : SessionId) : Note :=
  .reported .sessionOpened (some id) (some .connectedNew) (some id)

/-- The session that is held after a note. -/
def Note.session? : Note → Option SessionId
  | .reported _ _ _ kept => kept
  | .polled id => some id
  | .granted _ => none

/-- The session that a note is the granting of. -/
def Note.granted? : Note → Option SessionId
  | .granted id => some id
  | .polled _ | .reported _ _ _ _ => none

/-- Whether a session was the last one to be connected, and has been kept since then. -/
def Current (ns : List Note) (id : SessionId) : Prop :=
  ∃ before since, ns = before ++ .granted id :: .connected id :: since ∧
    ∀ n ∈ since, n.told? ≠ some .connectedNew ∧ n.session? ≠ none

theorem Current.concat (h : Current ns id) (htold : n.told? ≠ some .connectedNew)
    (hkept : n.session? ≠ none) : Current (ns ++ [n]) id := by
  obtain ⟨before, since, rfl, hsince⟩ := h
  refine ⟨before, since ++ [n], by simp, fun n' hn' => ?_⟩
  rcases List.mem_append.1 hn' with hold | hnew
  · exact hsince n' hold
  · rw [List.mem_singleton.1 hnew]
    exact ⟨htold, hkept⟩

/-! ### What a course says -/

theorem Course.of_concat (h : Course delay (ns ++ [n])) :
    Course delay ns ∧ Follows delay ns.getLast? n := by
  generalize hl : ns ++ [n] = l at h
  cases h with
  | nil => simp at hl
  | concat h hn =>
    obtain ⟨rfl, heq⟩ := List.append_inj' hl rfl
    cases heq
    exact ⟨h, hn⟩

/-- The notes up to one of a course are a course, and that one follows them. -/
theorem Course.of_append (h : Course delay (a ++ n :: b)) :
    Course delay a ∧ Follows delay a.getLast? n := by
  induction b using List.reverseRecOn with
  | nil => exact h.of_concat
  | append_singleton b n' ih =>
    rw [← List.cons_append, ← List.append_assoc] at h
    exact ih h.of_concat.1

/-- A report is noted with what the rules say of it. -/
theorem Follows.eq_ofReport (h : Follows delay last (.reported r held told kept)) :
    told = (Connection.decide delay r).notify ∧ kept = (Connection.decide delay r).keeps held := by
  have hleads : ∀ {held' : Option SessionId} {e : Errand},
      Leads delay held' e (.reported r held told kept) →
        told = (Connection.decide delay r).notify ∧
          kept = (Connection.decide delay r).keeps held := by
    intro held' e hn
    cases hn with
    | refuses kind => exact ⟨rfl, rfl⟩
    | probes => exact ⟨rfl, rfl⟩
  cases h with
  | first n hn => exact hleads hn
  | next r' h' t' k' n hn => exact hleads hn
  | hears | connects | abandons => exact ⟨rfl, rfl⟩

/-- A report of a poll or a probe is of the session that was held before. -/
theorem Follows.session_of_reported (h : Follows delay last (.reported r (some id) told kept))
    (hr : r.errand ≠ .openSession) : ∃ n, last = some n ∧ n.session? = some id := by
  cases h with
  | first n hn => cases hn
  | next r' h' t' k' n hn =>
    generalize (Connection.decide delay r').errand = e at hn
    cases hn with
    | probes => exact ⟨_, rfl, rfl⟩
  | hears => exact ⟨_, rfl, rfl⟩
  | connects => exact absurd rfl hr

/-- A poll is of the session that was kept. -/
theorem Follows.session_of_polled (h : Follows delay last (.polled id)) :
    ∃ n, last = some n ∧ n.session? = some id := by
  cases h with
  | first n hn => cases hn
  | next r' h' t' k' n hn =>
    generalize (Connection.decide delay r').errand = e at hn
    cases hn with
    | polls => exact ⟨_, rfl, rfl⟩

/-- A session that was opened was granted just before. -/
theorem Follows.granted_of_opened
    (h : Follows delay last (.reported .sessionOpened held told kept)) :
    ∃ id, last = some (.granted id) ∧ held = some id := by
  cases h with
  | first n hn => cases hn
  | next r' h' t' k' n hn =>
    generalize (Connection.decide delay r').errand = e at hn
    cases hn with
    | probes _ _ hr => cases hr
  | hears id r hr => cases hr
  | connects id => exact ⟨id, rfl, rfl⟩

/-- When a session fails to open, none is held. -/
theorem Follows.not_held_of_failed {kind : FailureKind}
    (h : Follows delay last (.reported (.sessionFailed kind) held told kept)) : held = none := by
  cases h with
  | first n hn => cases hn; rfl
  | next r' h' t' k' n hn =>
    generalize (Connection.decide delay r').errand = e at hn
    cases hn with
    | refuses => rfl
    | probes _ _ hr => cases hr
  | hears id r hr => cases hr
  | abandons => rfl

/-- **The session that is held is the current one.** -/
theorem Course.current (h : Course delay ns) (hlast : ns.getLast? = some n)
    (hid : n.session? = some id) : Current ns id := by
  induction h generalizing n with
  | nil => cases hlast
  | @concat ns n' h hn ih =>
    rw [List.getLast?_concat] at hlast
    cases hlast
    cases n' with
    | granted id' => cases hid
    | polled id' =>
      cases hid
      obtain ⟨n, hlast, hsession⟩ := hn.session_of_polled
      exact (ih hlast hsession).concat nofun nofun
    | reported r held told kept =>
      obtain rfl : kept = some id := hid
      obtain ⟨rfl, hkept⟩ := hn.eq_ofReport
      obtain rfl := Decision.eq_of_keeps hkept.symm
      by_cases hr : r.errand = .openSession
      · cases r with
        | sessionOpened =>
          obtain ⟨id', hlast, heq⟩ := hn.granted_of_opened
          cases heq
          obtain ⟨before, rfl⟩ := List.getLast?_eq_some_iff.1 hlast
          refine ⟨before, [], ?_, fun _ hn => absurd hn List.not_mem_nil⟩
          rw [List.append_assoc]
          rfl
        | sessionFailed kind => cases hn.not_held_of_failed
        | polled | pollFailed | probed | probeFailed => cases hr
      · obtain ⟨n, hlast, hsession⟩ := hn.session_of_reported hr
        refine (ih hlast hsession).concat (fun htold => hr ?_) nofun
        rw [Connection.eq_sessionOpened_of_notify htold]
        rfl

/-- What a run says of the sessions that its controller polls. -/
structure Disciplined (x : Steering) : Prop where
  /-- The listeners were told what the notes say. -/
  told : x.controller.changes.sent = x.notes.filterMap Note.told?
  /-- A poll is for the session that was granted for the last new connection before it. -/
  polls : ∀ a id b, x.notes = a ++ .polled id :: b → ∃ before since,
    a = before ++ .granted id :: .connected id :: since ∧
      ∀ n ∈ since, n.told? ≠ some .connectedNew
  /-- A new connection is that of one session, which was granted just before and never else. -/
  connects : ∀ a n b, x.notes = a ++ n :: b → n.told? = some .connectedNew →
    ∃! id, n = .connected id ∧ ∃ before, a = before ++ [.granted id] ∧
      .granted id ∉ before ∧ .granted id ∉ b
  /-- When a session is said to go on, it is held before and after. -/
  resumes : ∀ a r held kept b, x.notes = a ++ .reported r held (some .resumed) kept :: b →
    held ≠ none ∧ kept = held
  /-- A session that is lost for good is not polled any more. -/
  leaves : ∀ a r id told kept b, x.notes = a ++ .reported r (some id) told kept :: b →
    r.loses = true → .polled id ∉ b
  /-- After a failure that can be made up for and probes that failed otherwise than for another
  deployment, a probe that succeeds finds the same session, and that is polled next. -/
  keeps : ∀ a kind held told kept middle hasSession held' told' kept' b,
    x.notes = a ++ .reported (.pollFailed kind) held told kept :: middle ++
      .reported (.probed hasSession) held' told' kept' :: b →
    kind.isResumable = true →
    (∀ n ∈ middle, ∃ kind' h t k, n = .reported (.probeFailed kind') h t k ∧
      kind' ≠ .deploymentMismatch) →
    ∃ id, held = some id ∧ hasSession = true ∧ kept' = some id ∧
      ∀ n b', b = n :: b' → n = .polled id
  /-- After a probe that has found a session, a controller that has not been stopped polls it. -/
  goesOn : ∀ a held told id, x.notes = a ++ [.reported (.probed true) held told (some id)] →
    x.controller.activity ≠ .stopped →
      ∃ y, x.step .begin = some y ∧ y.notes = x.notes ++ [.polled id]

/-- A poll that fails has gone out under a session. -/
theorem Follows.held_of_pollFailed {kind : FailureKind}
    (h : Follows delay last (.reported (.pollFailed kind) held told kept)) :
    ∃ id, held = some id := by
  cases h with
  | first n hn => cases hn
  | next r' h' t' k' n hn =>
    generalize (Connection.decide delay r').errand = e at hn
    cases hn with
    | probes _ _ hr => cases hr
  | hears id => exact ⟨id, rfl⟩

/-- A probe is under the session that was kept. -/
theorem Follows.held_of_probes {h' : Option SessionId} {t' : Option ConnectionChange}
    {kept' : Option SessionId} {r' : Report} (hr : r.errand = .probe)
    (h : Follows delay (some (.reported r' h' t' kept')) (.reported r held told kept)) :
    held = kept' := by
  cases h with
  | next r' h' t' k' n hn =>
    generalize (Connection.decide delay r').errand = e at hn
    cases hn with
    | refuses => cases hr
    | probes => rfl

/-- A probe that succeeds says whether a session is held. -/
theorem Follows.isSome_of_probed {hasSession : Bool}
    (h : Follows delay last (.reported (.probed hasSession) held told kept)) :
    hasSession = held.isSome := by
  cases h with
  | first n hn => cases hn
  | next r' h' t' k' n hn =>
    generalize (Connection.decide delay r').errand = e at hn
    cases hn with
    | probes _ _ _ hheld => exact hheld hasSession rfl
  | hears id r hr => cases hr

/-- After a probe that has found a session comes a poll of it. -/
theorem Follows.polls_of_probed
    (h : Follows delay (some (.reported (.probed true) held told (some id))) n) :
    n = .polled id := by
  cases h with
  | next r h t k n hn =>
    cases hn
    rfl

/-- After a probe that has found a session its controller is about to poll it. -/
theorem Awaits.of_probed {held' : Option SessionId}
    (h : Awaits delay (some (.reported (.probed true) held told (some id))) errand held') :
    errand = .poll ∧ held' = some id := by
  rcases h with ⟨hnone, -⟩ | ⟨r, h', t, heq, rfl⟩
  · cases hnone
  · cases heq
    exact ⟨rfl, rfl⟩

theorem Current.granted (h : Current ns id) : .granted id ∈ ns := by
  obtain ⟨before, since, rfl, -⟩ := h
  simp

theorem mem_granted : id ∈ ns.filterMap Note.granted? ↔ .granted id ∈ ns := by
  constructor
  · intro h
    obtain ⟨n, hn, heq⟩ := List.mem_filterMap.1 h
    cases n with
    | granted id' =>
      cases heq
      exact hn
    | polled | reported => cases heq
  · intro h
    exact List.mem_filterMap.2 ⟨_, h, rfl⟩

/-- What is granted once is not granted before or after. -/
theorem not_granted_of_nodup (honce : ((a ++ .granted id :: b).filterMap Note.granted?).Nodup) :
    .granted id ∉ a ∧ .granted id ∉ b := by
  have hsplit : (a ++ .granted id :: b).filterMap Note.granted? =
      a.filterMap Note.granted? ++ id :: b.filterMap Note.granted? := by
    rw [List.filterMap_append]
    rfl
  rw [hsplit] at honce
  have hnodup := List.nodup_middle.1 honce
  have hfree := (List.nodup_cons.1 hnodup).1
  rw [List.mem_append, mem_granted, mem_granted, not_or] at hfree
  exact hfree

/-- **A session that is lost for good is not the current one again**, as it is not granted again. -/
theorem Course.not_current {middle : List Note}
    (h : Course delay (a ++ .reported r (some id) told kept :: middle)) (hr : r.loses = true)
    (honce : ((a ++ .reported r (some id) told kept :: middle).filterMap Note.granted?).Nodup) :
    ¬ Current (a ++ .reported r (some id) told kept :: middle) id := by
  rintro ⟨before, since, hsplit, hsince⟩
  obtain ⟨ha, hfollows⟩ := h.of_append
  have herrand : r.errand ≠ .openSession := by
    intro herrand
    cases r with
    | sessionOpened | sessionFailed => cases hr
    | polled | pollFailed | probed | probeFailed => cases herrand
  have hgranted : .granted id ∈ a := by
    obtain ⟨n, hlast, hsession⟩ := hfollows.session_of_reported herrand
    exact (ha.current hlast hsession).granted
  have hkept : kept = none := by
    rw [hfollows.eq_ofReport.2]
    exact Report.keeps_of_loses hr (some id)
  rcases List.append_eq_append_iff.1 hsplit with ⟨c, -, hafter⟩ | ⟨c, -, hafter⟩
  · -- the session would have been granted twice
    obtain ⟨early, late, rfl⟩ := List.append_of_mem hgranted
    rw [List.append_assoc] at honce
    refine (not_granted_of_nodup honce).2 (List.mem_append_right late ?_)
    rw [hafter]
    simp
  · -- the session would have been kept
    have hin : Note.reported r (some id) told kept ∈ .granted id :: .connected id :: since := by
      rw [hafter]
      simp
    rcases List.mem_cons.1 hin with heq | hin
    · cases heq
    · rcases List.mem_cons.1 hin with heq | hin
      · cases heq
        cases hr
      · exact (hsince _ hin).2 hkept

/-- **A session that is lost for a while is kept** while probes fail otherwise than for another
deployment. -/
theorem Course.keeps {middle : List Note} {kind : FailureKind}
    (h : Course delay (a ++ .reported (.pollFailed kind) held told kept :: middle))
    (hkind : kind.isResumable = true)
    (hmiddle : ∀ n ∈ middle, ∃ kind' h t k, n = .reported (.probeFailed kind') h t k ∧
      kind' ≠ .deploymentMismatch) :
    ∃ id, held = some id ∧ ∃ r h t, (Connection.decide delay r).errand = .probe ∧
      (a ++ .reported (.pollFailed kind) held told kept :: middle).getLast? =
        some (.reported r h t (some id)) := by
  induction middle using List.reverseRecOn with
  | nil =>
    obtain ⟨-, hfollows⟩ := h.of_append
    obtain ⟨-, rfl⟩ := hfollows.eq_ofReport
    obtain ⟨id, rfl⟩ := hfollows.held_of_pollFailed
    have hprobes : (Connection.decide delay (.pollFailed kind)).errand = .probe := by
      simp [Connection.decide, hkind]
    refine ⟨id, rfl, .pollFailed kind, some id, told, hprobes, ?_⟩
    rw [List.getLast?_concat, Connection.keeps_of_not_opens _ (by simp [hprobes])]
  | append_singleton middle n ih =>
    rw [← List.cons_append, ← List.append_assoc] at h ⊢
    obtain ⟨hbefore, hfollows⟩ := h.of_concat
    obtain ⟨id, rfl, r, h', t, hprobes, hlast⟩ := ih hbefore fun n hn =>
      hmiddle n (List.mem_append_left _ hn)
    obtain ⟨kind', held', t', k, rfl, hother⟩ :=
      hmiddle n (List.mem_append_right _ List.mem_cons_self)
    have hagain : (Connection.decide delay (.probeFailed kind')).errand = .probe := by
      cases kind' <;> first | rfl | exact absurd rfl hother
    rw [hlast] at hfollows
    obtain ⟨-, rfl⟩ := hfollows.eq_ofReport
    obtain rfl := hfollows.held_of_probes rfl
    refine ⟨id, rfl, .probeFailed kind', some id, t', hagain, ?_⟩
    rw [List.getLast?_concat, Connection.keeps_of_not_opens _ (by simp [hagain])]

/-- **A controller that has found its session polls it.** -/
theorem Steady.goesOn (h : Steady delay x) {a : List Note}
    (hlast : x.notes = a ++ [.reported (.probed true) held told (some id)])
    (hrunning : x.controller.activity ≠ .stopped) :
    ∃ y, x.step .begin = some y ∧ y.notes = x.notes ++ [.polled id] := by
  have hstands := h.stands
  rw [hlast, List.getLast?_concat] at hstands
  have hpolls : ∀ {e : Errand}, Awaits delay
      (some (.reported (.probed true) held told (some id))) e x.bus.session ∧
        (e = .openSession → x.bus.session = none) ∧
        (e = .poll → x.bus.polling = true ∧ x.bus.session.isSome) →
      (x.steer e (x.bus.start e.operation)).notes = x.notes ++ [.polled id] := by
    rintro e ⟨hawaits, -, hallowed⟩
    obtain ⟨rfl, hid⟩ := hawaits.of_probed
    have hstart : x.bus.start Errand.poll.operation =
        x.bus.await (.polling id x.bus.generation) := by
      simp [Bus.start, Errand.operation, hid, (hallowed rfl).1]
    rw [hstart]
    rfl
  cases hactivity : x.controller.activity with
  | ready e =>
    rw [hactivity] at hstands
    exact ⟨x.steer e (x.bus.start e.operation), by simp only [Steering.step, hactivity],
      hpolls hstands⟩
  | pausing pause e =>
    rw [hactivity] at hstands
    exact ⟨x.steer e (x.bus.start e.operation), by simp only [Steering.step, hactivity],
      hpolls hstands⟩
  | stopped => exact absurd hactivity hrunning
  | calling e p =>
    -- no call of an errand that such a report leads to is out
    rw [hactivity] at hstands
    cases e <;> cases p <;> simp only [Stands] at hstands
    case openSession.opening => cases hstands.1.of_probed.1
    case openSession.subscribing => cases hstands.1
    case openSession.abandoning =>
      obtain ⟨⟨id', hlast'⟩, -⟩ := hstands
      cases hlast'
    case poll.polling => cases hstands.1
    case probe.probing => cases (Awaits.of_probed hstands).1

/-- **A controller keeps to the sessions that it is granted**, whatever the service answers and
whatever the users do, if no session is granted twice. -/
theorem disciplined {fingerprint : Fingerprint} {keys : KeyOrder}
    (h : (Steering.new fingerprint keys delay).run ms = some x)
    (honce : (x.notes.filterMap Note.granted?).Nodup) : x.Disciplined := by
  have hsteady := (Steady.new fingerprint keys delay).run h
  have hcourse := hsteady.course
  refine ⟨hsteady.told, ?polls, ?connects, ?resumes, ?leaves, ?keeps, ?goesOn⟩
  case polls =>
    intro a id b heq
    rw [heq] at hcourse
    obtain ⟨ha, hfollows⟩ := hcourse.of_append
    obtain ⟨n, hlast, hsession⟩ := hfollows.session_of_polled
    obtain ⟨before, since, hsplit, hsince⟩ := ha.current hlast hsession
    exact ⟨before, since, hsplit, fun n hn => (hsince n hn).1⟩
  case connects =>
    intro a n b heq htold
    rw [heq] at hcourse honce
    obtain ⟨ha, hfollows⟩ := hcourse.of_append
    cases n with
    | granted | polled => cases htold
    | reported r held told kept =>
      obtain ⟨rfl, rfl⟩ := hfollows.eq_ofReport
      obtain rfl := Connection.eq_sessionOpened_of_notify htold
      obtain ⟨id, hlast, rfl⟩ := hfollows.granted_of_opened
      obtain ⟨before, rfl⟩ := List.getLast?_eq_some_iff.1 hlast
      rw [List.append_assoc] at honce
      obtain ⟨hnever, hnot⟩ := not_granted_of_nodup honce
      refine ⟨id, ⟨rfl, before, rfl, hnever, fun hin => hnot (List.mem_cons_of_mem _ hin)⟩, ?_⟩
      rintro id' ⟨hsame, -⟩
      cases hsame
      rfl
  case resumes =>
    intro a r held kept b heq
    rw [heq] at hcourse
    obtain ⟨-, hfollows⟩ := hcourse.of_append
    obtain ⟨hnotify, hkept⟩ := hfollows.eq_ofReport
    obtain rfl := Connection.eq_probed_of_notify hnotify.symm
    refine ⟨fun hnone => ?_, hkept⟩
    have hsome := hfollows.isSome_of_probed
    rw [hnone] at hsome
    cases hsome
  case leaves =>
    intro a r id told kept b heq hloses hpolled
    obtain ⟨middle, after, rfl⟩ := List.append_of_mem hpolled
    rw [heq, ← List.cons_append, ← List.append_assoc] at hcourse honce
    obtain ⟨hbefore, hpoll⟩ := hcourse.of_append
    obtain ⟨n, hlast, hsession⟩ := hpoll.session_of_polled
    refine hbefore.not_current hloses ?_ (hbefore.current hlast hsession)
    rw [List.filterMap_append] at honce
    exact (List.nodup_append.1 honce).1
  case keeps =>
    intro a kind held told kept middle hasSession held' told' kept' b heq hkind hmiddle
    rw [heq] at hcourse
    obtain ⟨hbefore, hfollows⟩ := hcourse.of_append
    obtain ⟨id, rfl, r, h', t, hprobes, hlast⟩ := hbefore.keeps hkind hmiddle
    rw [hlast] at hfollows
    obtain ⟨-, rfl⟩ := hfollows.eq_ofReport
    obtain rfl := hfollows.held_of_probes rfl
    obtain rfl : hasSession = true := hfollows.isSome_of_probed
    refine ⟨id, rfl, rfl, rfl, ?_⟩
    rintro n b' rfl
    rw [List.append_cons] at hcourse
    obtain ⟨-, hnext⟩ := hcourse.of_append
    rw [List.getLast?_concat] at hnext
    exact hnext.polls_of_probed
  case goesOn => exact fun a held told id hlast hrunning => hsteady.goesOn hlast hrunning

namespace Sample

open Switchboard.Sample (answers refuses session typeId)

/-- Another session than that of `Switchboard.Sample`. -/
def other : SessionId := ⟨session.epoch, ⟨⟨8, by decide⟩⟩⟩

/-- The controller's call fails for good. -/
def expires (c : Call) : c.Answer := .error .invalidSession

/-- A session is connected and polled, lost for a while and found again, polled and lost for good,
and another one is connected and polled. -/
def eventful : List Move :=
  [.add typeId "alice", .begin, .hear (answers session), .hear (answers session),
    .begin, .hear refuses, .begin, .hear refuses, .begin, .hear (answers session),
    .begin, .hear expires, .begin, .hear (answers other), .hear (answers other), .begin]

/-- What is noted of it. -/
def story : List Note :=
  [.granted session, .connected session, .polled session,
    .reported (.pollFailed .transient) (some session) (some (.disconnected .transient))
      (some session),
    .reported (.probeFailed .transient) (some session) none (some session),
    .reported (.probed true) (some session) (some .resumed) (some session), .polled session,
    .reported (.pollFailed .invalidSession) (some session)
      (some (.disconnected .invalidSession)) none,
    .granted other, .connected other, .polled other]

end Sample

theorem disciplined_sample : ∃ x,
    (Steering.new .compiled .registered ⟨1⟩).run Sample.eventful = some x ∧
    x.notes = Sample.story ∧ (x.notes.filterMap Note.granted?).Nodup ∧ x.Disciplined := by
  have hrun : ((Steering.new .compiled .registered ⟨1⟩).run Sample.eventful).map notes =
      some Sample.story := by
    decide
  obtain ⟨x, hx, hnotes⟩ := Option.map_eq_some_iff.1 hrun
  have honce : (x.notes.filterMap Note.granted?).Nodup := by
    rw [hnotes]
    decide
  exact ⟨x, hx, hnotes, honce, disciplined hx honce⟩

end Steering
end EventRelay

/-
# Sessions that a service has granted

A new session asks for a session while the bus holds none, and takes up what it is granted if the
bus still holds none when it hears of that.  What was taken up is accounted for ever after
(`Switchboard.Fares`): it is held, somebody has given it up, or the service has been asked to close
it; and a new session that fails has asked for that itself, unless somebody had been before it.

A new session that hears of its grant while another session is held returns at once, and nobody
tells the service that the session it has granted is of no use.  That is the only way in which a
session gets lost (`Switchboard.accounted_iff`), and it takes no more than two callers that begin a
new session at the same time (`Switchboard.overtaken_grant_lost`).
-/

import EventRelay.Proofs.Switchboard.Early

namespace EventRelay

namespace Bus

variable {b : Bus} {id : SessionId}

/-- An operation that begins closes the session that is held, and no other. -/
theorem closes_of_start {op : Operation} {p : Pending} (h : (b.start op).progress = .waiting p)
    (hp : p.call = .closeSession id) : b.session = some id := by
  cases op with
  | endSession =>
    cases hs : b.session with
    | none => simp [start, dropSession, hs, finish] at h
    | some held =>
      simp only [start, dropSession, hs, await, Progress.waiting.injEq] at h
      subst h
      cases hp
      rfl
  | newSession | addHandler | removeHandler | poll =>
    simp only [start] at h
    split at h <;> (try split at h) <;> (cases h; try cases hp)
  | probe | publish =>
    cases h
    cases hp

/-- An operation that goes on closes the session that is held, and no other. -/
theorem closes_of_resume {p p' : Pending} {answer : p.call.Answer}
    (h : (b.resume p answer).progress = .waiting p') (hp : p'.call = .closeSession id) :
    b.session = some id := by
  have hresumes := b.resumes p answer
  generalize b.resume p answer = turn at hresumes h
  cases hresumes with
  | ends | takesOut | dispatches => cases h
  | takesUp | goesOn =>
    obtain ⟨t, rest, -, rfl⟩ := progress_subscribeNext h
    cases hp
  | givesUp id' t rest fault hid =>
    cases h
    cases hp
    exact hid

/-- A session that is granted while another one is held is not taken up. -/
theorem resume_opening_of_held {held : SessionId} (hheld : b.session = some held)
    (id : SessionId) : b.resume .opening (.ok id) = b.finish (.error .sessionActive) := by
  simp only [resume, takeUp, hheld]

end Bus

theorem Turn.mem_notes_returned {t : Turn} {j k : Nat} {result : Outcome Success} :
    .returned k result ∈ t.notes j ↔ k = j ∧ t.progress = .finished result := by
  unfold Turn.notes
  cases t.progress with
  | waiting p => simp
  | finished result => simp [eq_comm]

namespace Switchboard

variable {x y z w w' : Switchboard} {m m' : Move} {ms : List Move} {k j : Nat}
  {id id' : SessionId} {c : Underway} {result : Outcome Success}

/-- Whether a move of a run happens in a state. -/
def Makes (x : Switchboard) (ms : List Move) (m : Move) (y : Switchboard) : Prop :=
  ∃ before after, ms = before ++ m :: after ∧ x.run before = some y

/-- Whether the service grants a session to the operation of a ticket. -/
def Granted (x : Switchboard) (ms : List Move) (k : Nat) (id : SessionId) : Prop :=
  ∃ y reply, x.Makes ms (.serve k reply) y ∧ y.underway? k = some ⟨.opening, none⟩ ∧
    reply (.openSession none) = .ok id

/-- In which state the operation of a ticket hears of the session it was granted. -/
def Hears (x : Switchboard) (ms : List Move) (k : Nat) (id : SessionId) (y : Switchboard) : Prop :=
  x.Makes ms (.deliver k) y ∧ y.underway? k = some ⟨.opening, some (.ok id)⟩

/-- Whether the operation of a ticket takes the session up that it was granted. -/
def TakesUp (x : Switchboard) (ms : List Move) (k : Nat) (id : SessionId) : Prop :=
  ∃ y, x.Hears ms k id y ∧ y.bus.session = none

/-- Whether another session is held when the operation of a ticket hears of its grant. -/
def Overtaken (x : Switchboard) (ms : List Move) (k : Nat) (id : SessionId) : Prop :=
  ∃ y held, x.Hears ms k id y ∧ y.Holds held

/-- Whether somebody gives up a session that is held. -/
def TakenOut (x : Switchboard) (ms : List Move) (id : SessionId) : Prop :=
  ∃ m y, x.Makes ms m y ∧ y.Holds id ∧ (m = .drop ∨ m = .begin .endSession)

/-- Whether a session is held after a run, somebody has given it up, or the service has been asked
to close it. -/
def Accounted (x : Switchboard) (ms : List Move) (id : SessionId) (y : Switchboard) : Prop :=
  y.Holds id ∨ x.TakenOut ms id ∨ ∃ k, .called k (.closeSession id) ∈ y.notes

/-! ### One move more -/

theorem makes_concat (hy : x.run ms = some y) :
    x.Makes (ms ++ [m]) m' w ↔ x.Makes ms m' w ∨ m' = m ∧ w = y := by
  constructor
  · rintro ⟨before, after, heq, hw⟩
    rcases List.eq_nil_or_concat after with rfl | ⟨after, m₁, rfl⟩
    · obtain ⟨rfl, hm⟩ := List.append_inj' heq rfl
      cases hm
      cases hy.symm.trans hw
      exact .inr ⟨rfl, rfl⟩
    · rw [List.concat_eq_append, ← List.cons_append, ← List.append_assoc] at heq
      exact .inl ⟨before, after, (List.append_inj' heq rfl).1, hw⟩
  · rintro (⟨before, after, rfl, hw⟩ | ⟨rfl, rfl⟩)
    · exact ⟨before, after ++ [m], by simp, hw⟩
    · exact ⟨ms, [], rfl, hy⟩

theorem not_makes_nil : ¬ x.Makes [] m y := by
  rintro ⟨before, after, heq, -⟩
  simp at heq

theorem Makes.concat (hy : x.run ms = some y) (h : x.Makes ms m' w) : x.Makes (ms ++ [m]) m' w :=
  (makes_concat hy).2 (.inl h)

theorem hears_concat (hy : x.run ms = some y) : x.Hears (ms ++ [m]) k id w ↔
    x.Hears ms k id w ∨ m = .deliver k ∧ w = y ∧
      y.underway? k = some ⟨.opening, some (.ok id)⟩ := by
  rw [Hears, makes_concat hy, Hears]
  constructor
  · rintro ⟨hmakes | ⟨rfl, rfl⟩, hk⟩
    · exact .inl ⟨hmakes, hk⟩
    · exact .inr ⟨rfl, rfl, hk⟩
  · rintro (⟨hmakes, hk⟩ | ⟨rfl, rfl, hk⟩)
    · exact ⟨.inl hmakes, hk⟩
    · exact ⟨.inr ⟨rfl, rfl⟩, hk⟩

theorem takesUp_concat (hy : x.run ms = some y) : x.TakesUp (ms ++ [m]) k id ↔
    x.TakesUp ms k id ∨ m = .deliver k ∧ y.underway? k = some ⟨.opening, some (.ok id)⟩ ∧
      y.bus.session = none := by
  constructor
  · rintro ⟨w, hears, hfree⟩
    rcases (hears_concat hy).1 hears with hears | ⟨rfl, rfl, hk⟩
    · exact .inl ⟨w, hears, hfree⟩
    · exact .inr ⟨rfl, hk, hfree⟩
  · rintro (⟨w, hears, hfree⟩ | ⟨rfl, hk, hfree⟩)
    · exact ⟨w, (hears_concat hy).2 (.inl hears), hfree⟩
    · exact ⟨y, (hears_concat hy).2 (.inr ⟨rfl, rfl, hk⟩), hfree⟩

theorem TakenOut.concat (hy : x.run ms = some y) (h : x.TakenOut ms id) :
    x.TakenOut (ms ++ [m]) id := by
  obtain ⟨m', w, hmakes, hheld⟩ := h
  exact ⟨m', w, hmakes.concat hy, hheld⟩

/-- What has been noted stays noted. -/
theorem mem_notes_of_step (h : y.step m = some z) {n : Note} (hn : n ∈ y.notes) : n ∈ z.notes := by
  obtain ⟨new, hnew⟩ := notes_step h
  rw [hnew]
  exact List.mem_append_left _ hn

/-- **Only a session that is held is closed.** -/
theorem closes_held (h : y.step m = some z) (hin : .called k (.closeSession id) ∈ z.notes) :
    .called k (.closeSession id) ∈ y.notes ∨ y.Holds id := by
  cases happens_of_step h with
  | drops | resumes | tidies | cancels => exact .inl hin
  | serves => exact .inl (by simpa [answered] using hin)
  | begins op =>
    rcases List.mem_append.1 hin with hold | hnew
    · exact .inl hold
    · obtain ⟨-, p, hwaiting, hcall⟩ := Turn.mem_notes_called.1 hnew
      exact .inr (Bus.closes_of_start hwaiting hcall.symm)
  | delivers j p answer hj =>
    rcases List.mem_append.1 hin with hold | hnew
    · exact .inl hold
    · obtain ⟨-, p', hwaiting, hcall⟩ := Turn.mem_notes_called.1 hnew
      exact .inr (Bus.closes_of_resume hwaiting hcall.symm)

/-- **What is accounted for was taken up.** -/
theorem exists_takesUp (hx : x.bus.session = none) (hnone : x.notes = []) (h : x.run ms = some y)
    (haccounted : x.Accounted ms id y) : ∃ k, x.TakesUp ms k id := by
  refine run_induction (Q := fun ms y => x.Accounted ms id y → ∃ k, x.TakesUp ms k id) ?_ ?_ h
    haccounted
  · rintro (hheld | ⟨m, y, hmakes, -⟩ | ⟨k, hcalled⟩)
    · cases hx.symm.trans hheld
    · exact absurd hmakes not_makes_nil
    · rw [hnone] at hcalled
      cases hcalled
  · intro ms y m z hy ih hz haccounted
    have hlater : x.Accounted ms id y → ∃ k, x.TakesUp (ms ++ [m]) k id := fun hbefore => by
      obtain ⟨k, hk⟩ := ih hbefore
      exact ⟨k, (takesUp_concat hy).2 (.inl hk)⟩
    rcases haccounted with hheld | ⟨m', w, hmakes, hheld, hm'⟩ | ⟨k, hcalled⟩
    · by_cases hnow : y.Holds id
      · exact hlater (.inl hnow)
      · cases shifts_step hz with
        | keeps hsession => exact absurd (hsession.symm.trans hheld) hnow
        | givesUp _ _ hfree => cases hfree.symm.trans hheld
        | takesUp _ hfree =>
          obtain ⟨k, rfl, hk⟩ := hears_of_step hfree hz hheld
          exact ⟨k, (takesUp_concat hy).2 (.inr ⟨rfl, hk, hfree⟩)⟩
    · rcases (makes_concat hy).1 hmakes with hmakes | ⟨rfl, rfl⟩
      · exact hlater (.inr (.inl ⟨m', w, hmakes, hheld, hm'⟩))
      · exact hlater (.inl hheld)
    · rcases closes_held hz hcalled with hold | hheld
      · exact hlater (.inr (.inr ⟨k, hold⟩))
      · exact hlater (.inl hheld)

/-! ### What an operation hears and returns -/

/-- What a move tells a caller. -/
theorem returned_of_step (h : y.step m = some z) (hin : .returned k result ∈ z.notes) :
    .returned k result ∈ y.notes ∨ (∃ op, m = .begin op ∧ k = y.ticket ∧
        (y.bus.start op).progress = .finished result) ∨
      m = .deliver k ∧ ∃ p answer, y.underway? k = some ⟨p, some answer⟩ ∧
        (y.bus.resume p answer).progress = .finished result := by
  cases happens_of_step h with
  | drops | resumes | tidies | cancels => exact .inl hin
  | serves => exact .inl (by simpa [answered] using hin)
  | begins op =>
    rcases List.mem_append.1 hin with hold | hnew
    · exact .inl hold
    · obtain ⟨rfl, hfinished⟩ := Turn.mem_notes_returned.1 hnew
      exact .inr (.inl ⟨op, rfl, rfl, hfinished⟩)
  | delivers j p answer hj =>
    rcases List.mem_append.1 hin with hold | hnew
    · exact .inl hold
    · obtain ⟨rfl, hfinished⟩ := Turn.mem_notes_returned.1 hnew
      exact .inr (.inr ⟨rfl, p, answer, hj, hfinished⟩)

/-- What can be under way after a move: what was, an operation that has begun, or one that has gone
on, if only by hearing what has become of its call. -/
theorem caller_of_step (h : y.step m = some z) (hc : (k, c) ∈ z.callers) :
    (k, c) ∈ y.callers ∨ (∃ op p, m = .begin op ∧ k = y.ticket ∧
        (y.bus.start op).progress = .waiting p ∧ c = ⟨p, none⟩) ∨
      (∃ p reply, m = .serve k reply ∧ y.underway? k = some ⟨p, none⟩ ∧
        c = ⟨p, some (reply p.call)⟩) ∨
      m = .deliver k ∧ ∃ p answer p', y.underway? k = some ⟨p, some answer⟩ ∧
        (y.bus.resume p answer).progress = .waiting p' ∧ c = ⟨p', none⟩ := by
  cases happens_of_step h with
  | drops | resumes | tidies => exact .inl hc
  | cancels j d hj => exact .inl (mem_without.1 hc).1
  | begins op =>
    rcases mem_adopt.1 hc with hc | ⟨rfl, hnew⟩
    · exact .inl hc
    · obtain ⟨p, hwaiting, rfl⟩ := Turn.underway?_eq_some_iff.1 hnew
      exact .inr (.inl ⟨op, p, rfl, rfl, hwaiting, rfl⟩)
  | serves j reply p hj =>
    rcases mem_answered.1 hc with ⟨hc, -⟩ | ⟨rfl, rfl⟩
    · exact .inl hc
    · exact .inr (.inr (.inl ⟨p, reply, rfl, hj, rfl⟩))
  | delivers j p answer hj =>
    rcases mem_adopt.1 hc with hc | ⟨rfl, hnew⟩
    · exact .inl (mem_without.1 hc).1
    · obtain ⟨p', hwaiting, rfl⟩ := Turn.underway?_eq_some_iff.1 hnew
      exact .inr (.inr (.inr ⟨rfl, p, answer, p', hj, hwaiting, rfl⟩))

theorem ticket_le_step (h : y.step m = some z) : y.ticket ≤ z.ticket := by
  cases happens_of_step h with
  | begins op => exact Nat.le_succ _
  | drops | resumes | tidies | serves | delivers | cancels => exact Nat.le_refl _

/-- The ticket of an operation that is over. -/
structure Over (y : Switchboard) (k : Nat) : Prop where
  issued : k < y.ticket
  gone : ∀ c, (k, c) ∉ y.callers

theorem Over.step (h : y.Over k) (hz : y.step m = some z) : z.Over k := by
  refine ⟨Nat.lt_of_lt_of_le h.issued (ticket_le_step hz), fun c hc => ?_⟩
  rcases caller_of_step hz hc with hold | ⟨_, _, -, rfl, -⟩ | ⟨_, _, -, hk, -⟩ |
    ⟨-, _, _, _, hk, -⟩
  · exact h.gone c hold
  · exact absurd h.issued (Nat.lt_irrefl _)
  · exact h.gone _ (mem_of_underway? hk)
  · exact h.gone _ (mem_of_underway? hk)

/-- An operation that has returned does not return once more. -/
theorem Over.returned (h : y.Over k) (hz : y.step m = some z)
    (hin : .returned k result ∈ z.notes) : .returned k result ∈ y.notes := by
  rcases returned_of_step hz hin with hold | ⟨_, -, rfl, -⟩ | ⟨-, _, _, hk, -⟩
  · exact hold
  · exact absurd h.issued (Nat.lt_irrefl _)
  · exact absurd (mem_of_underway? hk) (h.gone _)

/-- An operation whose call is answered is over when it finishes. -/
theorem over_of_deliver (hy : y.Ticketed) (hz : y.step (.deliver k) = some z) {p : Pending}
    {answer : p.call.Answer} (hk : y.underway? k = some ⟨p, some answer⟩)
    (hfinished : (y.bus.resume p answer).progress = .finished result) : z.Over k := by
  cases happens_of_step hz with
  | delivers _ p' answer' hk' =>
    cases hk.symm.trans hk'
    refine ⟨hy.issued _ (mem_of_underway? hk), fun c hc => ?_⟩
    rcases mem_adopt.1 hc with hold | ⟨-, hnew⟩
    · exact (mem_without.1 hold).2 rfl
    · obtain ⟨p', hwaiting, -⟩ := Turn.underway?_eq_some_iff.1 hnew
      cases hfinished.symm.trans hwaiting

/-- **What has returned is over.** -/
theorem over_of_returned (hx : x.Ticketed) (hnone : x.notes = []) (h : x.run ms = some y)
    (hin : .returned k result ∈ y.notes) : y.Over k := by
  refine run_induction (Q := fun _ y => .returned k result ∈ y.notes → y.Over k) ?_ ?_ h hin
  · intro hin
    rw [hnone] at hin
    cases hin
  · intro ms y m z hy ih hz hin
    have hticketed := hx.run hy
    rcases returned_of_step hz hin with hold | ⟨op, rfl, rfl, hfinished⟩ |
      ⟨rfl, p, answer, hk, hfinished⟩
    · exact (ih hold).step hz
    · cases hz
      refine ⟨Nat.lt_succ_self _, fun c hc => ?_⟩
      rcases mem_adopt.1 hc with hold | ⟨-, hnew⟩
      · exact Nat.lt_irrefl _ (hticketed.issued _ hold)
      · obtain ⟨p, hwaiting, -⟩ := Turn.underway?_eq_some_iff.1 hnew
        cases hfinished.symm.trans hwaiting
    · exact over_of_deliver hticketed hz hk hfinished

/-- **An operation that has heard of its grant asks for no other.** -/
theorem Hears.opens_no_more (hx : x.Ticketed) (h : x.run ms = some y) (hears : x.Hears ms k id w) :
    k < y.ticket ∧ ∀ c, (k, c) ∈ y.callers → c.pending ≠ .opening := by
  refine run_induction (Q := fun ms y => x.Hears ms k id w → k < y.ticket ∧
    ∀ c, (k, c) ∈ y.callers → c.pending ≠ .opening) ?_ ?_ h hears
  · intro hears
    exact absurd hears.1 not_makes_nil
  · intro ms y m z hy ih hz hears
    have hgoesOn : ∀ {p : Pending} {answer : p.call.Answer} {p' : Pending},
        (y.bus.resume p answer).progress = .waiting p' → p' ≠ .opening := by
      rintro p answer p' hwaiting rfl
      rcases Bus.waits_of_resume hwaiting with ⟨_, _, _, _, heq⟩ | ⟨_, _, heq⟩ <;> cases heq
    rcases (hears_concat hy).1 hears with hears | ⟨rfl, -, hk⟩
    · obtain ⟨hissued, hother⟩ := ih hears
      refine ⟨Nat.lt_of_lt_of_le hissued (ticket_le_step hz), fun c hc => ?_⟩
      rcases caller_of_step hz hc with hold | ⟨_, _, -, rfl, -⟩ | ⟨p, _, -, hk, rfl⟩ |
        ⟨-, _, _, p', -, hwaiting, rfl⟩
      · exact hother c hold
      · exact absurd hissued (Nat.lt_irrefl _)
      · exact hother ⟨p, none⟩ (mem_of_underway? hk)
      · exact hgoesOn hwaiting
    · have hissued := (hx.run hy).issued _ (mem_of_underway? hk)
      refine ⟨Nat.lt_of_lt_of_le hissued (ticket_le_step hz), fun c hc => ?_⟩
      cases happens_of_step hz with
      | delivers _ p answer _ =>
        rcases mem_adopt.1 hc with hold | ⟨-, hnew⟩
        · exact absurd rfl (mem_without.1 hold).2
        · obtain ⟨p', hwaiting, rfl⟩ := Turn.underway?_eq_some_iff.1 hnew
          exact hgoesOn hwaiting

/-- **An operation hears of its grant once.** -/
theorem Hears.unique (hx : x.Ticketed) (h : x.run ms = some y) (hw : x.Hears ms k id w)
    (hw' : x.Hears ms k id' w') : w = w' := by
  refine run_induction (Q := fun ms _ => x.Hears ms k id w → x.Hears ms k id' w' → w = w')
    ?_ ?_ h hw hw'
  · intro hw
    exact absurd hw.1 not_makes_nil
  · intro ms y m z hy ih hz hw hw'
    rcases (hears_concat hy).1 hw with hw | ⟨-, rfl, hk⟩ <;>
      rcases (hears_concat hy).1 hw' with hw' | ⟨-, rfl, hk'⟩
    · exact ih hw hw'
    · exact absurd rfl ((hw.opens_no_more hx hy).2 _ (mem_of_underway? hk'))
    · exact absurd rfl ((hw'.opens_no_more hx hy).2 _ (mem_of_underway? hk))
    · rfl

/-- What was taken up was free to be taken up. -/
theorem TakesUp.not_overtaken (hx : x.Ticketed) (h : x.run ms = some y)
    (hup : x.TakesUp ms k id) : ¬ x.Overtaken ms k id := by
  rintro ⟨w, held, hears, hheld⟩
  obtain ⟨w', hears', hfree⟩ := hup
  cases hears.unique hx h hears'
  cases hfree.symm.trans hheld

/-! ### What becomes of a grant -/

/-- What has become of the operation of a ticket since it was granted a session. -/
inductive Fate (x : Switchboard) (ms : List Move) (y : Switchboard) (k : Nat) (id : SessionId) :
    Prop where
  /-- It has not heard of that. -/
  | waits (hk : y.underway? k = some ⟨.opening, some (.ok id)⟩)
  /-- It has been given up before it heard of that. -/
  | leaves (gone : y.Over k) (silent : ∀ result, .returned k result ∉ y.notes)
  /-- It has returned when it found another session held. -/
  | refused (gone : y.Over k) (overtaken : x.Overtaken ms k id)
      (returned : ∀ result, .returned k result ∈ y.notes → result = .error .sessionActive)
  | takesUp (hup : x.TakesUp ms k id)

/-- The operation goes on, or anything else happens. -/
theorem Fate.step (hx : x.Ticketed) (hnone : x.notes = []) (hy : x.run ms = some y)
    (hz : y.step m = some z) (h : Fate x ms y k id) : Fate x (ms ++ [m]) z k id := by
  have hticketed := hx.run hy
  cases h with
  | takesUp hup => exact .takesUp ((takesUp_concat hy).2 (.inl hup))
  | leaves hover hsilent =>
    exact .leaves (hover.step hz) fun result hin => hsilent result (hover.returned hz hin)
  | refused hover hovertaken hreturned =>
    obtain ⟨w, held, hears, hheld⟩ := hovertaken
    exact .refused (hover.step hz) ⟨w, held, (hears_concat hy).2 (.inl hears), hheld⟩
      fun result hin => hreturned result (hover.returned hz hin)
  | waits hk =>
    have hcaller := mem_of_underway? hk
    have hsilent : ∀ result, .returned k result ∉ y.notes := fun result hin =>
      (over_of_returned hx hnone hy hin).gone _ hcaller
    -- whatever happens to other operations leaves this one where it is
    have hstays : (k, (⟨.opening, some (.ok id)⟩ : Underway)) ∈ z.callers →
        Fate x (ms ++ [m]) z k id := fun hin =>
      .waits ((hticketed.step hz).underway?_of_mem hin)
    cases happens_of_step hz with
    | drops | resumes | tidies => exact hstays hcaller
    | begins op => exact hstays (mem_adopt.2 (.inl hcaller))
    | serves j reply p hj =>
      refine hstays (mem_answered.2 (.inl ⟨hcaller, fun heq => ?_⟩))
      rw [heq, hj] at hk
      cases hk
    | cancels j d hj =>
      by_cases heq : k = j
      · subst heq
        exact .leaves ⟨hticketed.issued _ hcaller, fun c hc => (mem_without.1 hc).2 rfl⟩ hsilent
      · exact hstays (mem_without.2 ⟨hcaller, heq⟩)
    | delivers j p answer hj =>
      by_cases heq : k = j
      · subst heq
        cases hk.symm.trans hj
        cases hsession : y.bus.session with
        | none => exact .takesUp ((takesUp_concat hy).2 (.inr ⟨rfl, hk, hsession⟩))
        | some held =>
          have hturn := Bus.resume_opening_of_held hsession id
          have hfinished : (y.bus.resume .opening (.ok id)).progress =
              .finished (.error .sessionActive) := by rw [hturn]; rfl
          refine .refused (over_of_deliver hticketed hz hk hfinished)
            ⟨y, held, (hears_concat hy).2 (.inr ⟨rfl, rfl, hk⟩), hsession⟩ fun result hin => ?_
          rcases List.mem_append.1 hin with hold | hnew
          · exact absurd hold (hsilent result)
          · have hresult := (Turn.mem_notes_returned.1 hnew).2
            cases hfinished.symm.trans hresult
            rfl
      · exact hstays (mem_adopt.2 (.inl (mem_without.2 ⟨hcaller, heq⟩)))

/-- **The fate of every grant.** -/
theorem fate_of_granted (hx : x.Ticketed) (hnone : x.notes = []) (h : x.run ms = some y)
    (hgranted : x.Granted ms k id) : Fate x ms y k id := by
  refine run_induction (Q := fun ms y => x.Granted ms k id → Fate x ms y k id) ?_ ?_ h hgranted
  · rintro ⟨y, reply, hmakes, -⟩
    exact absurd hmakes not_makes_nil
  · rintro ms y m z hy ih hz ⟨w, reply, hmakes, hk, hreply⟩
    rcases (makes_concat hy).1 hmakes with hmakes | ⟨rfl, rfl⟩
    · exact (ih ⟨w, reply, hmakes, hk, hreply⟩).step hx hnone hy hz
    · refine .waits (((hx.run hy).step hz).underway?_of_mem ?_)
      cases happens_of_step hz with
      | serves _ _ p hk' =>
        cases hk.symm.trans hk'
        refine mem_answered.2 (.inr ⟨rfl, ?_⟩)
        rw [show reply (Pending.opening).call = .ok id from hreply]

/-- A session that is held since the operation of a ticket took it up. -/
structure Kept (y : Switchboard) (k : Nat) (id : SessionId) : Prop where
  held : y.Holds id
  /-- Nobody else can come to give it up because it cannot be subscribed. -/
  only : ∀ j c id' t rest, (j, c) ∈ y.callers →
    c.pending = .subscribing id' y.bus.generation t rest → j = k
  /-- The operation subscribes the session, if it is not over. -/
  own : ∀ c, (k, c) ∈ y.callers → ∃ t rest, c.pending = .subscribing id y.bus.generation t rest
  unfailed : ∀ fault, .returned k (.error fault) ∉ y.notes

namespace Kept

/-- The session is taken up. -/
theorem start (hx : x.Ticketed) (hidle : x.callers = []) (hnone : x.notes = [])
    (hy : x.run ms = some y) (hz : y.step (.deliver k) = some z)
    (hk : y.underway? k = some ⟨.opening, some (.ok id)⟩) (hfree : y.bus.session = none) :
    z.Kept k id := by
  obtain ⟨hsession, hgeneration⟩ :=
    (y.bus.hold id).bus_subscribeNext id (y.bus.generation + 1) (y.bus.hold id).keys
  have hgeneration : ((y.bus.hold id).subscribeNext id (y.bus.generation + 1)
      (y.bus.hold id).keys).bus.generation = y.bus.generation + 1 := hgeneration
  cases happens_of_step hz with
  | delivers _ p answer hk' =>
    cases hk.symm.trans hk'
    rw [show y.bus.resume .opening (.ok id) = _ from Bus.resume_opening hfree]
    generalize hturn : (y.bus.hold id).subscribeNext id (y.bus.generation + 1)
      (y.bus.hold id).keys = turn at hsession hgeneration ⊢
    have hnew : ∀ {j c}, (j, c) ∈ ((y.without k).adopt k turn).callers →
        (j, c) ∈ y.callers ∧ j ≠ k ∨
          j = k ∧ ∃ t rest, c.pending = .subscribing id turn.bus.generation t rest := by
      intro j c hc
      rcases mem_adopt.1 hc with hold | ⟨rfl, hnew⟩
      · exact .inl (mem_without.1 hold)
      · obtain ⟨p, hwaiting, rfl⟩ := Turn.underway?_eq_some_iff.1 hnew
        rw [← hturn] at hwaiting
        obtain ⟨t, rest, -, rfl⟩ := Bus.progress_subscribeNext hwaiting
        exact .inr ⟨rfl, t, rest, congrArg (Pending.subscribing id · t rest) hgeneration.symm⟩
    refine ⟨hsession, fun j c id' t rest hc hp => ?_, fun c hc => ?_, fun fault hin => ?_⟩
    · rcases hnew hc with ⟨hold, -⟩ | ⟨heq, -⟩
      · -- the generation is a new one
        obtain ⟨p, answer⟩ := c
        subst hp
        have hle : turn.bus.generation ≤ y.bus.generation :=
          generation_le hidle hy _ _ _ _ _ _ hold
        omega
      · exact heq
    · rcases hnew hc with ⟨-, hne⟩ | ⟨-, hown⟩
      · exact absurd rfl hne
      · exact hown
    · rcases List.mem_append.1 hin with hold | hnew
      · exact (over_of_returned hx hnone hy hold).gone _ (mem_of_underway? hk)
      · have hfinished := (Turn.mem_notes_returned.1 hnew).2
        rw [← hturn] at hfinished
        generalize (y.bus.hold id).keys = ts at hfinished
        cases ts <;> cases hfinished

/-- The session stays as long as nobody else comes to subscribe it. -/
theorem stays (h : y.Kept k id) (hsession : z.bus.session = y.bus.session)
    (hgeneration : z.bus.generation = y.bus.generation)
    (hcallers : ∀ j c, (j, c) ∈ z.callers → (∃ d, (j, d) ∈ y.callers ∧ d.pending = c.pending) ∨
      (j = k ∧ ∃ t rest, c.pending = .subscribing id y.bus.generation t rest) ∨
      j ≠ k ∧ ∀ id' t rest, c.pending ≠ .subscribing id' y.bus.generation t rest)
    (hnotes : ∀ fault, .returned k (.error fault) ∈ z.notes →
      .returned k (.error fault) ∈ y.notes) : z.Kept k id := by
  refine ⟨hsession.trans h.held, fun j c id' t rest hc hp => ?_, fun c hc => ?_,
    fun fault hin => h.unfailed fault (hnotes fault hin)⟩
  · rw [hgeneration] at hp
    rcases hcallers j c hc with ⟨d, hd, heq⟩ | ⟨heq, -⟩ | ⟨-, hother⟩
    · exact h.only j d id' t rest hd (heq.trans hp)
    · exact heq
    · exact absurd hp (hother id' t rest)
  · rw [hgeneration]
    rcases hcallers k c hc with ⟨d, hd, heq⟩ | ⟨-, hsame⟩ | ⟨hne, -⟩
    · rw [← heq]
      exact h.own d hd
    · exact hsame
    · exact absurd rfl hne

/-- An operation begins that does not end the session. -/
theorem begins (h : y.Kept k id) (hissued : k < y.ticket) {op : Operation}
    (hop : op ≠ .endSession) :
    ({ y with ticket := y.ticket + 1 }.adopt y.ticket (y.bus.start op)).Kept k id := by
  obtain ⟨hsession, hgeneration, -⟩ := y.bus.bus_start hop
  refine h.stays hsession hgeneration (fun j c hc => ?_) fun fault hin => ?_
  · rcases mem_adopt.1 hc with hold | ⟨rfl, hnew⟩
    · exact .inl ⟨c, hold, rfl⟩
    · obtain ⟨p, hwaiting, rfl⟩ := Turn.underway?_eq_some_iff.1 hnew
      refine .inr (.inr ⟨fun heq => absurd hissued (heq ▸ Nat.lt_irrefl _), ?_⟩)
      rintro id' t rest rfl
      exact Bus.not_subscribes_of_start hwaiting
  · rcases List.mem_append.1 hin with hold | hnew
    · exact hold
    · obtain ⟨rfl, -⟩ := Turn.mem_notes_returned.1 hnew
      exact absurd hissued (Nat.lt_irrefl _)

/-- The operation that took the session up goes on: it has subscribed a type, or it closes the
session. -/
theorem goesOn (h : y.Kept k id) {p : Pending} {answer : p.call.Answer}
    (hk : y.underway? k = some ⟨p, some answer⟩) :
    ((y.without k).adopt k (y.bus.resume p answer)).Kept k id ∨
      .called k (.closeSession id) ∈ ((y.without k).adopt k (y.bus.resume p answer)).notes := by
  obtain ⟨t, rest, rfl⟩ := h.own _ (mem_of_underway? hk)
  cases answer with
  | error fault =>
    refine .inr (List.mem_append_right _ (Turn.mem_notes_called.2 ⟨rfl, ?_⟩))
    rw [Bus.resume_subscribing h.held t rest fault]
    exact ⟨.abandoning id fault, rfl, rfl⟩
  | ok changed =>
    obtain ⟨hsession, hgeneration⟩ := y.bus.bus_subscribeNext id y.bus.generation rest
    refine .inl (h.stays hsession hgeneration (fun j c hc => ?_) fun fault hin => ?_)
    · rcases mem_adopt.1 hc with hold | ⟨rfl, hnew⟩
      · exact .inl ⟨c, (mem_without.1 hold).1, rfl⟩
      · obtain ⟨p, hwaiting, rfl⟩ := Turn.underway?_eq_some_iff.1 hnew
        obtain ⟨u, us, -, rfl⟩ := Bus.progress_subscribeNext hwaiting
        exact .inr (.inl ⟨rfl, u, us, rfl⟩)
    · rcases List.mem_append.1 hin with hold | hnew
      · exact hold
      · have hfinished := (Turn.mem_notes_returned.1 hnew).2
        cases rest <;> cases hfinished

/-- Another operation goes on. -/
theorem goesOn_other (h : y.Kept k id) (hne : j ≠ k) {p : Pending} {answer : p.call.Answer}
    (hj : y.underway? j = some ⟨p, some answer⟩) :
    ((y.without j).adopt j (y.bus.resume p answer)).Kept k id := by
  have hapart : ∀ {id' t rest answer},
      y.underway? j ≠ some ⟨.subscribing id' y.bus.generation t rest, answer⟩ := fun hk =>
    hne (h.only j _ _ _ _ (mem_of_underway? hk) rfl)
  have hresumes := y.bus.resumes p answer
  generalize y.bus.resume p answer = turn at hresumes ⊢
  have hstays (hsession : turn.bus.session = y.bus.session)
      (hgeneration : turn.bus.generation = y.bus.generation)
      (hwaits : ∀ p' id' t rest, turn.progress = .waiting p' →
        p' ≠ .subscribing id' y.bus.generation t rest) : ((y.without j).adopt j turn).Kept k id := by
    refine h.stays hsession hgeneration (fun i c hc => ?_) fun fault hin => ?_
    · rcases mem_adopt.1 hc with hold | ⟨rfl, hnew⟩
      · exact .inl ⟨c, (mem_without.1 hold).1, rfl⟩
      · obtain ⟨p', hwaiting, rfl⟩ := Turn.underway?_eq_some_iff.1 hnew
        exact .inr (.inr ⟨hne, fun id' t rest => hwaits p' id' t rest hwaiting⟩)
    · rcases List.mem_append.1 hin with hold | hnew
      · exact hold
      · exact absurd (Turn.mem_notes_returned.1 hnew).1.symm hne
  cases hresumes with
  | ends | takesOut | dispatches => exact hstays rfl rfl nofun
  | takesUp id' hfree => cases hfree.symm.trans h.held
  | givesUp => exact absurd hj hapart
  | goesOn id' generation t rest changed =>
    obtain ⟨hsession, hgeneration⟩ := y.bus.bus_subscribeNext id' generation rest
    refine hstays hsession hgeneration ?_
    rintro p' id'' u us hwaiting rfl
    obtain ⟨_, _, -, heq⟩ := Bus.progress_subscribeNext hwaiting
    cases heq
    exact hapart hj

end Kept

/-- What has become of a session since the operation of a ticket took it up. -/
inductive Fares (x : Switchboard) (ms : List Move) (y : Switchboard) (k : Nat) (id : SessionId) :
    Prop where
  | kept (hkept : y.Kept k id)
  | takenOut (hout : x.TakenOut ms id)
  | closed (hcalled : .called k (.closeSession id) ∈ y.notes)

namespace Fares

/-- A move while the session is held. -/
theorem of_kept (hy : x.run ms = some y) (hz : y.step m = some z) (hissued : k < y.ticket)
    (h : y.Kept k id) : Fares x (ms ++ [m]) z k id := by
  have hout (hm : m = .drop ∨ m = .begin .endSession) : Fares x (ms ++ [m]) z k id :=
    .takenOut ⟨m, y, (makes_concat hy).2 (.inr ⟨rfl, rfl⟩), h.held, hm⟩
  cases happens_of_step hz with
  | drops => exact hout (.inl rfl)
  | resumes =>
    exact .kept (h.stays y.bus.session_resumeSession y.bus.generation_resumeSession
      (fun j c hc => .inl ⟨c, hc, rfl⟩) fun _ hin => hin)
  | tidies => exact .kept (h.stays rfl rfl (fun j c hc => .inl ⟨c, hc, rfl⟩) fun _ hin => hin)
  | cancels j d hj =>
    exact .kept (h.stays rfl rfl (fun j c hc => .inl ⟨c, (mem_without.1 hc).1, rfl⟩)
      fun _ hin => hin)
  | serves j reply p hj =>
    refine .kept (h.stays rfl rfl (fun i c hc => .inl ?_)
      fun fault hin => by simpa [answered] using hin)
    rcases mem_answered.1 hc with ⟨hold, -⟩ | ⟨rfl, rfl⟩
    · exact ⟨c, hold, rfl⟩
    · exact ⟨_, mem_of_underway? hj, rfl⟩
  | begins op =>
    by_cases hop : op = .endSession
    · subst hop
      exact hout (.inr rfl)
    · exact .kept (h.begins hissued hop)
  | delivers j p answer hj =>
    by_cases heq : j = k
    · subst heq
      exact (h.goesOn hj).elim .kept .closed
    · exact .kept (h.goesOn_other heq hj)

/-- Anything that happens. -/
theorem step (hy : x.run ms = some y) (hz : y.step m = some z) (hissued : k < y.ticket)
    (h : Fares x ms y k id) : Fares x (ms ++ [m]) z k id := by
  cases h with
  | kept hkept => exact of_kept hy hz hissued hkept
  | takenOut hout => exact .takenOut (hout.concat hy)
  | closed hcalled => exact .closed (mem_notes_of_step hz hcalled)

/-- **What is taken up is accounted for ever after.** -/
theorem of_takesUp (hx : x.Ticketed) (hidle : x.callers = []) (hnone : x.notes = [])
    (h : x.run ms = some y) (hup : x.TakesUp ms k id) : Fares x ms y k id := by
  refine run_induction (Q := fun ms y => x.TakesUp ms k id → Fares x ms y k id) ?_ ?_ h hup
  · rintro ⟨w, hears, -⟩
    exact absurd hears.1 not_makes_nil
  · intro ms y m z hy ih hz hup
    rcases (takesUp_concat hy).1 hup with hbefore | ⟨rfl, hk, hfree⟩
    · have hissued : k < y.ticket := by
        obtain ⟨w, hears, -⟩ := hbefore
        exact (hears.opens_no_more hx hy).1
      exact (ih hbefore).step hy hz hissued
    · exact .kept (.start hx hidle hnone hy hz hk hfree)

theorem accounted (h : Fares x ms y k id) : x.Accounted ms id y := by
  cases h with
  | kept hkept => exact .inl hkept.held
  | takenOut hout => exact .inr (.inl hout)
  | closed hcalled => exact .inr (.inr ⟨k, hcalled⟩)

end Fares

/-- **When a granted session is accounted for.**  In every run of a bus on which nothing was under
way, whatever the service answers and in whichever order: the session that was granted to an
operation which has returned is held, or was given up, or was asked to be closed, unless another
session was held when the operation heard of its grant; then nothing of this is so, but for a grant
of the same session to another operation that takes it up.  An operation that was so overtaken says
that a session is active, and one that fails otherwise has itself asked to close its session, if
nobody has given that up before. -/
theorem accounted_iff {fingerprint : Fingerprint} {keys : KeyOrder}
    (h : (Switchboard.new fingerprint keys).run ms = some y)
    (hgranted : (Switchboard.new fingerprint keys).Granted ms k id)
    (hreturned : .returned k result ∈ y.notes) :
    ((Switchboard.new fingerprint keys).Accounted ms id y ↔
        ¬ (Switchboard.new fingerprint keys).Overtaken ms k id ∨
          ∃ j, j ≠ k ∧ (Switchboard.new fingerprint keys).TakesUp ms j id) ∧
      ((Switchboard.new fingerprint keys).Overtaken ms k id → result = .error .sessionActive) ∧
      ∀ fault, result = .error fault → ¬ (Switchboard.new fingerprint keys).Overtaken ms k id →
        (Switchboard.new fingerprint keys).TakenOut ms id ∨
          .called k (.closeSession id) ∈ y.notes := by
  have hx : (Switchboard.new fingerprint keys).Ticketed := .new fingerprint keys
  have hover : y.Over k := over_of_returned hx rfl h hreturned
  have hfares : ∀ {j}, (Switchboard.new fingerprint keys).TakesUp ms j id →
      Fares (Switchboard.new fingerprint keys) ms y j id := fun hup => .of_takesUp hx rfl rfl h hup
  cases fate_of_granted hx rfl h hgranted with
  | waits hk => exact absurd (mem_of_underway? hk) (hover.gone _)
  | leaves _ hsilent => exact absurd hreturned (hsilent result)
  | refused _ hovertaken hrefused =>
    refine ⟨⟨fun haccounted => .inr ?_, ?_⟩, fun _ => hrefused result hreturned,
      fun _ _ hnot => absurd hovertaken hnot⟩
    · obtain ⟨j, hup⟩ := exists_takesUp rfl rfl h haccounted
      refine ⟨j, fun heq => ?_, hup⟩
      subst heq
      exact hup.not_overtaken hx h hovertaken
    · rintro (hnot | ⟨j, -, hup⟩)
      · exact absurd hovertaken hnot
      · exact (hfares hup).accounted
  | takesUp hup =>
    have hnot := hup.not_overtaken hx h
    refine ⟨⟨fun _ => .inl hnot, fun _ => (hfares hup).accounted⟩,
      fun hovertaken => absurd hovertaken hnot, ?_⟩
    rintro fault rfl -
    cases hfares hup with
    | kept hkept => exact absurd hreturned (hkept.unfailed fault)
    | takenOut hout => exact .inl hout
    | closed hcalled => exact .inr hcalled

namespace Sample

theorem spare_lt : 8 < 1 <<< 128 := by decide

/-- Another session than `session`. -/
def spare : SessionId := ⟨session.epoch, ⟨⟨8, spare_lt⟩⟩⟩

/-- Two callers begin a new session at the same time, and the service grants one to each. -/
def raced : List Move := [.begin .newSession, .begin .newSession, .serve 0 agrees,
  .serve 1 (answers spare), .deliver 0, .deliver 1]

/-- The sessions that the service was asked to close. -/
def closed (x : Switchboard) : List SessionId :=
  x.notes.filterMap fun
    | .called _ (.closeSession id) => some id
    | _ => none

theorem mem_closed {x : Switchboard} {k : Nat} {id : SessionId}
    (h : .called k (.closeSession id) ∈ x.notes) : id ∈ closed x :=
  List.mem_filterMap.2 ⟨_, h, rfl⟩

/-- What operations have returned, by their tickets. -/
def results (x : Switchboard) : List (Nat × Outcome Success) :=
  x.notes.filterMap fun
    | .returned k result => some (k, result)
    | _ => none

theorem mem_results {x : Switchboard} {k : Nat} {result : Outcome Success} :
    (k, result) ∈ results x ↔ .returned k result ∈ x.notes := by
  constructor
  · intro h
    obtain ⟨n, hn, heq⟩ := List.mem_filterMap.1 h
    cases n with
    | returned j r =>
      cases heq
      exact hn
    | called | served | handed => cases heq
  · intro h
    exact List.mem_filterMap.2 ⟨_, h, rfl⟩

end Sample

/-- The second of two callers is granted a session while the first one takes its own up. -/
theorem exists_raced : ∃ y, (Switchboard.new .compiled .registered).run Sample.raced = some y ∧
    (Switchboard.new .compiled .registered).Granted Sample.raced 1 Sample.spare ∧
    .returned 1 (.error .sessionActive) ∈ y.notes ∧ y.Holds Sample.session ∧
    Sample.closed y = [] := by
  have hrun : ((Switchboard.new .compiled .registered).run Sample.raced).map (fun y =>
      (Sample.results y, y.bus.session, Sample.closed y)) =
        some ([(0, .ok (.session Sample.session)), (1, .error .sessionActive)],
          some Sample.session, []) := by
    decide
  obtain ⟨y, hy, hseen⟩ := Option.map_eq_some_iff.1 hrun
  simp only [Prod.mk.injEq] at hseen
  obtain ⟨hresults, hheld, hclosed⟩ := hseen
  refine ⟨y, hy, ?_, ?_, hheld, hclosed⟩
  · exact ⟨_, Sample.answers Sample.spare,
      ⟨Sample.raced.take 3, Sample.raced.drop 4, rfl, rfl⟩, rfl, rfl⟩
  · rw [← Sample.mem_results, hresults]
    simp

/-- The session of the second caller is not accounted for. -/
theorem accounted_iff_sample : ∃ y,
    (Switchboard.new .compiled .registered).run Sample.raced = some y ∧
    (Switchboard.new .compiled .registered).Granted Sample.raced 1 Sample.spare ∧
    .returned 1 (.error .sessionActive) ∈ y.notes ∧
    ((Switchboard.new .compiled .registered).Accounted Sample.raced Sample.spare y ↔
      ¬ (Switchboard.new .compiled .registered).Overtaken Sample.raced 1 Sample.spare ∨
        ∃ j, j ≠ 1 ∧
          (Switchboard.new .compiled .registered).TakesUp Sample.raced j Sample.spare) := by
  obtain ⟨y, hy, hgranted, hreturned, -, -⟩ := exists_raced
  exact ⟨y, hy, hgranted, hreturned, (accounted_iff hy hgranted hreturned).1⟩

/-- **The second of two callers fails, and the session it was granted is neither held nor given up
nor closed.** -/
theorem overtaken_grant_lost : ∃ y,
    (Switchboard.new .compiled .registered).run Sample.raced = some y ∧
    (Switchboard.new .compiled .registered).Granted Sample.raced 1 Sample.spare ∧
    .returned 1 (.error .sessionActive) ∈ y.notes ∧
    ¬ (Switchboard.new .compiled .registered).Accounted Sample.raced Sample.spare y := by
  obtain ⟨y, hy, hgranted, hreturned, hheld, hclosed⟩ := exists_raced
  refine ⟨y, hy, hgranted, hreturned, ?_⟩
  rintro (hspare | ⟨m, w, ⟨before, after, heq, -⟩, -, hm⟩ | ⟨k, hcalled⟩)
  · have hsame : Sample.session = Sample.spare := Option.some.inj (hheld.symm.trans hspare)
    exact absurd hsame (by decide)
  · have hmem : m ∈ Sample.raced := heq ▸ List.mem_append_right _ List.mem_cons_self
    rcases hm with rfl | rfl <;> simp [Sample.raced] at hmem
  · have hin := Sample.mem_closed hcalled
    rw [hclosed] at hin
    cases hin

end Switchboard
end EventRelay

/-
# Late answers

The answer to a poll may come back when the session that was asked about has been given up, and
even when the same session has been granted again.  `Switchboard.timely` says what becomes of it:
under a session that has been held without a break since the poll went out the answer counts, and
the events of a batch are handed to the handlers of their types; any other answer, a batch as well
as a failure, reaches nobody, and the poll comes to nothing dispatched.  And no poll goes out but
under the session that is held.
-/

import EventRelay.Proofs.Client.Journal
import EventRelay.Proofs.Switchboard.Moves

namespace EventRelay

namespace Bus

variable {b : Bus}

/-- **Only a batch of the session that is held is handed to handlers.** -/
theorem polls_of_delivered {p : Pending} {answer : p.call.Answer} {d : Delivery}
    (h : d ∈ (b.resume p answer).delivered) : ∃ id batch, (⟨p, some answer⟩ : Underway) =
      ⟨.polling id b.generation, some (.ok batch)⟩ ∧ b.session = some id ∧
        d ∈ b.deliveries batch := by
  have hresumes := b.resumes p answer
  generalize b.resume p answer = turn at hresumes h
  cases hresumes with
  | ends | takesOut | givesUp => cases h
  | takesUp id => rw [delivered_subscribeNext] at h; cases h
  | goesOn id generation t rest => rw [delivered_subscribeNext] at h; cases h
  | dispatches id batch hid => exact ⟨id, batch, rfl, hid, h⟩

end Bus

namespace Switchboard

variable {x x' y z w w' : Switchboard} {m : Move} {ms middle : List Move} {k : Nat} {c : Underway}
  {id : SessionId} {generation : Nat} {answer : Outcome Batch}

/-- Where a poll of a run was asked: it went out under `id` with the move that ends in `z`, and
`middle` is what has happened since. -/
structure Asked (x : Switchboard) (ms : List Move) (k : Nat) (id : SessionId) (z : Switchboard)
    (middle : List Move) : Prop where
  begun : ∃ front y, ms = front ++ .begin .poll :: middle ∧ x.run front = some y ∧
    y.ticket = k ∧ y.step (.begin .poll) = some z ∧ z.notes = y.notes ++ [.called k (.poll id)]

theorem Asked.concat (h : x.Asked ms k id z middle) (m : Move) :
    x.Asked (ms ++ [m]) k id z (middle ++ [m]) := by
  obtain ⟨front, y, rfl, hy, hk, hz, hcalled⟩ := h.begun
  exact ⟨front, y, by simp, hy, hk, hz, hcalled⟩

theorem Asked.run (h : x.Asked ms k id z middle) (hy : x.run ms = some y) :
    z.run middle = some y := by
  obtain ⟨front, y, rfl, hfront, -, hz, -⟩ := h.begun
  rw [run_append, hfront, Option.bind_some, Switchboard.run, hz, Option.bind_some] at hy
  exact hy

/-- **A poll that is out was asked under its session, as that was held then.** -/
theorem exists_asked (hx : x.callers = []) (h : x.run ms = some y)
    (hc : (k, c) ∈ y.callers) (hp : c.pending = .polling id generation) :
    ∃ z middle, x.Asked ms k id z middle ∧ z.Holds id ∧ z.bus.generation = generation := by
  refine run_induction (Q := fun ms y => ∀ k c, (k, c) ∈ y.callers →
    c.pending = .polling id generation →
      ∃ z middle, x.Asked ms k id z middle ∧ z.Holds id ∧ z.bus.generation = generation)
    ?_ ?_ h k c hc hp
  · intro k c hc
    rw [hx] at hc
    cases hc
  · intro ms y m z hy ih hz k c hc hp
    have hold : (k, c) ∈ y.callers → ∃ z middle, x.Asked (ms ++ [m]) k id z middle ∧
        z.Holds id ∧ z.bus.generation = generation := by
      intro hc
      obtain ⟨z, middle, hasked, hheld⟩ := ih k c hc hp
      exact ⟨z, middle ++ [m], hasked.concat m, hheld⟩
    cases happens_of_step hz with
    | drops | resumes | tidies => exact hold hc
    | cancels j d hj => exact hold (mem_without.1 hc).1
    | begins op =>
      rcases mem_adopt.1 hc with hc | ⟨rfl, hnew⟩
      · exact hold hc
      · obtain ⟨p, hwaiting, rfl⟩ := Turn.underway?_eq_some_iff.1 hnew
        cases hp
        obtain ⟨rfl, hturn, hsession, hgeneration⟩ := Bus.polls_of_start hwaiting
        refine ⟨_, [], ⟨ms, y, rfl, hy, rfl, hz, ?_⟩, ?_, ?_⟩
        · rw [hturn]
          rfl
        · rw [hturn]
          exact hsession
        · rw [hturn]
          exact hgeneration
    | serves j reply p hj =>
      rcases mem_answered.1 hc with ⟨hc, -⟩ | ⟨rfl, rfl⟩
      · exact hold hc
      · obtain ⟨z, middle, hasked, hheld⟩ := ih k _ (mem_of_underway? hj) hp
        exact ⟨z, middle ++ [.serve k reply], hasked.concat _, hheld⟩
    | delivers j p answer hj =>
      rcases mem_adopt.1 hc with hc | ⟨rfl, hnew⟩
      · exact hold (mem_without.1 hc).1
      · obtain ⟨p', hwaiting, rfl⟩ := Turn.underway?_eq_some_iff.1 hnew
        cases hp
        exact absurd hwaiting Bus.not_polls_of_resume

/-- **An answer counts exactly if its session has been held since the poll went out.** -/
theorem stillHolds_iff (hid : z.Holds id) (h : z.run middle = some w) :
    w.bus.stillHolds id z.bus.generation = true ↔ z.Throughout (Holds id) middle := by
  have hiff := throughout_holds_iff hid h
  rw [Bus.stillHolds_iff]
  constructor
  · rintro ⟨hgeneration, -⟩
    exact hiff.2 hgeneration
  · intro hheld
    exact ⟨hiff.1 hheld, hheld.last h⟩

/-- What there is to note of a poll whose answer counts: the calls of handlers, and its result. -/
def heeded (b : Bus) (k : Nat) : Outcome Batch → List Note
  | .ok batch => (b.deliveries batch).map (.handed k) ++
      [.returned k (.ok (.dispatched batch.events.length))]
  | .error fault => [.returned k (.error fault)]

theorem notes_deliver_poll (hk : w.underway? k = some ⟨.polling id generation, some answer⟩)
    (h : w.step (.deliver k) = some w') :
    w'.notes = w.notes ++ if w.bus.stillHolds id generation then heeded w.bus k answer
      else [.returned k (.ok (.dispatched 0))] := by
  cases happens_of_step h with
  | delivers _ p answer' hk' =>
    cases hk.symm.trans hk'
    show w.notes ++ (w.bus.dispatch id generation answer).notes k = _
    congr 1
    unfold Bus.dispatch
    split
    · cases answer <;> rfl
    · rfl

/-- What a run says of its polls. -/
structure Timely (x : Switchboard) (ms : List Move) (x' : Switchboard) : Prop where
  /-- A poll goes out only under the session that is held, which was not given up since it was
  last taken up. -/
  asked : ∀ before m after y z k id, ms = before ++ m :: after → x.run before = some y →
    y.step m = some z → .called k (.poll id) ∈ z.notes.drop y.notes.length →
      m = .begin .poll ∧ ∃ z₀ since, x.Stint before id z₀ since
  /-- An answer counts if its session has been held without a break since the poll went out;
  otherwise nothing is handed to anybody and the poll returns that nothing was dispatched. -/
  answered : ∀ before after w w' k id generation answer, ms = before ++ .deliver k :: after →
    x.run before = some w → w.underway? k = some ⟨.polling id generation, some answer⟩ →
    w.step (.deliver k) = some w' → ∃ z middle, x.Asked before k id z middle ∧
      (z.Throughout (Holds id) middle → w'.notes = w.notes ++ heeded w.bus k answer) ∧
      (¬ z.Throughout (Holds id) middle →
        w'.notes = w.notes ++ [.returned k (.ok (.dispatched 0))])
  /-- Handlers are called for nothing but the events of such answers that count. -/
  handed : ∀ k d, .handed k d ∈ x'.notes → ∃ before after w id generation batch z middle,
    ms = before ++ .deliver k :: after ∧ x.run before = some w ∧
      w.underway? k = some ⟨.polling id generation, some (.ok batch)⟩ ∧
      x.Asked before k id z middle ∧ z.Throughout (Holds id) middle ∧
      d ∈ w.bus.deliveries batch

/-- **A poll goes out only under the session that is held.** -/
theorem asks_held (h : y.step m = some z)
    (hcalled : .called k (.poll id) ∈ z.notes.drop y.notes.length) :
    m = .begin .poll ∧ y.Holds id := by
  cases happens_of_step h with
  | begins op =>
    have hnew : .called k (.poll id) ∈ (y.bus.start op).notes y.ticket := by
      simpa [adopt] using hcalled
    obtain ⟨-, p, hwaiting, hcall⟩ := Turn.mem_notes_called.1 hnew
    obtain ⟨generation, rfl⟩ := Pending.eq_polling_of_call hcall
    obtain ⟨rfl, -, hsession, -⟩ := Bus.polls_of_start hwaiting
    exact ⟨rfl, hsession⟩
  | drops | resumes | tidies | cancels => simp [without] at hcalled
  | serves => simp [answered] at hcalled
  | delivers j p answer hj =>
    have hnew : .called k (.poll id) ∈ (y.bus.resume p answer).notes j := by
      simpa [adopt, without] using hcalled
    obtain ⟨-, p', hwaiting, hcall⟩ := Turn.mem_notes_called.1 hnew
    obtain ⟨generation, rfl⟩ := Pending.eq_polling_of_call hcall
    exact absurd hwaiting Bus.not_polls_of_resume

/-- **What is handed over is of an answer that counts.** -/
theorem handed_of_step (h : y.step m = some z) {d : Delivery}
    (hin : .handed k d ∈ z.notes) (hnew : .handed k d ∉ y.notes) :
    m = .deliver k ∧ ∃ id generation batch,
      y.underway? k = some ⟨.polling id generation, some (.ok batch)⟩ ∧
      y.bus.stillHolds id generation = true ∧ d ∈ y.bus.deliveries batch := by
  cases happens_of_step h with
  | begins op =>
    rcases List.mem_append.1 hin with hold | hturn
    · exact absurd hold hnew
    · obtain ⟨-, hd⟩ := Turn.mem_notes_handed hturn
      rw [Bus.delivered_start] at hd
      cases hd
  | drops | resumes | tidies | cancels => exact absurd hin hnew
  | serves => simp [answered, hnew] at hin
  | delivers j p answer hj =>
    rcases List.mem_append.1 hin with hold | hturn
    · exact absurd hold hnew
    · obtain ⟨rfl, hd⟩ := Turn.mem_notes_handed hturn
      obtain ⟨id, batch, heq, hid, hd⟩ := Bus.polls_of_delivered hd
      rw [heq] at hj
      exact ⟨rfl, id, _, batch, hj, Bus.stillHolds_iff.2 ⟨rfl, hid⟩, hd⟩

/-- **Late answers reach nobody.**  In every run of a bus on which nothing was under way, whatever
the service answers and in whichever order. -/
theorem timely {fingerprint : Fingerprint} {keys : KeyOrder}
    (h : (Switchboard.new fingerprint keys).run ms = some x) :
    (Switchboard.new fingerprint keys).Timely ms x where
  asked := by
    rintro before m after y z k id rfl hy hz hcalled
    obtain ⟨rfl, hheld⟩ := asks_held hz hcalled
    exact ⟨rfl, exists_stint rfl hy hheld⟩
  answered := by
    rintro before after w w' k id generation answer rfl hw hk hw'
    obtain ⟨z, middle, hasked, hheld, rfl⟩ := exists_asked rfl hw (mem_of_underway? hk) rfl
    have hiff := stillHolds_iff hheld (hasked.run hw)
    have hnotes := notes_deliver_poll hk hw'
    refine ⟨z, middle, hasked, fun hkept => ?_, fun hbroken => ?_⟩
    · rw [hnotes, if_pos (hiff.2 hkept)]
    · rw [hnotes, if_neg fun hstill => hbroken (hiff.1 hstill)]
  handed := by
    intro k d hd
    refine run_induction (Q := fun ms x => .handed k d ∈ x.notes → ∃ before after w id generation
      batch z middle, ms = before ++ .deliver k :: after ∧
        (Switchboard.new fingerprint keys).run before = some w ∧
        w.underway? k = some ⟨.polling id generation, some (.ok batch)⟩ ∧
        (Switchboard.new fingerprint keys).Asked before k id z middle ∧
        z.Throughout (Holds id) middle ∧ d ∈ w.bus.deliveries batch) ?_ ?_ h hd
    · intro hd
      cases hd
    · intro ms y m z hy ih hz hd
      by_cases hold : .handed k d ∈ y.notes
      · obtain ⟨before, after, w, id, generation, batch, z₀, middle, rfl, hrest⟩ := ih hold
        exact ⟨before, after ++ [m], w, id, generation, batch, z₀, middle, by simp, hrest⟩
      · obtain ⟨rfl, id, generation, batch, hk, hstill, hd⟩ := handed_of_step hz hd hold
        obtain ⟨z₀, middle, hasked, hheld, rfl⟩ := exists_asked rfl hy (mem_of_underway? hk) rfl
        exact ⟨ms, [], y, id, _, batch, z₀, middle, rfl, hy, hk, hasked,
          (stillHolds_iff hheld (hasked.run hy)).1 hstill, hd⟩

namespace Sample

/-- While a poll is out, its session is given up and granted again; then its answer comes back,
and another poll goes out. -/
def late : List Move :=
  opens 0 ++ handles 1 ++ [.begin .poll, .drop] ++ opens 3 ++ goes 3 ++ goes 2 ++
    [.begin .poll] ++ goes 4

/-- How many events each poll came to. -/
def dispatched (x : Switchboard) : List (Nat × Nat) :=
  x.notes.filterMap fun
    | .returned k (.ok (.dispatched n)) => some (k, n)
    | _ => none

/-- The polls whose answers were handed to handlers. -/
def handed (x : Switchboard) : List Nat :=
  x.notes.filterMap fun
    | .handed k _ => some k
    | _ => none

end Sample

/-- The answer to the first poll comes back late, although the session is the same. -/
theorem timely_sample : ∃ x, (Switchboard.new .compiled .registered).run Sample.late = some x ∧
    Sample.dispatched x = [(2, 0), (4, 1)] ∧ Sample.handed x = [4] ∧
    (Switchboard.new .compiled .registered).Timely Sample.late x := by
  have hrun : ((Switchboard.new .compiled .registered).run Sample.late).map (fun x =>
      (Sample.dispatched x, Sample.handed x)) = some ([(2, 0), (4, 1)], [4]) := by
    decide
  obtain ⟨x, hx, hseen⟩ := Option.map_eq_some_iff.1 hrun
  obtain ⟨hdispatched, hhanded⟩ := Prod.mk.inj hseen
  exact ⟨x, hx, hdispatched, hhanded, timely hx⟩

end Switchboard
end EventRelay

/-
# Polls under a session that is not yet ready

A new session takes its session up before it has subscribed the types that have handlers, and
allows polls once it has subscribed the last of them.  While one of these types is missing, a poll
can go out under the session exactly if somebody has resumed it since it was taken up
(`Switchboard.polls_early_iff`): resuming asks whether a session is held, and not whether it is
ready.  That is so whether the new session goes on to subscribe or has been given up half way, and
whatever else happens meanwhile.

So polls can come before the subscriptions (`Switchboard.polls_before_subscribing`).
-/

import EventRelay.Proofs.Switchboard.Timely

namespace EventRelay
namespace Switchboard

variable {x y z w : Switchboard} {m : Move} {ms since : List Move} {k : Nat} {id : SessionId}
  {t : TypeId}

/-- Whether a poll under a session can be the next call that goes out. -/
def Polls (y : Switchboard) (id : SessionId) : Prop :=
  ∃ m y' k, y.step m = some y' ∧ .called k (.poll id) ∈ y'.notes.drop y.notes.length

/-- Whether a type was subscribed to a session between two states of a run. -/
def Subscribed (z y : Switchboard) (id : SessionId) (t : TypeId) : Prop :=
  ∃ k, .served k (.subscribe id t) true ∈ y.notes.drop z.notes.length

/-- **Polls go out as the bus allows them.** -/
theorem polls_iff (hid : y.Holds id) : y.Polls id ↔ y.bus.polling = true := by
  have hsession : y.bus.session = some id := hid
  constructor
  · rintro ⟨m, y', k, hy', hcalled⟩
    obtain ⟨rfl, -⟩ := asks_held hy' hcalled
    cases happens_of_step hy' with
    | begins op =>
      by_contra hpolling
      have hturn : y.bus.start .poll = y.bus.finish (.error .noActiveSession) := by
        simp [Bus.start, hsession, hpolling]
      rw [hturn] at hcalled
      simp [adopt, Turn.notes, Bus.finish] at hcalled
  · intro hpolling
    have hturn : y.bus.start .poll = y.bus.await (.polling id y.bus.generation) := by
      simp [Bus.start, hsession, hpolling]
    refine ⟨.begin .poll, _, y.ticket, rfl, ?_⟩
    rw [hturn]
    simp [adopt, Turn.notes, Bus.await, Pending.call]

/-- What was subscribed before a move is so after it. -/
theorem Subscribed.step (h : Subscribed z y id t) (hy : z.run since = some y)
    (hw : y.step m = some w) : Subscribed z w id t := by
  obtain ⟨k, hk⟩ := h
  obtain ⟨before, hbefore⟩ := notes_run hy
  obtain ⟨new, hnew⟩ := notes_step hw
  refine ⟨k, ?_⟩
  rw [hbefore, List.drop_left] at hk
  rw [hnew, hbefore, List.append_assoc, List.drop_left]
  exact List.mem_append_left _ hk

/-- A subscription takes effect. -/
theorem subscribed_of_serve (hy : z.run since = some y) {generation : Nat} {rest : List TypeId}
    (changed : Bool) : Subscribed z (y.answered k (.subscribing id generation t rest) (.ok changed))
      id t := by
  obtain ⟨before, hbefore⟩ := notes_run hy
  refine ⟨k, ?_⟩
  rw [answered, hbefore, List.append_assoc, List.drop_left]
  exact List.mem_append_right _ (List.mem_singleton.2 rfl)

/-! ### The generations of new sessions -/

theorem generation_le_step (h : y.step m = some z) : y.bus.generation ≤ z.bus.generation := by
  cases shifts_step h with
  | keeps _ hgeneration | takesUp _ _ _ hgeneration | givesUp _ _ _ hgeneration => omega

/-- A new session is not of a generation that is to come. -/
theorem generation_le (hx : x.callers = []) (h : x.run ms = some y) :
    ∀ k id generation t rest answer,
      (k, (⟨.subscribing id generation t rest, answer⟩ : Underway)) ∈ y.callers →
        generation ≤ y.bus.generation := by
  refine run_induction (Q := fun _ y => ∀ k id generation t rest answer,
    (k, (⟨.subscribing id generation t rest, answer⟩ : Underway)) ∈ y.callers →
      generation ≤ y.bus.generation) ?_ ?_ h
  · intro k id generation t rest answer hin
    rw [hx] at hin
    cases hin
  · intro ms y m z hy ih hz k id generation t rest answer hin
    have hle := generation_le_step hz
    have hold : ∀ {answer}, (k, (⟨.subscribing id generation t rest, answer⟩ : Underway)) ∈
        y.callers → generation ≤ z.bus.generation := fun hin =>
      Nat.le_trans (ih _ _ _ _ _ _ hin) hle
    cases happens_of_step hz with
    | drops | resumes | tidies => exact hold hin
    | cancels j c hj => exact hold (mem_without.1 hin).1
    | begins op =>
      rcases mem_adopt.1 hin with hin | ⟨-, hnew⟩
      · exact hold hin
      · obtain ⟨p, hwaiting, heq⟩ := Turn.underway?_eq_some_iff.1 hnew
        cases heq
        exact absurd hwaiting Bus.not_subscribes_of_start
    | serves j reply p hj =>
      rcases mem_answered.1 hin with ⟨hin, -⟩ | ⟨rfl, heq⟩
      · exact hold hin
      · cases heq
        exact hold (mem_of_underway? hj)
    | delivers j p answer' hj =>
      rcases mem_adopt.1 hin with hin | ⟨-, hnew⟩
      · exact hold (mem_without.1 hin).1
      · obtain ⟨p', hwaiting, heq⟩ := Turn.underway?_eq_some_iff.1 hnew
        cases heq
        rcases Bus.subscribes_of_resume hwaiting with ⟨hfree, hopening, rfl, -⟩ | ⟨u, changed, hp⟩
        · cases hopening
          rw [Bus.resume_opening hfree]
          exact Nat.le_of_eq ((y.bus.hold id).bus_subscribeNext id _ _).2.symm
        · rw [hp] at hj
          exact Nat.le_trans (ih _ _ _ _ _ _ (mem_of_underway? hj)) hle

/-! ### From the taking up of a session on -/

/-- How far a session that was taken up in `z` has come, and `since` are the moves since then. -/
structure Readying (z y : Switchboard) (id : SessionId) (since : List Move) : Prop where
  /-- A new session of its generation has subscribed every type but the one that is out and those
  that follow. -/
  follows : ∀ k id' t rest answer,
    (k, (⟨.subscribing id' z.bus.generation t rest, answer⟩ : Underway)) ∈ y.callers →
      id' = id ∧ (∀ u ∈ z.bus.handledTypes, Subscribed z y id u ∨ u ∈ t :: rest) ∧
        ∀ changed, answer = some (.ok changed) → Subscribed z y id t
  /-- Until all are subscribed, polls are allowed if the session was resumed. -/
  allowed : (∀ u ∈ z.bus.handledTypes, Subscribed z y id u) ∨
    (y.bus.polling = true ↔ .resume ∈ since)

namespace Readying

/-- A session is taken up. -/
theorem start (hx : x.callers = []) (hw : x.run ms = some w) (hfree : w.bus.session = none)
    (hz : w.step m = some z) (hid : z.Holds id) : Readying z z id [] := by
  obtain ⟨k, rfl⟩ := takesUp_of_step hfree hz hid
  have hgeneration : (adopt (w.without k) k ((w.bus.hold id).subscribeNext id
      (w.bus.generation + 1) (w.bus.hold id).keys)).bus.generation = w.bus.generation + 1 :=
    ((w.bus.hold id).bus_subscribeNext id (w.bus.generation + 1) (w.bus.hold id).keys).2
  have hhandled : (adopt (w.without k) k ((w.bus.hold id).subscribeNext id
      (w.bus.generation + 1) (w.bus.hold id).keys)).bus.handledTypes = w.bus.handledTypes :=
    (w.bus.hold id).handledTypes_subscribeNext id (w.bus.generation + 1) (w.bus.hold id).keys
  refine ⟨fun j id' t rest answer hin => ?_, ?_⟩
  · rcases mem_adopt.1 hin with hold | ⟨-, hnew⟩
    · -- the generation is a new one
      have hle := generation_le hx hw _ _ _ _ _ _ (mem_without.1 hold).1
      rw [hgeneration] at hle
      omega
    · obtain ⟨p, hwaiting, heq⟩ := Turn.underway?_eq_some_iff.1 hnew
      cases heq
      obtain ⟨t', rest', htypes, hp⟩ := Bus.progress_subscribeNext hwaiting
      simp only [Pending.subscribing.injEq] at hp
      obtain ⟨rfl, -, rfl, rfl⟩ := hp
      refine ⟨rfl, fun u hu => .inr ?_, nofun⟩
      rw [hhandled] at hu
      exact htypes ▸ Bus.mem_keys_hold.2 hu
  · rw [hhandled]
    have hkeys : ∀ {u}, u ∈ w.bus.handledTypes → u ∈ (w.bus.hold id).keys := Bus.mem_keys_hold.2
    generalize (w.bus.hold id).keys = ts at hkeys
    cases ts with
    | nil => exact .inl fun u hu => nomatch hkeys hu
    | cons t rest => exact .inr (by simp [adopt, Bus.subscribeNext, Bus.await, Bus.hold])

/-- A move under the session. -/
theorem step (h : Readying z y id since) (hheld : z.Throughout (Holds id) since)
    (hy : z.run since = some y) (hw : y.step m = some w) (hid : w.Holds id) :
    Readying z w id (since ++ [m]) := by
  have hnow : y.bus.session = some id := hheld.last hy
  have hgeneration : y.bus.generation = z.bus.generation :=
    (throughout_holds_iff (hheld [] since z rfl rfl) hy).1 hheld
  have hlater : ∀ {u}, Subscribed z y id u → Subscribed z w id u := fun hu => hu.step hy hw
  have hkept : ∀ {k id' t rest answer},
      (k, (⟨.subscribing id' z.bus.generation t rest, answer⟩ : Underway)) ∈ y.callers →
        id' = id ∧ (∀ u ∈ z.bus.handledTypes, Subscribed z w id u ∨ u ∈ t :: rest) ∧
          ∀ changed, answer = some (.ok changed) → Subscribed z w id t := by
    intro k id' t rest answer hin
    obtain ⟨hid', hrest, hout⟩ := h.follows k id' t rest answer hin
    exact ⟨hid', fun u hu => (hrest u hu).imp_left hlater, fun b hb => hlater (hout b hb)⟩
  refine ⟨fun j id' t rest answer hin => ?_, ?_⟩
  · cases happens_of_step hw with
    | drops | resumes | tidies => exact hkept hin
    | cancels k c hk => exact hkept (mem_without.1 hin).1
    | begins op =>
      rcases mem_adopt.1 hin with hin | ⟨-, hnew⟩
      · exact hkept hin
      · obtain ⟨p, hwaiting, heq⟩ := Turn.underway?_eq_some_iff.1 hnew
        cases heq
        exact absurd hwaiting Bus.not_subscribes_of_start
    | serves k reply p hk =>
      rcases mem_answered.1 hin with ⟨hin, -⟩ | ⟨rfl, heq⟩
      · exact hkept hin
      · cases heq
        obtain ⟨rfl, hrest, -⟩ := hkept (mem_of_underway? hk)
        refine ⟨rfl, hrest, fun changed hchanged => ?_⟩
        rw [Option.some.inj hchanged]
        exact subscribed_of_serve hy changed
    | delivers k p answer' hk =>
      rcases mem_adopt.1 hin with hin | ⟨-, hnew⟩
      · exact hkept (mem_without.1 hin).1
      · obtain ⟨p', hwaiting, heq⟩ := Turn.underway?_eq_some_iff.1 hnew
        cases heq
        rcases Bus.subscribes_of_resume hwaiting with ⟨hfree, -⟩ | ⟨u, changed, hp⟩
        · cases hnow.symm.trans hfree
        · rw [hp] at hk
          obtain ⟨rfl, hrest, hout⟩ := hkept (mem_of_underway? hk)
          refine ⟨rfl, fun v hv => ?_, nofun⟩
          rcases hrest v hv with hdone | hin
          · exact .inl hdone
          · rcases List.mem_cons.1 hin with rfl | hin
            · exact .inl (hout changed rfl)
            · exact .inr hin
  · rcases h.allowed with hall | hiff
    · exact .inl fun u hu => hlater (hall u hu)
    · cases happens_of_step hw with
      | begins op =>
        rw [show (adopt _ _ _).bus.polling = y.bus.polling from (Bus.keeps_of_start hid).2, hiff]
        exact .inr (by simp)
      | drops => cases (y.bus.session_dropSession).symm.trans hid
      | resumes => exact .inr (by simp [Bus.resumeSession, hnow])
      | tidies | serves | cancels => exact .inr (hiff.trans (by simp))
      | delivers k p answer hk =>
        rcases Bus.polling_resume hnow hid with hsame | ⟨id', t, changed, hp⟩
        · rw [show (adopt _ _ _).bus.polling = y.bus.polling from hsame, hiff]
          exact .inr (by simp)
        · rw [hp, hgeneration] at hk
          obtain ⟨-, hrest, hout⟩ := hkept (mem_of_underway? hk)
          refine .inl fun u hu => ?_
          rcases hrest u hu with hdone | hin
          · exact hdone
          · rw [List.mem_singleton.1 hin]
            exact hout changed rfl

/-- **However a session has fared since it was taken up.** -/
theorem of_stint (hx : x.callers = []) (h : x.run ms = some y) (hstint : x.Stint ms id z since) :
    Readying z y id since := by
  obtain ⟨before, m, w, -, hw, hfree, hz⟩ := hstint.takenUp
  refine run_induction (Q := fun since y => z.Throughout (Holds id) since →
    Readying z y id since) ?_ ?_ (hstint.run h) hstint.held
  · intro hheld
    exact start hx hw hfree hz (throughout_nil.1 hheld)
  · intro since y m w hy ih hw hheld
    obtain ⟨hheld, hid⟩ := (throughout_concat hy hw).1 hheld
    exact (ih hheld).step hheld hy hw hid

end Readying

/-- **When polls come before the subscriptions.**  In every run of a bus on which nothing was under
way, a poll can go out only under the session that is held; and while a type that had a handler
when that was taken up is not subscribed, it can go out exactly if the session was resumed since
then. -/
theorem polls_early_iff {fingerprint : Fingerprint} {keys : KeyOrder}
    (h : (Switchboard.new fingerprint keys).run ms = some y) (id : SessionId) :
    (y.Polls id → y.Holds id) ∧
      (y.Holds id → ∃ z since, (Switchboard.new fingerprint keys).Stint ms id z since ∧
        ∀ t ∈ z.bus.handledTypes, ¬ Subscribed z y id t → (y.Polls id ↔ .resume ∈ since)) := by
  refine ⟨fun ⟨m, y', k, hy', hcalled⟩ => (asks_held hy' hcalled).2, fun hid => ?_⟩
  obtain ⟨z, since, hstint⟩ := exists_stint rfl h hid
  refine ⟨z, since, hstint, fun t ht hmissing => (polls_iff hid).trans ?_⟩
  exact (Readying.of_stint rfl h hstint).allowed.resolve_left fun hall => hmissing (hall t ht)

namespace Sample

/-- A handler waits for a session, which is taken up: its type is about to be subscribed. -/
def unready : List Move := [.begin (.addHandler typeId "alice"), .begin .newSession,
  .serve 1 agrees, .deliver 1]

end Sample

/-- The session is taken up with the last of these moves. -/
theorem exists_unready : ∃ w z,
    (Switchboard.new .compiled .registered).run (Sample.unready.take 3) = some w ∧
    w.step (.deliver 1) = some z ∧ w.bus.session = none ∧ z.Holds Sample.session ∧
    z.bus.handledTypes = [Sample.typeId] ∧ z.bus.polling = false := by
  have hrun : ((Switchboard.new .compiled .registered).run (Sample.unready.take 3)).bind (fun w =>
      (w.step (.deliver 1)).map fun z =>
        (w.bus.session, z.bus.session, z.bus.handledTypes, z.bus.polling)) =
      some (none, some Sample.session, [Sample.typeId], false) := by
    decide
  obtain ⟨w, hw, hrun⟩ := Option.bind_eq_some_iff.1 hrun
  obtain ⟨z, hz, hseen⟩ := Option.map_eq_some_iff.1 hrun
  simp only [Prod.mk.injEq] at hseen
  obtain ⟨hfree, hheld, htypes, hpolling⟩ := hseen
  exact ⟨w, z, hw, hz, hfree, hheld, htypes, hpolling⟩

/-- Without being resumed the session is not polled yet. -/
theorem polls_early_iff_sample : ∃ y,
    (Switchboard.new .compiled .registered).run Sample.unready = some y ∧
    y.Holds Sample.session ∧ ∃ z since,
      (Switchboard.new .compiled .registered).Stint Sample.unready Sample.session z since ∧
        ∀ t ∈ z.bus.handledTypes, ¬ Subscribed z y Sample.session t →
          (y.Polls Sample.session ↔ .resume ∈ since) := by
  obtain ⟨w, y, hw, hy, -, hheld, -⟩ := exists_unready
  have hrun : (Switchboard.new .compiled .registered).run Sample.unready = some y :=
    run_concat hw hy
  exact ⟨y, hrun, hheld, (polls_early_iff hrun Sample.session).2 hheld⟩

/-- **A session that is resumed while its type is about to be subscribed can be polled at once.** -/
theorem polls_before_subscribing : ∃ y z,
    (Switchboard.new .compiled .registered).run (Sample.unready ++ [.resume]) = some y ∧
      (Switchboard.new .compiled .registered).Stint (Sample.unready ++ [.resume]) Sample.session z
        [.resume] ∧
      Sample.typeId ∈ z.bus.handledTypes ∧ ¬ Subscribed z y Sample.session Sample.typeId ∧
      y.Polls Sample.session := by
  obtain ⟨w, z, hw, hz, hfree, hheld, htypes, -⟩ := exists_unready
  have hsession : z.bus.session = some Sample.session := hheld
  have hresume : z.step .resume = some { z with bus := z.bus.resumeSession.1 } := rfl
  have hstart : z.run [] = some z := rfl
  have hnow : Holds Sample.session { z with bus := z.bus.resumeSession.1 } :=
    z.bus.session_resumeSession.trans hsession
  refine ⟨_, z, run_concat (run_concat hw hz) hresume, ⟨?_, ?_⟩, ?_, ?_, ?_⟩
  · exact ⟨Sample.unready.take 3, .deliver 1, w, rfl, hw, hfree, hz⟩
  · exact (throughout_concat hstart hresume).2 ⟨throughout_nil.2 hheld, hnow⟩
  · rw [htypes]
    exact List.mem_singleton.2 rfl
  · rintro ⟨k, hk⟩
    simp at hk
  · rw [polls_iff hnow]
    simp [Bus.resumeSession, hsession]

end Switchboard
end EventRelay

/-
# A poll depends on its own session alone

What a poll that goes on does, and what it is answered, goes by the log, the clock and the session
that it is for; how the other sessions stand makes no difference, and none of them is changed
(`Server.advancePoll_eq`).
-/

import EventRelay.Proofs.Server.PollStep

namespace EventRelay

namespace Registry

variable {r : Registry} {u : SourceId}

@[simp] theorem modify_id (r : Registry) (u : SourceId) : r.modify u (fun e => e) = r := by
  simp [modify]

/-- Two changes of one session are one. -/
theorem modify_modify {f : Entry → Entry} (hf : ∀ e, (f e).session.source = e.session.source)
    (g : Entry → Entry) : (r.modify u f).modify u g = r.modify u (fun e => g (f e)) := by
  simp only [modify, List.map_map]
  congr 1
  refine List.map_congr_left fun e _ => ?_
  simp only [Function.comp_apply]
  by_cases hu : e.session.source = u
  · rw [if_pos hu, if_pos hu, if_pos ((hf e).trans hu)]
  · rw [if_neg hu, if_neg hu, if_neg hu]

end Registry

namespace Server

variable {s : Server} {u : SourceId} {e : Entry} {k : Nat} {p : Poll}

/-- Whether a server does something to one session alone, and goes by how that one stands. -/
def ActsOn {α : Type} (s : Server) (u : SourceId) (e : Entry) (act : Server → Server × α) : Prop :=
  ∃ (f : Entry → Entry) (a : α), (∀ e, (f e).session.source = e.session.source) ∧
    ∀ r : Registry, r.entry? u = some e →
      act (s.withRegistry r) = (s.withRegistry (r.modify u f), a)

/-- What leaves the sessions as they are. -/
theorem actsOn_of_eq {α : Type} {act : Server → Server × α} {a : α}
    (h : ∀ r : Registry, r.entry? u = some e → act (s.withRegistry r) = (s.withRegistry r, a)) :
    s.ActsOn u e act :=
  ⟨fun e => e, a, fun _ => rfl, fun r hr => by rw [Registry.modify_id]; exact h r hr⟩

theorem actsOn_resync {α : Type} (s : Server) (u : SourceId) (e : Entry) (fault : Fault) (a : α) :
    s.ActsOn u e fun s => (s.resync u fault, a) := by
  cases fault with
  | overflow cursor last capacity =>
    exact ⟨fun e => { e with session := e.session.update s.log.cursor }, a, fun _ => rfl,
      fun _ _ => rfl⟩
  | invalidSession | connectionTimeout | deploymentMismatch | transient | remote | sessionActive
  | noActiveSession | invalidInput | config | serialization | request | internal =>
    exact actsOn_of_eq fun _ _ => rfl

theorem actsOn_finishWait (s : Server) (u : SourceId) (e : Entry) (last : Int) :
    s.ActsOn u e fun s => s.finishWait u last := by
  have hlog : ∀ r : Registry, (s.withRegistry r).log = s.log := fun _ => rfl
  simp only [finishWait]
  cases hdrain : s.log.drain (last + 1) with
  | error fault =>
    obtain ⟨f, a, hf, hact⟩ := actsOn_resync s u e fault (.error fault : Outcome Batch)
    exact ⟨f, a, hf, fun r hr => by simp only [hlog, hdrain]; exact hact r hr⟩
  | ok d =>
    cases hended : e.session.invalidated with
    | true =>
      exact actsOn_of_eq (a := .error .invalidSession) fun r hr => by
        simp only [hdrain, consume, withRegistry, hr, hended, if_true]
    | false =>
      let f : Entry → Entry := fun e => { e with session := e.session.update d.cursor }
      refine ⟨fun e => (f e).touch s.now, .ok (batchFor e.session d), fun _ => rfl, fun r hr => ?_⟩
      have hboth := Registry.modify_modify (r := r) (u := u) (f := f) (fun _ => rfl) (·.touch s.now)
      simp only [hdrain, consume, withRegistry, hr, hended]
      rw [if_neg Bool.false_ne_true, ← hboth]
      rfl

theorem actsOn_stepWaiting (s : Server) (u : SourceId) (e : Entry) (last : Int) (deadline : Nat)
    (w : Wait) : s.ActsOn u e fun s => s.stepWaiting u last deadline w := by
  have hnow : ∀ r : Registry, (s.withRegistry r).now = s.now := fun _ => rfl
  have hlog : ∀ r : Registry, (s.withRegistry r).log = s.log := fun _ => rfl
  simp only [stepWaiting]
  cases hw : w.advance s.now s.log.cursor with
  | none =>
    obtain ⟨f, a, hf, hact⟩ := actsOn_finishWait s u e last
    exact ⟨f, .inr a, hf, fun r hr => by simp only [hnow, hlog, hw, hact r hr]⟩
  | some w' =>
    by_cases htime : deadline ≤ s.now
    · exact actsOn_of_eq (a := .inr (.error .connectionTimeout)) fun r _ => by
        simp only [hnow, hlog, hw, if_pos htime]
    · exact actsOn_of_eq (a := .inl (.waiting last deadline w')) fun r _ => by
        simp only [hnow, hlog, hw, if_neg htime]

theorem actsOn_takeTurn (s : Server) (u : SourceId) (e : Entry) :
    s.ActsOn u e fun s => s.takeTurn u := by
  have hlog : ∀ r : Registry, (s.withRegistry r).log = s.log := fun _ => rfl
  have hentry : ∀ r : Registry, (s.withRegistry r).registry = r := fun _ => rfl
  simp only [takeTurn]
  cases hkeep : s.log.ensureRetained e.session.lastSequence with
  | error fault =>
    obtain ⟨f, a, hf, hact⟩ :=
      actsOn_resync s u e fault (.inr (.error fault) : PollPhase ⊕ Outcome Batch)
    exact ⟨f, a, hf, fun r hr => by simp only [hentry, hr, hlog, hkeep]; exact hact r hr⟩
  | ok =>
    obtain ⟨f, a, hf, hact⟩ := actsOn_stepWaiting s u e e.session.lastSequence
      (s.now + s.config.requestTimeout.nanos)
      (Wait.start s.now (e.session.lastSequence + 1) s.config.minWait s.config.maxWait)
    exact ⟨f, a, hf, fun r hr => by simp only [hentry, hr, hlog, hkeep]; exact hact r hr⟩

/-- A poll goes on: where it then stands, or its answer. -/
def goOn (s : Server) (k : Nat) (p : Poll) : Server × (PollPhase ⊕ Outcome Batch) :=
  match p.phase with
  | .queued => if s.registry.holds p.source k then s.takeTurn p.source else (s, .inl .queued)
  | .waiting last deadline w => s.stepWaiting p.source last deadline w

theorem advancePoll_of_goOn (hp : s.poll? k = some p) : s.advancePoll k =
    match s.goOn k p with
    | (s, .inl phase) => (s.setPhase k phase, none)
    | (s, .inr answer) => (s.dropPoll k, some answer) := by
  simp only [advancePoll, hp]
  rcases hgo : s.goOn k p with ⟨s', phase | answer⟩ <;>
    cases hphase : p.phase <;> simp only [goOn, hphase] at hgo <;> simp only [hgo]

theorem actsOn_goOn (s : Server) (k : Nat) (p : Poll) (e : Entry) :
    s.ActsOn p.source e fun s => s.goOn k p := by
  have hentry : ∀ r : Registry, (s.withRegistry r).registry = r := fun _ => rfl
  simp only [goOn]
  cases hphase : p.phase with
  | waiting last deadline w => exact actsOn_stepWaiting s p.source e last deadline w
  | queued =>
    have hholds : ∀ r : Registry, r.entry? p.source = some e →
        r.holds p.source k = e.holds k := fun r hr => by simp [Registry.holds, hr]
    cases hturn : e.holds k with
    | true =>
      obtain ⟨f, a, hf, hact⟩ := actsOn_takeTurn s p.source e
      exact ⟨f, a, hf, fun r hr => by
        simp only [hentry, hholds r hr, hturn, if_true]
        exact hact r hr⟩
    | false =>
      exact actsOn_of_eq (a := .inl .queued) fun r hr => by
        simp only [hentry, hholds r hr, hturn]
        rfl

/-- **A poll depends on its own session alone.** -/
theorem advancePoll_eq (hp : s.poll? k = some p) (e : Entry) :
    ∃ (f : Entry → Entry) (polls : List (Nat × Poll)) (answer : Option (Outcome Batch)),
      (∀ e, (f e).session.source = e.session.source) ∧
      ∀ r : Registry, r.entry? p.source = some e → (s.withRegistry r).advancePoll k =
        ({ s with polls, registry := r.modify p.source f }, answer) := by
  have hpoll : ∀ r : Registry, (s.withRegistry r).poll? k = some p := fun _ => hp
  obtain ⟨f, a, hf, hact⟩ := actsOn_goOn s k p e
  cases a with
  | inl phase =>
    refine ⟨f, (s.setPhase k phase).polls, none, hf, fun r hr => ?_⟩
    have hgo : (s.withRegistry r).goOn k p = _ := hact r hr
    rw [advancePoll_of_goOn (hpoll r), hgo]
    rfl
  | inr answer =>
    refine ⟨fun e => { f e with queue := (f e).queue.filter (· ≠ k) },
      s.polls.filter (fun q => q.1 ≠ k), some answer, hf, fun r hr => ?_⟩
    have hgo : (s.withRegistry r).goOn k p = _ := hact r hr
    rw [advancePoll_of_goOn (hpoll r), hgo]
    simp only [dropPoll_withRegistry hp, Registry.release, Registry.modify_modify hf]

end Server
end EventRelay

/-
# What a move does at a switchboard

A session has been held without a break exactly while the generation has stayed
(`Switchboard.throughout_holds_iff`), and one that is held was taken up at some move of the run and
has been held ever since (`Switchboard.exists_stint`).  What the start of a run has and each move
keeps holds of the whole run (`Switchboard.run_induction`).
-/

import EventRelay.Proofs.Switchboard.Turns
import EventRelay.Proofs.Tickets
import Mathlib.Data.List.Induction

namespace EventRelay
namespace Switchboard

variable {x x' y z : Switchboard} {m : Move} {ms ms' : List Move} {k j : Nat} {c d : Underway}
  {id : SessionId} {P : Switchboard → Prop}

/-! ### Operations that are under way -/

theorem mem_of_underway? (hk : x.underway? k = some c) : (k, c) ∈ x.callers :=
  Tickets.mem_of_lookup hk

theorem mem_without : (j, d) ∈ (x.without k).callers ↔ (j, d) ∈ x.callers ∧ j ≠ k :=
  Tickets.mem_without

theorem mem_adopt {t : Turn} :
    (j, d) ∈ (x.adopt k t).callers ↔ (j, d) ∈ x.callers ∨ j = k ∧ t.underway? = some d := by
  cases h : t.underway? <;> simp [adopt, h, Prod.ext_iff, eq_comm]

theorem mem_answered {p : Pending} {answer : p.call.Answer} :
    (j, d) ∈ (x.answered k p answer).callers ↔
      (j, d) ∈ x.callers ∧ j ≠ k ∨ j = k ∧ d = ⟨p, some answer⟩ := by
  rw [answered, List.mem_append, mem_without, List.mem_singleton, Prod.mk.injEq]

/-- Everything that can happen next. -/
inductive Happens (x : Switchboard) : Move → Switchboard → Prop where
  | begins (op : Operation) :
    Happens x (.begin op) ({ x with ticket := x.ticket + 1 }.adopt x.ticket (x.bus.start op))
  | drops : Happens x .drop { x with bus := x.bus.dropSession.1 }
  | resumes : Happens x .resume { x with bus := x.bus.resumeSession.1 }
  | tidies (enabled : Bool) :
    Happens x (.tidy enabled) { x with bus := x.bus.setAutoUnsubscribe enabled }
  | serves (k : Nat) (reply : (c : Call) → c.Answer) (p : Pending)
      (hk : x.underway? k = some ⟨p, none⟩) :
    Happens x (.serve k reply) (x.answered k p (reply p.call))
  | delivers (k : Nat) (p : Pending) (answer : p.call.Answer)
      (hk : x.underway? k = some ⟨p, some answer⟩) :
    Happens x (.deliver k) ((x.without k).adopt k (x.bus.resume p answer))
  | cancels (k : Nat) (c : Underway) (hk : x.underway? k = some c) :
    Happens x (.cancel k) (x.without k)

/-- **The list is complete.** -/
theorem happens_of_step (h : x.step m = some x') : x.Happens m x' := by
  cases m with
  | begin op =>
    cases h
    exact .begins op
  | drop =>
    cases h
    exact .drops
  | resume =>
    cases h
    exact .resumes
  | tidy enabled =>
    cases h
    exact .tidies enabled
  | serve k reply =>
    simp only [step] at h
    split at h
    · rename_i p hk
      cases h
      exact .serves k reply p hk
    · cases h
    · cases h
  | deliver k =>
    simp only [step] at h
    split at h
    · rename_i p answer hk
      cases h
      exact .delivers k p answer hk
    · cases h
    · cases h
  | cancel k =>
    obtain ⟨c, hk, rfl⟩ := Option.map_eq_some_iff.1 h
    exact .cancels k c hk

/-- What a move does to the session. -/
theorem shifts_step (h : x.step m = some x') : x.bus.Shifts x'.bus := by
  cases happens_of_step h with
  | begins op => exact x.bus.shifts_start op
  | drops => exact x.bus.shifts_dropSession
  | resumes => exact x.bus.shifts_resumeSession
  | tidies | serves | cancels => exact .keeps rfl rfl
  | delivers k p answer hk => exact x.bus.shifts_resume p answer

/-- A move adds to the notes. -/
theorem notes_step (h : x.step m = some x') : ∃ new, x'.notes = x.notes ++ new := by
  cases happens_of_step h with
  | begins | serves | delivers => exact ⟨_, rfl⟩
  | drops | resumes | tidies | cancels => exact ⟨[], (List.append_nil _).symm⟩

/-! ### Runs -/

theorem run_append (x : Switchboard) (ms ms' : List Move) :
    x.run (ms ++ ms') = (x.run ms).bind fun y => y.run ms' := by
  induction ms generalizing x with
  | nil => rfl
  | cons m ms ih =>
    rw [List.cons_append, run, run, Option.bind_assoc]
    exact Option.bind_congr fun y _ => ih y

/-- A run and one move more. -/
theorem run_concat_iff :
    x.run (ms ++ [m]) = some z ↔ ∃ y, x.run ms = some y ∧ y.step m = some z := by
  have hone : ∀ y : Switchboard, y.run [m] = y.step m := fun y => Option.bind_fun_some _
  rw [run_append, Option.bind_eq_some_iff]
  simp only [hone]

theorem run_concat (hy : x.run ms = some y) (hz : y.step m = some z) :
    x.run (ms ++ [m]) = some z :=
  run_concat_iff.2 ⟨y, hy, hz⟩

/-- **What the start of a run has and each move keeps holds of the whole run.** -/
theorem run_induction {Q : List Move → Switchboard → Prop} (hnil : Q [] x)
    (hstep : ∀ {ms y m z}, x.run ms = some y → Q ms y → y.step m = some z → Q (ms ++ [m]) z)
    (h : x.run ms = some y) : Q ms y := by
  induction ms using List.reverseRecOn generalizing y with
  | nil =>
    cases h
    exact hnil
  | append_singleton ms m ih =>
    obtain ⟨w, hw, hy⟩ := run_concat_iff.1 h
    exact hstep hw (ih hw) hy

theorem notes_run (h : x.run ms = some y) : ∃ new, y.notes = x.notes ++ new := by
  refine run_induction (Q := fun _ y => ∃ new, y.notes = x.notes ++ new) ?_ ?_ h
  · exact ⟨[], (List.append_nil _).symm⟩
  · rintro ms y m z - ⟨new, hnew⟩ hz
    obtain ⟨more, hmore⟩ := notes_step hz
    exact ⟨new ++ more, by rw [hmore, hnew, List.append_assoc]⟩

/-- Whether something holds at every instant of a run. -/
def Throughout (x : Switchboard) (P : Switchboard → Prop) (ms : List Move) : Prop :=
  ∀ front back y, ms = front ++ back → x.run front = some y → P y

theorem throughout_nil : x.Throughout P [] ↔ P x := by
  constructor
  · intro h
    exact h [] [] x rfl rfl
  · intro hx front back y heq hy
    rw [(List.append_eq_nil_iff.1 heq.symm).1] at hy
    cases hy
    exact hx

theorem throughout_concat (hy : x.run ms = some y) (hz : y.step m = some z) :
    x.Throughout P (ms ++ [m]) ↔ x.Throughout P ms ∧ P z := by
  constructor
  · intro h
    refine ⟨fun front back w heq hw => ?_, h (ms ++ [m]) [] z (by simp) (run_concat hy hz)⟩
    exact h front (back ++ [m]) w (by rw [heq, List.append_assoc]) hw
  · rintro ⟨h, hPz⟩ front back w heq hw
    rcases List.eq_nil_or_concat back with rfl | ⟨back, m', rfl⟩
    · rw [List.append_nil] at heq
      rw [← heq, run_concat hy hz] at hw
      cases hw
      exact hPz
    · rw [List.concat_eq_append, ← List.append_assoc] at heq
      exact h front back w (List.append_inj' heq rfl).1 hw

theorem Throughout.last (h : x.Throughout P ms) (hy : x.run ms = some y) : P y :=
  h ms [] y (List.append_nil _).symm hy

/-! ### The session that is held -/

/-- Whether a session is the one that the bus holds. -/
def Holds (id : SessionId) (x : Switchboard) : Prop := x.bus.session = some id

/-- **A session has been held without a break exactly while the generation has stayed**, even if
it was given up and taken up again in between. -/
theorem throughout_holds_iff (hid : x.Holds id) (h : x.run ms = some y) :
    x.Throughout (Holds id) ms ↔ y.bus.generation = x.bus.generation := by
  have hboth : x.bus.generation ≤ y.bus.generation ∧
      (x.Throughout (Holds id) ms ↔ y.bus.generation = x.bus.generation) := by
    refine run_induction (Q := fun ms y => x.bus.generation ≤ y.bus.generation ∧
      (x.Throughout (Holds id) ms ↔ y.bus.generation = x.bus.generation)) ?_ ?_ h
    · exact ⟨Nat.le_refl _, by simpa [throughout_nil] using hid⟩
    · rintro ms y m z hy ⟨hle, hiff⟩ hz
      rw [throughout_concat hy hz, hiff]
      cases shifts_step hz with
      | keeps hsession hgeneration =>
        have hkept : y.bus.generation = x.bus.generation → z.Holds id := fun heq =>
          hsession.trans ((hiff.2 heq).last hy)
        rw [hgeneration]
        exact ⟨hle, and_iff_left_of_imp hkept⟩
      | takesUp id' hfree hheld hgeneration =>
        refine ⟨by omega, fun ⟨heq, _⟩ => ?_, fun heq => by omega⟩
        have hheld : y.bus.session = some id := (hiff.2 heq).last hy
        rw [hfree] at hheld
        cases hheld
      | givesUp id' hheld hfree hgeneration =>
        refine ⟨by omega, fun ⟨_, hz⟩ => ?_, fun heq => by omega⟩
        cases hfree.symm.trans hz
  exact hboth.2

/-- How a session came to be held: the run took it up in `z`, when none was held, and in the
moves `since` it was never given up. -/
structure Stint (x : Switchboard) (ms : List Move) (id : SessionId) (z : Switchboard)
    (since : List Move) : Prop where
  takenUp : ∃ before m w, ms = before ++ m :: since ∧ x.run before = some w ∧
    w.bus.session = none ∧ w.step m = some z
  held : z.Throughout (Holds id) since

theorem Stint.run (h : x.Stint ms id z ms') (hy : x.run ms = some y) : z.run ms' = some y := by
  obtain ⟨before, m, w, rfl, hw, -, hz⟩ := h.takenUp
  rw [run_append, hw, Option.bind_some, Switchboard.run, hz, Option.bind_some] at hy
  exact hy

theorem Stint.holds (h : x.Stint ms id z ms') : z.Holds id :=
  h.held [] ms' z rfl rfl

/-- **A session that is held was taken up once and held ever since.** -/
theorem exists_stint (hnone : x.bus.session = none) (h : x.run ms = some y) (hid : y.Holds id) :
    ∃ z since, x.Stint ms id z since := by
  refine run_induction (Q := fun ms y => ∀ id, y.Holds id → ∃ z since, x.Stint ms id z since)
    ?_ ?_ h id hid
  · intro id hid
    cases hnone.symm.trans hid
  · intro ms y m z hy ih hz id hid
    cases shifts_step hz with
    | keeps hsession hgeneration =>
      obtain ⟨z₀, since, hstint⟩ := ih id (hsession.symm.trans hid)
      obtain ⟨before, m₀, w, heq, hw, hfree, hz₀⟩ := hstint.takenUp
      refine ⟨z₀, since ++ [m], ⟨before, m₀, w, by simp [heq], hw, hfree, hz₀⟩, ?_⟩
      exact (throughout_concat (hstint.run hy) hz).2 ⟨hstint.held, hid⟩
    | takesUp id' hfree hheld hgeneration =>
      exact ⟨z, [], ⟨ms, m, y, rfl, hy, hfree, hz⟩, throughout_nil.2 hid⟩
    | givesUp id' hheld hfree hgeneration => cases hfree.symm.trans hid

/-- **A session is taken up by an operation that hears of its grant.** -/
theorem hears_of_step (hfree : y.bus.session = none) (hz : y.step m = some z) (hid : z.Holds id) :
    ∃ k, m = .deliver k ∧ y.underway? k = some ⟨.opening, some (.ok id)⟩ := by
  cases happens_of_step hz with
  | begins op => cases hfree.symm.trans (Bus.keeps_of_start hid).1
  | drops => cases (y.bus.session_dropSession).symm.trans hid
  | resumes => cases hfree.symm.trans (y.bus.session_resumeSession.symm.trans hid)
  | tidies | serves | cancels => cases hfree.symm.trans hid
  | delivers k p answer hk =>
    rw [Bus.takesUp_of_resume hfree hid] at hk
    exact ⟨k, rfl, hk⟩

/-- **How a session is taken up.** -/
theorem takesUp_of_step (hfree : y.bus.session = none) (hz : y.step m = some z)
    (hid : z.Holds id) : ∃ k, z = (y.without k).adopt k
      ((y.bus.hold id).subscribeNext id (y.bus.generation + 1) (y.bus.hold id).keys) := by
  obtain ⟨k, rfl, hk⟩ := hears_of_step hfree hz hid
  cases happens_of_step hz with
  | delivers _ p answer hk' =>
    cases hk.symm.trans hk'
    exact ⟨k, by rw [Bus.resume_opening hfree]⟩

/-! ### Tickets -/

/-- Whether no two operations under way have one ticket, and the next one is nobody's. -/
structure Ticketed (x : Switchboard) : Prop where
  once : (x.callers.map Prod.fst).Nodup
  issued : ∀ q ∈ x.callers, q.1 < x.ticket

namespace Ticketed

theorem new (fingerprint : Fingerprint) (keys : KeyOrder) :
    (Switchboard.new fingerprint keys).Ticketed :=
  ⟨List.nodup_nil, by simp [Switchboard.new]⟩

theorem underway?_of_mem (h : x.Ticketed) (hk : (k, c) ∈ x.callers) : x.underway? k = some c := by
  cases hlookup : x.underway? k with
  | none => exact absurd (List.mem_map_of_mem hk) (Tickets.not_mem_of_lookup hlookup)
  | some d => rw [Tickets.unique h.once (Tickets.mem_of_lookup hlookup) hk]

theorem without (h : x.Ticketed) (k : Nat) : (x.without k).Ticketed := by
  refine ⟨?_, fun q hq => h.issued q (mem_without.1 hq).1⟩
  rw [Switchboard.without, Tickets.map_fst_without]
  exact h.once.filter _

/-- An operation takes its place. -/
theorem place (h : x.Ticketed) (hfree : k ∉ x.callers.map Prod.fst) (c : Underway) :
    ((x.callers ++ [(k, c)]).map Prod.fst).Nodup := by
  rw [List.map_append]
  exact List.concat_eq_append ▸ h.once.concat hfree

theorem not_mem_without (x : Switchboard) (k : Nat) : k ∉ (x.without k).callers.map Prod.fst := by
  rw [Switchboard.without, Tickets.map_fst_without]
  simp

theorem adopt (h : x.Ticketed) (hfree : k ∉ x.callers.map Prod.fst) (hk : k < x.ticket)
    (t : Turn) : (x.adopt k t).Ticketed := by
  refine ⟨?_, fun ⟨j, d⟩ hq => ?_⟩
  · cases hc : t.underway? with
    | none => simpa [Switchboard.adopt, hc] using h.once
    | some c => simpa [Switchboard.adopt, hc] using h.place hfree c
  · rcases mem_adopt.1 hq with hold | ⟨rfl, -⟩
    · exact h.issued _ hold
    · exact hk

theorem step (h : x.Ticketed) (hx : x.step m = some x') : x'.Ticketed := by
  cases happens_of_step hx with
  | begins op =>
    have hnext : Ticketed { x with ticket := x.ticket + 1 } :=
      ⟨h.once, fun q hq => Nat.lt_succ_of_lt (h.issued q hq)⟩
    refine hnext.adopt (fun hin => ?_) (Nat.lt_succ_self _) _
    obtain ⟨q, hq, heq⟩ := List.mem_map.1 hin
    exact absurd (h.issued q hq) (by omega)
  | drops | resumes | tidies => exact ⟨h.once, h.issued⟩
  | serves k reply p hk =>
    have hissued : k < x.ticket := h.issued _ (mem_of_underway? hk)
    refine ⟨(h.without k).place (not_mem_without x k) _, fun ⟨j, d⟩ hq => ?_⟩
    rcases mem_answered.1 hq with ⟨hold, -⟩ | ⟨rfl, -⟩
    · exact h.issued _ hold
    · exact hissued
  | delivers k p answer hk =>
    exact (h.without k).adopt (not_mem_without x k) (h.issued _ (mem_of_underway? hk)) _
  | cancels k c hk => exact h.without k

theorem run (h : x.Ticketed) (hy : x.run ms = some y) : y.Ticketed :=
  run_induction (Q := fun _ y => y.Ticketed) h (fun _ h hz => h.step hz) hy

end Ticketed

/-! ### A service that answers at once -/

namespace Sample

def session : SessionId := ⟨⟨1, by decide⟩, ⟨⟨7, by decide⟩⟩⟩

def typeId : TypeId := ⟨"tick", by decide⟩

def event : Event where
  sequence := 0
  eventId := ⟨0, by decide⟩
  typeId := typeId
  occurredAt := .ofUnixNanos 0
  payload := .null

/-- Every call succeeds: a session is granted, and a poll gets one event. -/
def answers (id : SessionId) : (c : Call) → c.Answer
  | .openSession _ => .ok id
  | .closeSession _ => .ok ()
  | .subscribe _ _ => .ok true
  | .unsubscribe _ _ => .ok true
  | .poll _ => .ok ⟨[event], 0⟩
  | .publish _ _ => .ok (0 : Int)
  | .probe _ => .ok ()

/-- Every call succeeds, and the session that is granted is always the same one. -/
def agrees : (c : Call) → c.Answer := answers session

/-- Every call fails. -/
def refuses (c : Call) : c.Answer := .error (.transient "refused")

/-- The operation of a ticket goes on with an answer. -/
def goes (ticket : Nat) : List Move := [.serve ticket agrees, .deliver ticket]

/-- A handler is added, by the operation of `ticket`, to a bus that holds a session. -/
def handles (ticket : Nat) : List Move := .begin (.addHandler typeId "alice") :: goes ticket

/-- A session is opened that has nothing to subscribe. -/
def opens (ticket : Nat) : List Move := .begin .newSession :: goes ticket

end Sample

end Switchboard
end EventRelay

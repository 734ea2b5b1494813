/-
# The moves of a run

A run goes through states, from one to the next by a move (`Traffic.Goes`).  `Traffic.notes_step`
says of one move what it notes: the answers that it gives, the turn that a poll gets in it, and
which request is given up.  So whatever the notes of a run say of these goes back to one of its
moves, and to the instant of that move (`Traffic.answered_iff`, `Traffic.turned_iff`).
-/

import EventRelay.Proofs.Server.Finality
import Mathlib.Data.List.Induction

namespace EventRelay
namespace Traffic

variable {t₀ t t' t₁ t₂ : Traffic} {ms ms' : List Move} {m m' : Move} {j k : Nat} {p : Pause}
  {a : Outcome Served}

/-! ### Runs -/

theorem run_append (t : Traffic) (ms ms' : List Move) :
    t.run (ms ++ ms') = (t.run ms).bind fun t' => t'.run ms' := by
  induction ms generalizing t with
  | nil => rfl
  | cons m ms ih =>
    rw [List.cons_append, run, run, Option.bind_assoc]
    exact Option.bind_congr fun t' _ => ih t'

/-- A run and one move more. -/
theorem run_concat_iff :
    t₀.run (ms ++ [m]) = some t' ↔ ∃ t, t₀.run ms = some t ∧ t.step m = some t' := by
  have hone : ∀ t : Traffic, t.run [m] = t.step m := fun t => Option.bind_fun_some _
  rw [run_append, Option.bind_eq_some_iff]
  simp only [hone]

/-- Whether a run goes from one state to the next by a move. -/
def Goes (t₀ : Traffic) (ms : List Move) (t : Traffic) (m : Move) (t' : Traffic) : Prop :=
  ∃ before after, ms = before ++ m :: after ∧ t₀.run before = some t ∧ t.step m = some t'

/-- The moves of a run and one move more. -/
theorem goes_concat (hrun : t₀.run ms = some t) (ht : t.step m = some t') :
    t₀.Goes (ms ++ [m]) t₁ m' t₂ ↔ t₀.Goes ms t₁ m' t₂ ∨ t₁ = t ∧ m' = m ∧ t₂ = t' := by
  constructor
  · rintro ⟨before, after, heq, hbefore, hstep⟩
    rcases List.eq_nil_or_concat after with rfl | ⟨after, m₁, rfl⟩
    · obtain ⟨rfl, hlast⟩ := List.append_inj' heq rfl
      cases hlast
      cases hrun.symm.trans hbefore
      cases ht.symm.trans hstep
      exact .inr ⟨rfl, rfl, rfl⟩
    · rw [List.concat_eq_append, ← List.cons_append, ← List.append_assoc] at heq
      exact .inl ⟨before, after, (List.append_inj' heq rfl).1, hbefore, hstep⟩
  · rintro (⟨before, after, rfl, hbefore, hstep⟩ | ⟨rfl, rfl, rfl⟩)
    · exact ⟨before, after ++ [m], by simp, hbefore, hstep⟩
    · exact ⟨ms, [], rfl, hrun, ht⟩

theorem Goes.sound (hg : t₀.Goes ms t m t') (hs : t₀.Sound) : t.Sound := by
  obtain ⟨before, after, -, hbefore, -⟩ := hg
  exact hs.run hbefore

theorem Goes.step (hg : t₀.Goes ms t m t') : t.step m = some t' := by
  obtain ⟨before, after, -, -, hstep⟩ := hg
  exact hstep

/-- What the start of a run has and each of its moves keeps. -/
theorem run_induction_concat {Q : List Move → Traffic → Prop} (hnil : Q [] t₀)
    (hstep : ∀ {ms t m t'}, t₀.run ms = some t → Q ms t → t.step m = some t' → Q (ms ++ [m]) t')
    (hrun : t₀.run ms = some t) : Q ms t := by
  induction ms using List.reverseRecOn generalizing t with
  | nil =>
    cases hrun
    exact hnil
  | append_singleton ms m ih =>
    obtain ⟨t₁, hbefore, hlast⟩ := run_concat_iff.1 hrun
    exact hstep hbefore (ih hbefore) hlast

/-- Whether every move of a run is as it should be in the state in which it comes. -/
def Throughout (P : Traffic → Move → Prop) : Traffic → List Move → Prop
  | _, [] => True
  | t, m :: ms => P t m ∧ ∀ t', t.step m = some t' → Throughout P t' ms

theorem throughout_concat {P : Traffic → Move → Prop} (hrun : t₀.run ms = some t) :
    Throughout P t₀ (ms ++ [m]) ↔ Throughout P t₀ ms ∧ P t m := by
  induction ms generalizing t₀ with
  | nil =>
    cases hrun
    exact ⟨fun h => ⟨trivial, h.1⟩, fun h => ⟨h.2, fun _ _ => trivial⟩⟩
  | cons m₁ ms ih =>
    obtain ⟨t₁, hfirst, hrest⟩ := Option.bind_eq_some_iff.1 hrun
    constructor
    · rintro ⟨hm₁, hlater⟩
      obtain ⟨hms, hm⟩ := (ih hrest).1 (hlater t₁ hfirst)
      refine ⟨⟨hm₁, fun t' ht' => ?_⟩, hm⟩
      cases hfirst.symm.trans ht'
      exact hms
    · rintro ⟨⟨hm₁, hlater⟩, hm⟩
      refine ⟨hm₁, fun t' ht' => ?_⟩
      cases hfirst.symm.trans ht'
      exact (ih hrest).2 ⟨hlater t₁ hfirst, hm⟩

instance decidableThroughout {P : Traffic → Move → Prop} [∀ t m, Decidable (P t m)] :
    (t : Traffic) → (ms : List Move) → Decidable (Throughout P t ms)
  | _, [] => .isTrue trivial
  | t, m :: ms =>
    match h : t.step m with
    | none => decidable_of_iff (P t m)
      ⟨fun hm => ⟨hm, fun _ ht' => nomatch h.symm.trans ht'⟩, And.left⟩
    | some t₁ =>
      have : Decidable (Throughout P t₁ ms) := decidableThroughout t₁ ms
      decidable_of_iff (P t m ∧ Throughout P t₁ ms)
        ⟨fun hm => ⟨hm.1, fun _ ht' => Option.some.inj (h.symm.trans ht') ▸ hm.2⟩,
          fun hm => ⟨hm.1, hm.2 t₁ h⟩⟩

/-! ### Who is answered -/

/-- A request that has stopped is not among the polls. -/
theorem Sound.poll_eq_none (h : t.Sound) (hp : t.paused.lookup k = some p) :
    t.server.poll? k = none := by
  have hmem := List.mem_map_of_mem (f := Prod.fst) (Tickets.mem_of_lookup hp)
  cases hq : t.server.poll? k with
  | none => rfl
  | some q =>
    have hpoll := List.mem_map_of_mem (f := Prod.fst) (Server.mem_polls_of_poll? hq)
    exact absurd rfl ((List.nodup_append.1 h.tickets).2.2 _ hmem _ hpoll)

theorem Sound.paused_eq_none (h : t.Sound) {q : Poll} (hq : t.server.poll? k = some q) :
    t.paused.lookup k = none := by
  cases hp : t.paused.lookup k with
  | none => rfl
  | some p =>
    rw [h.poll_eq_none hp] at hq
    cases hq

/-- Only the request that arrives or goes on is answered. -/
theorem Answers.who (ha : t.Answers m k a) : (∃ r, m = .arrive r ∧ k = t.ticket) ∨ m = .resume k := by
  cases ha with
  | atOnce r => exact .inl ⟨r, rfl, rfl⟩
  | goesOn | polls => exact .inr rfl

/-- In other moves nobody is answered. -/
theorem not_answers (harrive : ∀ r, m ≠ .arrive r) (hresume : ∀ j, m ≠ .resume j) :
    ¬ t.Answers m k a := by
  intro ha
  rcases ha.who with ⟨r, hr, -⟩ | hk
  · exact harrive r hr
  · exact hresume k hk

theorem answers_arrive_iff {r : Server.Request} :
    t.Answers (.arrive r) k a ↔ k = t.ticket ∧ t.server.receive r = .answered a := by
  constructor
  · intro ha
    cases ha with
    | atOnce _ _ hst => exact ⟨rfl, hst⟩
  · rintro ⟨rfl, hst⟩
    exact .atOnce r a hst

theorem answers_iff_of_paused (h : t.Sound) (hp : t.paused.lookup k = some p) :
    t.Answers (.resume k) j a ↔ j = k ∧ (t.server.proceed k p).2 = .answered a := by
  constructor
  · intro ha
    cases ha with
    | goesOn _ p' _ hp' hst =>
      cases hp.symm.trans hp'
      exact ⟨rfl, hst⟩
    | polls _ q b hq => cases (h.poll_eq_none hp).symm.trans hq
  · rintro ⟨rfl, hst⟩
    exact .goesOn j p a hp hst

theorem answers_iff_of_poll (h : t.Sound) {q : Poll} (hq : t.server.poll? k = some q) :
    t.Answers (.resume k) j a ↔
      j = k ∧ ∃ b, (t.server.advancePoll k).2 = some b ∧ a = b.map .batch := by
  constructor
  · intro ha
    cases ha with
    | goesOn _ p _ hp => cases (h.paused_eq_none hq).symm.trans hp
    | polls _ q' b _ hb => exact ⟨rfl, b, hb, rfl⟩
  · rintro ⟨rfl, b, hb, rfl⟩
    exact .polls j q b hq hb

/-! ### What a move notes -/

/-- Whether the poll of a ticket gets the turn when it goes on, and finds its session so. -/
def TakesTurn (t : Traffic) (k : Nat) (session : Session) : Prop :=
  ∃ p e, t.server.poll? k = some p ∧ t.server.registry.entry? p.source = some e ∧
    e.session = session ∧ p.phase = .queued ∧ e.holds k = true

/-- What a move notes of the answers that it gives, of turns and of requests that are given up. -/
structure Adds (t : Traffic) (m : Move) (t' : Traffic) (ns : List Note) : Prop where
  notes : t'.notes = t.notes ++ ns.map fun n => (t.server.now, n)
  answered : ∀ k a, .answered k a ∈ ns ↔ t.Answers m k a
  turned : ∀ k session, .turned k session ∈ ns ↔ m = .resume k ∧ t.TakesTurn k session
  aborted : ∀ k, .aborted k ∈ ns ↔ m = .abort k

/-- What there is to note of a request that stands somewhere. -/
def settleNotes (t : Traffic) (k : Nat) : Standing → List Note
  | .paused p => t.stopNotes k p
  | .inLine => []
  | .answered answer => [.answered k answer]

theorem notes_settle (t : Traffic) (k : Nat) (st : Standing) :
    (t.settle k st).notes = t.notes ++ (t.settleNotes k st).map fun n => (t.server.now, n) := by
  cases st with
  | paused p => cases p <;> rfl
  | inLine => exact (List.append_nil _).symm
  | answered answer => rfl

theorem answered_mem_settleNotes {st : Standing} :
    .answered j a ∈ t.settleNotes k st ↔ j = k ∧ st = .answered a := by
  cases st with
  | paused p => cases p <;> simp [settleNotes, stopNotes]
  | inLine => simp [settleNotes]
  | answered answer => simp [settleNotes, eq_comm]

theorem turned_not_mem_settleNotes {st : Standing} {session : Session} :
    .turned j session ∉ t.settleNotes k st := by
  cases st with
  | paused p => cases p <;> simp [settleNotes, stopNotes]
  | inLine | answered => simp [settleNotes]

theorem aborted_not_mem_settleNotes {st : Standing} :
    .aborted j ∉ t.settleNotes k st := by
  cases st with
  | paused p => cases p <;> simp [settleNotes, stopNotes]
  | inLine | answered => simp [settleNotes]

/-- What is noted of a poll that goes on. -/
theorem mem_pollNotes_iff {s : Server} {q : Poll} {e : Entry}
    (he : s.registry.entry? q.source = some e) {answer : Option (Outcome Batch)} {n : Note} :
    n ∈ pollNotes s k q answer ↔
      n = .turned k e.session ∧ q.phase = .queued ∧ e.holds k = true ∨
      ∃ b, answer = some b ∧ (n = .polled k e.session b ∨ n = .answered k (b.map .batch)) := by
  rw [pollNotes_eq he, turnNote, List.mem_append]
  refine or_congr ?_ ?_
  · split <;> simp_all
  · cases answer <;> simp

/-- A poll goes on. -/
theorem adds_polls (h : t.Sound) {q : Poll} (hq : t.server.poll? k = some q) :
    t.Adds (.resume k) ({ t with server := (t.server.advancePoll k).1 }.note
      (pollNotes t.server k q (t.server.advancePoll k).2))
      (pollNotes t.server k q (t.server.advancePoll k).2) := by
  obtain ⟨e, he⟩ := h.orderly.entry_of_poll hq
  have hnow := (h.orderly.pollStep h.ring hq he).steady.now
  refine ⟨?_, fun j a => ?_, fun j session => ?_, fun j => ?_⟩
  · rw [note, hnow]
  · rw [mem_pollNotes_iff he, answers_iff_of_poll h hq]
    constructor
    · rintro (⟨hturn, -⟩ | ⟨b, hb, hend | hend⟩)
      · cases hturn
      · cases hend
      · cases hend
        exact ⟨rfl, b, hb, rfl⟩
    · rintro ⟨rfl, b, hb, rfl⟩
      exact .inr ⟨b, hb, .inr rfl⟩
  · rw [mem_pollNotes_iff he]
    constructor
    · rintro (⟨hturn, hphase, hholds⟩ | ⟨b, -, hend | hend⟩)
      · cases hturn
        exact ⟨rfl, q, e, hq, he, rfl, hphase, hholds⟩
      · cases hend
      · cases hend
    · rintro ⟨heq, q', e', hq', he', rfl, hphase, hholds⟩
      cases heq
      cases hq.symm.trans hq'
      cases he.symm.trans he'
      exact .inl ⟨rfl, hphase, hholds⟩
  · rw [mem_pollNotes_iff he]
    refine iff_of_false ?_ (by simp)
    rintro (⟨hturn, -⟩ | ⟨b, -, hend | hend⟩)
    · cases hturn
    · cases hend
    · cases hend

/-- **What one move notes.** -/
theorem notes_step (h : t.Sound) (ht : t.step m = some t') : ∃ ns, t.Adds m t' ns := by
  have hturn : ∀ {k session}, t.paused.lookup k ≠ none → ¬ t.TakesTurn k session := by
    rintro k session hk ⟨q, e, hq, -⟩
    exact hk (h.paused_eq_none hq)
  cases happens_of_step ht with
  | arrives r hr =>
    refine ⟨.arrived t.ticket r :: settleNotes (Traffic.note { t with ticket := t.ticket + 1 }
      [.arrived t.ticket r]) t.ticket (t.server.receive r), ?_, fun k a => ?_,
      fun k session => ?_, fun k => ?_⟩
    · exact (notes_settle _ _ _).trans (List.append_assoc _ _ _)
    · rw [List.mem_cons, answered_mem_settleNotes, answers_arrive_iff]
      exact or_iff_right (by simp)
    · rw [List.mem_cons]
      refine iff_of_false ?_ (by simp)
      rintro (hnone | hin)
      · cases hnone
      · exact turned_not_mem_settleNotes hin
    · rw [List.mem_cons]
      refine iff_of_false ?_ (by simp)
      rintro (hnone | hin)
      · cases hnone
      · exact aborted_not_mem_settleNotes hin
  | goesOn k p hp =>
    refine ⟨settleNotes { t.take k with server := (t.server.proceed k p).1 } k
      (t.server.proceed k p).2, ?_, fun j a => ?_, fun j session => ?_, fun j => ?_⟩
    · rw [notes_settle, (Server.steady_proceed t.server k p).now]
      rfl
    · rw [answered_mem_settleNotes, answers_iff_of_paused h hp]
    · refine iff_of_false turned_not_mem_settleNotes ?_
      rintro ⟨heq, hin⟩
      cases heq
      exact hturn (by simp [hp]) hin
    · exact iff_of_false aborted_not_mem_settleNotes (by simp)
  | polls k q hk hq => exact ⟨_, adds_polls h hq⟩
  | leaves k p hp =>
    refine ⟨[.aborted k], rfl, fun j a => iff_of_false (by simp) (not_answers (by simp) (by simp)),
      fun j session => by simp, fun j => ?_⟩
    rw [List.mem_singleton, Note.aborted.injEq, Move.abort.injEq, eq_comm]
  | hangsUp k q hk hq =>
    refine ⟨[.aborted k], ?_, fun j a => iff_of_false (by simp) (not_answers (by simp) (by simp)),
      fun j session => by simp, fun j => ?_⟩
    · rw [note, (Server.steady_dropPoll t.server k).now]
    · rw [List.mem_singleton, Note.aborted.injEq, Move.abort.injEq, eq_comm]
  | publishes stamp typeId payload =>
    exact ⟨_, rfl, fun j a => iff_of_false (by simp) (not_answers (by simp) (by simp)),
      fun j session => by simp, fun j => by simp⟩
  | passes nanos =>
    exact ⟨[], (List.append_nil _).symm,
      fun j a => iff_of_false (by simp) (not_answers (by simp) (by simp)),
      fun j session => by simp, fun j => by simp⟩

/-- Which answers there are after a move. -/
theorem answered_step_iff (h : t.Sound) (ht : t.step m = some t') {instant : Nat} :
    (instant, .answered k a) ∈ t'.notes ↔
      (instant, .answered k a) ∈ t.notes ∨ instant = t.server.now ∧ t.Answers m k a := by
  obtain ⟨ns, hns⟩ := notes_step h ht
  rw [hns.notes, List.mem_append, ← hns.answered k a]
  refine or_congr_right ?_
  simp [List.mem_map, eq_comm, and_comm]

/-! ### What the notes of a run go back to -/

/-- What is noted once a run has gone on is noted by one of its moves. -/
theorem mem_notes_iff (hs : t₀.Sound) (hempty : t₀.notes = []) (hrun : t₀.run ms = some t)
    {n : Nat × Note} : n ∈ t.notes ↔ ∃ t₁ m t₂ ns, t₀.Goes ms t₁ m t₂ ∧ t₁.Adds m t₂ ns ∧
      n.1 = t₁.server.now ∧ n.2 ∈ ns := by
  refine run_induction_concat (Q := fun ms t => n ∈ t.notes ↔ ∃ t₁ m t₂ ns,
    t₀.Goes ms t₁ m t₂ ∧ t₁.Adds m t₂ ns ∧ n.1 = t₁.server.now ∧ n.2 ∈ ns) ?_ ?_ hrun
  · refine iff_of_false (by simp [hempty]) ?_
    rintro ⟨t₁, m, t₂, ns, ⟨before, after, heq, -⟩, -⟩
    simp at heq
  · intro ms t m t' hbefore ih ht
    obtain ⟨ns, hns⟩ := notes_step (hs.run hbefore) ht
    rw [hns.notes, List.mem_append, ih]
    constructor
    · rintro (⟨t₁, m₁, t₂, ns₁, hg, hrest⟩ | hnew)
      · exact ⟨t₁, m₁, t₂, ns₁, (goes_concat hbefore ht).2 (.inl hg), hrest⟩
      · obtain ⟨note, hnote, rfl⟩ := List.mem_map.1 hnew
        exact ⟨t, m, t', ns, (goes_concat hbefore ht).2 (.inr ⟨rfl, rfl, rfl⟩), hns, rfl, hnote⟩
    · rintro ⟨t₁, m₁, t₂, ns₁, hg, hadds, hnow, hin⟩
      rcases (goes_concat hbefore ht).1 hg with hold | ⟨rfl, rfl, rfl⟩
      · exact .inl ⟨t₁, m₁, t₂, ns₁, hold, hadds, hnow, hin⟩
      · have hsame := List.append_cancel_left (hadds.notes.symm.trans hns.notes)
        exact .inr (hsame ▸ List.mem_map.2 ⟨n.2, hin, Prod.ext hnow.symm rfl⟩)

/-- **Every answer is given by a move**, at the instant that is noted with it. -/
theorem answered_iff (hs : t₀.Sound) (hempty : t₀.notes = []) (hrun : t₀.run ms = some t)
    {instant : Nat} : (instant, .answered k a) ∈ t.notes ↔
      ∃ t₁ m t₂, t₀.Goes ms t₁ m t₂ ∧ t₁.Answers m k a ∧ instant = t₁.server.now := by
  rw [mem_notes_iff hs hempty hrun]
  constructor
  · rintro ⟨t₁, m, t₂, ns, hg, hns, hnow, hin⟩
    exact ⟨t₁, m, t₂, hg, (hns.answered k a).1 hin, hnow⟩
  · rintro ⟨t₁, m, t₂, hg, ha, hnow⟩
    obtain ⟨ns, hns⟩ := notes_step (hg.sound hs) hg.step
    exact ⟨t₁, m, t₂, ns, hg, hns, hnow, (hns.answered k a).2 ha⟩

/-- **Every turn is got in a move.** -/
theorem turned_iff (hs : t₀.Sound) (hempty : t₀.notes = []) (hrun : t₀.run ms = some t)
    {instant : Nat} {session : Session} : (instant, .turned k session) ∈ t.notes ↔
      ∃ t₁ t₂, t₀.Goes ms t₁ (.resume k) t₂ ∧ t₁.TakesTurn k session ∧
        instant = t₁.server.now := by
  rw [mem_notes_iff hs hempty hrun]
  constructor
  · rintro ⟨t₁, m, t₂, ns, hg, hns, hnow, hin⟩
    obtain ⟨rfl, hturn⟩ := (hns.turned k session).1 hin
    exact ⟨t₁, t₂, hg, hturn, hnow⟩
  · rintro ⟨t₁, t₂, hg, hturn, hnow⟩
    obtain ⟨ns, hns⟩ := notes_step (hg.sound hs) hg.step
    exact ⟨t₁, _, t₂, ns, hg, hns, hnow, (hns.turned k session).2 ⟨rfl, hturn⟩⟩

end Traffic
end EventRelay

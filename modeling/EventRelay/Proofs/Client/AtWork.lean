/-
# A client at work

The tasks of a client whose calls are carried by somebody else (`Mailbox`) make the moves of a
switchboard, or those of a bus that one controller sees to: an operation of a caller that begins,
hears an answer or is given up does what `Switchboard.step` says (`Client.Mirrors`), and a
controller runs until it has to wait as `Steering.run` lets it (`Client.Steers.continues`).

The tickets of a client are numbered among those of others, so its operations may be known by other
tickets here.
-/

import EventRelay.Client.Mailbox
import EventRelay.Client.Steering
import EventRelay.Client.Tasks
import EventRelay.Proofs.Switchboard.Moves

namespace EventRelay
namespace Client

variable {c : Client} {name : Nat → Nat} {ticket : Nat} {m : Mailbox} {op : Operation}
  {p : Pending} {callers : List (Nat × Pending)}

/-- The operations of a client whose calls are out, by other tickets. -/
def known (name : Nat → Nat) (callers : List (Nat × Pending)) : List (Nat × Underway) :=
  callers.map fun q => (name q.1, ⟨q.2, none⟩)

/-- Other operations are known by other tickets. -/
theorem known_without (hname : ∀ q ∈ callers, name q.1 = name ticket → q.1 = ticket) :
    (known name callers).filter (·.1 ≠ name ticket) =
      known name (callers.filter (·.1 ≠ ticket)) := by
  unfold known
  rw [List.filter_map]
  refine congrArg _ (List.filter_congr fun q hq => ?_)
  have hiff : name q.1 = name ticket ↔ q.1 = ticket := ⟨hname q hq, congrArg name⟩
  simp [hiff]

theorem filter_of_free (hfree : ticket ∉ callers.map Prod.fst) :
    callers.filter (·.1 ≠ ticket) = callers := by
  refine List.filter_eq_self.2 fun q hq => ?_
  have hne : q.1 ≠ ticket := fun heq => hfree (heq ▸ List.mem_map_of_mem hq)
  simpa using hne

/-- A new operation does not change by what tickets the others are known. -/
theorem known_update (hfree : ticket ∉ callers.map Prod.fst) (k : Nat) :
    known (Function.update name ticket k) callers = known name callers := by
  refine List.map_congr_left fun q hq => ?_
  have hne : q.1 ≠ ticket := fun heq => hfree (heq ▸ List.mem_map_of_mem hq)
  rw [Function.update_of_ne hne]

/-- Tickets tell the operations of a client apart, if they do so where those are known. -/
theorem known_inj (honce : ((known name callers).map Prod.fst).Nodup)
    (hp : callers.lookup ticket = some p) :
    ∀ q ∈ callers, name q.1 = name ticket → q.1 = ticket := by
  intro q hq heq
  rw [known, List.map_map] at honce
  have hsame := List.inj_on_of_nodup_map honce hq (Tickets.mem_of_lookup hp) heq
  rw [hsame]

theorem mem_known (hp : callers.lookup ticket = some p) :
    (name ticket, ⟨p, none⟩) ∈ known name callers :=
  List.mem_map.2 ⟨_, Tickets.mem_of_lookup hp, rfl⟩

/-- What a turn of a caller's operation does to a client. -/
theorem work_caller (fuel : Nat) (turn : Turn) (c : Client) :
    (work (fuel + 1) ticket .caller turn m c).2.bus = turn.bus ∧
      (work (fuel + 1) ticket .caller turn m c).2.callers = c.callers.filter (·.1 ≠ ticket) ++
        (turn.underway?.map fun u => (ticket, u.pending)).toList := by
  unfold work Turn.underway?
  cases turn.progress with
  | waiting p => exact ⟨rfl, rfl⟩
  | finished result => exact ⟨rfl, rfl⟩

/-! ### Callers on a switchboard -/

/-- Whether a switchboard shows the bus of a client and the operations under way on it. -/
structure Mirrors (name : Nat → Nat) (c : Client) (x : Switchboard) : Prop where
  bus : x.bus = c.bus
  callers : x.callers = known name c.callers

namespace Mirrors

variable {x : Switchboard}

/-- A turn is taken over. -/
theorem adopt {w : Switchboard} (fuel : Nat) (turn : Turn)
    (hw : w.callers = known name (c.callers.filter (·.1 ≠ ticket))) :
    Mirrors name (work (fuel + 1) ticket .caller turn m c).2 (w.adopt (name ticket) turn) := by
  obtain ⟨hbus, hcallers⟩ := work_caller fuel turn c
  refine ⟨hbus.symm, ?_⟩
  rw [hcallers]
  simp only [Switchboard.adopt, hw, known, List.map_append]
  unfold Turn.underway?
  cases turn.progress <;> rfl

/-- **A caller begins an operation.** -/
theorem begins (h : Mirrors name c x) (hfree : ticket ∉ c.callers.map Prod.fst) :
    ∃ y, x.step (.begin op) = some y ∧
      Mirrors (Function.update name ticket x.ticket) (Client.begin ticket .caller op m c).2 y := by
  have hnext : Switchboard.callers { x with ticket := x.ticket + 1 } =
      known (Function.update name ticket x.ticket) (c.callers.filter (·.1 ≠ ticket)) := by
    rw [filter_of_free hfree, known_update hfree]
    exact h.callers
  have hadopts : Mirrors _ (Client.begin ticket .caller op m c).2 _ :=
    adopt 99999 (c.bus.start op) hnext
  rw [Function.update_self, ← h.bus] at hadopts
  exact ⟨_, rfl, hadopts⟩

theorem name_inj (h : Mirrors name c x) (hx : x.Ticketed)
    (hp : c.callers.lookup ticket = some p) :
    ∀ q ∈ c.callers, name q.1 = name ticket → q.1 = ticket :=
  known_inj (h.callers ▸ hx.once) hp

theorem underway (h : Mirrors name c x) (hx : x.Ticketed)
    (hp : c.callers.lookup ticket = some p) : x.underway? (name ticket) = some ⟨p, none⟩ := by
  refine hx.underway?_of_mem ?_
  rw [h.callers]
  exact mem_known hp

/-- **A caller hears an answer.** -/
theorem answers (h : Mirrors name c x) (hx : x.Ticketed)
    (hp : c.callers.lookup ticket = some p) (answer : (c : Call) → c.Answer) :
    ∃ y, x.run [.serve (name ticket) answer, .deliver (name ticket)] = some y ∧
      Mirrors name (Client.continue ticket (.answered answer) m c).2 y := by
  have hserve : x.step (.serve (name ticket) answer) =
      some (x.answered (name ticket) p (answer p.call)) := by
    simp only [Switchboard.step, h.underway hx hp]
  have hheard : (x.answered (name ticket) p (answer p.call)).underway? (name ticket) =
      some ⟨p, some (answer p.call)⟩ :=
    (hx.step hserve).underway?_of_mem (Switchboard.mem_answered.2 (.inr ⟨rfl, rfl⟩))
  have hothers : ((x.answered (name ticket) p (answer p.call)).without (name ticket)).callers =
      known name (c.callers.filter (·.1 ≠ ticket)) := by
    rw [← known_without (h.name_inj hx hp), ← h.callers]
    simp [Switchboard.without, Switchboard.answered, List.filter_append, List.filter_filter]
  have hdeliver : (x.answered (name ticket) p (answer p.call)).step (.deliver (name ticket)) =
      some (((x.answered (name ticket) p (answer p.call)).without (name ticket)).adopt
        (name ticket) (c.bus.resume p (answer p.call))) := by
    simp only [Switchboard.step, hheard]
    rw [← h.bus]
    rfl
  have hserved : x.run [.serve (name ticket) answer] =
      some (x.answered (name ticket) p (answer p.call)) := by
    rw [Switchboard.run, hserve]
    rfl
  refine ⟨_, Switchboard.run_concat hserved hdeliver, ?_⟩
  simp only [Client.continue, hp]
  exact adopt 99999 (c.bus.resume p (answer p.call)) hothers

/-- **A caller gives its operation up.** -/
theorem leaves (h : Mirrors name c x) (hx : x.Ticketed)
    (hp : c.callers.lookup ticket = some p) :
    ∃ y, x.step (.cancel (name ticket)) = some y ∧ Mirrors name (c.setCaller ticket none) y := by
  refine ⟨x.without (name ticket), ?_, h.bus, ?_⟩
  · simp only [Switchboard.step, h.underway hx hp, Option.map_some]
  · simp only [Switchboard.without, h.callers, known_without (h.name_inj hx hp), setCaller,
      Option.map_none, Option.toList_none, List.append_nil]

end Mirrors

/-! ### Its controller -/

/-- Whether a bus that a controller sees to is that of a client, with the controller of `ticket`. -/
structure Steers (ticket : Nat) (c : Client) (x : Steering) : Prop where
  bus : x.bus = c.bus
  controller : c.controllers.lookup ticket = some x.controller

theorem lookup_setController {ctl old : Controller} (h : c.controllers.lookup ticket = some old) :
    (c.setController ticket ctl).controllers.lookup ticket = some ctl := by
  simp only [setController]
  generalize c.controllers = controllers at h
  induction controllers with
  | nil => cases h
  | cons q rest ih =>
    obtain ⟨k, ctl'⟩ := q
    by_cases hk : ticket = k
    · subst hk
      simp
    · have hne : (ticket == k) = false := beq_false_of_ne hk
      rw [List.lookup_cons, hne] at h
      rw [List.map_cons, List.lookup_cons, hne]
      exact ih h

namespace Steers

variable {x y : Steering} {move : Steering.Move} {errand : Errand} {turn : Turn}

/-- **A controller works until it has to wait.**  `y` is what its first turn leads to. -/
theorem works (fuel : Nat) (h : Steers ticket c x) (hmove : x.step move = some y)
    (hbus : y.bus = (x.controller.adopt errand turn).2)
    (hcontroller : y.controller = (x.controller.adopt errand turn).1) :
    ∃ moves z, x.run moves = some z ∧
      Steers ticket (work fuel ticket (.controller x.controller errand) turn m c).2 z := by
  induction fuel generalizing c x y move errand turn m with
  | zero => exact ⟨[], x, rfl, h⟩
  | succ fuel ih =>
    have hdone : x.run [move] = some y := by
      rw [Steering.run, hmove]
      rfl
    have hnow : Steers ticket
        ({ c.adopt turn with bus := (x.controller.adopt errand turn).2 }.setController ticket
          (x.controller.adopt errand turn).1) y :=
      ⟨hbus, hcontroller ▸ lookup_setController h.controller⟩
    unfold work
    cases hactivity : (x.controller.adopt errand turn).1.activity with
    | calling errand' p =>
      simp only [hactivity]
      exact ⟨[move], y, hdone, hnow⟩
    | pausing pause errand' =>
      simp only [hactivity]
      exact ⟨[move], y, hdone, hnow⟩
    | stopped =>
      simp only [hactivity]
      exact ⟨[move], y, hdone, hnow⟩
    | ready errand' =>
      simp only [hactivity]
      have hready : y.controller.activity = .ready errand' := hcontroller ▸ hactivity
      have hbegin : y.step .begin = some (y.steer errand' (y.bus.start errand'.operation)) := by
        simp only [Steering.step, hready]
      obtain ⟨moves, z, hz, hsteers⟩ := ih hnow hbegin rfl rfl
      refine ⟨move :: moves, z, ?_, ?_⟩
      · rw [Steering.run, hmove]
        exact hz
      · rw [hcontroller, hbus] at hsteers
        exact hsteers

/-- **Whatever happens to a controller**, it goes on as `Steering.run` lets it: it hears the answer that
it waits for, or its pause is over, and anything else leaves it as it is. -/
theorem continues (h : Steers ticket c x) (hnobody : c.callers.lookup ticket = none)
    (happening : Happening) :
    ∃ moves y, x.run moves = some y ∧
      Steers ticket (Client.continue ticket happening m c).2 y := by
  simp only [Client.continue, hnobody, h.controller]
  cases hactivity : x.controller.activity with
  | calling errand p =>
    cases happening with
    | answered answer =>
      have hmove : x.step (.hear answer) = some (x.hear errand p (answer p.call)) := by
        simp only [Steering.step, hactivity]
      simp only [← h.bus]
      exact h.works patience hmove rfl rfl
    | pauseOver => exact ⟨[], x, rfl, h⟩
  | pausing pause errand =>
    cases happening with
    | answered answer => exact ⟨[], x, rfl, h⟩
    | pauseOver =>
      have hmove : x.step .begin = some (x.steer errand (x.bus.start errand.operation)) := by
        simp only [Steering.step, hactivity]
      simp only [Client.begin, ← h.bus]
      exact h.works patience hmove rfl rfl
  | ready | stopped => exact ⟨[], x, rfl, h⟩

end Steers
end Client
end EventRelay

/-
# What a journal says

A journal tells which sessions were taken up, which batches were dispatched under each, and
what every handler was handed of them.
-/

import EventRelay.Client.Conversation

namespace EventRelay

/-- The events of a type after one number up to another. -/
def Event.stretch (events : List Event) (t : TypeId) (start stop : Int) : List Event :=
  events.filter fun e => start < e.sequence && e.sequence ≤ stop && e.typeId = t

namespace Event

variable {events : List Event} {t : TypeId} {start middle stop : Int}

theorem stretch_self (events : List Event) (t : TypeId) (n : Int) : stretch events t n n = [] := by
  rw [stretch, List.filter_eq_nil_iff]
  intro e _ he
  simp only [Bool.and_eq_true, decide_eq_true_eq] at he
  omega

/-- One stretch after the other. -/
theorem stretch_append (h : events.Pairwise fun e e' => e.sequence < e'.sequence)
    (hlow : start ≤ middle) (hhigh : middle ≤ stop) :
    stretch events t start stop = stretch events t start middle ++ stretch events t middle stop := by
  induction events with
  | nil => rfl
  | cons e events ih =>
    obtain ⟨hfirst, hrest⟩ := List.pairwise_cons.1 h
    have hsplit := ih hrest
    simp only [stretch, List.filter_cons] at hsplit ⊢
    by_cases hmiddle : e.sequence ≤ middle
    · have hnot : ¬ (middle < e.sequence) := by omega
      have hle : e.sequence ≤ stop := by omega
      simp only [hmiddle, hnot, hle, decide_true, decide_false, Bool.false_and, Bool.and_true,
        Bool.false_eq_true, if_false]
      split
      · rw [hsplit, List.cons_append]
      · exact hsplit
    · -- everything that follows is in the second stretch
      have hnone : (events.filter fun e => start < e.sequence && e.sequence ≤ middle &&
          e.typeId = t) = [] := by
        rw [List.filter_eq_nil_iff]
        intro e' he' hin
        have hlater := hfirst e' he'
        simp only [Bool.and_eq_true, decide_eq_true_eq] at hin
        omega
      have hstart : start < e.sequence := by omega
      have hafter : middle < e.sequence := by omega
      rw [hnone, List.nil_append] at hsplit
      simp only [hmiddle, hstart, hafter, hnone, hsplit, decide_true, decide_false, Bool.and_false,
        Bool.false_and, Bool.true_and, Bool.false_eq_true, if_false, List.nil_append]

/-- What is published later belongs to no stretch before it. -/
theorem stretch_later {later : List Event} (h : ∀ e ∈ later, stop < e.sequence) :
    stretch (events ++ later) t start stop = stretch events t start stop := by
  have hnone : stretch later t start stop = [] := by
    rw [stretch, List.filter_eq_nil_iff]
    intro e he hin
    have hlater := h e he
    simp only [Bool.and_eq_true, decide_eq_true_eq] at hin
    omega
  rw [stretch, List.filter_append]
  exact (congrArg (_ ++ ·) hnone).trans (List.append_nil _)

end Event

namespace Episode

/-- The session that an episode says was taken up. -/
def granted? : Episode → Option SessionId
  | granted id _ => some id
  | dispatched _ _ _ | failed _ _ => none

/-- The events that an episode says were dispatched. -/
def events : Episode → List Event
  | dispatched _ b _ => b.events
  | granted _ _ | failed _ _ => []

/-- What an episode says was handed to handlers. -/
def delivered : Episode → List Delivery
  | dispatched _ _ ds => ds
  | granted _ _ | failed _ _ => []

/-- The events that the handler of a number was handed. -/
def received (n : Nat) (es : List Episode) : List Event :=
  ((es.flatMap delivered).filter (·.handler = n)).map Delivery.event

/-- The batch that was dispatched under a session, if an episode says so. -/
def batch? (id : SessionId) : Episode → Option Batch
  | dispatched id' b _ => if id' = id then some b else none
  | granted _ _ | failed _ _ => none

/-- What an episode says was handed to handlers under a session. -/
def deliveries (id : SessionId) : Episode → List Delivery
  | dispatched id' _ ds => if id' = id then ds else []
  | granted _ _ | failed _ _ => []

/-- Where a session that started at `start` is known to have got to: the cursor of its last
batch. -/
def reached (id : SessionId) (start : Int) (es : List Episode) : Int :=
  ((es.filterMap (batch? id)).getLast?.map Batch.cursor).getD start

/-- The events that the handler of a number was handed under a session. -/
def handed (id : SessionId) (n : Nat) (es : List Episode) : List Event :=
  ((es.flatMap (deliveries id)).filter (·.handler = n)).map Delivery.event

variable {id : SessionId} {start : Int} {n : Nat} {es es' : List Episode}

theorem received_append : received n (es ++ es') = received n es ++ received n es' := by
  simp [received]

theorem handed_append : handed id n (es ++ es') = handed id n es ++ handed id n es' := by
  simp [handed]

theorem reached_dispatched (b : Batch) (ds : List Delivery) :
    reached id start (es ++ [.dispatched id b ds]) = b.cursor := by
  simp [reached, batch?]

/-- Without a batch of its own a session does not move, and nothing is handed over. -/
theorem append_of_undispatched (es : List Episode) (start : Int) (n : Nat)
    (h : ∀ b ds, .dispatched id b ds ∉ es') :
    reached id start (es ++ es') = reached id start es ∧
      handed id n (es ++ es') = handed id n es := by
  have hbatch : es'.filterMap (batch? id) = [] := by
    refine List.filterMap_eq_nil_iff.2 fun e he => ?_
    cases e with
    | dispatched id' b ds =>
      refine if_neg ?_
      rintro rfl
      exact h b ds he
    | granted | failed => rfl
  have hdeliveries : es'.flatMap (deliveries id) = [] := by
    refine List.flatMap_eq_nil_iff.2 fun e he => ?_
    cases e with
    | dispatched id' b ds =>
      refine if_neg ?_
      rintro rfl
      exact h b ds he
    | granted | failed => rfl
  exact ⟨by simp [reached, hbatch], by simp [handed, hdeliveries]⟩

theorem nothing_of_undispatched (start : Int) (n : Nat) (h : ∀ b ds, .dispatched id b ds ∉ es) :
    reached id start es = start ∧ handed id n es = [] :=
  append_of_undispatched [] start n h

/-- A session has not got further than its batches. -/
theorem reached_le {last : Int} (hstart : start ≤ last)
    (h : ∀ b ds, .dispatched id b ds ∈ es → b.cursor ≤ last) : reached id start es ≤ last := by
  unfold reached
  cases hb : (es.filterMap (batch? id)).getLast? with
  | none => exact hstart
  | some b =>
    obtain ⟨e, he, hbatch⟩ := List.mem_filterMap.1 (List.mem_of_getLast? hb)
    cases e with
    | dispatched id' b' ds =>
      simp only [batch?] at hbatch
      split at hbatch
      · rename_i hid
        cases hbatch
        exact h b ds (hid ▸ he)
      · cases hbatch
    | granted | failed => cases hbatch

end Episode

namespace Bus

theorem delivered_subscribeNext (b : Bus) (id : SessionId) (generation : Nat) (ts : List TypeId) :
    (b.subscribeNext id generation ts).delivered = [] := by
  cases ts <;> rfl

/-- An operation that begins hands nothing over. -/
theorem delivered_start (b : Bus) (op : Operation) : (b.start op).delivered = [] := by
  cases op with
  | newSession | endSession | poll =>
    simp only [start]
    split <;> (try split) <;> rfl
  | addHandler | removeHandler =>
    simp only [start]
    split <;> (try split) <;> rfl
  | probe | publish => rfl

end Bus
end EventRelay

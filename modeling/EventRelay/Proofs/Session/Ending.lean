/-
# Ended sessions are off the list

A session is marked as ended when it is taken off the list, and at no other time
(`Registry.Settled`).  Every change of the sessions keeps this: it either leaves both as they
were or ends the session.
-/

import EventRelay.Session.Registry

namespace EventRelay

/-- Whether a session is ended exactly if it is off the list. -/
def Entry.Settled (e : Entry) : Prop := e.session.invalidated = !e.listed

/-- Ending a session again changes nothing. -/
theorem Entry.retire_of_not_listed {e : Entry} (h : e.Settled) (hlisted : e.listed = false) :
    e.retire = e := by
  obtain ⟨⟨source, last, types, invalidated⟩, access, queue, listed⟩ := e
  obtain rfl : listed = false := hlisted
  obtain rfl : invalidated = true := h
  rfl

/-- Every session is ended exactly if it is off the list. -/
def Registry.Settled (r : Registry) : Prop := ∀ e ∈ r.entries, e.Settled

theorem Session.invalidated_subscribe (s : Session) (t : TypeId) :
    (s.subscribe t).invalidated = s.invalidated := by
  unfold Session.subscribe
  split <;> rfl

namespace Registry

variable {r : Registry} {s : SourceId}

theorem Settled.of_entry (h : r.Settled) {e : Entry} (he : r.entry? s = some e) :
    e.session.invalidated = !e.listed :=
  h e (List.mem_of_find?_eq_some he)

theorem settled_modify (h : r.Settled) {f : Entry → Entry} (hf : ∀ e, e.Settled → (f e).Settled) :
    (r.modify s f).Settled := by
  intro e he
  obtain ⟨e', he', rfl⟩ := List.mem_map.1 he
  split
  · exact hf e' (h e' he')
  · exact h e' he'

theorem settled_modifySession (h : r.Settled) {f : Session → Session}
    (hf : ∀ x, (f x).invalidated = x.invalidated) : (r.modifySession s f).Settled :=
  settled_modify h fun e he => (hf e.session).trans he

theorem settled_discard (h : r.Settled) : (r.discard s).1.Settled := by
  unfold discard
  split
  · exact h
  · exact settled_modify h fun _ _ => rfl

theorem settled_retire (h : r.Settled) (event : SessionEvent) : (r.retire s event).1.Settled := by
  have hdiscard := settled_discard (s := s) h
  unfold retire
  split <;> simp_all [Settled, tell]

theorem settled_retireAll (h : r.Settled) (us : List SourceId) : (r.retireAll us).1.Settled := by
  induction us generalizing r with
  | nil => exact h
  | cons s rest ih => exact ih (settled_retire h _)

theorem settled_enlist (h : r.Settled) {e : Entry} (he : e.Settled) : (r.enlist e).Settled := by
  intro e' he'
  rcases List.mem_append.1 he' with hold | hnew
  · exact h e' hold
  · rw [List.mem_singleton.1 hnew]
    exact he

theorem settled_glance (h : r.Settled) (now : Nat) : (r.glance now s).1.Settled := by
  unfold glance
  split
  · exact h
  · split
    · exact h
    · exact settled_modify h fun _ he => he

theorem settled_expire (h : r.Settled) (now : Nat) : (r.expire now s).Settled := by
  unfold expire
  split
  · exact h
  · split
    · exact settled_retire h _
    · exact h

theorem settled_lookup (h : r.Settled) (now : Nat) : (r.lookup now s).1.Settled := by
  have hglance := settled_glance (s := s) h now
  unfold lookup
  split <;> rename_i heq <;> rw [heq] at hglance
  · exact hglance
  · exact settled_expire hglance now
  · exact hglance

theorem settled_invalidate (h : r.Settled) : (r.invalidate s).1.Settled := settled_retire h _

theorem settled_sweep (h : r.Settled) (now : Nat) : (r.sweep now).1.Settled :=
  settled_retireAll h _

theorem settled_addType (h : r.Settled) (t : TypeId) : (r.addType s t).1.Settled :=
  settled_modifySession h fun x => x.invalidated_subscribe t

theorem settled_removeType (h : r.Settled) (t : TypeId) : (r.removeType s t).1.Settled :=
  settled_modifySession h fun _ => rfl

theorem settled_subscribe (h : r.Settled) (now : Nat) (t : TypeId) :
    (r.subscribe now s t).1.Settled := by
  have hlookup := settled_lookup (s := s) h now
  unfold subscribe
  split <;> rename_i heq <;> rw [heq] at hlookup
  · exact hlookup
  · exact settled_addType hlookup t

theorem settled_unsubscribe (h : r.Settled) (now : Nat) (t : TypeId) :
    (r.unsubscribe now s t).1.Settled := by
  have hlookup := settled_lookup (s := s) h now
  unfold unsubscribe
  split <;> rename_i heq <;> rw [heq] at hlookup
  · exact hlookup
  · exact settled_removeType hlookup t

theorem settled_release (h : r.Settled) (ticket : Nat) : (r.release s ticket).Settled :=
  settled_modify h fun _ he => he

theorem settled_enqueue (h : r.Settled) (ticket : Nat) : (r.enqueue s ticket).Settled :=
  settled_modify h fun _ he => he

end Registry
end EventRelay

/-
# Which types a session wants

Only two changes of the sessions change which types a session wants (`Registry.wants`): a
type is added to it or taken away from it.  Nothing that looks a session up, ends it, moves
it on or gives somebody its turn does.
-/

import EventRelay.Proofs.Session.Marks

namespace EventRelay
namespace Registry

variable {r : Registry} {s u : SourceId} {t v : TypeId}

theorem wants_of_entry {e : Entry} (he : r.entry? s = some e) :
    r.wants s t = e.session.isSubscribed t := by
  simp [wants, he]

/-- Changing a session in another respect. -/
theorem wants_modify {f : Entry → Entry} (hsource : ∀ e, (f e).session.source = e.session.source)
    (htypes : ∀ e, (f e).session.subscriptions = e.session.subscriptions) :
    (r.modify s f).wants u t = r.wants u t := by
  unfold wants
  rw [entry_modify hsource]
  split
  · cases he : r.entry? u with
    | none => rfl
    | some e => simp [Session.isSubscribed, htypes]
  · rfl

@[simp] theorem wants_retire (event : SessionEvent) :
    (r.retire s event).1.wants u t = r.wants u t := by
  have hdiscard : (r.discard s).1.wants u t = r.wants u t := by
    unfold discard
    split
    · rfl
    · exact wants_modify (fun _ => rfl) fun _ => rfl
  unfold retire
  split <;> simp_all [wants, entry?, tell]

@[simp] theorem wants_retireAll (us : List SourceId) :
    (r.retireAll us).1.wants u t = r.wants u t := by
  induction us generalizing r with
  | nil => rfl
  | cons s rest ih => exact ih.trans (wants_retire _)

@[simp] theorem wants_touch (now : Nat) : (r.modify s (·.touch now)).wants u t = r.wants u t :=
  wants_modify (fun _ => rfl) fun _ => rfl

@[simp] theorem wants_glance (now : Nat) : (r.glance now s).1.wants u t = r.wants u t := by
  unfold glance
  split
  · rfl
  · split <;> simp

@[simp] theorem wants_expire (now : Nat) : (r.expire now s).wants u t = r.wants u t := by
  unfold expire
  split
  · rfl
  · split <;> simp

@[simp] theorem wants_invalidate : (r.invalidate s).1.wants u t = r.wants u t := wants_retire _

@[simp] theorem wants_sweep (now : Nat) : (r.sweep now).1.wants u t = r.wants u t :=
  wants_retireAll _

@[simp] theorem wants_enqueue (ticket : Nat) : (r.enqueue s ticket).wants u t = r.wants u t :=
  wants_modify (fun _ => rfl) fun _ => rfl

@[simp] theorem wants_release (ticket : Nat) : (r.release s ticket).wants u t = r.wants u t :=
  wants_modify (fun _ => rfl) fun _ => rfl

@[simp] theorem wants_update (n : Int) :
    (r.modifySession s (·.update n)).wants u t = r.wants u t :=
  wants_modify (fun _ => rfl) fun _ => rfl

/-- A new session takes no other's place. -/
theorem wants_enlist {e : Entry} (h : r.wants u t = true) : (r.enlist e).wants u t = true := by
  cases he : r.entry? u with
  | none => simp [wants, he] at h
  | some e' =>
    have he' : Registry.entry? (r.enlist e) u = some e' := by rw [entry_enlist, he]; rfl
    rw [wants_of_entry he] at h
    rwa [wants_of_entry he']

theorem entry_addType : Registry.entry? (r.addType s v).1 u = if u = s then
    (r.entry? u).map fun e => { e with session := e.session.subscribe v } else r.entry? u :=
  entry_modify (by simp) u

/-- A type is added to those that are wanted. -/
theorem wants_addType (h : r.wants u t = true) : (r.addType s v).1.wants u t = true := by
  rw [wants, entry_addType]
  unfold wants at h
  split
  · cases he : r.entry? u with
    | none => simp [he] at h
    | some e => simpa [he] using .inl (by simpa [he] using h)
  · exact h

/-- A type that was added is wanted. -/
theorem wants_addType_self (hs : s ∈ r.sources) : (r.addType s v).1.wants s v = true := by
  obtain ⟨e, he⟩ := Option.isSome_iff_exists.1 (entry_isSome_iff.2 hs)
  rw [wants, entry_addType, if_pos rfl, he]
  simp

/-- What a session wants once a type was taken away from it. -/
theorem wants_removeType : (r.removeType s v).1.wants u t = (r.wants u t && !(u == s && t == v)) := by
  have hentry : Registry.entry? (r.removeType s v).1 u = if u = s then
      (r.entry? u).map fun e => { e with session := e.session.unsubscribe v } else r.entry? u :=
    entry_modify (f := fun e => { e with session := e.session.unsubscribe v }) (fun _ => rfl) u
  rw [wants, wants, hentry]
  by_cases hu : u = s
  · subst hu
    cases he : r.entry? u with
    | none => simp
    | some e =>
      simp [bne]
  · simp [hu]

end Registry
end EventRelay

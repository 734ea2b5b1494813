/-
# The life of a session, as its listeners hear of it

Three things end a session: a request to end it, a request that finds it idle, and a sweep.  Each
takes it off the list, marks it as ended, and tells the listeners only if it had no such mark, and
they may come in any order, cut at their pauses (`Registry.Reached`).  Still the listeners hear of
each session that it was created and then at most once that it has ended, and that agrees with the
list and with the mark (`Registry.lifecycle_of_chronicled`).

The invariant is `Registry.Chronicled`, which says of each source what was told of it, by whether
its session is there and on the list (`Registry.Chapter`).
-/

import EventRelay.Proofs.Session.Telling

namespace EventRelay
namespace Registry

variable {r : Registry} {s u : SourceId} {e : Entry} {now : Nat} {event : SessionEvent}

/-- What the listeners were told of a session. -/
def eventsOf (r : Registry) (u : SourceId) : List SessionEvent :=
  r.feed.sent.filter (·.source = u)

/-- What the listeners were told of a source, by whether it has a session that is on the list. -/
inductive Chapter (u : SourceId) : Option Bool → List SessionEvent → Prop where
  | unheard : Chapter u none []
  | listed : Chapter u (some true) [.created u]
  | invalidated : Chapter u (some false) [.created u, .invalidated u]
  | expired : Chapter u (some false) [.created u, .expired u]

namespace Chapter

variable {there : Option Bool} {told : List SessionEvent}

/-- First that it was created, then at most that it has ended. -/
theorem order (h : Chapter u there told) : told = [] ∨ ∃ ends, told = .created u :: ends ∧
    ends.length ≤ 1 ∧ ∀ x ∈ ends, x = .invalidated u ∨ x = .expired u := by
  cases h with
  | unheard => exact .inl rfl
  | listed => exact .inr ⟨[], rfl, by simp, by simp⟩
  | invalidated => exact .inr ⟨[.invalidated u], rfl, by simp, by simp⟩
  | expired => exact .inr ⟨[.expired u], rfl, by simp, by simp⟩

theorem created_iff (h : Chapter u there told) : .created u ∈ told ↔ there.isSome := by
  cases h <;> simp

theorem ended_iff (h : Chapter u there told) :
    (∃ x ∈ told, x.isTerminal = true) ↔ there = some false := by
  cases h <;> simp [SessionEvent.isTerminal]

theorem not_expired (h : Chapter u there told) (hinvalidated : .invalidated u ∈ told) :
    .expired u ∉ told := by
  cases h <;> simp at hinvalidated ⊢

end Chapter

/-- Whether the listeners were told what has become of every session. -/
structure Chronicled (r : Registry) : Prop where
  sources : r.sources.Nodup
  settled : r.Settled
  chapters : ∀ u, Chapter u ((r.entry? u).map Entry.listed) (r.eventsOf u)

theorem mem_eventsOf : event ∈ r.eventsOf u ↔ event ∈ r.feed.sent ∧ event.source = u := by
  simp [eventsOf]

theorem Tells.eventsOf {r' : Registry} {told : List SessionEvent} (h : r.Tells r' told)
    (u : SourceId) : r'.eventsOf u = r.eventsOf u ++ told.filter (·.source = u) := by
  simp [Registry.eventsOf, h.sent]

/-! ### What is done to the sessions -/

namespace Chronicled

theorem new (ttl : Duration) : (Registry.new ttl).Chronicled where
  sources := List.nodup_nil
  settled := fun _ he => absurd he List.not_mem_nil
  chapters _ := .unheard

/-- A change of a session in another respect. -/
theorem modify (h : r.Chronicled) {f : Entry → Entry}
    (hsource : ∀ e, (f e).session.source = e.session.source)
    (hlisted : ∀ e, (f e).listed = e.listed)
    (hmark : ∀ e, (f e).session.invalidated = e.session.invalidated) :
    (r.modify s f).Chronicled where
  sources := by
    have hsame : (r.modify s f).sources = r.sources := by
      simp only [sources_eq, Registry.modify, List.map_map]
      refine List.map_congr_left fun e _ => ?_
      simp only [Function.comp_apply]
      split
      · exact hsource e
      · rfl
    rw [hsame]
    exact h.sources
  settled := settled_modify h.settled fun e he => (hmark e).trans (he.trans (by rw [hlisted]))
  chapters u := by
    have hentry : (Registry.entry? (r.modify s f) u).map Entry.listed =
        (r.entry? u).map Entry.listed := by
      rw [entry_modify hsource]
      split
      · rw [Option.map_map]
        exact congrArg (Option.map · (r.entry? u)) (funext hlisted)
      · rfl
    rw [hentry]
    exact h.chapters u

theorem create (h : r.Chronicled) (hfresh : s ∉ r.sources) (since : Nat) (start : Int) :
    (r.create since s start).Chronicled where
  sources := by
    rw [Registry.create, sources_enlist]
    exact List.concat_eq_append ▸ h.sources.concat hfresh
  settled := settled_enlist h.settled rfl
  chapters u := by
    have hnone : r.entry? s = none :=
      Option.not_isSome_iff_eq_none.1 fun hs => hfresh (entry_isSome_iff.1 hs)
    have hentry := entry_enlist r (Entry.new since s start) u
    have htold := (tells_enlist r (Entry.new since s start)).eventsOf u
    have hchapter := h.chapters u
    rw [Registry.create, hentry, htold]
    by_cases hu : s = u
    · subst hu
      rw [hnone] at hchapter ⊢
      generalize r.eventsOf s = told at hchapter ⊢
      cases hchapter
      simpa [Entry.new, Session.new, SessionEvent.source] using Chapter.listed
    · simpa [hu, Entry.new, Session.new, SessionEvent.source] using hchapter

/-- **A session ends once.** -/
theorem retire (h : r.Chronicled) (hevent : event = .invalidated s ∨ event = .expired s) :
    (r.retire s event).1.Chronicled := by
  cases hlive : r.live? s with
  | none =>
    rw [retire_of_not_live hlive]
    exact h
  | some e =>
    obtain ⟨hentry, hlisted⟩ := live?_eq_some_iff.1 hlive
    have hsource : event.source = s := by rcases hevent with rfl | rfl <;> rfl
    refine ⟨?_, settled_retire h.settled event, fun u => ?_⟩
    · rw [Registry.sources, marks_retire]
      exact h.sources
    have htold := (tells_retire r s event).eventsOf u
    have hchapter := h.chapters u
    have hended : (r.retire s event).2 = true := by rw [retire_of_live h.settled hlive]
    rw [entry_retire h.settled, htold, hended]
    by_cases hu : u = s
    · subst hu
      rw [hentry] at hchapter ⊢
      rw [Option.map_some, hlisted] at hchapter
      generalize r.eventsOf u = told at hchapter ⊢
      cases hchapter
      rcases hevent with rfl | rfl
      · simpa [Entry.retire, SessionEvent.source] using Chapter.invalidated
      · simpa [Entry.retire, SessionEvent.source] using Chapter.expired
    · have hother : ¬ event.source = u := by rw [hsource]; exact fun heq => hu heq.symm
      simpa [hu, hother] using hchapter

theorem retireAll (h : r.Chronicled) (us : List SourceId) : (r.retireAll us).1.Chronicled := by
  induction us generalizing r with
  | nil => exact h
  | cons s rest ih => exact ih (h.retire (.inr rfl))

theorem glance (h : r.Chronicled) (now : Nat) (s : SourceId) : (r.glance now s).1.Chronicled := by
  unfold Registry.glance
  split
  · exact h
  · split
    · exact h
    · exact h.modify (fun _ => rfl) (fun _ => rfl) fun _ => rfl

theorem expire (h : r.Chronicled) (now : Nat) (s : SourceId) : (r.expire now s).Chronicled := by
  unfold Registry.expire
  split
  · exact h
  · split
    · exact h.retire (.inr rfl)
    · exact h

theorem addType (h : r.Chronicled) (s : SourceId) (t : TypeId) : (r.addType s t).1.Chronicled :=
  h.modify (fun _ => Session.source_subscribe _ t) (fun _ => rfl) fun e =>
    Session.invalidated_subscribe e.session t

end Chronicled

/-- What the sessions can become by what requests do from one pause to the next, in any order and
at any instants. -/
inductive Reached (ttl : Duration) : Registry → Prop where
  | new : Reached ttl (.new ttl)
  | create (r : Registry) (since : Nat) (fresh : SourceId) (start : Int) (h : Reached ttl r)
    (hfresh : fresh ∉ r.sources) : Reached ttl (r.create since fresh start)
  | glance (r : Registry) (now : Nat) (s : SourceId) (h : Reached ttl r) :
    Reached ttl (r.glance now s).1
  | expire (r : Registry) (now : Nat) (s : SourceId) (h : Reached ttl r) :
    Reached ttl (r.expire now s)
  | invalidate (r : Registry) (s : SourceId) (h : Reached ttl r) : Reached ttl (r.invalidate s).1
  | addType (r : Registry) (s : SourceId) (t : TypeId) (h : Reached ttl r) :
    Reached ttl (r.addType s t).1
  | removeType (r : Registry) (s : SourceId) (t : TypeId) (h : Reached ttl r) :
    Reached ttl (r.removeType s t).1
  | sweep (r : Registry) (since : Nat) (h : Reached ttl r) : Reached ttl (r.sweep since).1
  | enqueue (r : Registry) (s : SourceId) (ticket : Nat) (h : Reached ttl r) :
    Reached ttl (r.enqueue s ticket)
  | release (r : Registry) (s : SourceId) (ticket : Nat) (h : Reached ttl r) :
    Reached ttl (r.release s ticket)
  | touch (r : Registry) (s : SourceId) (now : Nat) (h : Reached ttl r) :
    Reached ttl (r.modify s (·.touch now))
  | update (r : Registry) (s : SourceId) (sequence : Int) (h : Reached ttl r) :
    Reached ttl (r.modifySession s (·.update sequence))

/-- **Whatever is done to the sessions, the listeners were told what has become of each.** -/
theorem Reached.chronicled {ttl : Duration} (h : Reached ttl r) : r.Chronicled := by
  induction h with
  | new => exact .new ttl
  | create r since fresh start _ hfresh ih => exact ih.create hfresh since start
  | glance r now s _ ih => exact ih.glance now s
  | expire r now s _ ih => exact ih.expire now s
  | invalidate r s _ ih => exact ih.retire (.inl rfl)
  | addType r s t _ ih => exact ih.addType s t
  | sweep r since _ ih => exact ih.retireAll _
  | removeType | enqueue | release | touch | update =>
    rename_i ih
    exact ih.modify (fun _ => rfl) (fun _ => rfl) fun _ => rfl

/-- What listeners hear of sessions, and how that agrees with the list and with the marks. -/
structure Lifecycle (r : Registry) : Prop where
  /-- That it was created comes first, and then at most one end. -/
  order : ∀ u, r.eventsOf u = [] ∨ ∃ ends, r.eventsOf u = .created u :: ends ∧ ends.length ≤ 1 ∧
    ∀ x ∈ ends, x = .invalidated u ∨ x = .expired u
  created : ∀ u, .created u ∈ r.feed.sent ↔ u ∈ r.sources
  /-- An end was told exactly of the sessions that are off the list. -/
  ended : ∀ u ∈ r.sources, (∃ x ∈ r.eventsOf u, x.isTerminal = true) ↔ r.live? u = none
  /-- A session is marked exactly if it is off the list. -/
  marked : ∀ e ∈ r.entries, e.session.invalidated = true ↔ e.listed = false
  /-- A session that was ended on request is never said to have expired. -/
  notExpired : ∀ u, .invalidated u ∈ r.feed.sent → .expired u ∉ r.feed.sent

theorem lifecycle_of_chronicled (h : r.Chronicled) : r.Lifecycle where
  order u := (h.chapters u).order
  created u := by
    have hmem : .created u ∈ r.eventsOf u ↔ .created u ∈ r.feed.sent := by
      rw [mem_eventsOf]
      exact and_iff_left rfl
    rw [← hmem, (h.chapters u).created_iff, Option.isSome_map, entry_isSome_iff]
  ended u hu := by
    obtain ⟨e, he⟩ := Option.isSome_iff_exists.1 (entry_isSome_iff.2 hu)
    rw [(h.chapters u).ended_iff, live?, he, Option.filter_eq_none_iff, Option.map_some]
    simp
  marked e he := by
    rw [show e.session.invalidated = !e.listed from h.settled e he]
    cases e.listed <;> simp
  notExpired u hinvalidated hexpired :=
    (h.chapters u).not_expired (mem_eventsOf.2 ⟨hinvalidated, rfl⟩) (mem_eventsOf.2 ⟨hexpired, rfl⟩)

/-- Whether the listeners were told that a session has ended. -/
def ToldEnded (r : Registry) (u : SourceId) : Prop :=
  ∃ x ∈ r.feed.sent, x.source = u ∧ x.isTerminal = true

theorem ToldEnded.mono {r' : Registry} (h : r.ToldEnded u) (hsent : r.feed.sent ⊆ r'.feed.sent) :
    r'.ToldEnded u := by
  obtain ⟨x, hx, hrest⟩ := h
  exact ⟨x, hsent hx, hrest⟩

theorem toldEnded_iff (h : r.Chronicled) (hu : u ∈ r.sources) :
    r.ToldEnded u ↔ r.live? u = none := by
  rw [← (lifecycle_of_chronicled h).ended u hu]
  simp only [ToldEnded, mem_eventsOf, and_assoc]

/-- A session of which it was told that it has ended is off the list. -/
theorem ToldEnded.live_eq_none (h : r.ToldEnded u) (hr : r.Chronicled) : r.live? u = none := by
  cases he : r.entry? u with
  | none => rw [live?, he]; rfl
  | some e => exact (toldEnded_iff hr (entry_isSome_iff.1 (by rw [he]; rfl))).1 h

end Registry
end EventRelay

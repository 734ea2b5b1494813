/-
# How far sessions have read, and who wants their turn

Of a session, what decides who consumes which events is its `Mark`: its source, the last
event it has consumed, and the queue for its turn.  Looking sessions up, subscribing and
ending them leave every mark as it is (`Registry.marks_lookup`, `Registry.marks_sweep` and
the like); only queuing up, leaving the queue, consuming, and new sessions change them.

As long as no two sessions have one source, `Registry.entry?` finds a session exactly when
it is there (`Registry.entry_eq_some_iff`).
-/

import EventRelay.Session.Registry
import Mathlib.Data.List.Nodup

namespace EventRelay

/-- Where a session stands among the events, and who queues up for it. -/
structure Mark where
  source : SourceId
  /-- The number of the last event that the session has consumed. -/
  last : Int
  queue : List Nat
  deriving DecidableEq

namespace Entry

/-- The mark of a session. -/
def mark (e : Entry) : Mark := ⟨e.session.source, e.session.lastSequence, e.queue⟩

@[simp] theorem mark_source (e : Entry) : e.mark.source = e.session.source := rfl

@[simp] theorem mark_last (e : Entry) : e.mark.last = e.session.lastSequence := rfl

@[simp] theorem mark_queue (e : Entry) : e.mark.queue = e.queue := rfl

@[simp] theorem mark_retire (e : Entry) : e.retire.mark = e.mark := rfl

end Entry

namespace Session

@[simp] theorem source_subscribe (s : Session) (t : TypeId) : (s.subscribe t).source = s.source := by
  unfold subscribe; split <;> rfl

@[simp] theorem lastSequence_subscribe (s : Session) (t : TypeId) :
    (s.subscribe t).lastSequence = s.lastSequence := by
  unfold subscribe; split <;> rfl

end Session

namespace Registry

variable {r : Registry} {s : SourceId}

/-- The marks of all sessions there have been. -/
def marks (r : Registry) : List Mark := r.entries.map Entry.mark

/-- The sources of all sessions there have been. -/
def sources (r : Registry) : List SourceId := r.marks.map Mark.source

/-- Where each session stands. -/
def positions (r : Registry) : List (SourceId × Int) := r.marks.map fun m => (m.source, m.last)

theorem map_fst_positions (r : Registry) : r.positions.map Prod.fst = r.sources := by
  simp [positions, sources]

theorem sources_eq (r : Registry) : r.sources = r.entries.map fun e => e.session.source := by
  simp [sources, marks]

/-- Sessions of different sources are found by their sources. -/
theorem entry_eq_some_iff (h : r.sources.Nodup) {e : Entry} :
    r.entry? s = some e ↔ e ∈ r.entries ∧ e.session.source = s := by
  constructor
  · intro he
    exact ⟨List.mem_of_find?_eq_some he, by simpa using List.find?_some he⟩
  · rintro ⟨hmem, rfl⟩
    obtain ⟨e', he'⟩ : ∃ e', r.entry? e.session.source = some e' := by
      refine Option.isSome_iff_exists.1 (List.find?_isSome.2 ⟨e, hmem, by simp⟩)
    have hsame : e'.session.source = e.session.source := by simpa using List.find?_some he'
    rw [sources_eq] at h
    rw [he', List.inj_on_of_nodup_map h (List.mem_of_find?_eq_some he') hmem hsame]

theorem entry_isSome_iff : (r.entry? s).isSome ↔ s ∈ r.sources := by
  rw [sources_eq, entry?, List.find?_isSome, List.mem_map]
  simp

theorem source_of_entry {e : Entry} (he : r.entry? s = some e) : e.session.source = s := by
  simpa using List.find?_some he

theorem mark_mem_of_entry {e : Entry} (he : r.entry? s = some e) : e.mark ∈ r.marks :=
  List.mem_map_of_mem (List.mem_of_find?_eq_some he)

/-- One mark for each source. -/
theorem mark_unique (h : r.sources.Nodup) {m m' : Mark} (hm : m ∈ r.marks) (hm' : m' ∈ r.marks)
    (hs : m.source = m'.source) : m = m' :=
  List.inj_on_of_nodup_map h hm hm' hs

/-- A change that keeps the source of every mark keeps the sources. -/
theorem sources_of_marks {r' : Registry} {f : Mark → Mark} (hr : r'.marks = r.marks.map f)
    (hf : ∀ m, (f m).source = m.source) : r'.sources = r.sources := by
  rw [sources, hr, List.map_map]
  exact List.map_congr_left fun m _ => hf m

/-- A change of nothing but the queues moves nobody. -/
theorem positions_of_marks {r' : Registry} {f : Mark → Mark} (hr : r'.marks = r.marks.map f)
    (hsource : ∀ m, (f m).source = m.source) (hlast : ∀ m, (f m).last = m.last) :
    r'.positions = r.positions := by
  rw [positions, hr, List.map_map]
  exact List.map_congr_left fun m _ => by simp [hsource, hlast]

/-! ### What the list says -/

theorem live?_eq_some_iff {e : Entry} :
    r.live? s = some e ↔ r.entry? s = some e ∧ e.listed = true := by
  rw [live?, Option.filter_eq_some_iff]

theorem glance_eq_live {r' : Registry} {now : Nat} (h : r.glance now s = (r', .live)) :
    r' = r.modify s (·.touch now) ∧ ∃ e, r.live? s = some e ∧ r.isStale now e = false := by
  unfold glance at h
  split at h
  · cases h
  · rename_i e hlive
    split at h
    · cases h
    · rename_i hstale
      cases h
      exact ⟨rfl, e, hlive, by simpa using hstale⟩

/-! ### What changes the marks -/

/-- A change that does `g` to the mark of a session does it to that mark alone. -/
theorem marks_modify {f : Entry → Entry} {g : Mark → Mark} (hf : ∀ e, (f e).mark = g e.mark) :
    (r.modify s f).marks = r.marks.map fun m => if m.source = s then g m else m := by
  simp only [marks, modify, List.map_map]
  refine List.map_congr_left fun e _ => ?_
  show (if e.session.source = s then f e else e).mark =
    if e.session.source = s then g e.mark else e.mark
  by_cases h : e.session.source = s
  · rw [if_pos h, if_pos h, hf e]
  · rw [if_neg h, if_neg h]

/-- A change that keeps the mark of a session keeps all marks. -/
theorem marks_modify_of_keeps {f : Entry → Entry} (hf : ∀ e, (f e).mark = e.mark) :
    (r.modify s f).marks = r.marks := by
  rw [marks_modify (g := id) hf]
  simp

theorem entry_modify {f : Entry → Entry} (hf : ∀ e, (f e).session.source = e.session.source)
    (u : SourceId) :
    Registry.entry? (r.modify s f) u = if u = s then (r.entry? u).map f else r.entry? u := by
  unfold entry? modify
  induction r.entries with
  | nil => simp
  | cons e es ih =>
    have hsource : (if e.session.source = s then f e else e).session.source = e.session.source := by
      split
      · exact hf e
      · rfl
    simp only [List.map_cons, List.find?_cons, hsource]
    by_cases hu : e.session.source = u
    · simp only [hu, decide_true]
      split <;> rfl
    · simp only [hu, decide_false, ih]

theorem entry_modify_self {f : Entry → Entry} {e : Entry} (he : r.entry? s = some e)
    (hf : ∀ e, (f e).session.source = e.session.source) :
    Registry.entry? (r.modify s f) s = some (f e) := by
  rw [entry_modify hf, if_pos rfl, he]
  rfl

/-- A new session takes no other's place. -/
theorem entry_enlist (r : Registry) (e : Entry) (u : SourceId) : Registry.entry? (r.enlist e) u =
    (r.entry? u).or (if e.session.source = u then some e else none) := by
  simp only [ entry?, enlist, tell, List.find?_append, List.find?_singleton, decide_eq_true_eq]

theorem entry_release {e : Entry} (he : r.entry? s = some e) (ticket : Nat) :
    Registry.entry? (r.release s ticket) s =
      some { e with queue := e.queue.filter (· ≠ ticket) } :=
  entry_modify_self he (by intro _; rfl)

theorem entry_update {e : Entry} (he : r.entry? s = some e) (n : Int) :
    Registry.entry? (r.modifySession s (·.update n)) s =
      some { e with session := e.session.update n } :=
  entry_modify_self he (by intro _; rfl)

theorem entry_touch {e : Entry} (he : r.entry? s = some e) (now : Nat) :
    Registry.entry? (r.modify s (·.touch now)) s = some (e.touch now) :=
  entry_modify_self he (by intro _; rfl)

@[simp] theorem marks_touch (r : Registry) (s : SourceId) (now : Nat) :
    (r.modify s (·.touch now)).marks = r.marks :=
  marks_modify_of_keeps fun _ => rfl

@[simp] theorem marks_retire (r : Registry) (s : SourceId) (event : SessionEvent) :
    (r.retire s event).1.marks = r.marks := by
  have hdiscard : (r.discard s).1.marks = r.marks := by
    unfold discard
    split
    · rfl
    · exact marks_modify_of_keeps Entry.mark_retire
  unfold retire
  split <;> simp_all [marks, tell]

@[simp] theorem marks_retireAll (r : Registry) (us : List SourceId) :
    (r.retireAll us).1.marks = r.marks := by
  induction us generalizing r with
  | nil => rfl
  | cons s rest ih => exact (ih _).trans (marks_retire r s _)

@[simp] theorem marks_glance (r : Registry) (now : Nat) (s : SourceId) :
    (r.glance now s).1.marks = r.marks := by
  unfold glance
  split
  · rfl
  · split <;> simp

@[simp] theorem marks_expire (r : Registry) (now : Nat) (s : SourceId) :
    (r.expire now s).marks = r.marks := by
  unfold expire
  split
  · rfl
  · split <;> simp

@[simp] theorem marks_invalidate (r : Registry) (s : SourceId) :
    (r.invalidate s).1.marks = r.marks :=
  marks_retire r s _

@[simp] theorem marks_sweep (r : Registry) (now : Nat) : (r.sweep now).1.marks = r.marks :=
  marks_retireAll r _

@[simp] theorem marks_addType (r : Registry) (s : SourceId) (t : TypeId) :
    (r.addType s t).1.marks = r.marks :=
  marks_modify_of_keeps fun e => by simp [Entry.mark]

@[simp] theorem marks_removeType (r : Registry) (s : SourceId) (t : TypeId) :
    (r.removeType s t).1.marks = r.marks :=
  marks_modify_of_keeps fun _ => rfl

theorem marks_enlist (r : Registry) (e : Entry) : (r.enlist e).marks = r.marks ++ [e.mark] := by
  simp [enlist, marks, tell]

theorem marks_update (r : Registry) (s : SourceId) (n : Int) :
    (r.modifySession s (·.update n)).marks =
      r.marks.map fun m => if m.source = s then { m with last := n } else m :=
  marks_modify (g := fun m => { m with last := n }) fun _ => rfl

theorem marks_enqueue (r : Registry) (s : SourceId) (ticket : Nat) :
    (r.enqueue s ticket).marks =
      r.marks.map fun m => if m.source = s then { m with queue := m.queue ++ [ticket] } else m :=
  marks_modify (g := fun m => { m with queue := m.queue ++ [ticket] }) fun _ => rfl

theorem marks_release (r : Registry) (s : SourceId) (ticket : Nat) :
    (r.release s ticket).marks =
      r.marks.map fun m =>
        if m.source = s then { m with queue := m.queue.filter (· ≠ ticket) } else m :=
  marks_modify (g := fun m => { m with queue := m.queue.filter (· ≠ ticket) }) fun _ => rfl

theorem sources_enqueue (r : Registry) (s : SourceId) (ticket : Nat) :
    (r.enqueue s ticket).sources = r.sources :=
  sources_of_marks (marks_enqueue r s ticket) fun m => by split <;> rfl

theorem sources_release (r : Registry) (s : SourceId) (ticket : Nat) :
    (r.release s ticket).sources = r.sources :=
  sources_of_marks (marks_release r s ticket) fun m => by split <;> rfl

theorem positions_enqueue (r : Registry) (s : SourceId) (ticket : Nat) :
    (r.enqueue s ticket).positions = r.positions :=
  positions_of_marks (marks_enqueue r s ticket) (fun m => by split <;> rfl)
    fun m => by split <;> rfl

theorem positions_release (r : Registry) (s : SourceId) (ticket : Nat) :
    (r.release s ticket).positions = r.positions :=
  positions_of_marks (marks_release r s ticket) (fun m => by split <;> rfl)
    fun m => by split <;> rfl

theorem sources_enlist (r : Registry) (e : Entry) :
    (r.enlist e).sources = r.sources ++ [e.session.source] := by
  simp [sources, marks_enlist]

end Registry
end EventRelay

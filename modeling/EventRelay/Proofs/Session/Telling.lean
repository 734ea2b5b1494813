/-
# What the listeners are told

`Registry.Tells r r' told` says that a change of the sessions tells the listeners exactly
`told`, in this order, and leaves the time to live as it is.  Only four changes tell
anything: a new session is put on the list, a session is ended on request, or it has been
idle for too long and is ended by the request that looked for it or by a sweep.
-/

import EventRelay.Proofs.Session.Ending
import EventRelay.Proofs.Session.Marks

namespace EventRelay
namespace Registry

/-- Whether a change of the sessions tells the listeners just this. -/
structure Tells (r r' : Registry) (told : List SessionEvent) : Prop where
  ttl : r'.ttl = r.ttl
  sent : r'.feed.sent = r.feed.sent ++ told

variable {r r' r'' : Registry} {s : SourceId}

theorem Tells.refl (r : Registry) : r.Tells r [] := ⟨rfl, (List.append_nil _).symm⟩

theorem Tells.trans {told told' : List SessionEvent} (h : r.Tells r' told)
    (h' : r'.Tells r'' told') : r.Tells r'' (told ++ told') :=
  ⟨h'.ttl.trans h.ttl, by rw [h'.sent, h.sent, List.append_assoc]⟩

theorem tells_modify (r : Registry) (s : SourceId) (f : Entry → Entry) :
    r.Tells (r.modify s f) [] :=
  ⟨rfl, (List.append_nil _).symm⟩

theorem tells_enlist (r : Registry) (e : Entry) :
    r.Tells (r.enlist e) [.created e.session.source] :=
  ⟨rfl, rfl⟩

/-- Ending a session tells that it has ended, unless it had ended before. -/
theorem tells_retire (r : Registry) (s : SourceId) (event : SessionEvent) :
    r.Tells (r.retire s event).1 (if (r.retire s event).2 then [event] else []) := by
  have hdiscard : r.Tells (r.discard s).1 [] := by
    unfold discard
    split
    · exact .refl r
    · exact tells_modify r s _
  unfold retire
  generalize r.discard s = result at hdiscard
  obtain ⟨r', _ | _⟩ := result
  · exact hdiscard
  · exact ⟨hdiscard.ttl, by rw [← List.append_nil r.feed.sent, ← hdiscard.sent]; rfl⟩

/-- A session that is on the list has not ended before. -/
theorem retire_of_live (h : r.Settled) {e : Entry} (hlive : r.live? s = some e)
    (event : SessionEvent) : r.retire s event = ((r.modify s Entry.retire).tell event, true) := by
  obtain ⟨hentry, hlisted⟩ := live?_eq_some_iff.1 hlive
  have hended : e.session.invalidated = false := by rw [h.of_entry hentry, hlisted]; rfl
  simp [retire, discard, hlive, hended]

/-- A session that is not on the list is left as it is. -/
theorem retire_of_not_live (hlive : r.live? s = none) (event : SessionEvent) :
    r.retire s event = (r, false) := by
  simp [retire, discard, hlive]

/-- A session that is off the list has ended, and ending it again changes nothing. -/
theorem entry_retire (h : r.Settled) (s u : SourceId) (event : SessionEvent) :
    Registry.entry? (r.retire s event).1 u =
      if u = s then (r.entry? u).map Entry.retire else r.entry? u := by
  cases hlive : r.live? s with
  | some e =>
    rw [retire_of_live h hlive]
    exact entry_modify (f := Entry.retire) (fun _ => rfl) u
  | none =>
    rw [retire_of_not_live hlive]
    split
    · rename_i hu
      subst hu
      cases he : r.entry? u with
      | none => rfl
      | some e =>
        have hlisted : e.listed = false := by
          rw [live?, he, Option.filter_eq_none_iff] at hlive
          simpa using hlive e rfl
        rw [Option.map_some, Entry.retire_of_not_listed (h e (List.mem_of_find?_eq_some he)) hlisted]
    · rfl

theorem tells_glance (r : Registry) (now : Nat) (s : SourceId) :
    r.Tells (r.glance now s).1 [] := by
  unfold glance
  split
  · exact .refl r
  · split
    · exact .refl r
    · exact tells_modify r s _

theorem tells_addType (r : Registry) (s : SourceId) (t : TypeId) :
    r.Tells (r.addType s t).1 [] :=
  tells_modify r s _

theorem tells_removeType (r : Registry) (s : SourceId) (t : TypeId) :
    r.Tells (r.removeType s t).1 [] :=
  tells_modify r s _

/-- Ending sessions that are on the list tells so of each of them. -/
theorem tells_retireAll (h : r.Settled) {us : List SourceId} (hus : us.Nodup)
    (hlive : ∀ u ∈ us, (r.live? u).isSome) :
    r.Tells (r.retireAll us).1 (us.map .expired) ∧ (r.retireAll us).2 = us.length := by
  induction us generalizing r with
  | nil => exact ⟨.refl r, rfl⟩
  | cons s rest ih =>
    obtain ⟨hs, hrest⟩ := List.nodup_cons.1 hus
    obtain ⟨e, he⟩ := Option.isSome_iff_exists.1 (hlive s List.mem_cons_self)
    have htold := tells_retire r s (.expired s)
    have hended : (r.retire s (.expired s)).2 = true := by rw [retire_of_live h he]
    rw [hended] at htold
    obtain ⟨hothers, hcount⟩ := ih (settled_retire (s := s) h (.expired s)) hrest fun u hu => by
      have hne : u ≠ s := fun heq => hs (heq ▸ hu)
      rw [live?, entry_retire h, if_neg hne]
      exact hlive u (List.mem_cons_of_mem s hu)
    refine ⟨htold.trans hothers, ?_⟩
    simp only [retireAll, hended, hcount, if_true, List.length_cons]

/-- A sweep ends the sessions that have been idle for too long and on which nobody polls. -/
theorem mem_sweepable (h : r.sources.Nodup) {now : Nat} :
    s ∈ r.sweepable now ↔
      ∃ e, r.live? s = some e ∧ e.isPolling = false ∧ r.ttl.nanos ≤ e.idle now := by
  constructor
  · intro hs
    obtain ⟨e, he, rfl⟩ := List.mem_map.1 hs
    obtain ⟨hmem, hsweep⟩ := List.mem_filter.1 he
    simp only [isSweepable, isStale, Bool.and_eq_true, Bool.not_eq_true', decide_eq_true_eq]
      at hsweep
    exact ⟨e, live?_eq_some_iff.2 ⟨(entry_eq_some_iff h).2 ⟨hmem, rfl⟩, hsweep.1.1⟩, hsweep.1.2,
      hsweep.2⟩
  · rintro ⟨e, hlive, hpolling, hidle⟩
    obtain ⟨hentry, hlisted⟩ := live?_eq_some_iff.1 hlive
    obtain ⟨hmem, rfl⟩ := (entry_eq_some_iff h).1 hentry
    refine List.mem_map_of_mem (List.mem_filter.2 ⟨hmem, ?_⟩)
    simp [isSweepable, isStale, hlisted, hpolling, hidle]

/-- A sweep tells of each session that it ends. -/
theorem tells_sweep (h : r.Settled) (hsources : r.sources.Nodup) (now : Nat) :
    r.Tells (r.sweep now).1 ((r.sweepable now).map .expired) ∧
      (r.sweep now).2 = (r.sweepable now).length := by
  have hnodup : (r.sweepable now).Nodup := by
    rw [sources_eq] at hsources
    exact hsources.sublist (List.filter_sublist.map _)
  refine tells_retireAll h hnodup fun u hu => ?_
  obtain ⟨e, he, -⟩ := (mem_sweepable hsources).1 hu
  rw [he]
  rfl

end Registry
end EventRelay

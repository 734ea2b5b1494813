/-
# What is done to one session leaves the others alone

Every change of the sessions is made to the session of one source, but for a sweep, which asks
of each session by itself whether to end it (`Registry.entry_sweep`).
-/

import EventRelay.Proofs.Session.Lapsing

namespace EventRelay
namespace Registry

variable {r : Registry} {s u : SourceId}

theorem entry_modify_of_ne {f : Entry → Entry} (hf : ∀ e, (f e).session.source = e.session.source)
    (hu : u ≠ s) : Registry.entry? (r.modify s f) u = r.entry? u := by
  rw [entry_modify hf, if_neg hu]

theorem entry_glance_of_ne (hu : u ≠ s) (now : Nat) :
    Registry.entry? (r.glance now s).1 u = r.entry? u := by
  unfold glance
  split
  · rfl
  · split
    · rfl
    · exact entry_modify_of_ne (fun _ => rfl) hu

theorem entry_retire_of_ne (h : r.Settled) (hu : u ≠ s) (event : SessionEvent) :
    Registry.entry? (r.retire s event).1 u = r.entry? u := by
  rw [entry_retire h, if_neg hu]

theorem entry_expire_of_ne (h : r.Settled) (hu : u ≠ s) (now : Nat) :
    Registry.entry? (r.expire now s) u = r.entry? u := by
  unfold expire
  split
  · rfl
  · split
    · exact entry_retire_of_ne h hu _
    · rfl

theorem entry_enlist_of_ne {e : Entry} (hu : u ≠ e.session.source) :
    Registry.entry? (r.enlist e) u = r.entry? u := by
  rw [entry_enlist, if_neg hu.symm, Option.or_none]

/-- **A sweep asks of each session by itself.** -/
theorem entry_sweep (h : r.Settled) (hsources : r.sources.Nodup) (now : Nat) (u : SourceId) :
    Registry.entry? (r.sweep now).1 u =
      (r.entry? u).map fun e => if r.isSweepable now e then e.retire else e := by
  have hfind : Registry.entry? (r.sweep now).1 u =
      (r.entry? u).map (Entry.endedAmong (r.sweepable now)) := by
    unfold entry? sweep
    rw [entries_retireAll h hsources, List.find?_map]
    refine congrArg (Option.map _) (congrArg (List.find? · _) (funext fun e => ?_))
    simp only [Function.comp_apply, Entry.source_endedAmong]
  rw [hfind]
  cases he : r.entry? u with
  | none => rfl
  | some e =>
    have hsource := source_of_entry he
    have hswept : u ∈ r.sweepable now ↔ r.isSweepable now e = true := by
      rw [mem_sweepable hsources]
      simp [live?, he, isSweepable, isStale, Option.filter_eq_some_iff, and_assoc]
    simp only [Option.map_some, Entry.endedAmong, hsource, hswept]

end Registry
end EventRelay

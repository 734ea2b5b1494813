/-
# Sessions that have lapsed

A session that has been idle for too long and on which nobody polls is as good as ended: whatever
comes next finds it so.  `Registry.Lapsed` compares sessions of which some have ended with the same
ones of which those have only lapsed, and says what each change of the sessions makes of the
difference.  Ending sessions comes down to one map on the entries (`Entry.endedAmong`).
-/

import EventRelay.Proofs.Session.Telling

namespace EventRelay

/-- An entry once the sessions of some sources have ended. -/
def Entry.endedAmong (us : List SourceId) (e : Entry) : Entry :=
  if e.session.source ∈ us then e.retire else e

namespace Entry

variable {us vs : List SourceId} {e : Entry}

@[simp] theorem source_endedAmong (us : List SourceId) (e : Entry) :
    (e.endedAmong us).session.source = e.session.source := by
  unfold endedAmong
  split <;> rfl

theorem endedAmong_of_mem (h : e.session.source ∈ us) : e.endedAmong us = e.retire := if_pos h

theorem endedAmong_of_not_mem (h : e.session.source ∉ us) : e.endedAmong us = e := if_neg h

theorem map_endedAmong_nil (es : List Entry) : es.map (endedAmong []) = es :=
  (List.map_congr_left fun _ _ => endedAmong_of_not_mem List.not_mem_nil).trans (List.map_id _)

/-- Sessions end once. -/
theorem endedAmong_endedAmong (us vs : List SourceId) (e : Entry) :
    (e.endedAmong us).endedAmong vs = e.endedAmong (us ++ vs) := by
  by_cases hu : e.session.source ∈ us
  · rw [endedAmong_of_mem (List.mem_append_left _ hu), endedAmong_of_mem hu]
    unfold endedAmong
    split <;> rfl
  · rw [endedAmong_of_not_mem hu]
    simp only [endedAmong, List.mem_append, hu, false_or]

theorem endedAmong_congr (h : ∀ u, u ∈ us ↔ u ∈ vs) : e.endedAmong us = e.endedAmong vs := by
  simp only [endedAmong, h]

end Entry

namespace Registry

variable {r r' : Registry} {us : List SourceId} {u : SourceId} {e : Entry} {now : Nat}

/-- Ending a session changes the entries in one way, whether it is on the list or not. -/
theorem entries_retire (h : r.Settled) (hsources : r.sources.Nodup) (u : SourceId)
    (event : SessionEvent) :
    (r.retire u event).1.entries = r.entries.map (Entry.endedAmong [u]) := by
  cases hlive : r.live? u with
  | some e =>
    rw [retire_of_live h hlive]
    exact List.map_congr_left fun e _ => by simp only [Entry.endedAmong, List.mem_singleton]
  | none =>
    rw [retire_of_not_live hlive]
    refine (List.map_id _).symm.trans (List.map_congr_left fun e he => ?_)
    by_cases hu : e.session.source ∈ [u]
    · rw [Entry.endedAmong_of_mem hu]
      have hentry := (entry_eq_some_iff hsources).2 ⟨he, List.mem_singleton.1 hu⟩
      rw [live?, hentry, Option.filter_eq_none_iff] at hlive
      exact (Entry.retire_of_not_listed (h e he) (by simpa using hlive e rfl)).symm
    · rw [Entry.endedAmong_of_not_mem hu]
      rfl

theorem entries_retireAll (h : r.Settled) (hsources : r.sources.Nodup) (us : List SourceId) :
    (r.retireAll us).1.entries = r.entries.map (Entry.endedAmong us) := by
  induction us generalizing r with
  | nil => exact (Entry.map_endedAmong_nil _).symm
  | cons u rest ih =>
    have hsame : (r.retire u (.expired u)).1.sources = r.sources := by
      rw [sources, marks_retire]
      rfl
    have hrest := ih (settled_retire (s := u) h (.expired u)) (hsame ▸ hsources)
    rw [entries_retire h hsources, List.map_map] at hrest
    exact hrest.trans (List.map_congr_left fun e _ => Entry.endedAmong_endedAmong [u] rest e)

/-- Whether the sessions of `r` are those of `r'`, but for some that have ended in `r` and have only
lapsed in `r'`: they have been idle for too long there, and nobody polls on them. -/
structure Lapsed (us : List SourceId) (now : Nat) (r r' : Registry) : Prop where
  ttl : r.ttl = r'.ttl
  entries : r.entries = r'.entries.map (Entry.endedAmong us)
  idle : ∀ u ∈ us, ∃ e, r'.live? u = some e ∧ e.queue = [] ∧ r'.isStale now e = true

namespace Lapsed

theorem refl (r : Registry) (now : Nat) : Lapsed [] now r r where
  ttl := rfl
  entries := (Entry.map_endedAmong_nil _).symm
  idle _ hu := absurd hu List.not_mem_nil

theorem entry (h : Lapsed us now r r') (u : SourceId) :
    r.entry? u = (r'.entry? u).map (Entry.endedAmong us) := by
  unfold entry?
  rw [h.entries, List.find?_map]
  refine congrArg (Option.map _) (congrArg (List.find? · _) (funext fun e => ?_))
  simp only [Function.comp_apply, Entry.source_endedAmong]

/-- Any other session is the same. -/
theorem entry_eq (h : Lapsed us now r r') (hu : u ∉ us) : r.entry? u = r'.entry? u := by
  rw [h.entry u]
  cases he : r'.entry? u with
  | none => rfl
  | some e =>
    rw [Option.map_some, Entry.endedAmong_of_not_mem (by rwa [source_of_entry he])]

theorem live_eq (h : Lapsed us now r r') (hu : u ∉ us) : r.live? u = r'.live? u := by
  rw [live?, live?, h.entry_eq hu]

/-- A session that has lapsed is off the list. -/
theorem live_eq_none (h : Lapsed us now r r') (hu : u ∈ us) : r.live? u = none := by
  obtain ⟨e, he, -⟩ := h.idle u hu
  have hentry := (live?_eq_some_iff.1 he).1
  rw [live?, h.entry u, hentry, Option.map_some,
    Entry.endedAmong_of_mem (by rwa [source_of_entry hentry])]
  rfl

/-- Time passes. -/
theorem later {now' : Nat} (h : Lapsed us now r r') (hnow : now ≤ now') : Lapsed us now' r r' where
  ttl := h.ttl
  entries := h.entries
  idle u hu := by
    obtain ⟨e, he, hqueue, hstale⟩ := h.idle u hu
    refine ⟨e, he, hqueue, ?_⟩
    have hidle : r'.ttl.nanos ≤ e.idle now := of_decide_eq_true hstale
    exact decide_eq_true (Nat.le_trans hidle (Nat.sub_le_sub_right hnow _))

/-- A session changes that has not lapsed. -/
theorem modify (h : Lapsed us now r r') (hu : u ∉ us) {f : Entry → Entry}
    (hf : ∀ e, (f e).session.source = e.session.source) :
    Lapsed us now (r.modify u f) (r'.modify u f) where
  ttl := h.ttl
  entries := by
    simp only [Registry.modify, h.entries, List.map_map]
    refine List.map_congr_left fun e _ => ?_
    simp only [Function.comp_apply, Entry.source_endedAmong]
    split
    · rename_i hsource
      have hmem : e.session.source ∉ us := by rwa [hsource]
      rw [Entry.endedAmong_of_not_mem hmem,
        Entry.endedAmong_of_not_mem (by rwa [hf e])]
    · rfl
  idle v hv := by
    obtain ⟨e, he, hrest⟩ := h.idle v hv
    have hne : v ≠ u := fun heq => hu (heq ▸ hv)
    refine ⟨e, ?_, hrest⟩
    rwa [live?, entry_modify hf, if_neg hne]

/-- Listeners are told something. -/
theorem tell (h : Lapsed us now r r') (event event' : SessionEvent) :
    Lapsed us now (r.tell event) (r'.tell event') :=
  ⟨h.ttl, h.entries, h.idle⟩

/-- A new session is put on the list. -/
theorem enlist (h : Lapsed us now r r') (he : e.session.source ∉ us) :
    Lapsed us now (r.enlist e) (r'.enlist e) where
  ttl := h.ttl
  entries := by
    simp only [Registry.enlist, Registry.tell, List.map_append, List.map_singleton,
      Entry.endedAmong_of_not_mem he, h.entries]
  idle u hu := by
    obtain ⟨e', he', hrest⟩ := h.idle u hu
    obtain ⟨hentry, hlisted⟩ := live?_eq_some_iff.1 he'
    refine ⟨e', live?_eq_some_iff.2 ⟨?_, hlisted⟩, hrest⟩
    rw [entry_enlist, hentry]
    rfl

/-- **Sessions end on either side.** -/
theorem ends {r₁ r₁' : Registry} {us' vs vs' : List SourceId} (h : Lapsed us now r r')
    (hr : r₁.entries = r.entries.map (Entry.endedAmong vs))
    (hr' : r₁'.entries = r'.entries.map (Entry.endedAmong vs')) (httl : r₁.ttl = r.ttl)
    (httl' : r₁'.ttl = r'.ttl) (hsame : ∀ u, u ∈ us ++ vs ↔ u ∈ vs' ++ us')
    (hidle : ∀ u ∈ us', u ∉ vs' ∧ ∃ e, r'.live? u = some e ∧ e.queue = [] ∧
      r'.isStale now e = true) : Lapsed us' now r₁ r₁' where
  ttl := httl.trans (h.ttl.trans httl'.symm)
  entries := by
    rw [hr, hr', h.entries, List.map_map, List.map_map]
    refine List.map_congr_left fun e _ => ?_
    simp only [Function.comp_apply, Entry.endedAmong_endedAmong]
    exact Entry.endedAmong_congr hsame
  idle u hu := by
    obtain ⟨hvs, e, he, hqueue, hstale⟩ := hidle u hu
    obtain ⟨hentry, hlisted⟩ := live?_eq_some_iff.1 he
    refine ⟨e, live?_eq_some_iff.2 ⟨?_, hlisted⟩, hqueue, ?_⟩
    · unfold entry?
      rw [hr', List.find?_map]
      have hsource : e.session.source ∉ vs' := by rwa [source_of_entry hentry]
      have hfind : (fun e : Entry => decide (e.session.source = u)) ∘ Entry.endedAmong vs' =
          fun e => decide (e.session.source = u) :=
        funext fun e => by simp only [Function.comp_apply, Entry.source_endedAmong]
      rw [hfind, show r'.entries.find? _ = some e from hentry, Option.map_some,
        Entry.endedAmong_of_not_mem hsource]
    · rwa [isStale, httl']

/-- A session that has not lapsed ends on both sides. -/
theorem retire (h : Lapsed us now r r') (hu : u ∉ us) (hr : r.Settled) (hr' : r'.Settled)
    (event : SessionEvent) : Lapsed us now (r.retire u event).1 (r'.retire u event).1 := by
  have hlive := h.live_eq hu
  cases hl : r'.live? u with
  | none =>
    rw [retire_of_not_live hl, retire_of_not_live (hlive.trans hl)]
    exact h
  | some e =>
    rw [retire_of_live hr' hl, retire_of_live hr (hlive.trans hl)]
    exact (h.modify hu (f := Entry.retire) fun _ => rfl).tell event event

/-- A session that has lapsed ends. -/
theorem retire_right (h : Lapsed us now r r') (hu : u ∈ us) (hr' : r'.Settled)
    (hsources : r'.sources.Nodup) (event : SessionEvent) :
    Lapsed (us.filter (· ≠ u)) now r (r'.retire u event).1 := by
  refine h.ends (Entry.map_endedAmong_nil _).symm (entries_retire hr' hsources u event) rfl
    (tells_retire r' u event).ttl (fun v => ?_) fun v hv => ?_
  · by_cases hvu : v = u
    · simp [hvu, hu]
    · simp [hvu]
  · obtain ⟨hmem, hne⟩ := List.mem_filter.1 hv
    exact ⟨by simpa using hne, h.idle v hmem⟩

/-- A sweep ends sessions that would have lapsed. -/
theorem sweep_left (h : Lapsed us now r r') (hr : r.Settled) (hsources : r.sources.Nodup)
    {since : Nat} (hsince : since ≤ now) :
    Lapsed (us ++ r.sweepable since) now (r.sweep since).1 r' := by
  refine h.ends (entries_retireAll hr hsources _) (Entry.map_endedAmong_nil _).symm
    (tells_sweep hr hsources since).1.ttl rfl (fun v => by simp)
    fun v hv => ⟨List.not_mem_nil, ?_⟩
  rcases List.mem_append.1 hv with hold | hnew
  · exact h.idle v hold
  · obtain ⟨e, he, hpolling, hidle⟩ := (mem_sweepable hsources).1 hnew
    have hvus : v ∉ us := fun hin => by simp [h.live_eq_none hin] at he
    refine ⟨e, (h.live_eq hvus).symm.trans he, by simpa [Entry.isPolling] using hpolling, ?_⟩
    rw [h.ttl] at hidle
    exact decide_eq_true (Nat.le_trans hidle (Nat.sub_le_sub_right hsince _))

/-- What a sweep finds among the sessions that have not lapsed is the same. -/
theorem mem_sweepable_iff (h : Lapsed us now r r') (hsources : r.sources.Nodup)
    (hsources' : r'.sources.Nodup) {since : Nat} :
    u ∈ r.sweepable since ↔ u ∉ us ∧ u ∈ r'.sweepable since := by
  by_cases hu : u ∈ us
  · have hnone : u ∉ r.sweepable since := by
      rw [mem_sweepable hsources, h.live_eq_none hu]
      simp
    simp [hu, hnone]
  · rw [mem_sweepable hsources, mem_sweepable hsources', h.live_eq hu, h.ttl]
    simp [hu]

/-- A sweep on both sides. -/
theorem sweep (h : Lapsed us now r r') (hr : r.Settled) (hr' : r'.Settled)
    (hsources : r.sources.Nodup) (hsources' : r'.sources.Nodup) (since : Nat) :
    Lapsed (us.filter (· ∉ r'.sweepable since)) now (r.sweep since).1 (r'.sweep since).1 := by
  refine h.ends (entries_retireAll hr hsources _) (entries_retireAll hr' hsources' _)
    (tells_sweep hr hsources since).1.ttl (tells_sweep hr' hsources' since).1.ttl (fun v => ?_)
    fun v hv => ?_
  · have hmem : v ∈ r.sweepable since ↔ v ∉ us ∧ v ∈ r'.sweepable since :=
      h.mem_sweepable_iff hsources hsources'
    simp only [List.mem_append, List.mem_filter, decide_eq_true_eq, hmem]
    tauto
  · obtain ⟨hold, hnot⟩ := List.mem_filter.1 hv
    exact ⟨by simpa using hnot, h.idle v hold⟩

end Lapsed

end Registry
end EventRelay

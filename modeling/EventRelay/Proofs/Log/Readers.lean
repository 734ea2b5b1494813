/-
# A log with waiting readers

What holds of a log and its readers at every moment of a schedule (`Readers.InOrder`), and what one
thing that happens does to the readers:

| move | the others |
| --- | --- |
| somebody comes, or gives up | stay as they are (`Readers.lookup_wait`) |
| everyone goes whose time has come | stay or go, each by its own times (`Readers.lookup_release`) |
| whatever happens | keep what they have been given (`Readers.result?_run`) |

Whoever goes is given what a drain gives at that instant (`Readers.given_of_step`).  The clock of a
log lets time pass as a schedule does, and can always run on (`Readers.exists_passes`).
-/

import EventRelay.Log.Schedule
import EventRelay.Proofs.Log.Ring
import EventRelay.Proofs.Tickets
import Mathlib.Data.List.Induction

namespace EventRelay

/-- What the earliest of some instants is. -/
theorem earliest?_spec (ds : List Nat) :
    match earliest? ds with
    | none => ds = []
    | some d => d ∈ ds ∧ ∀ d' ∈ ds, d ≤ d' := by
  induction ds using List.reverseRecOn with
  | nil => rfl
  | append_singleton ds d ih =>
    have hlast : earliest? (ds ++ [d]) = earlier? (earliest? ds) (some d) := by
      simp [earliest?]
    rw [hlast]
    cases hd : earliest? ds with
    | none =>
      rw [hd] at ih
      simp [earlier?, ih]
    | some d₀ =>
      rw [hd] at ih
      have hmin : min d₀ d = d₀ ∨ min d₀ d = d := by omega
      refine ⟨?_, fun d' hd' => ?_⟩
      · rcases hmin with h | h <;> simp [h, ih.1]
      · rcases List.mem_append.1 hd' with hmem | hmem
        · exact Nat.le_trans (Nat.min_le_left ..) (ih.2 d' hmem)
        · obtain rfl := List.mem_singleton.1 hmem
          exact Nat.min_le_right ..

namespace Readers

variable {r r' r₀ : Readers} {m : Move} {ms : List Move} {k t capacity : Nat} {w : Wait}

/-- What is true of readers all the time. -/
structure InOrder (r : Readers) : Prop where
  holds : ∃ events, r.log.Holds events
  nodup : (r.waiting.map Prod.fst).Nodup
  waiting_lt : ∀ {k w}, (k, w) ∈ r.waiting → k < r.ticket
  finished_lt : ∀ {k given}, (k, given) ∈ r.finished → k < r.ticket
  apart : ∀ {k w given}, (k, w) ∈ r.waiting → (k, given) ∉ r.finished
  /-- Nobody is in the second stage before the first is over. -/
  lingers : ∀ {k w}, (k, w) ∈ r.waiting → w.stage = .lingering → w.minDue ≤ r.now

/-- What a reader is given that goes at an instant. -/
def given? (log : Log) (now : Nat) (w : Wait) : Option (Nat × Outcome Drain) :=
  if (w.advance now log.cursor).isNone then some (now, log.drain w.target) else none

theorem waiting_release (r : Readers) :
    r.release.waiting =
      r.waiting.filterMap fun p => (p.2.advance r.now r.log.cursor).map (p.1, ·) := by
  simp only [release, List.filterMap_map]
  rfl

theorem finished_release (r : Readers) :
    r.release.finished =
      r.finished ++ r.waiting.filterMap fun p => (given? r.log r.now p.2).map (p.1, ·) := by
  simp only [release, List.filterMap_map, List.append_cancel_left_eq]
  congr 1
  funext p
  simp only [Function.comp_apply, given?]
  split <;> rfl

namespace InOrder

theorem new (hnew : Readers.new capacity = .ok r) : r.InOrder := by
  unfold Readers.new at hnew
  cases hlog : Log.new capacity with
  | error fault => rw [hlog] at hnew; cases hnew
  | ok log =>
    rw [hlog] at hnew
    cases hnew
    exact ⟨⟨[], .new hlog⟩, by simp, by simp, by simp, by simp, by simp⟩

theorem publish (h : r.InOrder) (stamp : Stamp) (typeId : TypeId) (payload : Json.Value) :
    (r.publish stamp typeId payload).InOrder := by
  obtain ⟨events, hholds⟩ := h.holds
  exact { h with holds := ⟨_, hholds.publish stamp typeId payload⟩ }

theorem wait (h : r.InOrder) (start : Int) (minWait maxWait : Duration) :
    (r.wait start minWait maxWait).1.InOrder := by
  have hfree : r.ticket ∉ r.waiting.map Prod.fst := by
    simp only [List.mem_map, not_exists, not_and]
    intro p hp heq
    exact absurd (h.waiting_lt hp) (by omega)
  unfold Readers.wait
  cases r.log.ensureRetained (Log.before start) with
  | error fault =>
    refine { h with waiting_lt := fun hk => ?_, finished_lt := fun hk => ?_, apart := fun hk => ?_ }
    · exact Nat.lt_succ_of_lt (h.waiting_lt hk)
    · simp only [List.mem_append, List.mem_singleton, Prod.mk.injEq] at hk
      rcases hk with hk | ⟨rfl, -⟩
      · exact Nat.lt_succ_of_lt (h.finished_lt hk)
      · exact Nat.lt_succ_self _
    · simp only [List.mem_append, List.mem_singleton, Prod.mk.injEq, not_or, not_and]
      refine ⟨h.apart hk, fun heq => ?_⟩
      exact absurd (h.waiting_lt hk) (by omega)
  | ok =>
    have hmem {k : Nat} {w : Wait}
        (hk : (k, w) ∈ r.waiting ++ [(r.ticket, Wait.start r.now start minWait maxWait)]) :
        (k, w) ∈ r.waiting ∨ k = r.ticket ∧ w = Wait.start r.now start minWait maxWait := by
      simpa using hk
    refine { h with
      nodup := ?_, waiting_lt := fun hk => ?_, finished_lt := fun hk => ?_,
      apart := fun hk => ?_, lingers := fun hk hstage => ?_ }
    · simp only [List.map_append, List.map_cons, List.map_nil]
      exact List.nodup_append.2 ⟨h.nodup, by simp, by
        simp only [List.mem_singleton]; rintro a ha _ rfl rfl; exact hfree ha⟩
    · rcases hmem hk with hk | ⟨rfl, -⟩
      · exact Nat.lt_succ_of_lt (h.waiting_lt hk)
      · exact Nat.lt_succ_self _
    · exact Nat.lt_succ_of_lt (h.finished_lt hk)
    · rcases hmem hk with hk | ⟨rfl, -⟩
      · exact h.apart hk
      · exact fun hfinished => absurd (h.finished_lt hfinished) (Nat.lt_irrefl _)
    · rcases hmem hk with hk | ⟨-, rfl⟩
      · exact h.lingers hk hstage
      · cases hstage

theorem cancel (h : r.InOrder) (j : Nat) : (r.cancel j).InOrder :=
  have hmem {k : Nat} {w : Wait} (hk : (k, w) ∈ (r.cancel j).waiting) : (k, w) ∈ r.waiting :=
    (Tickets.mem_without.1 hk).1
  { h with
    nodup := (h.nodup.sublist ((List.filter_sublist).map _))
    waiting_lt := fun hk => h.waiting_lt (hmem hk)
    apart := fun hk => h.apart (hmem hk)
    lingers := fun hk => h.lingers (hmem hk) }

theorem later (h : r.InOrder) (hlater : r.now ≤ t) : InOrder { r with now := t } :=
  { h with lingers := fun hk hstage => Nat.le_trans (h.lingers hk hstage) hlater }

theorem release (h : r.InOrder) : r.release.InOrder := by
  have hwaits {k : Nat} {w' : Wait} (hk : (k, w') ∈ r.release.waiting) :
      ∃ w, (k, w) ∈ r.waiting ∧ w.advance r.now r.log.cursor = some w' := by
    rw [waiting_release] at hk
    exact (Tickets.mem_filterMap (g := fun w : Wait => w.advance r.now r.log.cursor)).1 hk
  have hgoes {k : Nat} {given} (hk : (k, given) ∈ r.release.finished) :
      (k, given) ∈ r.finished ∨
        ∃ w, (k, w) ∈ r.waiting ∧ w.advance r.now r.log.cursor = none := by
    rw [finished_release, List.mem_append] at hk
    refine hk.imp_right fun hk => ?_
    obtain ⟨w, hw, hgiven⟩ := Tickets.mem_filterMap.1 hk
    refine ⟨w, hw, ?_⟩
    unfold given? at hgiven
    split at hgiven
    · rename_i hnone
      simpa using hnone
    · cases hgiven
  refine { h with
    nodup := ?_, waiting_lt := fun hk => ?_, finished_lt := fun hk => ?_,
    apart := fun hk hfinished => ?_, lingers := fun hk hstage => ?_ }
  · rw [waiting_release]
    exact h.nodup.sublist (Tickets.keys_filterMap _ fun w : Wait => w.advance r.now r.log.cursor)
  · obtain ⟨w, hw, -⟩ := hwaits hk
    exact h.waiting_lt hw
  · rcases hgoes hk with hk | ⟨w, hw, -⟩
    · exact h.finished_lt hk
    · exact h.waiting_lt hw
  · obtain ⟨w, hw, hstays⟩ := hwaits hk
    rcases hgoes hfinished with hk | ⟨w', hw', hgone⟩
    · exact h.apart hw hk
    · rw [Tickets.unique h.nodup hw hw', hgone] at hstays
      cases hstays
  · obtain ⟨w, hw, hstays⟩ := hwaits hk
    rw [(Wait.advance_keeps hstays).2.1]
    exact Wait.over_of_lingering hstays hstage (h.lingers hw)

/-- Whoever waits has been given nothing. -/
theorem result?_of_waiting (h : r.InOrder) (hk : (k, w) ∈ r.waiting) : r.result? k = none := by
  refine List.lookup_eq_none_iff.2 fun q hq => ?_
  by_contra heq
  obtain rfl : k = q.1 := by simpa using heq
  exact h.apart hk hq

/-- The next ticket is nobody's. -/
theorem result?_ticket (h : r.InOrder) : r.result? r.ticket = none :=
  List.lookup_eq_none_iff.2 fun _ hq => by simpa using (Nat.ne_of_lt (h.finished_lt hq)).symm

theorem waiting_ticket (h : r.InOrder) : r.waiting.lookup r.ticket = none :=
  List.lookup_eq_none_iff.2 fun _ hp => by simpa using (Nat.ne_of_lt (h.waiting_lt hp)).symm

theorem step (h : r.InOrder) (hstep : r.step m = some r') : r'.InOrder := by
  cases m with
  | publish stamp typeId payload => cases hstep; exact h.publish stamp typeId payload
  | wait start minWait maxWait => cases hstep; exact h.wait start minWait maxWait
  | cancel j => cases hstep; exact h.cancel j
  | settle => cases hstep; exact h.release
  | pass nanos =>
    simp only [Readers.step] at hstep
    split at hstep <;> cases hstep
    exact (h.later (Nat.le_add_right ..)).release

end InOrder

/-! ### What one move does to a reader -/

theorem log_wait (r : Readers) (start : Int) (minWait maxWait : Duration) :
    (r.wait start minWait maxWait).1.log = r.log := by
  unfold wait
  split <;> rfl

theorem now_wait (r : Readers) (start : Int) (minWait maxWait : Duration) :
    (r.wait start minWait maxWait).1.now = r.now := by
  unfold wait
  split <;> rfl

/-- A new reader leaves the others where they are. -/
theorem lookup_wait (hk : k ≠ r.ticket) (start : Int) (minWait maxWait : Duration) :
    (r.wait start minWait maxWait).1.waiting.lookup k = r.waiting.lookup k := by
  have hne : (k == r.ticket) = false := by simpa using hk
  unfold wait
  cases r.log.ensureRetained (Log.before start) <;> simp [List.lookup_append, List.lookup_cons, hne]

theorem result?_wait (hk : k ≠ r.ticket) (start : Int) (minWait maxWait : Duration) :
    (r.wait start minWait maxWait).1.result? k = r.result? k := by
  have hne : (k == r.ticket) = false := by simpa using hk
  unfold wait result?
  cases r.log.ensureRetained (Log.before start) <;> simp [List.lookup_append, List.lookup_cons, hne]

theorem lookup_release (h : r.InOrder) (k : Nat) :
    r.release.waiting.lookup k =
      (r.waiting.lookup k).bind fun w => w.advance r.now r.log.cursor := by
  rw [waiting_release]
  exact Tickets.lookup_filterMap h.nodup (fun w : Wait => w.advance r.now r.log.cursor) k

theorem result?_release (h : r.InOrder) (k : Nat) :
    r.release.result? k =
      (r.result? k).or ((r.waiting.lookup k).bind (given? r.log r.now)) := by
  rw [result?, finished_release, List.lookup_append, result?,
    Tickets.lookup_filterMap h.nodup (given? r.log r.now) k]

/-- What somebody has been given stays so. -/
theorem finished_step (h : r.step m = some r') : ∃ gone, r'.finished = r.finished ++ gone := by
  cases m with
  | publish | cancel => cases h; exact ⟨[], (List.append_nil _).symm⟩
  | wait start minWait maxWait =>
    cases h
    unfold Readers.wait
    cases r.log.ensureRetained (Log.before start) with
    | error fault => exact ⟨_, rfl⟩
    | ok => exact ⟨[], (List.append_nil _).symm⟩
  | settle => cases h; exact ⟨_, rfl⟩
  | pass nanos =>
    simp only [step] at h
    split at h <;> cases h
    exact ⟨_, rfl⟩

theorem result?_step (hstep : r.step m = some r') {given : Nat × Outcome Drain}
    (h : r.result? k = some given) : r'.result? k = some given := by
  obtain ⟨gone, hgone⟩ := finished_step hstep
  rw [result?, hgone, List.lookup_append, ← result?, h]
  rfl

/-- **Whoever goes is given what a drain gives at that instant.** -/
theorem given_of_step (hin : r.InOrder) (hstep : r.step m = some r')
    (found : r.waiting.lookup k = some w) (free : r.result? k = none) {i : Nat}
    {o : Outcome Drain} (hgiven : r'.result? k = some (i, o)) :
    i = r'.now ∧ o = r'.log.drain w.target := by
  have hrelease {y : Readers} (hy : y.InOrder) (hfound : y.waiting.lookup k = some w)
      (hfree : y.result? k = none) (hgo : y.release.result? k = some (i, o)) :
      i = y.now ∧ o = y.log.drain w.target := by
    rw [result?_release hy, hfree, hfound, Option.none_or, Option.bind_some, given?] at hgo
    split at hgo <;> cases hgo
    exact ⟨rfl, rfl⟩
  have hsame (h : r'.result? k = r.result? k) : i = r'.now ∧ o = r'.log.drain w.target := by
    rw [h, free] at hgiven
    cases hgiven
  cases m with
  | publish | cancel => cases hstep; exact hsame rfl
  | wait start minWait maxWait =>
    cases hstep
    have hk := Nat.ne_of_lt (hin.waiting_lt (Tickets.mem_of_lookup found))
    exact hsame (result?_wait hk ..)
  | settle => cases hstep; exact hrelease (y := r) hin found free hgiven
  | pass nanos =>
    simp only [step] at hstep
    split at hstep <;> cases hstep
    have hlater := hin.later (Nat.le_add_right r.now nanos)
    exact hrelease (y := { r with now := r.now + nanos }) hlater found free hgiven

/-! ### Runs -/

theorem run_concat_iff : r.run (ms ++ [m]) = some r' ↔
    ∃ y, r.run ms = some y ∧ y.step m = some r' := by
  induction ms generalizing r with
  | nil => cases h : r.step m <;> simp [run, h]
  | cons m' ms ih => cases h : r.step m' <;> simp [run, h, ih]

theorem run_append (r : Readers) (ms ms' : List Move) :
    r.run (ms ++ ms') = (r.run ms).bind fun y => y.run ms' := by
  induction ms generalizing r with
  | nil => rfl
  | cons m ms ih =>
    simp only [List.cons_append, run, ih, Option.bind_assoc]

/-- The clock does not run backwards, and no event goes unnumbered. -/
theorem step_le (h : r.step m = some r') : r.now ≤ r'.now ∧ r.log.cursor ≤ r'.log.cursor := by
  cases m with
  | publish =>
    cases h
    simp only [publish, Log.cursor_publish]
    omega
  | wait =>
    cases h
    rw [log_wait, now_wait]
    exact ⟨Nat.le_refl _, Int.le_refl _⟩
  | cancel | settle => cases h; exact ⟨Nat.le_refl _, Int.le_refl _⟩
  | pass nanos =>
    simp only [step] at h
    split at h <;> cases h
    exact ⟨Nat.le_add_right _ _, Int.le_refl _⟩

theorem InOrder.run (h : r.InOrder) (hrun : r.run ms = some r') : r'.InOrder := by
  induction ms using List.reverseRecOn generalizing r' with
  | nil => cases hrun; exact h
  | append_singleton ms m ih =>
    obtain ⟨y, hy, hstep⟩ := run_concat_iff.1 hrun
    exact (ih hy).step hstep

theorem result?_run (hrun : r.run ms = some r') {given : Nat × Outcome Drain}
    (h : r.result? k = some given) : r'.result? k = some given := by
  induction ms using List.reverseRecOn generalizing r' with
  | nil => cases hrun; exact h
  | append_singleton ms m ih =>
    obtain ⟨y, hy, hstep⟩ := run_concat_iff.1 hrun
    exact result?_step hstep (ih hy)

/-! ### The clock -/

theorem atRest_release (r : Readers) : r.release.AtRest := by
  intro p hp
  rw [waiting_release] at hp
  obtain ⟨w, -, hstays⟩ :=
    (Tickets.mem_filterMap (g := fun w : Wait => w.advance r.now r.log.cursor)).1 hp
  exact Wait.advance_advance hstays

/-- Where the clock goes next: to the first instant at which somebody is due. -/
theorem nextDue?_spec (r : Readers) :
    match Timeline.nextDue? r with
    | none => r.waiting = []
    | some d => (∃ p ∈ r.waiting, p.2.due = d) ∧ r.NobodyDueBefore d := by
  have h := earliest?_spec (r.waiting.map fun p => p.2.due)
  simp only [Timeline.nextDue?]
  cases hd : earliest? (r.waiting.map fun p => p.2.due) with
  | none => rw [hd] at h; simpa using h
  | some d =>
    rw [hd] at h
    exact ⟨by simpa using h.1, fun p hp => h.2 _ (List.mem_map_of_mem hp)⟩

theorem run_pass {nanos : Nat} (hrest : r.AtRest) (hdue : r.NobodyDueBefore (r.now + nanos))
    (ms : List Move) :
    r.run (.pass nanos :: ms) = (Timeline.settleAt (r.now + nanos) r).run ms := by
  simp only [run, step, if_pos (And.intro hrest hdue), Option.bind_some]

/-- **The clock of the log is a schedule**, and it reaches every instant. -/
theorem exists_passes (done : Readers → Bool) (limit : Nat) (hrest : r.AtRest)
    (hlimit : r.now ≤ limit) :
    ∃ ns : List Nat, r.run (ns.map .pass) = some (Timeline.run done limit r.now r) ∧
      AtRest (Timeline.run done limit r.now r) ∧
      ((∀ y, done y = false) → (Timeline.run done limit r.now r).now = limit) := by
  induction hn : limit - r.now using Nat.strongRecOn generalizing r with
  | ind n ih =>
    have hnext := nextDue?_spec r
    have hthere : AtRest (Timeline.settleAt limit r) := atRest_release { r with now := limit }
    have hjump (hdue : r.NobodyDueBefore limit) :
        ∃ ns : List Nat, r.run (ns.map .pass) = some (Timeline.settleAt limit r) := by
      obtain ⟨nanos, rfl⟩ := Nat.exists_eq_add_of_le hlimit
      exact ⟨[nanos], run_pass hrest hdue []⟩
    rw [Timeline.run]
    by_cases hdone : done r = true
    · rw [if_pos hdone]
      exact ⟨[], rfl, hrest, fun hnever => by rw [hnever] at hdone; cases hdone⟩
    · rw [if_neg hdone]
      cases hd : Timeline.nextDue? r with
      | none =>
        rw [hd] at hnext
        obtain ⟨ns, hns⟩ := hjump fun p hp => by rw [hnext] at hp; cases hp
        exact ⟨ns, hns, hthere, fun _ => rfl⟩
      | some d =>
        rw [hd] at hnext
        obtain ⟨⟨p, hp, rfl⟩, hdue⟩ := hnext
        have hlt : r.now < p.2.due := Wait.due_gt_of_advance (hrest p hp)
        by_cases hin : p.2.due ≤ limit
        · simp only [if_pos (And.intro hlt hin)]
          have hrest' : AtRest (Timeline.settleAt p.2.due r) :=
            atRest_release { r with now := p.2.due }
          obtain ⟨ns, hns, hlast⟩ := ih (limit - p.2.due) (by omega) hrest' hin rfl
          refine ⟨(p.2.due - r.now) :: ns, ?_, hlast⟩
          have hthen : r.now + (p.2.due - r.now) = p.2.due := by omega
          rw [List.map_cons, run_pass hrest (by rw [hthen]; exact hdue), hthen]
          exact hns
        · have hout : ¬ (r.now < p.2.due ∧ p.2.due ≤ limit) := fun h => hin h.2
          simp only [if_neg hout]
          obtain ⟨ns, hns⟩ := hjump fun q hq => Nat.le_trans (Nat.le_of_not_le hin) (hdue q hq)
          exact ⟨ns, hns, hthere, fun _ => rfl⟩

end Readers
end EventRelay

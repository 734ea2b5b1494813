/-
# When readers go

A reader that waits for event `start` goes at an instant that its two times and the arrival of the
event decide (`Wait.goesAt`):

| the event is there | the reader goes |
| --- | --- |
| by the end of the first stage | at the end of the first stage |
| later, by the end of the second stage | at once |
| not by then | at the end of the second stage |

`Readers.waits_exactly` says that it goes at that very instant, with what a drain gives then, in
every schedule of publications and of other readers that come, go and give up.  What carries the
proof is `Wait.OnTime`: how far a reader can be, by the clock and by whether its event is there.
-/

import EventRelay.Proofs.Log.Readers

namespace EventRelay

/-! ### One reader -/

namespace Wait

variable {w w' : Wait} {now later : Nat} {head : Int} {arrival : Option Nat}

/-- When a reader goes whose event is first there at `arrival`. -/
def goesAt (w : Wait) : (arrival : Option Nat) → Nat
  | none => w.maxDue
  | some t => if t ≤ w.minDue then w.minDue else min t w.maxDue

/-- Where a reader can be that has not been let go, if its event is there since `arrival`. -/
def OnTime (w : Wait) (arrival : Option Nat) (now : Nat) : Prop :=
  match w.stage with
  | .gathering => now ≤ w.minDue
  | .coalescing => now ≤ w.minDue ∧ ∃ t, arrival = some t ∧ t ≤ w.minDue
  | .lingering => w.minDue ≤ now ∧ now ≤ w.maxDue ∧ ∀ t, arrival = some t → t = now

/-- Whether an event is there since `arrival`, or is not there. -/
def Came (target : Int) (arrival : Option Nat) (now : Nat) (head : Int) : Prop :=
  match arrival with
  | none => head < target
  | some t => t ≤ now ∧ target ≤ head

theorem onTime_start (now : Nat) (target : Int) (minWait maxWait : Duration) :
    (start now target minWait maxWait).OnTime arrival now :=
  Nat.le_add_right _ _

/-- When a reader goes depends on its two times only. -/
theorem goesAt_congr (hmin : w'.minDue = w.minDue) (hmax : w'.maxDue = w.maxDue) :
    w'.goesAt arrival = w.goesAt arrival := by
  unfold goesAt
  rw [hmin, hmax]

theorem goesAt_le (hdues : w.minDue ≤ w.maxDue) (arrival : Option Nat) :
    w.goesAt arrival ≤ w.maxDue := by
  unfold goesAt
  split
  · exact Nat.le_refl _
  · split <;> omega

/-- An event that comes no earlier than the end of the second stage makes no difference. -/
theorem goesAt_late (hdues : w.minDue ≤ w.maxDue) {t : Nat} (hlate : w.maxDue ≤ t) :
    w.goesAt (some t) = w.maxDue := by
  simp only [goesAt]
  split <;> omega

/-- A reader in its second stage. -/
theorem linger_onTime (hlow : w.minDue ≤ now) (hhigh : now ≤ w.maxDue)
    (harrival : ∀ t, arrival = some t → t = now) (hcame : Came w.target arrival now head) :
    match w.linger now head with
    | some w' => w'.OnTime arrival now
    | none => w.goesAt arrival = now := by
  by_cases hgoes : w.target ≤ head ∨ w.maxDue ≤ now
  · simp only [linger, if_pos hgoes]
    cases arrival with
    | none =>
      have hover : w.maxDue ≤ now := hgoes.resolve_left (Int.not_le.2 hcame)
      exact Nat.le_antisymm hover hhigh
    | some t =>
      obtain rfl := harrival t rfl
      simp only [goesAt]
      split <;> omega
  · simp only [linger, if_neg hgoes]
    exact ⟨hlow, hhigh, harrival⟩

/-- **A reader that is let go goes on time**, and one that waits on is not late. -/
theorem OnTime.advance (h : w.OnTime arrival now) (hdues : w.minDue ≤ w.maxDue)
    (hcame : Came w.target arrival now head) :
    match w.advance now head with
    | some w' => w'.OnTime arrival now
    | none => w.goesAt arrival = now := by
  cases hstage : w.stage with
  | gathering =>
    have hnow : now ≤ w.minDue := by simpa only [OnTime, hstage] using h
    simp only [Wait.advance, hstage]
    by_cases hthere : w.target ≤ head
    · obtain ⟨t, rfl, ht⟩ : ∃ t, arrival = some t ∧ t ≤ now := by
        cases arrival with
        | none => exact absurd hthere (Int.not_le.2 hcame)
        | some t => exact ⟨t, rfl, hcame.1⟩
      by_cases hover : w.minDue ≤ now
      · simp only [if_pos hthere, if_pos hover, goesAt, if_pos (Nat.le_trans ht hnow)]
        exact Nat.le_antisymm hover hnow
      · simp only [if_pos hthere, if_neg hover]
        exact ⟨hnow, t, rfl, Nat.le_trans ht hnow⟩
    · have hnone : arrival = none := by
        cases arrival with
        | none => rfl
        | some t => exact absurd hcame.2 hthere
      by_cases hover : w.minDue ≤ now
      · simp only [if_neg hthere, if_pos hover]
        exact linger_onTime hover (Nat.le_trans hnow hdues) (by simp [hnone]) hcame
      · simp only [if_neg hthere, if_neg hover]
        exact h
  | coalescing =>
    obtain ⟨hnow, t, rfl, ht⟩ : now ≤ w.minDue ∧ ∃ t, arrival = some t ∧ t ≤ w.minDue := by
      simpa only [OnTime, hstage] using h
    simp only [Wait.advance, hstage]
    by_cases hover : w.minDue ≤ now
    · simp only [if_pos hover, goesAt, if_pos ht]
      exact Nat.le_antisymm hover hnow
    · simp only [if_neg hover]
      exact h
  | lingering =>
    obtain ⟨hlow, hhigh, harrival⟩ :
        w.minDue ≤ now ∧ now ≤ w.maxDue ∧ ∀ t, arrival = some t → t = now := by
      simpa only [OnTime, hstage] using h
    simp only [Wait.advance, hstage]
    exact linger_onTime hlow hhigh harrival hcame

/-- A reader that has to wait on and is not held up for others misses its event. -/
theorem missing_of_rest (hrest : w.advance now head = some w) (hstage : w.stage ≠ .coalescing) :
    head < w.target := by
  by_contra hthere
  unfold Wait.advance linger at hrest
  cases h : w.stage <;> grind

/-- **A reader that has to wait on has not reached its time.** -/
theorem OnTime.lt_goesAt (h : w.OnTime arrival now) (hdues : w.minDue ≤ w.maxDue)
    (hcame : Came w.target arrival now head) (hrest : w.advance now head = some w) :
    now < w.goesAt arrival := by
  have hdue := due_gt_of_advance hrest
  cases hstage : w.stage with
  | coalescing =>
    simp only [OnTime, hstage] at h
    obtain ⟨-, t, rfl, ht⟩ := h
    simp only [due, hstage] at hdue
    simp only [goesAt, if_pos ht]
    exact hdue
  | gathering | lingering =>
    have hmissing := missing_of_rest hrest (by simp [hstage])
    simp only [due, hstage] at hdue
    cases arrival with
    | none =>
      simp only [goesAt]
      omega
    | some t => exact absurd hcame.2 (Int.not_le.2 hmissing)

/-- A reader that has to wait on can do so until it is due. -/
theorem OnTime.pass (h : w.OnTime arrival now) (hcame : Came w.target arrival now head)
    (hrest : w.advance now head = some w) (hlater : now ≤ later) (hdue : later ≤ w.due) :
    w.OnTime arrival later := by
  cases hstage : w.stage with
  | gathering => simpa only [OnTime, due, hstage] using hdue
  | coalescing =>
    simp only [OnTime, due, hstage] at h hdue ⊢
    exact ⟨hdue, h.2⟩
  | lingering =>
    have hmissing := missing_of_rest hrest (by simp [hstage])
    simp only [OnTime, due, hstage] at h hdue ⊢
    refine ⟨by omega, hdue, fun t ht => ?_⟩
    subst ht
    exact absurd hcame.2 (Int.not_le.2 hmissing)

/-- The event of a reader comes. -/
theorem OnTime.comes (h : w.OnTime none now) : w.OnTime (some now) now := by
  cases hstage : w.stage with
  | gathering => simpa only [OnTime, hstage] using h
  | coalescing =>
    simp only [OnTime, hstage] at h
    obtain ⟨-, t, hnone, -⟩ := h
    cases hnone
  | lingering =>
    simp only [OnTime, hstage] at h ⊢
    exact ⟨h.1, h.2.1, fun t ht => (Option.some.inj ht).symm⟩

end Wait

namespace Readers

variable {r r' r₀ : Readers} {m : Move} {ms : List Move} {k t capacity : Nat} {w : Wait}

/-! ### One reader among others -/

/-- Where reader `k` is that began as `w₀`, if its event is there since `arrival`. -/
inductive Stands (k : Nat) (w₀ : Wait) (arrival : Option Nat) (r : Readers) : Prop where
  | waits (w : Wait) (found : r.waiting.lookup k = some w) (free : r.result? k = none)
      (target : w.target = w₀.target) (minDue : w.minDue = w₀.minDue)
      (maxDue : w.maxDue = w₀.maxDue) (onTime : w.OnTime arrival r.now)
  | gone (o : Outcome Drain) (given : r.result? k = some (w₀.goesAt arrival, o))
      (passed : w₀.goesAt arrival ≤ r.now)

namespace Stands

variable {w₀ : Wait} {arrival : Option Nat}

/-- Whoever is known has a ticket that is not given again. -/
theorem lt_ticket (h : r.Stands k w₀ arrival) (hin : r.InOrder) : k < r.ticket := by
  cases h with
  | waits w found => exact hin.waiting_lt (Tickets.mem_of_lookup found)
  | gone o given => exact hin.finished_lt (Tickets.mem_of_lookup given)

/-- Where a reader is depends on what is known of it, and on the clock. -/
theorem congr (h : r.Stands k w₀ arrival) (hwaiting : r'.waiting.lookup k = r.waiting.lookup k)
    (hresult : r'.result? k = r.result? k) (hnow : r'.now = r.now) : r'.Stands k w₀ arrival := by
  cases h with
  | waits w found free target minDue maxDue onTime =>
    exact .waits w (hwaiting.trans found) (hresult.trans free) target minDue maxDue
      (by rw [hnow]; exact onTime)
  | gone o given passed => exact .gone o (hresult.trans given) (by rw [hnow]; exact passed)

/-- The event comes. -/
theorem comes (h : r.Stands k w₀ none) (hdues : w₀.minDue ≤ w₀.maxDue) :
    r.Stands k w₀ (some r.now) := by
  cases h with
  | waits w found free target minDue maxDue onTime =>
    exact .waits w found free target minDue maxDue onTime.comes
  | gone o given passed =>
    have hsame : w₀.goesAt (some r.now) = w₀.goesAt none := Wait.goesAt_late hdues passed
    exact .gone o (hsame ▸ given) (hsame ▸ passed)

/-- **Everyone goes whose time has come**, and nobody else. -/
theorem release (h : r.Stands k w₀ arrival) (hin : r.InOrder) (hdues : w₀.minDue ≤ w₀.maxDue)
    (hcame : Wait.Came w₀.target arrival r.now r.log.cursor) :
    r.release.Stands k w₀ arrival := by
  cases h with
  | gone o given passed => exact .gone o (by rw [result?_release hin, given]; rfl) passed
  | waits w found free target minDue maxDue onTime =>
    have hnext := onTime.advance (minDue ▸ maxDue ▸ hdues) (target ▸ hcame)
    have hwaiting := lookup_release hin k
    have hresult := result?_release hin k
    rw [found, Option.bind_some] at hwaiting hresult
    rw [free, Option.none_or, given?] at hresult
    cases hstep : w.advance r.now r.log.cursor with
    | some w' =>
      rw [hstep] at hnext hwaiting hresult
      obtain ⟨htarget, hmin, hmax⟩ := Wait.advance_keeps hstep
      exact .waits w' hwaiting hresult (htarget.trans target) (hmin.trans minDue)
        (hmax.trans maxDue) hnext
    | none =>
      rw [hstep] at hnext hresult
      have hgoes : w₀.goesAt arrival = r.now :=
        (Wait.goesAt_congr minDue maxDue).symm.trans hnext
      exact .gone _ (hgoes ▸ hresult) (Nat.le_of_eq hgoes)

/-- Time passes. -/
theorem pass (h : r.Stands k w₀ arrival) (hlater : r.now ≤ t) (hrest : r.AtRest)
    (hdue : r.NobodyDueBefore t) (hcame : Wait.Came w₀.target arrival r.now r.log.cursor) :
    Stands k w₀ arrival { r with now := t } := by
  cases h with
  | gone o given passed => exact .gone o given (Nat.le_trans passed hlater)
  | waits w found free target minDue maxDue onTime =>
    have hmem := Tickets.mem_of_lookup found
    exact .waits w found free target minDue maxDue
      (onTime.pass (target ▸ hcame) (hrest _ hmem) hlater (hdue _ hmem))

/-- **When a reader has gone**, once everyone has gone whose time has come. -/
theorem isSome_iff (h : r.Stands k w₀ arrival) (hrest : r.AtRest) (hdues : w₀.minDue ≤ w₀.maxDue)
    (hcame : Wait.Came w₀.target arrival r.now r.log.cursor) :
    (r.result? k).isSome ↔ w₀.goesAt arrival ≤ r.now := by
  cases h with
  | gone o given passed => simpa [given] using passed
  | waits w found free target minDue maxDue onTime =>
    have hlt := onTime.lt_goesAt (minDue ▸ maxDue ▸ hdues) (target ▸ hcame)
      (hrest _ (Tickets.mem_of_lookup found))
    rw [Wait.goesAt_congr minDue maxDue] at hlt
    simp only [free, Option.isSome_none, Bool.false_eq_true, false_iff]
    omega

end Stands

/-! ### Runs -/

variable {target : Int}

/-- Since when an event is there, with one instant more. -/
def since (target : Int) (arrival : Option Nat) (r : Readers) : Option Nat :=
  arrival.or (if target ≤ r.log.cursor then some r.now else none)

/-- The arrival of an event, told of one move more. -/
theorem arrival?_concat (hrun : r.run ms = some r₀) (hstep : r₀.step m = some r') :
    r.arrival? target (ms ++ [m]) = since target (r.arrival? target ms) r' := by
  induction ms generalizing r with
  | nil =>
    cases hrun
    simp only [List.nil_append, arrival?, hstep, since, Option.bind_some]
    split <;> rfl
  | cons m' ms ih =>
    cases h : r.step m' with
    | none => simp [run, h] at hrun
    | some y =>
      simp only [run, h, Option.bind_some] at hrun
      simp only [List.cons_append, arrival?, h, Option.bind_some, ih hrun]
      split <;> rfl

/-- Whether an event is there at one instant. -/
theorem came_here (target : Int) (now : Nat) (head : Int) :
    Wait.Came target (if target ≤ head then some now else none) now head := by
  by_cases hthere : target ≤ head
  · rw [if_pos hthere]
    exact ⟨Nat.le_refl _, hthere⟩
  · rw [if_neg hthere]
    exact Int.not_le.1 hthere

theorem came_since {arrival : Option Nat} {now : Nat} {head : Int}
    (hcame : Wait.Came target arrival now head) (hnow : now ≤ r.now) (hhead : head ≤ r.log.cursor) :
    Wait.Came target (since target arrival r) r.now r.log.cursor := by
  cases arrival with
  | some t => exact ⟨Nat.le_trans hcame.1 hnow, Int.le_trans hcame.2 hhead⟩
  | none => exact came_here target r.now r.log.cursor

theorem came_arrival? (hrun : r.run ms = some r') :
    Wait.Came target (r.arrival? target ms) r'.now r'.log.cursor := by
  induction ms using List.reverseRecOn generalizing r' with
  | nil =>
    cases hrun
    exact came_here target r.now r.log.cursor
  | append_singleton ms m ih =>
    obtain ⟨y, hy, hstep⟩ := run_concat_iff.1 hrun
    rw [arrival?_concat hy hstep]
    exact came_since (ih hy) (step_le hstep).1 (step_le hstep).2

/-- Where nothing is published, an event is there since when it was. -/
theorem since_eq {arrival : Option Nat} {head : Int} {now : Nat}
    (hcame : Wait.Came target arrival now head) (hhead : r.log.cursor = head) :
    since target arrival r = arrival := by
  cases arrival with
  | some t => rfl
  | none => exact if_neg (by rw [hhead]; exact Int.not_le.2 hcame)

/-- **One thing happens**, and a reader is where it should be. -/
theorem Stands.step {w₀ : Wait} {arrival : Option Nat} (h : r.Stands k w₀ arrival)
    (hin : r.InOrder) (hdues : w₀.minDue ≤ w₀.maxDue)
    (hcame : Wait.Came w₀.target arrival r.now r.log.cursor) (hcancel : m ≠ .cancel k)
    (hstep : r.step m = some r') : r'.Stands k w₀ (since w₀.target arrival r') := by
  cases m with
  | publish stamp typeId payload =>
    cases hstep
    have hsame : (r.publish stamp typeId payload).Stands k w₀ arrival := h.congr rfl rfl rfl
    unfold since
    cases arrival with
    | some t => exact hsame
    | none =>
      rw [Option.none_or]
      split
      · exact hsame.comes hdues
      · exact hsame
  | wait start minWait maxWait =>
    cases hstep
    have hk := Nat.ne_of_lt (h.lt_ticket hin)
    rw [since_eq hcame (by rw [log_wait])]
    exact h.congr (lookup_wait hk ..) (result?_wait hk ..) (now_wait ..)
  | cancel j =>
    cases hstep
    rw [since_eq (r := r.cancel j) hcame rfl]
    exact h.congr (Tickets.lookup_without r.waiting fun heq => hcancel (by rw [heq])) rfl rfl
  | settle =>
    cases hstep
    rw [since_eq (r := Timeline.settle r) hcame rfl]
    exact h.release hin hdues hcame
  | pass nanos =>
    simp only [Readers.step] at hstep
    split at hstep
    · rename_i hpass
      cases hstep
      have hlater : r.now ≤ r.now + nanos := Nat.le_add_right _ _
      have hthen : Wait.Came w₀.target arrival (r.now + nanos) r.log.cursor := by
        cases arrival with
        | none => exact hcame
        | some t => exact ⟨Nat.le_trans hcame.1 hlater, hcame.2⟩
      rw [since_eq (r := Timeline.settleAt (r.now + nanos) r) hcame rfl]
      exact (h.pass hlater hpass.1 hpass.2 hcame).release (hin.later hlater) hdues hthen
    · cases hstep

/-- **A whole run**, and a reader is where it should be. -/
theorem Stands.run {w₀ : Wait} (h : r.Stands k w₀ (since w₀.target none r)) (hin : r.InOrder)
    (hdues : w₀.minDue ≤ w₀.maxDue) (hcancel : .cancel k ∉ ms) (hrun : r.run ms = some r') :
    r'.InOrder ∧ r'.Stands k w₀ (r.arrival? w₀.target ms) := by
  induction ms using List.reverseRecOn generalizing r' with
  | nil =>
    cases hrun
    exact ⟨hin, h⟩
  | append_singleton ms m ih =>
    obtain ⟨y, hy, hstep⟩ := run_concat_iff.1 hrun
    simp only [List.mem_append, List.mem_singleton, not_or] at hcancel
    obtain ⟨hin', h'⟩ := ih hcancel.1 hy
    rw [arrival?_concat hy hstep]
    exact ⟨hin'.step hstep, h'.step hin' hdues (came_arrival? hy) (Ne.symm hcancel.2) hstep⟩

/-! ### What readers are given -/

/-- Whether there is a move in a run at which reader `k` goes, at an instant and with what a drain
from `start` gives then. -/
def GivenIn (r : Readers) (k : Nat) (start : Int) (ms : List Move) (instant : Nat)
    (o : Outcome Drain) : Prop :=
  ∃ front m back y z, ms = front ++ m :: back ∧ r.run front = some y ∧ y.step m = some z ∧
    y.result? k = none ∧ z.result? k = some (instant, o) ∧ z.now = instant ∧ z.log.drain start = o

theorem givenIn_of_run (hin : r.InOrder) (h : r.Stands k w (since w.target none r))
    (hdues : w.minDue ≤ w.maxDue) (hfree : r.result? k = none) (hcancel : .cancel k ∉ ms)
    (hrun : r.run ms = some r') {i : Nat} {o : Outcome Drain}
    (hgiven : r'.result? k = some (i, o)) : r.GivenIn k w.target ms i o := by
  induction ms using List.reverseRecOn generalizing r' with
  | nil =>
    cases hrun
    rw [hfree] at hgiven
    cases hgiven
  | append_singleton ms m ih =>
    obtain ⟨y, hy, hstep⟩ := run_concat_iff.1 hrun
    simp only [List.mem_append, List.mem_singleton, not_or] at hcancel
    obtain ⟨hin', hstands⟩ := h.run hin hdues hcancel.1 hy
    cases hbefore : y.result? k with
    | some given =>
      -- the reader was gone before
      obtain rfl : given = (i, o) :=
        Option.some.inj ((result?_step hstep hbefore).symm.trans hgiven)
      obtain ⟨front, m', back, y', z, rfl, rest⟩ := ih hcancel.1 hy hbefore
      exact ⟨front, m', back ++ [m], y', z, by simp, rest⟩
    | none =>
      cases hstands with
      | gone o' given => rw [hbefore] at given; cases given
      | waits w' found free target =>
        obtain ⟨rfl, rfl⟩ := given_of_step hin' hstep found free hgiven
        exact ⟨ms, m, [], y, r', rfl, hy, hstep, hbefore, hgiven, rfl, by rw [target]⟩

/-! ### The wait -/

/-- What comes of reader `k`, which has begun as `w` and does not give up, in a run `ms` to `r'`. -/
structure Goes (r : Readers) (k : Nat) (w : Wait) (ms : List Move) (r' : Readers) : Prop where
  /-- It has gone, once everyone has gone whose time has come, exactly if its own time has come. -/
  gone : ((Timeline.settle r').result? k).isSome ↔ w.goesAt (r.arrival? w.target ms) ≤ r'.now
  /-- It has gone then and not later, with what a drain gave at that instant. -/
  given : ∀ {i o}, r'.result? k = some (i, o) →
    i = w.goesAt (r.arrival? w.target ms) ∧ r.GivenIn k w.target ms i o
  /-- It is given nothing only when the second stage is over. -/
  empty : 0 ≤ w.target → ∀ {i d}, r'.result? k = some (i, .ok d) → d.events = [] → i = w.maxDue
  /-- It goes in the end: the clock can always run on until then. -/
  returns : ∃ (ns : List Nat) (y : Readers), r'.run (.settle :: ns.map .pass) = some y ∧
    (y.result? k).isSome

/-- What comes of a call that waits for event `start` and is made now. -/
structure WaitsExactly (r : Readers) (start : Int) (minWait maxWait : Duration) : Prop where
  /-- If the event was there and is gone, the call fails at once. -/
  refused : Log.Reaches start r.log.published → start ≤ r.log.cursor - r.log.capacity →
    ∀ {ms r'}, r.run (.wait start minWait maxWait :: ms) = some r' →
    r'.result? r.ticket =
      some (r.now, .error (.overflow r.log.cursor (start - 1) r.log.capacity))
  goes : r.log.cursor - r.log.capacity < start → ∀ {ms r'},
    r.run (.wait start minWait maxWait :: ms) = some r' → .cancel r.ticket ∉ ms →
    Goes (r.wait start minWait maxWait).1 r.ticket (Wait.start r.now start minWait maxWait) ms r'
  /-- From so far below that the distance to the head wraps around, the call waits like any
  other. -/
  wraps : Log.minNumber ≤ start → r.log.published ≤ Log.maxNumber →
    ¬ Log.Reaches start r.log.published → ∀ {ms r'},
    r.run (.wait start minWait maxWait :: ms) = some r' → .cancel r.ticket ∉ ms →
    Goes (r.wait start minWait maxWait).1 r.ticket (Wait.start r.now start minWait maxWait) ms r'

/-- Whether one publication lets everyone go whose event it is, but for those whose first stage
lasts. -/
def ReleasesAll (r : Readers) : Prop :=
  ∀ {k w}, (k, w) ∈ r.waiting → w.target ≤ r.log.cursor + 1 → ∀ stamp typeId payload,
    (Timeline.settle (r.publish stamp typeId payload)).result? k =
      if w.minDue ≤ r.now then some (r.now, (r.publish stamp typeId payload).log.drain w.target)
      else none

theorem releasesAll (hin : r.InOrder) : r.ReleasesAll := by
  intro k w hmem htarget stamp typeId payload
  have hin' : (r.publish stamp typeId payload).InOrder := hin.publish stamp typeId payload
  have hfree : (r.publish stamp typeId payload).result? k = none := hin.result?_of_waiting hmem
  have hfound : (r.publish stamp typeId payload).waiting.lookup k = some w :=
    Tickets.lookup_of_mem hin.nodup hmem
  have hthere : w.target ≤ (r.publish stamp typeId payload).log.cursor := by
    simpa [publish] using htarget
  have hadvance : (w.advance (r.publish stamp typeId payload).now
      (r.publish stamp typeId payload).log.cursor).isNone = true ↔ w.minDue ≤ r.now := by
    have hlingers := hin.lingers hmem
    rw [Wait.isNone_advance hthere]
    exact ⟨fun h => h.elim hlingers id, .inr⟩
  show (r.publish stamp typeId payload).release.result? k = _
  rw [result?_release hin', hfree, hfound, Option.none_or, Option.bind_some, given?]
  simp only [hadvance]
  rfl

/-- A reader is given nothing only if its event has not come. -/
theorem missing_of_empty (hin : r.InOrder) {target : Int} (htarget : 0 ≤ target) {d : Drain}
    (hdrain : r.log.drain target = .ok d) (hempty : d.events = []) : r.log.cursor < target := by
  obtain ⟨events, hholds⟩ := hin.holds
  rw [hholds.drain_from (.inl htarget)] at hdrain
  split at hdrain <;> cases hdrain
  have hlength := List.drop_eq_nil_iff.1 hempty
  rw [hholds.cursor_eq]
  omega

/-- Whoever has gone has gone on time. -/
theorem Stands.eq_goesAt {arrival : Option Nat} (h : r.Stands k w arrival) {i : Nat}
    {o : Outcome Drain} (hgiven : r.result? k = some (i, o)) : i = w.goesAt arrival := by
  cases h with
  | gone o' given =>
    rw [given] at hgiven
    cases hgiven
    rfl
  | waits w' found free =>
    rw [free] at hgiven
    cases hgiven

/-- A reader that is given nothing has waited to the end. -/
theorem eq_maxDue_of_empty (hin : r.InOrder) (h : r.Stands k w (since w.target none r))
    (hdues : w.minDue ≤ w.maxDue) (hcancel : .cancel k ∉ ms) (htarget : 0 ≤ w.target) {i : Nat}
    {d : Drain} (hgiven : r.GivenIn k w.target ms i (.ok d)) (hempty : d.events = []) :
    i = w.maxDue := by
  obtain ⟨front, m, back, y, z, rfl, hy, hstep, -, hz, -, hdrain⟩ := hgiven
  have hfront : r.run (front ++ [m]) = some z := run_concat_iff.2 ⟨y, hy, hstep⟩
  have hcancel' : .cancel k ∉ front ++ [m] := fun hmem => hcancel <| by
    rw [List.append_cons]
    exact List.mem_append_left back hmem
  obtain ⟨hin', hstands⟩ := h.run hin hdues hcancel' hfront
  have hmissing := missing_of_empty hin' htarget hdrain hempty
  rw [hstands.eq_goesAt hz]
  cases harrival : r.arrival? w.target (front ++ [m]) with
  | none => rfl
  | some t =>
    have hcame : Wait.Came w.target (some t) z.now z.log.cursor := harrival ▸ came_arrival? hfront
    exact absurd hcame.2 (Int.not_le.2 hmissing)

/-- A reader goes in the end. -/
theorem exists_return (hin : r.InOrder) (h : r.Stands k w (since w.target none r))
    (hdues : w.minDue ≤ w.maxDue) (hcancel : .cancel k ∉ ms) (hrun : r.run ms = some r') :
    ∃ (ns : List Nat) (y : Readers), r'.run (.settle :: ns.map .pass) = some y ∧
      (y.result? k).isSome := by
  obtain ⟨ns, hns, hrest, hlast⟩ := exists_passes (fun _ => false) (max r'.now w.maxDue)
    (atRest_release r') (Nat.le_max_left ..)
  generalize Timeline.run (fun _ : Readers => false) _ _ _ = y at hns hrest hlast
  refine ⟨ns, y, hns, ?_⟩
  have hall : r.run (ms ++ .settle :: ns.map .pass) = some y := by
    rw [run_append, hrun]
    exact hns
  have hcancel' : .cancel k ∉ ms ++ .settle :: ns.map .pass := by simpa using hcancel
  rw [(h.run hin hdues hcancel' hall).2.isSome_iff hrest hdues (came_arrival? hall),
    hlast fun _ => rfl]
  exact Nat.le_trans (Wait.goesAt_le hdues _) (Nat.le_max_right ..)

theorem goes_of_stands (hin : r.InOrder) (h : r.Stands k w (since w.target none r))
    (hdues : w.minDue ≤ w.maxDue) (hfree : r.result? k = none) (hcancel : .cancel k ∉ ms)
    (hrun : r.run ms = some r') : Goes r k w ms r' := by
  obtain ⟨hin', hstands⟩ := h.run hin hdues hcancel hrun
  have hcame : Wait.Came w.target (r.arrival? w.target ms) r'.now r'.log.cursor :=
    came_arrival? hrun
  have hgivenIn {i : Nat} {o : Outcome Drain} (hgiven : r'.result? k = some (i, o)) :
      r.GivenIn k w.target ms i o := givenIn_of_run hin h hdues hfree hcancel hrun hgiven
  exact
    { gone := (hstands.release hin' hdues hcame).isSome_iff (atRest_release r') hdues hcame
      given := fun hgiven => ⟨hstands.eq_goesAt hgiven, hgivenIn hgiven⟩
      empty := fun htarget _ _ hgiven hempty =>
        eq_maxDue_of_empty hin h hdues hcancel htarget (hgivenIn hgiven) hempty
      returns := exists_return hin h hdues hcancel hrun }

/-- A call that is not refused at once goes in time. -/
theorem goes_of_retained (hin : r.InOrder) {start : Int} (minWait maxWait : Duration)
    (hretained : r.log.ensureRetained (Log.before start) = .ok ())
    (hrun : (r.wait start minWait maxWait).1.run ms = some r') (hcancel : .cancel r.ticket ∉ ms) :
    Goes (r.wait start minWait maxWait).1 r.ticket (Wait.start r.now start minWait maxWait) ms
      r' := by
  have hfree : (r.wait start minWait maxWait).1.result? r.ticket = none := by
    unfold wait result?
    rw [hretained]
    exact hin.result?_ticket
  have hfound : (r.wait start minWait maxWait).1.waiting.lookup r.ticket =
      some (Wait.start r.now start minWait maxWait) := by
    unfold wait
    rw [hretained]
    exact (Tickets.lookup_concat hin.waiting_ticket _ _).trans (if_pos rfl)
  have hstands : Stands r.ticket (Wait.start r.now start minWait maxWait)
      (since start none (r.wait start minWait maxWait).1) (r.wait start minWait maxWait).1 :=
    .waits _ hfound hfree rfl rfl rfl (by rw [now_wait]; exact Wait.onTime_start ..)
  exact goes_of_stands (hin.wait start minWait maxWait) hstands
    (Wait.start_minDue_le_maxDue ..) hfree hcancel hrun

/-- Whoever asks for an event that is kept, or is still to come, is within reach. -/
theorem reaches_of_lt {l : Log} {start : Int} (h : l.cursor - l.capacity < start) :
    Log.Reaches start l.published := by
  have hcapacity := l.capacity_le
  unfold Log.maxCapacity at hcapacity
  unfold Log.cursor at h
  unfold Log.Reaches Log.maxNumber
  omega

theorem waitsExactly (hin : r.InOrder) (start : Int) (minWait maxWait : Duration) :
    r.WaitsExactly start minWait maxWait := by
  obtain ⟨events, hholds⟩ := hin.holds
  refine ⟨fun hreach hlag ms r' hrun => ?_, fun hlag ms r' hrun hcancel => ?_,
    fun hlow hcount hfar ms r' hrun hcancel => ?_⟩
  · rw [hholds.published] at hreach
    have hretained := hholds.ensureRetained_before hreach
    rw [if_pos (by omega)] at hretained
    have htold : (r.wait start minWait maxWait).1.result? r.ticket =
        some (r.now, .error (r.log.overflow (start - 1))) := by
      unfold wait result?
      rw [hretained]
      exact (Tickets.lookup_concat hin.result?_ticket _ _).trans (if_pos rfl)
    exact result?_run (r := (r.wait start minWait maxWait).1) hrun htold
  · have hreach := reaches_of_lt hlag
    rw [hholds.published] at hreach
    have hretained := hholds.ensureRetained_before hreach
    rw [if_neg (by omega)] at hretained
    exact goes_of_retained hin minWait maxWait hretained hrun hcancel
  · rw [hholds.published] at hcount hfar
    exact goes_of_retained hin minWait maxWait (hholds.ensureRetained_below hlow hcount hfar) hrun
      hcancel

/-- **The wait is exact.**  However a log has come to its state, whoever then waits for an event
goes when `WaitsExactly` says, and one publication lets everyone go whose event it is. -/
theorem waits_exactly {before : List Move} (hnew : Readers.new capacity = .ok r₀)
    (hbefore : r₀.run before = some r) :
    (∀ start minWait maxWait, r.WaitsExactly start minWait maxWait) ∧ r.ReleasesAll := by
  have hin : r.InOrder := (InOrder.new hnew).run hbefore
  exact ⟨waitsExactly hin, releasesAll hin⟩

/-! A reader whose event comes in its second stage -/

namespace Sample

theorem typeId_valid : TypeId.problem? "tick" = none := by decide

def publish : Move := .publish ⟨⟨11, by decide⟩, .ofUnixNanos 0⟩ ⟨"tick", typeId_valid⟩ .null

/-- A reader waits for one to three nanoseconds, and the event comes after two. -/
def late : List Move := [.wait 0 ⟨1⟩ ⟨3⟩, .pass 1, .pass 1, publish, .settle]

end Sample

/-- The reader goes when the event comes. -/
theorem waits_exactly_late : ∃ r₀ r, Readers.new 2 = .ok r₀ ∧ r₀.run [] = some r₀ ∧
    r₀.run Sample.late = some r ∧ (r.result? 0).map Prod.fst = some 2 ∧
    r₀.WaitsExactly 0 ⟨1⟩ ⟨3⟩ := by
  obtain ⟨r₀, hnew⟩ : ∃ r₀, Readers.new 2 = .ok r₀ := ⟨_, rfl⟩
  have hplay : ((Readers.new 2).toOption.bind fun r => r.run Sample.late).map
      (fun r => (r.result? 0).map Prod.fst) = some (some 2) := by
    decide
  rw [hnew] at hplay
  obtain ⟨r, hrun, hgiven⟩ := Option.map_eq_some_iff.1 hplay
  have hbefore : r₀.run [] = some r₀ := rfl
  exact ⟨r₀, r, hnew, hbefore, hrun, hgiven, (waits_exactly hnew hbefore).1 0 ⟨1⟩ ⟨3⟩⟩

end Readers
end EventRelay

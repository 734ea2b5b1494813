/-
# What the ring holds

A log shows only its last `capacity` events.  `Log.Holds events` ties it to all of them,
the oldest first: event `n` bears number `n`, and if it is one of the last `capacity` it
lies in slot `n mod capacity` (`Log.Holds.publish`).  So a drain is decided by one
comparison (`Log.Holds.drain_from`): a reader that is at most `capacity` events behind gets
everything after the event it has seen, and any other gets an overflow; a slot that does
not hold what it should is not met.

That is so for every reader whose distance to the head is a number (`Log.Reaches`).  For one from
further below the distance wraps around and the comparison lets it through
(`Log.Holds.drain_below`): it is given everything as long as the ring holds everything, and after
that it meets a slot that has been taken by a later event.
-/

import EventRelay.Log.Basic

namespace EventRelay
namespace Log

/-- Whether the distance from `start` to the head of `count` events is a number. -/
def Reaches (start : Int) (count : Nat) : Prop := 0 ≤ start ∨ count - start ≤ maxNumber

instance (start : Int) (count : Nat) : Decidable (Reaches start count) :=
  inferInstanceAs (Decidable (_ ∨ _))

namespace Reaches

variable {start start' : Int} {count count' : Nat}

/-- A later reader is within reach, and so is a reader of fewer events. -/
theorem mono (h : Reaches start count) (hstart : start ≤ start') (hcount : count' ≤ count) :
    Reaches start' count' := by
  unfold Reaches at *
  omega

/-- Nothing wraps around on the way from the reader to the head. -/
theorem reckon_eq (h : Reaches start count) {n : Int}
    (hn : start < 0 → start - 1 ≤ n ∧ n ≤ count - start) : reckon (start - 1) n = n := by
  refine reckon_eq_self fun hbelow => ?_
  unfold Reaches maxNumber at h
  unfold emptyCursor at hbelow
  unfold minNumber maxNumber
  omega

theorem before_eq (h : Reaches start count) : before start = start - 1 :=
  h.reckon_eq (by omega)

/-- A reader out of reach is below zero, and its distance is too large. -/
theorem lt_of_not (h : ¬ Reaches start count) : start < 0 ∧ maxNumber < count - start := by
  unfold Reaches at h
  omega

end Reaches

/-- Only the smallest number has none before it. -/
theorem before_of_lt {start : Int} (hlow : minNumber < start) (hneg : start < 0) :
    before start = start - 1 := by
  refine reckon_eq_self fun _ => ?_
  unfold minNumber maxNumber at *
  omega

/-- More than the largest number wraps around to a negative one. -/
theorem wrap_of_gt {n : Int} (hlow : maxNumber < n) (hhigh : n ≤ 2 * maxNumber + 1) :
    wrap n = n - 18446744073709551616 := by
  have hsize : Int64.size = 18446744073709551616 := rfl
  unfold maxNumber at hlow hhigh
  rw [wrap, Int64.toInt_ofInt, hsize, Int.bmod_eq_emod]
  split <;> omega

/-- A log to which `events` have been published. -/
structure Holds (l : Log) (events : List Event) : Prop where
  published : l.published = events.length
  numbered : ∀ {n : Nat} {e : Event}, events[n]? = some e → e.sequence = n
  filled : l.slots.size = min l.published l.capacity
  kept : ∀ {n : Nat} {e : Event}, events[n]? = some e → l.published ≤ n + l.capacity →
    l.slots[n % l.capacity]? = some e

namespace Holds

variable {l : Log} {events : List Event}

theorem cursor_eq (h : l.Holds events) : l.cursor = (events.length : Int) - 1 := by
  rw [cursor, h.published]

theorem sequence_le_cursor (h : l.Holds events) {e : Event} (he : e ∈ events) :
    0 ≤ e.sequence ∧ e.sequence ≤ l.cursor := by
  obtain ⟨n, hn⟩ := List.mem_iff_getElem?.1 he
  have hlt := (List.getElem?_eq_some_iff.1 hn).1
  rw [h.numbered hn, h.cursor_eq]
  omega

theorem increasing (h : l.Holds events) :
    events.Pairwise fun e e' => e.sequence < e'.sequence := by
  rw [List.pairwise_iff_getElem]
  intro i j hi hj hlt
  rw [h.numbered (List.getElem?_eq_getElem hi), h.numbered (List.getElem?_eq_getElem hj)]
  omega

/-- A new log holds nothing. -/
theorem new {capacity : Nat} (hl : Log.new capacity = .ok l) : l.Holds [] := by
  obtain ⟨_, _, rfl⟩ := eq_of_new hl
  exact ⟨rfl, by simp, by simp, by simp⟩

/-- The slot of the next event is one that is filled, or the first one that is not. -/
theorem slot_le (h : l.Holds events) : l.published % l.capacity ≤ l.slots.size := by
  have hlt := Nat.mod_lt l.published l.capacity_pos
  have hle := Nat.mod_le l.published l.capacity
  rw [h.filled]
  omega

theorem size_place (h : l.Holds events) (e : Event) :
    (l.place e).size = min (l.published + 1) l.capacity := by
  have hlt := Nat.mod_lt l.published l.capacity_pos
  have hf := h.filled
  simp only [place]
  split
  · rename_i hi
    rw [Array.size_set, hf]
    rcases Nat.lt_or_ge l.published l.capacity with hp | hp
    · rw [Nat.mod_eq_of_lt hp] at hi
      omega
    · omega
  · rename_i hi
    rw [Array.size_push, hf]
    omega

theorem getElem?_place (h : l.Holds events) (e : Event) (i : Nat) :
    (l.place e)[i]? = if i = l.published % l.capacity then some e else l.slots[i]? := by
  have hle := h.slot_le
  simp only [place]
  split
  · rename_i hi
    rw [Array.getElem?_set]
    grind
  · rename_i hi
    rw [Array.getElem?_push]
    grind

/-- Numbers less than `capacity` apart have different slots. -/
theorem slot_ne {m n c : Nat} (hlt : m < n) (hnear : n < m + c) : m % c ≠ n % c := by
  intro heq
  have hd : c ∣ n - m := Nat.dvd_of_mod_eq_zero (Nat.sub_mod_eq_zero_of_mod_eq heq.symm)
  have := Nat.le_of_dvd (by omega) hd
  omega

/-- **Publishing appends.** -/
theorem publish (h : l.Holds events) (stamp : Stamp) (t : TypeId) (p : Json.Value) :
    (l.publish stamp t p).Holds (events ++ [l.nextEvent stamp t p]) := by
  have hlen := h.published
  refine ⟨by simp [Log.publish, hlen], fun {n e} hn => ?_, h.size_place _, fun {n e} hn hnear => ?_⟩
  · rcases Nat.lt_trichotomy n events.length with hlt | rfl | hgt
    · rw [List.getElem?_append_left hlt] at hn
      exact h.numbered hn
    · rw [List.getElem?_concat_length] at hn
      obtain rfl := Option.some.inj hn
      simp [nextEvent, hlen]
    · rw [List.getElem?_eq_none (by simp; omega)] at hn
      cases hn
  · simp only [Log.publish] at hnear ⊢
    rw [h.getElem?_place]
    rcases Nat.lt_trichotomy n events.length with hlt | rfl | hgt
    · rw [List.getElem?_append_left hlt] at hn
      rw [if_neg (slot_ne (by omega) (by omega))]
      exact h.kept hn (by omega)
    · rw [List.getElem?_concat_length] at hn
      rw [if_pos (by rw [hlen]), hn]
    · rw [List.getElem?_eq_none (by simp; omega)] at hn
      cases hn

/-- An event that is among the last `capacity` is found. -/
theorem event?_eq (h : l.Holds events) {n : Nat} {e : Event} (hn : events[n]? = some e)
    (hnear : l.published ≤ n + l.capacity) : l.event? n = some e := by
  simp only [event?, h.kept hn hnear, h.numbered hn, if_true]

/-- What lies in the ring is among the last `capacity` events. -/
theorem recent_of_mem (h : l.Holds events) {e : Event} (he : e ∈ l.slots) :
    (l.published : Int) ≤ e.sequence + l.capacity := by
  obtain ⟨i, hi, rfl⟩ := Array.mem_iff_getElem.1 he
  have hsize := h.filled
  have hpub := h.published
  -- the last number before `published` that has slot `i`
  let n := i + l.capacity * ((l.published - 1 - i) / l.capacity)
  have hdiv := Nat.div_add_mod (l.published - 1 - i) l.capacity
  have hmod := Nat.mod_lt (l.published - 1 - i) l.capacity_pos
  have hn : n < events.length := by omega
  have hslot : n % l.capacity = i := by
    rw [Nat.add_mul_mod_self_left, Nat.mod_eq_of_lt (by omega)]
  have hkept := h.kept (List.getElem?_eq_getElem hn) (by omega)
  rw [hslot, Array.getElem?_eq_getElem hi] at hkept
  rw [Option.some.inj hkept, h.numbered (List.getElem?_eq_getElem hn)]
  omega

/-- **The ring holds the last `capacity` events.** -/
theorem mem_slots_iff (h : l.Holds events) {e : Event} (he : e ∈ events) :
    e ∈ l.slots ↔ (l.published : Int) ≤ e.sequence + l.capacity := by
  refine ⟨h.recent_of_mem, fun hnear => ?_⟩
  obtain ⟨n, hn⟩ := List.mem_iff_getElem?.1 he
  have hnumber := h.numbered hn
  exact Array.mem_of_getElem? (h.kept hn (by omega))

/-- **Some event after `last` is gone** exactly for a reader that is more than `capacity` behind. -/
theorem exists_gone_iff (h : l.Holds events) {last : Int} (hlow : -1 ≤ last) :
    (∃ e ∈ events, last < e.sequence ∧ e ∉ l.slots) ↔ (l.capacity : Int) < l.cursor - last := by
  have hcursor := h.cursor_eq
  have hpub := h.published
  constructor
  · rintro ⟨e, he, hlast, hgone⟩
    rw [h.mem_slots_iff he] at hgone
    omega
  · intro hlag
    have hn : (last + 1).toNat < events.length := by omega
    have hnumber := h.numbered (List.getElem?_eq_getElem hn)
    refine ⟨events[(last + 1).toNat], List.getElem_mem hn, by omega, ?_⟩
    rw [h.mem_slots_iff (List.getElem_mem hn)]
    omega

/-- What is kept is collected. -/
theorem collect_eq (h : l.Holds events) {start : Nat} (hnear : l.published ≤ start + l.capacity)
    (count : Nat) (hcount : start + count ≤ l.published) :
    l.collect count start = .ok ((events.drop start).take count) := by
  induction count generalizing start with
  | zero => simp [collect]
  | succ count ih =>
    have hlt : start < events.length := by rw [← h.published]; omega
    have hget : events[start]? = some events[start] := List.getElem?_eq_getElem hlt
    rw [collect, h.event?_eq hget hnear, ih (by omega) (by omega)]
    simp only [Except.map]
    rw [List.drop_eq_getElem_cons hlt, List.take_succ_cons]

/-- Whether a reader within reach is refused, by the distance to the head. -/
theorem ensureRetained_before (h : l.Holds events) {start : Int}
    (hreach : Reaches start events.length) :
    l.ensureRetained (before start) =
      if (l.capacity : Int) < l.cursor - (start - 1) then .error (l.overflow (start - 1))
      else .ok () := by
  have hcursor := h.cursor_eq
  have hdistance : reckon (start - 1) (l.cursor - (start - 1)) = l.cursor - (start - 1) :=
    hreach.reckon_eq (by omega)
  rw [hreach.before_eq, ensureRetained_eq_ite, hdistance]
  by_cases hlag : (l.capacity : Int) < l.cursor - (start - 1)
  · rw [if_neg (by omega), if_pos hlag]
  · rw [if_pos (by omega), if_neg hlag]

/-- What is collected from any number on, while all of it is kept. -/
theorem collect_all (h : l.Holds events) {first : Nat} (hnear : l.published ≤ first + l.capacity) :
    l.collect (l.published - first) first = .ok (events.drop first) := by
  have hpub := h.published
  rcases Nat.lt_or_ge l.published first with hpast | hthere
  · -- past the next event: there is nothing to collect
    rw [Nat.sub_eq_zero_of_le (Nat.le_of_lt hpast), collect,
      List.drop_eq_nil_of_le (by omega : events.length ≤ first)]
  · rw [h.collect_eq hnear _ (by omega), List.take_of_length_le (by simp [hpub])]

/-- **What a drain gives**, from any number within reach on: one comparison decides. -/
theorem drain_from (h : l.Holds events) {start : Int} (hreach : Reaches start events.length) :
    l.drain start =
      if (l.capacity : Int) < l.cursor - (start - 1) then .error (l.overflow (start - 1))
      else .ok ⟨events.drop start.toNat, max (start - 1) l.cursor⟩ := by
  have hcursor := h.cursor_eq
  have hpub := h.published
  have hrefuses := h.ensureRetained_before hreach
  by_cases hlag : (l.capacity : Int) < l.cursor - (start - 1)
  · rw [if_pos hlag] at hrefuses ⊢
    exact drain_of_refused hrefuses
  · have hnear : l.published ≤ start.toNat + l.capacity := by omega
    have hend : reckon (start - 1)
        (max (before start) emptyCursor + (events.drop start.toNat).length) =
          max (start - 1) l.cursor := by
      rw [hreach.before_eq, List.length_drop, emptyCursor, hreach.reckon_eq (by omega)]
      omega
    rw [if_neg hlag] at hrefuses ⊢
    rw [drain_of_retained hrefuses, h.collect_all hnear]
    simp only [Except.map, hend]

/-- The ring does not hold the first event once `capacity` others have come after it. -/
theorem event?_zero (h : l.Holds events) (hfull : l.capacity < events.length) :
    l.event? 0 = none := by
  have hpub := h.published
  simp only [event?]
  split
  · rename_i e he
    refine if_neg fun hzero => ?_
    have hrecent := h.recent_of_mem (Array.mem_of_getElem? he)
    omega
  · rfl

/-- Nobody is refused from further below: the distance wraps around to a negative one. -/
theorem ensureRetained_below (h : l.Holds events) {start : Int} (hlow : minNumber ≤ start)
    (hcount : events.length ≤ maxNumber) (hfar : ¬ Reaches start events.length) :
    l.ensureRetained (before start) = .ok () := by
  have hcursor := h.cursor_eq
  have hmin : minNumber = -maxNumber - 1 := rfl
  obtain ⟨hneg, hdistance⟩ := Reaches.lt_of_not hfar
  rw [ensureRetained_eq_ite]
  refine if_pos ?_
  rcases Int.lt_or_eq_of_le hlow with hlow | rfl
  · have hbelow : start - 1 < emptyCursor := show start - 1 < -1 by omega
    rw [before_of_lt hlow hneg, reckon_of_lt hbelow, wrap_of_gt (by omega) (by omega)]
    unfold maxNumber at *
    omega
  · have hbefore : before minNumber = maxNumber := by decide
    rw [hbefore, reckon_of_le (by decide)]
    unfold maxNumber at *
    omega

/-- **What a drain gives from further below:** the first event is asked for, whether or not it is
kept. -/
theorem drain_below (h : l.Holds events) {start : Int} (hlow : minNumber ≤ start)
    (hcount : events.length ≤ maxNumber) (hfar : ¬ Reaches start events.length) :
    l.drain start =
      if l.capacity < events.length then .error (missing 0)
      else .ok ⟨events, if start = minNumber then wrap (maxNumber + events.length)
        else l.cursor⟩ := by
  have hcursor := h.cursor_eq
  have hpub := h.published
  have hneg : start < 0 := (Reaches.lt_of_not hfar).1
  have hfirst : start.toNat = 0 := by omega
  rw [drain_of_retained (h.ensureRetained_below hlow hcount hfar), hfirst]
  split
  · rename_i hfull
    obtain ⟨k, hk⟩ : ∃ k, l.published - 0 = k + 1 := ⟨l.published - 1, by omega⟩
    rw [hk, collect, h.event?_zero hfull]
    rfl
  · rename_i hroom
    have hend : reckon (start - 1) (max (before start) emptyCursor + events.length) =
        if start = minNumber then wrap (maxNumber + events.length) else l.cursor := by
      rw [reckon_of_lt (show start - 1 < -1 by omega)]
      split
      · rename_i hleast
        rw [hleast]
        rfl
      · have hmax : max (start - 1) emptyCursor = -1 := by unfold emptyCursor; omega
        have hleast : minNumber ≤ -1 + (events.length : Int) := by unfold minNumber; omega
        rw [before_of_lt (by omega) hneg, hmax, wrap_eq_self hleast (by omega)]
        omega
    rw [h.collect_all (show l.published ≤ 0 + l.capacity by omega)]
    simp only [Except.map, List.drop_zero, hend]

/-- For a reader that has seen `last`, one of the cursors so far. -/
theorem drain_eq (h : l.Holds events) {last : Int} (hlow : emptyCursor ≤ last)
    (hhigh : last ≤ l.cursor) :
    l.drain (last + 1) =
      if (l.capacity : Int) < l.cursor - last then .error (l.overflow last)
      else .ok ⟨events.drop (last + 1).toNat, l.cursor⟩ := by
  have hreach : Reaches (last + 1) events.length := .inl (by unfold emptyCursor at hlow; omega)
  rw [h.drain_from hreach, show last + 1 - 1 = last by omega, Int.max_eq_right hhigh]

/-- Among events numbered from `k` on, the later ones are what a drop leaves. -/
theorem filter_of_numbered {last : Int} {es : List Event} {k : Nat}
    (hnum : ∀ {n : Nat} {e : Event}, es[n]? = some e → e.sequence = (n + k : Nat)) :
    (es.filter fun e => last < e.sequence) = es.drop ((last + 1).toNat - k) := by
  induction es generalizing k with
  | nil => simp
  | cons e es ih =>
    have h0 : e.sequence = (k : Nat) := by simpa using hnum (n := 0) rfl
    have hrest := ih (k := k + 1) fun {n e'} hn => by
      have := hnum (n := n + 1) (by simpa using hn)
      omega
    rw [List.filter_cons, hrest]
    by_cases hlast : last < e.sequence
    · rw [if_pos (by simpa using hlast), show (last + 1).toNat - k = 0 by omega,
        show (last + 1).toNat - (k + 1) = 0 by omega, List.drop_zero, List.drop_zero]
    · rw [if_neg (by simpa using hlast),
        show (last + 1).toNat - k = ((last + 1).toNat - (k + 1)) + 1 by omega,
        List.drop_succ_cons]

theorem filter_sequence_eq_drop (h : l.Holds events) (last : Int) :
    (events.filter fun e => last < e.sequence) = events.drop (last + 1).toNat :=
  filter_of_numbered (k := 0) fun hn => by simpa using h.numbered hn

end Holds
end Log
end EventRelay

/-
# What drains give

A log is told of one item after the other and shows the last `capacity` of them.
`Log.exact_drains` says of every log that is to have room for one item at least:

| of | is said |
| --- | --- |
| a capacity | there is such a log, unless its ring takes more memory than there can be |
| an item | it becomes the event that bears the number of items before it |
| a drain from `start` | it overflows exactly if event `start` is gone, and else gives all from there on |
| a reader that is too far behind | it is refused in the same words whether or not it drains |
| a drain from any number within reach | it never meets a slot that does not hold what it should |
| a drain from further below | it meets such a slot once more than `capacity` items were appended |
| a reader that drains on and on | it is given every event from where it began, once and in order, up to an overflow |

The events are numbered as the items come (`Log.eventsOf`), with no ring in sight.
-/

import EventRelay.Proofs.Log.Ring
import Mathlib.Data.List.Induction

namespace EventRelay
namespace Log

/-- Something that is published. -/
structure Item where
  stamp : Stamp
  typeId : TypeId
  payload : Json.Value

/-- The event that an item becomes. -/
def Item.event (i : Item) (number : Nat) : Event where
  sequence := number
  eventId := i.stamp.eventId
  typeId := i.typeId
  occurredAt := i.stamp.occurredAt
  payload := i.payload

/-- The events that items become, the oldest first. -/
def eventsOf (items : List Item) : List Event := items.mapIdx fun n i => i.event n

/-- Appends an item. -/
def append (l : Log) (i : Item) : Log := l.publish i.stamp i.typeId i.payload

/-- Appends items, the oldest first. -/
def appendAll (l : Log) (items : List Item) : Log := items.foldl append l

@[simp] theorem length_eventsOf (items : List Item) : (eventsOf items).length = items.length :=
  List.length_mapIdx

theorem eventsOf_concat (items : List Item) (i : Item) :
    eventsOf (items ++ [i]) = eventsOf items ++ [i.event items.length] := by
  simp [eventsOf, List.mapIdx_append]

theorem appendAll_concat (l : Log) (items : List Item) (i : Item) :
    l.appendAll (items ++ [i]) = (l.appendAll items).append i := by
  simp [appendAll]

/-- An item becomes the event of its number. -/
theorem Holds.append {l : Log} {items : List Item} (h : l.Holds (eventsOf items)) (i : Item) :
    (l.append i).Holds (eventsOf (items ++ [i])) := by
  have hnext : l.nextEvent i.stamp i.typeId i.payload = i.event items.length := by
    rw [nextEvent, h.published, length_eventsOf]
    rfl
  rw [eventsOf_concat, ← hnext]
  exact h.publish i.stamp i.typeId i.payload

/-- **A log that items were appended to holds the events that they become.** -/
theorem holds_appendAll {l₀ : Log} {capacity : Nat} (hnew : Log.new capacity = .ok l₀)
    (items : List Item) :
    (l₀.appendAll items).Holds (eventsOf items) ∧ (l₀.appendAll items).capacity = capacity := by
  induction items using List.reverseRecOn with
  | nil =>
    refine ⟨.new hnew, ?_⟩
    obtain ⟨_, _, rfl⟩ := eq_of_new hnew
    rfl
  | append_singleton items i ih =>
    rw [appendAll_concat]
    exact ⟨ih.1.append i, ih.2⟩

/-! ### One drain -/

/-- What a log of a capacity gives that items were appended to. -/
structure DrainsExactly (capacity : Nat) (items : List Item) (l : Log) : Prop where
  /-- The next item gets the number of items so far. -/
  numbers : ∀ i : Item, (l.append i).cursor = items.length
  cursor : l.cursor = (items.length : Int) - 1
  /-- An event is gone from the ring exactly if it was there and `capacity` others came after it. -/
  gone : ∀ {start : Int}, 0 ≤ start →
    (start ≤ l.cursor - capacity ↔ ∃ e ∈ eventsOf items, e.sequence = start ∧ e ∉ l.slots)
  drain : ∀ {start : Int}, Reaches start items.length → l.drain start =
    if start ≤ l.cursor - capacity then .error (.overflow l.cursor (start - 1) capacity)
    else .ok ⟨(eventsOf items).drop start.toNat, max (start - 1) l.cursor⟩
  retained : ∀ {start : Int}, Reaches start items.length → l.ensureRetained (start - 1) =
    match l.drain start with
    | .ok _ => .ok ()
    | .error fault => .error fault
  /-- From below what it can reach nobody is refused. -/
  below : ∀ {start : Int}, minNumber ≤ start → items.length ≤ maxNumber →
    ¬ Reaches start items.length → l.drain start =
      if capacity < items.length then .error (missing 0)
      else .ok ⟨eventsOf items, if start = minNumber then wrap (maxNumber + items.length)
        else l.cursor⟩
  /-- A slot that does not hold what it should is met from there alone. -/
  sound : ∀ {start : Int}, minNumber ≤ start → items.length ≤ maxNumber →
    ((∃ text, l.drain start = .error (.internal text)) ↔
      ¬ Reaches start items.length ∧ capacity < items.length)

namespace Holds

variable {l : Log} {items : List Item}

theorem ensureRetained_eq (h : l.Holds (eventsOf items)) {start : Int}
    (hreach : Reaches start items.length) :
    l.ensureRetained (start - 1) =
      match l.drain start with
      | .ok _ => .ok ()
      | .error fault => .error fault := by
  rw [← length_eventsOf] at hreach
  have hrefuses := h.ensureRetained_before hreach
  rw [hreach.before_eq] at hrefuses
  rw [h.drain_from hreach, hrefuses]
  split <;> rfl

/-- **Whoever lags behind has lost the event that it asks for.** -/
theorem lags_iff_gone (h : l.Holds (eventsOf items)) {start : Int} (hstart : 0 ≤ start) :
    start ≤ l.cursor - l.capacity ↔ ∃ e ∈ eventsOf items, e.sequence = start ∧ e ∉ l.slots := by
  have hcursor := h.cursor_eq
  have hpub := h.published
  constructor
  · intro hlag
    have hn : start.toNat < (eventsOf items).length := by omega
    have hnumber := h.numbered (List.getElem?_eq_getElem hn)
    refine ⟨(eventsOf items)[start.toNat], List.getElem_mem hn, by omega, ?_⟩
    rw [h.mem_slots_iff (List.getElem_mem hn)]
    omega
  · rintro ⟨e, he, rfl, hgone⟩
    rw [h.mem_slots_iff he] at hgone
    omega

theorem drain_eq_ite (h : l.Holds (eventsOf items)) {start : Int}
    (hreach : Reaches start items.length) :
    l.drain start =
      if start ≤ l.cursor - l.capacity then .error (.overflow l.cursor (start - 1) l.capacity)
      else .ok ⟨(eventsOf items).drop start.toNat, max (start - 1) l.cursor⟩ := by
  have hiff : (l.capacity : Int) < l.cursor - (start - 1) ↔ start ≤ l.cursor - l.capacity := by
    omega
  rw [← length_eventsOf] at hreach
  rw [h.drain_from hreach]
  simp only [hiff]
  rfl

theorem drain_eq_below (h : l.Holds (eventsOf items)) {start : Int} (hlow : minNumber ≤ start)
    (hcount : items.length ≤ maxNumber) (hfar : ¬ Reaches start items.length) :
    l.drain start =
      if l.capacity < items.length then .error (missing 0)
      else .ok ⟨eventsOf items, if start = minNumber then wrap (maxNumber + items.length)
        else l.cursor⟩ := by
  rw [← length_eventsOf] at hcount hfar
  rw [h.drain_below hlow hcount hfar, length_eventsOf]

/-- **Which drains meet a slot that does not hold what it should.** -/
theorem exists_internal_iff (h : l.Holds (eventsOf items)) {start : Int} (hlow : minNumber ≤ start)
    (hcount : items.length ≤ maxNumber) :
    (∃ text, l.drain start = .error (.internal text)) ↔
      ¬ Reaches start items.length ∧ l.capacity < items.length := by
  by_cases hreach : Reaches start items.length
  · rw [h.drain_eq_ite hreach]
    refine iff_of_false (fun ⟨text, htext⟩ => ?_) fun hfar => hfar.1 hreach
    split at htext <;> cases htext
  · rw [h.drain_eq_below hlow hcount hreach, and_iff_right hreach]
    split
    · rename_i hfull
      exact iff_of_true ⟨_, rfl⟩ hfull
    · rename_i hroom
      exact iff_of_false (fun ⟨text, htext⟩ => by cases htext) hroom

theorem drainsExactly (h : l.Holds (eventsOf items)) : DrainsExactly l.capacity items l where
  numbers i := by
    rw [Log.append, cursor_publish, h.cursor_eq, length_eventsOf]
    omega
  cursor := by rw [h.cursor_eq, length_eventsOf]
  gone := h.lags_iff_gone
  drain := h.drain_eq_ite
  retained := h.ensureRetained_eq
  below := h.drain_eq_below
  sound := h.exists_internal_iff

end Holds

/-! ### One drain after the other -/

/-- A log, and a reader that goes on from where its last drain has ended. -/
structure Chain where
  log : Log
  /-- The number that the next drain starts from. -/
  next : Int
  /-- Everything that the reader has been given. -/
  given : List Event

namespace Chain

/-- One thing that can happen next. -/
inductive Move where
  | append (i : Item)
  | drain

/-- The item that a move appends. -/
def Move.item? : Move → Option Item
  | append i => some i
  | drain => none

/-- The items that moves append. -/
def items (ms : List Move) : List Item := ms.filterMap Move.item?

/-- Lets one thing happen; a drain may be refused. -/
def step (c : Chain) : Move → Outcome Chain
  | .append i => .ok { c with log := c.log.append i }
  | .drain => (c.log.drain c.next).map fun d =>
    { c with next := d.cursor + 1, given := c.given ++ d.events }

/-- Lets one thing happen after the other, up to a refusal. -/
def run (c : Chain) (ms : List Move) : Outcome Chain := ms.foldlM step c

variable {c c' : Chain} {ms : List Move} {m : Move} {fault : Fault} {start : Int} {capacity : Nat}

/-- A run and one move more, without a refusal. -/
theorem run_concat_eq_ok : c.run (ms ++ [m]) = .ok c' ↔
    ∃ d, c.run ms = .ok d ∧ d.step m = .ok c' := by
  simp only [run, List.foldlM_append, List.foldlM_cons, List.foldlM_nil, bind_pure]
  cases List.foldlM step c ms with
  | error fault => simp [bind, Except.bind]
  | ok d => simp [bind, Except.bind]

/-- A run is refused before its last move, or with it. -/
theorem run_concat_eq_error : c.run (ms ++ [m]) = .error fault ↔
    c.run ms = .error fault ∨ ∃ d, c.run ms = .ok d ∧ d.step m = .error fault := by
  simp only [run, List.foldlM_append, List.foldlM_cons, List.foldlM_nil, bind_pure]
  cases List.foldlM step c ms with
  | error fault => simp [bind, Except.bind]
  | ok d => simp [bind, Except.bind]

theorem items_append (ms ms' : List Move) : items (ms ++ ms') = items ms ++ items ms' :=
  List.filterMap_append

/-- What is within reach has been so before. -/
theorem reaches_of_append {ms' : List Move} (h : Reaches start (items (ms ++ ms')).length) :
    Reaches start (items ms).length :=
  h.mono (Int.le_refl _) (by rw [items_append, List.length_append]; exact Nat.le_add_right ..)

/-- What a reader has been given that began with `start`: everything from there up to where it goes
on, unless it began past the last event. -/
structure Follows (capacity : Nat) (start : Int) (its : List Item) (c : Chain) : Prop where
  holds : c.log.Holds (eventsOf its)
  capacity : c.log.capacity = capacity
  start_le : start ≤ c.next
  reached : c.next = start ∨ c.next ≤ its.length
  given : c.given = ((eventsOf its).take c.next.toNat).drop start.toNat

namespace Follows

variable {its : List Item}

theorem append (h : Follows capacity start its c) (i : Item) :
    Follows capacity start (its ++ [i]) { c with log := c.log.append i } := by
  refine ⟨h.holds.append i, h.capacity, h.start_le, ?_, ?_⟩
  · rw [List.length_append]
    rcases h.reached with hsame | hle
    · exact .inl hsame
    · exact .inr (by push_cast; omega)
  · show c.given = ((eventsOf (its ++ [i])).take c.next.toNat).drop start.toNat
    rw [eventsOf_concat, h.given]
    rcases h.reached with hsame | hle
    · -- the reader began past the last event and has been given nothing
      rw [hsame, List.drop_eq_nil_of_le (List.length_take_le ..),
        List.drop_eq_nil_of_le (List.length_take_le ..)]
    · rw [List.take_append_of_le_length (by rw [length_eventsOf]; omega)]

/-- The reader stays within reach. -/
theorem reaches (h : Follows capacity start its c) (hreach : Reaches start its.length) :
    Reaches c.next its.length :=
  hreach.mono h.start_le (Nat.le_refl _)

/-- **A drain that is not refused catches up.** -/
theorem drain (h : Follows capacity start its c) (hreach : Reaches start its.length)
    (hstep : c.step .drain = .ok c') :
    Follows capacity start its c' ∧ c'.given = (eventsOf its).drop start.toNat := by
  have hcursor := h.holds.cursor_eq
  rw [length_eventsOf] at hcursor
  simp only [step, h.holds.drain_eq_ite (h.reaches hreach)] at hstep
  split at hstep
  · cases hstep
  · cases hstep
    have hgiven :
        c.given ++ (eventsOf its).drop c.next.toNat = (eventsOf its).drop start.toNat := by
      have hle : start.toNat ≤ c.next.toNat := Int.toNat_le_toNat h.start_le
      rw [h.given, List.drop_take]
      conv_rhs => rw [← List.take_append_drop (c.next.toNat - start.toNat)
        ((eventsOf its).drop start.toNat)]
      rw [List.drop_drop, show start.toNat + (c.next.toNat - start.toNat) = c.next.toNat by omega]
    refine ⟨⟨h.holds, h.capacity, ?_, ?_, ?_⟩, hgiven⟩
    · have := h.start_le
      simp only
      omega
    · have := h.reached
      simp only
      omega
    · simp only
      rw [hgiven, List.take_of_length_le (by rw [length_eventsOf]; omega)]

/-- **A drain is refused** only because the event that is asked for is gone. -/
theorem refused (h : Follows capacity start its c) (hreach : Reaches start its.length)
    (hstep : c.step .drain = .error fault) :
    c.next ≤ c.log.cursor - capacity ∧
      fault = .overflow c.log.cursor (c.next - 1) capacity := by
  simp only [step, h.holds.drain_eq_ite (h.reaches hreach), h.capacity] at hstep
  split at hstep
  · rename_i hlag
    cases hstep
    exact ⟨hlag, rfl⟩
  · cases hstep

/-- **What a run without a refusal keeps.** -/
theorem run {l₀ : Log} (hnew : Log.new capacity = .ok l₀) (hreach : Reaches start (items ms).length)
    (hrun : Chain.run ⟨l₀, start, []⟩ ms = .ok c) : Follows capacity start (items ms) c := by
  induction ms using List.reverseRecOn generalizing c with
  | nil =>
    cases hrun
    obtain ⟨hholds, hcapacity⟩ := holds_appendAll hnew []
    exact ⟨hholds, hcapacity, Int.le_refl _, .inl rfl, by simp [items, eventsOf]⟩
  | append_singleton ms m ih =>
    obtain ⟨c', hc', hstep⟩ := run_concat_eq_ok.1 hrun
    have hreach' := reaches_of_append hreach
    rw [items_append]
    cases m with
    | append i =>
      cases hstep
      exact (ih hreach' hc').append i
    | drain =>
      have hsame : items ms ++ items [.drain] = items ms := List.append_nil _
      rw [hsame]
      exact ((ih hreach' hc').drain hreach' hstep).1

end Follows

/-- **How a run is refused:** by a drain whose event is gone. -/
theorem refused_run {l₀ : Log} (hnew : Log.new capacity = .ok l₀)
    (hreach : Reaches start (items ms).length)
    (hrun : Chain.run ⟨l₀, start, []⟩ ms = .error fault) :
    ∃ front back d, ms = front ++ .drain :: back ∧ Chain.run ⟨l₀, start, []⟩ front = .ok d ∧
      d.next ≤ d.log.cursor - capacity ∧
      fault = .overflow d.log.cursor (d.next - 1) capacity := by
  induction ms using List.reverseRecOn with
  | nil => cases hrun
  | append_singleton ms m ih =>
    have hreach' := reaches_of_append hreach
    rcases run_concat_eq_error.1 hrun with hbefore | ⟨d, hd, hstep⟩
    · obtain ⟨front, back, d, rfl, hd, hlag, hfault⟩ := ih hreach' hbefore
      exact ⟨front, back ++ [m], d, by simp, hd, hlag, hfault⟩
    · cases m with
      | append i => cases hstep
      | drain =>
        obtain ⟨hlag, hfault⟩ := (Follows.run hnew hreach' hd).refused hreach' hstep
        exact ⟨ms, [], d, rfl, hd, hlag, hfault⟩

/-- What a reader is given that begins with `start` and goes on from where each drain has ended,
while items are appended and `start` stays within reach. -/
structure GivesOnce (capacity : Nat) (start : Int) (c : Chain) : Prop where
  /-- After each drain it has been given every event from `start` on, once and in order. -/
  given : ∀ {ms c'}, Reaches start (items ms).length → c.run (ms ++ [.drain]) = .ok c' →
    c'.given = (eventsOf (items ms)).drop start.toNat
  /-- Only a drain ends it, and only once the event that it asks for is gone. -/
  ends : ∀ {ms fault}, Reaches start (items ms).length → c.run ms = .error fault →
    ∃ front back d, ms = front ++ .drain :: back ∧ c.run front = .ok d ∧
      d.next ≤ d.log.cursor - capacity ∧ fault = .overflow d.log.cursor (d.next - 1) capacity

theorem givesOnce {l₀ : Log} (hnew : Log.new capacity = .ok l₀) (start : Int) :
    GivesOnce capacity start ⟨l₀, start, []⟩ where
  given hreach hrun := by
    obtain ⟨d, hd, hstep⟩ := run_concat_eq_ok.1 hrun
    exact ((Follows.run hnew hreach hd).drain hreach hstep).2
  ends := refused_run hnew

end Chain

/-- **The log is exact.**  Whatever capacity but zero is asked for, the process panics if there can
be no room for so many events, and otherwise there is a log; whatever items are appended to it, a
drain gives what `DrainsExactly` says, and one drain after the other what `Chain.GivesOnce` says. -/
theorem exact_drains {capacity : Nat} (hcapacity : 0 < capacity) :
    (maxCapacity < capacity → Log.new capacity = .error .panic) ∧
      (capacity ≤ maxCapacity → ∃ l₀, Log.new capacity = .ok l₀ ∧
        (∀ items, DrainsExactly capacity items (l₀.appendAll items)) ∧
        ∀ start : Int, Chain.GivesOnce capacity start ⟨l₀, start, []⟩) := by
  refine ⟨new_eq_panic_iff.2, fun hle => ?_⟩
  obtain ⟨l₀, hnew⟩ := exists_new_iff.2 ⟨hcapacity, hle⟩
  refine ⟨l₀, hnew, fun items => ?_, Chain.givesOnce hnew⟩
  obtain ⟨hholds, rfl⟩ := holds_appendAll hnew items
  exact hholds.drainsExactly

/-- A log that keeps two events, and three items. -/
theorem exact_drains_two : 0 < 2 ∧ ∃ l₀, Log.new 2 = .ok l₀ ∧
    ∀ i : Item, (l₀.appendAll [i, i, i]).drain 0 = .error (.overflow 2 (-1) 2) ∧
      (l₀.appendAll [i, i, i]).drain 1 = .ok ⟨[i.event 1, i.event 2], 2⟩ := by
  obtain ⟨l₀, hnew, hdrains, -⟩ := (exact_drains (show 0 < 2 by decide)).2 (by decide)
  refine ⟨by decide, l₀, hnew, fun i => ?_⟩
  have h := hdrains [i, i, i]
  have hcursor : (l₀.appendAll [i, i, i]).cursor = 2 := h.cursor
  rw [h.drain (.inl (by decide)), h.drain (.inl (by decide)), hcursor]
  exact ⟨rfl, rfl⟩

namespace Sample

theorem eventId_lt : 11 < 1 <<< 128 := by decide

theorem typeId_valid : TypeId.problem? "tick" = none := by decide

def item : Item := ⟨⟨⟨11, eventId_lt⟩, .ofUnixNanos 0⟩, ⟨"tick", typeId_valid⟩, .null⟩

end Sample

/-- A ring keeps four of six events, and a reader from far below is not told that it has lost
any. -/
theorem drain_far_below : (appendAll ⟨4, by decide, by decide, #[], 0⟩
    (List.replicate 6 Sample.item)).drain (-9223372036854775807) =
      .error (.internal "slot for sequence 0 does not hold it") := rfl

/-- **Neither is there a log for every capacity, nor a right answer for every number**: the ring may
take more memory than there can be, and a reader from far below meets a slot that has been taken. -/
theorem inexact_at_the_ends :
    (¬ ∀ capacity, 0 < capacity → ∃ l₀, Log.new capacity = .ok l₀) ∧
      ¬ ∀ capacity l₀ items start text, 0 < capacity → Log.new capacity = .ok l₀ →
        (items.length : Int) ≤ maxNumber → minNumber ≤ start → start ≤ maxNumber →
          (l₀.appendAll items).drain start ≠ .error (.internal text) := by
  constructor
  · intro h
    exact absurd (exists_new_iff.1 (h 18446744073709551615 (by decide))).2 (by decide)
  · intro h
    exact h 4 _ _ _ _ (by decide) rfl (by decide) (by decide) (by decide) drain_far_below

end Log
end EventRelay

/-
# The broadcast log

Events are numbered from zero and kept in a ring: event `n` lies in slot
`n mod capacity`, so the last `capacity` events are there and no others.  Readers are
unknown to the log; each carries the number of the last event it has seen and asks for
what comes after.

| reader | answer of `drain` |
| --- | --- |
| more than `capacity` events behind | overflow: some of what it wants is gone |
| otherwise | every event after the one it has seen |

Numbers of events are 64 bits wide, and arithmetic on them wraps around.  The events themselves
do not come near the end of the numbers, but a reader may ask from any number on (`Log.reckon`):
one that is too far below zero is taken to be ahead of the log.
-/

import EventRelay.Event

namespace EventRelay

/-- What sets one publication apart from every other. -/
structure Stamp where
  eventId : Uuid
  occurredAt : Timestamp

/-- The most events that a log can be made to keep: the slots of its ring, of 8 bytes each, take up
no more than `2 ^ 63 - 1` bytes. -/
def Log.maxCapacity : Nat := 1152921504606846975

/-- A log that keeps the last `capacity` events. -/
structure Log where
  capacity : Nat
  capacity_pos : 0 < capacity
  capacity_le : capacity ≤ Log.maxCapacity
  /-- The ring, as far as it has been filled. -/
  slots : Array Event
  /-- How many events have been published. -/
  published : Nat

/-- Events handed to a reader, and the number of the last one it has then seen. -/
structure Drain where
  events : List Event
  cursor : Int

namespace Log

/-- The cursor of a log without events. -/
def emptyCursor : Int := -1

/-- A log without events, whose ring is made room for at once. -/
def new (capacity : Nat) : Setup Log :=
  if hpos : 0 < capacity then
    if hle : capacity ≤ maxCapacity then .ok ⟨capacity, hpos, hle, #[], 0⟩ else .error .panic
  else .error (.fault (.config "log capacity must be non-zero"))

/-- What a new log is. -/
theorem eq_of_new {capacity : Nat} {l : Log} (h : new capacity = .ok l) :
    ∃ hpos hle, l = ⟨capacity, hpos, hle, #[], 0⟩ := by
  unfold new at h
  split at h
  · rename_i hpos
    split at h
    · rename_i hle
      exact ⟨hpos, hle, (Except.ok.inj h).symm⟩
    · cases h
  · cases h

/-- **What can be kept**: one event at least, and no more than there can be room for. -/
theorem exists_new_iff {capacity : Nat} :
    (∃ l, new capacity = .ok l) ↔ 0 < capacity ∧ capacity ≤ maxCapacity := by
  constructor
  · rintro ⟨l, hl⟩
    obtain ⟨hpos, hle, -⟩ := eq_of_new hl
    exact ⟨hpos, hle⟩
  · rintro ⟨hpos, hle⟩
    exact ⟨_, by rw [new, dif_pos hpos, dif_pos hle]⟩

/-- **A log that is to keep more makes the process panic.** -/
theorem new_eq_panic_iff {capacity : Nat} :
    new capacity = .error .panic ↔ maxCapacity < capacity := by
  unfold new
  split
  · split <;> simp_all
  · rename_i hpos
    simp only [Except.error.injEq, reduceCtorEq, false_iff]
    omega

/-- The number of the last event, or `emptyCursor`. -/
def cursor (l : Log) : Int := (l.published : Int) - 1

/-- The event that gets the next number. -/
def nextEvent (l : Log) (stamp : Stamp) (typeId : TypeId) (payload : Json.Value) : Event where
  sequence := l.published
  eventId := stamp.eventId
  typeId := typeId
  occurredAt := stamp.occurredAt
  payload := payload

/-- Puts an event into its slot. -/
def place (l : Log) (e : Event) : Array Event :=
  let i := l.published % l.capacity
  if h : i < l.slots.size then l.slots.set i e else l.slots.push e

/-- Appends an event. -/
def publish (l : Log) (stamp : Stamp) (typeId : TypeId) (payload : Json.Value) : Log :=
  { l with
    slots := l.place (l.nextEvent stamp typeId payload)
    published := l.published + 1 }

@[simp] theorem cursor_publish (l : Log) (stamp : Stamp) (t : TypeId) (p : Json.Value) :
    (l.publish stamp t p).cursor = l.cursor + 1 := by
  simp [cursor, publish]

@[simp] theorem capacity_publish (l : Log) (stamp : Stamp) (t : TypeId) (p : Json.Value) :
    (l.publish stamp t p).capacity = l.capacity := rfl

/-- The smallest number that an event can be asked for by. -/
def minNumber : Int := -9223372036854775808

/-- The largest one. -/
def maxNumber : Int := 9223372036854775807

/-- What 64 bits hold of a number. -/
def wrap (n : Int) : Int := (Int64.ofInt n).toInt

/-- A number that is worked out for a reader that has seen `last`.  It wraps around where `last` is
below all cursors; from `emptyCursor` on nothing does, since there are never `2 ^ 63` events. -/
def reckon : (last n : Int) → Int
  | .negSucc (_ + 1), n => wrap n
  | .negSucc 0, n | .ofNat _, n => n

/-- The number before `start`; before the smallest number comes the largest. -/
def before (start : Int) : Int := reckon (start - 1) (start - 1)

theorem wrap_eq_self {n : Int} (hlow : minNumber ≤ n) (hhigh : n ≤ maxNumber) : wrap n = n :=
  Int64.toInt_ofInt_of_le hlow (Int.lt_add_one_of_le hhigh)

theorem reckon_of_lt {last : Int} (h : last < emptyCursor) (n : Int) : reckon last n = wrap n := by
  unfold emptyCursor at h
  match last with
  | .negSucc (_ + 1) => rfl
  | .negSucc 0 => cases h
  | .ofNat k => exact absurd (Int.lt_of_le_of_lt (Int.natCast_nonneg k) h) (by decide)

theorem reckon_of_le {last : Int} (h : emptyCursor ≤ last) (n : Int) : reckon last n = n := by
  unfold emptyCursor at h
  match last with
  | .negSucc (_ + 1) => omega
  | .negSucc 0 | .ofNat _ => rfl

/-- Numbers stay as they are. -/
theorem reckon_eq_self {last n : Int}
    (h : last < emptyCursor → minNumber ≤ n ∧ n ≤ maxNumber) : reckon last n = n := by
  by_cases hbelow : last < emptyCursor
  · rw [reckon_of_lt hbelow, wrap_eq_self (h hbelow).1 (h hbelow).2]
  · exact reckon_of_le (Int.not_lt.1 hbelow) n

/-- Whether every event after `last` is still kept. -/
def retains (l : Log) (last : Int) : Bool := reckon last (l.cursor - last) ≤ l.capacity

/-- The failure of a reader that has seen `last`. -/
def overflow (l : Log) (last : Int) : Fault := .overflow l.cursor last l.capacity

/-- Refuses a reader that has seen `last` once later events are gone. -/
def ensureRetained (l : Log) (last : Int) : Outcome Unit :=
  if l.retains last then .ok () else .error (l.overflow last)

theorem ensureRetained_eq_ite (l : Log) (last : Int) :
    l.ensureRetained last =
      if reckon last (l.cursor - last) ≤ l.capacity then .ok () else .error (l.overflow last) := by
  simp only [ensureRetained, retains, decide_eq_true_eq]

/-- A reader that has seen one of the cursors is refused if it is more than `capacity` behind. -/
theorem ensureRetained_of_le {last : Int} (h : emptyCursor ≤ last) (l : Log) :
    l.ensureRetained last =
      if l.cursor - last ≤ l.capacity then .ok () else .error (l.overflow last) := by
  rw [ensureRetained_eq_ite, reckon_of_le h]

/-- The event with a number, if its slot holds it. -/
def event? (l : Log) (n : Nat) : Option Event :=
  match l.slots[n % l.capacity]? with
  | some e => if e.sequence = n then some e else none
  | none => none

/-- The failure of a ring that does not hold what it should. -/
def missing (n : Nat) : Fault :=
  .internal ("slot for sequence " ++ toString n ++ " does not hold it")

/-- `count` events from number `start` on. -/
def collect (l : Log) : (count start : Nat) → Outcome (List Event)
  | 0, _ => .ok []
  | count + 1, start =>
    match l.event? start with
    | none => .error (missing start)
    | some e => (l.collect count (start + 1)).map (e :: ·)

/-- Everything from number `start` on, without waiting. -/
def drain (l : Log) (start : Int) : Outcome Drain := do
  l.ensureRetained (before start)
  let events ← l.collect (l.published - start.toNat) start.toNat
  return { events, cursor := reckon (start - 1) (max (before start) emptyCursor + events.length) }

variable {l : Log} {start : Int}

/-- A reader that is refused is told so when it drains. -/
theorem drain_of_refused {fault : Fault} (h : l.ensureRetained (before start) = .error fault) :
    l.drain start = .error fault := by
  unfold drain
  rw [h]
  rfl

theorem drain_of_retained (h : l.ensureRetained (before start) = .ok ()) :
    l.drain start =
      (l.collect (l.published - start.toNat) start.toNat).map fun events =>
        ⟨events, reckon (start - 1) (max (before start) emptyCursor + events.length)⟩ := by
  unfold drain
  rw [h]
  cases l.collect (l.published - start.toNat) start.toNat <;> rfl

end Log
end EventRelay

/-
# Feeds that slow listeners may miss parts of

A feed keeps its last `capacity` messages.  A listener that comes too late for some is
told how many it missed and then hears the ones that are kept.
-/

namespace EventRelay

/-- Messages sent so far, the first one first. -/
structure Feed (α : Type) where
  capacity : Nat
  sent : List α

/-- A listener: how many messages of the feed it has left behind. -/
structure Listener where
  heard : Nat
  deriving DecidableEq, Repr

/-- What a listener hears. -/
inductive Heard (α : Type) where
  | missed (count : Nat)
  | message (m : α)
  deriving DecidableEq, Repr

namespace Feed

variable {α : Type}

/-- A feed without messages. -/
def new (capacity : Nat) : Feed α := ⟨capacity, []⟩

/-- Sends a message. -/
def send (f : Feed α) (m : α) : Feed α := { f with sent := f.sent ++ [m] }

/-- A listener that hears what is sent from now on. -/
def listen (f : Feed α) : Listener := ⟨f.sent.length⟩

/-- How many messages a listener has missed for good. -/
def missed (f : Feed α) (l : Listener) : Nat := f.sent.length - f.capacity - l.heard

/-- Everything a listener can hear now. -/
def hear (f : Feed α) (l : Listener) : List (Heard α) :=
  let lost := f.missed l
  (if lost = 0 then [] else [.missed lost]) ++ (f.sent.drop (l.heard + lost)).map .message

@[simp] theorem sent_send (f : Feed α) (m : α) : (f.send m).sent = f.sent ++ [m] := rfl

theorem hear_listen (f : Feed α) : f.hear f.listen = [] := by
  simp [hear, missed, listen]

/-- A listener in time hears exactly what was sent since. -/
theorem hear_of_in_time {f : Feed α} {l : Listener} (h : f.sent.length ≤ f.capacity + l.heard) :
    f.hear l = (f.sent.drop l.heard).map .message := by
  have : f.missed l = 0 := by simp only [missed]; omega
  simp [hear, this]

end Feed
end EventRelay

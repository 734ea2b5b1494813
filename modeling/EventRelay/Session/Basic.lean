/-
# The state of a session

A session has read the log up to an event and wants events of some types.  It ends once
and for good: what has ended it says whether it was still alive.
-/

import EventRelay.Event

namespace EventRelay

/-- What a server keeps for one client. -/
structure Session where
  source : SourceId
  /-- The number of the last event that the session has consumed. -/
  lastSequence : Int
  /-- The types that are delivered, each once. -/
  subscriptions : List TypeId
  invalidated : Bool
  deriving DecidableEq

namespace Session

/-- A session that will see what comes after `start`. -/
def new (source : SourceId) (start : Int) : Session := ⟨source, max start (-1), [], false⟩

/-- Moves a session to an event. -/
def update (s : Session) (sequence : Int) : Session := { s with lastSequence := sequence }

/-- Whether events of a type are delivered. -/
def isSubscribed (s : Session) (t : TypeId) : Bool := s.subscriptions.contains t

/-- Adds a type. -/
def subscribe (s : Session) (t : TypeId) : Session :=
  if s.isSubscribed t then s else { s with subscriptions := s.subscriptions ++ [t] }

/-- Takes a type away. -/
def unsubscribe (s : Session) (t : TypeId) : Session :=
  { s with subscriptions := s.subscriptions.filter (· ≠ t) }

/-- Ends a session. -/
def invalidate (s : Session) : Session := { s with invalidated := true }

/-- The types of a session as texts, in increasing order. -/
def typeTexts (s : Session) : List String :=
  (s.subscriptions.map TypeId.text).mergeSort fun a b => decide (a ≤ b)

@[simp] theorem isSubscribed_subscribe (s : Session) (t u : TypeId) :
    (s.subscribe t).isSubscribed u = (s.isSubscribed u || u == t) := by
  unfold subscribe
  split
  · rename_i h
    by_cases hu : u = t
    · subst hu; simp [h]
    · simp [hu]
  · rw [Bool.eq_iff_iff]
    simp [isSubscribed]

@[simp] theorem isSubscribed_unsubscribe (s : Session) (t u : TypeId) :
    (s.unsubscribe t).isSubscribed u = (s.isSubscribed u && u != t) := by
  rw [Bool.eq_iff_iff]
  simp [unsubscribe, isSubscribed]

@[simp] theorem isSubscribed_update (s : Session) (n : Int) (t : TypeId) :
    (s.update n).isSubscribed t = s.isSubscribed t := rfl

@[simp] theorem isSubscribed_invalidate (s : Session) (t : TypeId) :
    s.invalidate.isSubscribed t = s.isSubscribed t := rfl

end Session
end EventRelay

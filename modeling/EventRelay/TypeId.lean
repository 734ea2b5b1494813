/-
# Event types

A type id is any text of at most 256 bytes that is not blank and not one of the two
path segments `.` and `..`, which no URL carries.
-/

import EventRelay.Fault
import EventRelay.Text.Blank
import EventRelay.Text.Quoted

namespace EventRelay
namespace TypeId

/-- The greatest length of a type id, in bytes. -/
def maxBytes : Nat := 256

/-- Why a text is no type id. -/
inductive Problem where
  | blank
  | reserved
  | tooLong
  deriving DecidableEq, Repr

/-- The wording of a problem with a text. -/
def Problem.message (text : String) : Problem → String
  | blank => "type id must not be empty"
  | reserved => "type id " ++ Text.quoted text ++ " is reserved"
  | tooLong => "type id exceeds " ++ toString maxBytes ++ " bytes"

/-- The first problem of a text, `none` when it is a type id. -/
def problem? (text : String) : Option Problem :=
  if Text.isBlankText text then some .blank
  else if text = "." ∨ text = ".." then some .reserved
  else if maxBytes < text.utf8ByteSize then some .tooLong
  else none

end TypeId

/-- The kind of an event, which subscriptions are matched against. -/
structure TypeId where
  text : String
  valid : TypeId.problem? text = none
  deriving DecidableEq

namespace TypeId

/-- A type id of a text, or the problem with it. -/
def ofString (text : String) : Outcome TypeId :=
  match h : problem? text with
  | none => .ok ⟨text, h⟩
  | some problem => .error (.invalidInput (problem.message text))

theorem ofString_text (t : TypeId) : ofString t.text = .ok t := by
  unfold ofString
  split
  · rfl
  · rename_i p h
    rw [t.valid] at h
    cases h

theorem text_of_ofString {s : String} {t : TypeId} (h : ofString s = .ok t) : t.text = s := by
  unfold ofString at h
  split at h
  · cases h; rfl
  · cases h

end TypeId
end EventRelay

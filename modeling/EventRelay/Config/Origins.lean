/-
# Allowed origins

The origins whose pages may call a server are listed with commas between them.  Blanks
around an origin are dropped; what is then empty or cannot stand in a header is left
out; and where nothing is left the default origin is allowed.
-/

import EventRelay.Config.Defaults
import EventRelay.Text.Blank

namespace EventRelay
namespace Origins

/-- Characters that may stand in a header: no control character but the tab. -/
def isHeaderChar (c : Char) : Bool := (0x20 ≤ c.toNat || c == '\t') && c.toNat != 0x7F

/-- Whether a text can stand in a header. -/
def isHeaderText (s : String) : Bool := s.toList.all isHeaderChar

/-- The pieces of a list between its commas, trimmed. -/
def pieces (s : String) : List String :=
  (s.toList.splitOn ',').map fun cs => String.ofList (Text.trimChars cs)

/-- The origins of a list, the default one if it has none. -/
def ofList (s : String) : List String :=
  match (pieces s).filter fun p => !p.isEmpty && isHeaderText p with
  | [] => [Defaults.origin]
  | origins => origins

/-- The origins of a setting; an unset one lists nothing. -/
def ofSetting (setting : Option String) : List String := ofList (setting.getD "")

/-- **There is always an allowed origin.** -/
theorem ofList_ne_nil (s : String) : ofList s ≠ [] := by
  unfold ofList
  split
  · simp
  · assumption

/-- The origin that stands for every origin; a list that holds it cannot be served. -/
def wildcard : String := "*"

/-- Whether a list of origins can be served. -/
def servable (origins : List String) : Bool := !origins.contains wildcard

end Origins
end EventRelay

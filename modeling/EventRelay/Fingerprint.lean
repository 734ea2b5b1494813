/-
# Deployment fingerprints

A fingerprint names one deployment.  It is usable as a path segment: ASCII letters and
digits, hyphens, underscores and points, at least one of them.
-/

import EventRelay.Config.Defaults
import EventRelay.Fault
import EventRelay.Text.Quoted

namespace EventRelay

/-- The name of a deployment. -/
structure Fingerprint where
  text : String
  deriving DecidableEq, Repr

namespace Fingerprint

/-- The characters of a fingerprint. -/
def isMark (c : Char) : Bool := c.isAlphanum || c == '-' || c == '_' || c == '.'

/-- Whether a text can name a deployment. -/
def isValid (text : String) : Bool := !text.isEmpty && text.toList.all isMark

/-- A fingerprint of a text, or a refusal. -/
def ofString (text : String) : Outcome Fingerprint :=
  if isValid text then .ok ⟨text⟩
  else .error (.config ("invalid deployment fingerprint: " ++ Text.quoted text))

/-- The fingerprint built into the program. -/
def compiled : Fingerprint := ⟨Defaults.version⟩

/-- Whether a candidate names this deployment. -/
def matchesText (f : Fingerprint) (candidate : String) : Bool := f.text == candidate

/-- The path under which a deployment is found. -/
def resourcePath (f : Fingerprint) : String := Defaults.fingerprintPath ++ "/" ++ f.text

theorem text_of_ofString {s : String} {f : Fingerprint} (h : ofString s = .ok f) : f.text = s := by
  unfold ofString at h
  split at h
  · cases h; rfl
  · cases h

theorem isValid_compiled : isValid compiled.text = true := by decide +kernel

end Fingerprint
end EventRelay

/-
# Settings from the environment

An environment assigns texts to names.  A setting is read from the trimmed text of its
name; one that is unset or unreadable takes its default.
-/

import EventRelay.Fingerprint
import EventRelay.Text.Blank
import EventRelay.Text.Numeral

namespace EventRelay

/-- Names with their texts. -/
abbrev Environment := List (String × String)

namespace Environment

/-- The names that settings have. -/
def names : List String :=
  ["COMETBUS_BUFFER_SIZE", "COMETBUS_MIN_WAIT_MS", "COMETBUS_MAX_WAIT_MS",
    "COMETBUS_SESSION_TTL_SECS", "COMETBUS_SWEEP_INTERVAL_SECS", "COMETBUS_REQUEST_TIMEOUT_MS",
    "COMETBUS_FINGERPRINT", "COMETBUS_URL", "COMETBUS_RETRY_DELAY_MS", "HOST", "PORT",
    "ALLOWED_ORIGINS"]

/-- The setting of a name, or its default. -/
def setting {α : Type} (env : Environment) (name : String) (read : String → Option α)
    (default : α) : α :=
  ((env.lookup name).bind fun raw => read (Text.trim raw)).getD default

/-- The text of a name, or its default. -/
def textOr (env : Environment) (name default : String) : String :=
  (env.lookup name).getD default

/-- A setting that is an unsigned word. -/
def word (env : Environment) (name : String) (default : Nat) : Nat :=
  env.setting name (Text.natural? (1 <<< 64)) default

/-- The deployment named by the environment, or the one built in. -/
def fingerprint (env : Environment) : Fingerprint :=
  match env.lookup "COMETBUS_FINGERPRINT" with
  | none => .compiled
  | some text =>
    match Fingerprint.ofString text with
    | .ok f => f
    | .error _ => .compiled

theorem setting_of_unset {α : Type} {env : Environment} {name : String}
    (h : env.lookup name = none) (read : String → Option α) (default : α) :
    env.setting name read default = default := by
  simp [setting, h]

end Environment
end EventRelay

/-
# Server settings

`ServerConfig.problem?` refuses settings that no coordinator can honour; what it accepts
has room for an event, waits in order, and leaves a poll time to answer:
`0 < capacity`, `minWait ≤ maxWait < requestTimeout`.
-/

import EventRelay.Config.Defaults
import EventRelay.Config.Environment
import EventRelay.Duration

namespace EventRelay

/-- What a server can be told. -/
structure ServerConfig where
  /-- Events that the log retains. -/
  bufferCapacity : Nat
  /-- How long a poll that finds events waits for more. -/
  minWait : Duration
  /-- How long an idle poll is held open. -/
  maxWait : Duration
  /-- How long a session may stay idle. -/
  sessionTtl : Duration
  /-- How often idle sessions are looked for. -/
  sweepInterval : Duration
  /-- How long a poll may take once it has its turn. -/
  requestTimeout : Duration
  /-- The deployment that is served. -/
  fingerprint : Fingerprint
  host : String
  port : Nat
  deriving DecidableEq

namespace ServerConfig

/-- The settings a server starts from. -/
def default : ServerConfig where
  bufferCapacity := Defaults.bufferCapacity
  minWait := .ofMillis Defaults.minWaitMillis
  maxWait := .ofMillis Defaults.maxWaitMillis
  sessionTtl := .ofSeconds Defaults.sessionTtlSeconds
  sweepInterval := .ofSeconds Defaults.sweepIntervalSeconds
  requestTimeout := .ofMillis Defaults.requestTimeoutMillis
  fingerprint := .compiled
  host := Defaults.serverHost
  port := Defaults.serverPort

/-- The settings that an environment asks for; sweeps are at least a second apart. -/
def ofEnvironment (env : Environment) : ServerConfig where
  bufferCapacity := env.word "COMETBUS_BUFFER_SIZE" Defaults.bufferCapacity
  minWait := .ofMillis (env.word "COMETBUS_MIN_WAIT_MS" Defaults.minWaitMillis)
  maxWait := .ofMillis (env.word "COMETBUS_MAX_WAIT_MS" Defaults.maxWaitMillis)
  sessionTtl := .ofSeconds (env.word "COMETBUS_SESSION_TTL_SECS" Defaults.sessionTtlSeconds)
  sweepInterval :=
    .ofSeconds (max 1 (env.word "COMETBUS_SWEEP_INTERVAL_SECS" Defaults.sweepIntervalSeconds))
  requestTimeout :=
    .ofMillis (env.word "COMETBUS_REQUEST_TIMEOUT_MS" Defaults.requestTimeoutMillis)
  fingerprint := env.fingerprint
  host := env.textOr "HOST" Defaults.serverHost
  port := env.setting "PORT" (Text.natural? (1 <<< 16)) Defaults.serverPort

/-- Why settings are refused. -/
inductive Problem where
  | noCapacity
  | waitsOutOfOrder
  | timeoutTooShort
  deriving DecidableEq, Repr

/-- The first thing wrong with settings. -/
def problem? (c : ServerConfig) : Option Problem :=
  if c.bufferCapacity = 0 then some .noCapacity
  else if c.maxWait.nanos < c.minWait.nanos then some .waitsOutOfOrder
  else if c.requestTimeout.nanos ≤ c.maxWait.nanos then some .timeoutTooShort
  else none

/-- The wording of a problem. -/
def problemMessage (c : ServerConfig) : Problem → String
  | .noCapacity => "buffer capacity must be positive"
  | .waitsOutOfOrder =>
    "min wait " ++ c.minWait.text ++ " exceeds max wait " ++ c.maxWait.text
  | .timeoutTooShort =>
    "request timeout " ++ c.requestTimeout.text ++ " must exceed max wait " ++ c.maxWait.text

/-- Refuses settings that cannot be honoured. -/
def validate (c : ServerConfig) : Outcome Unit :=
  match c.problem? with
  | none => .ok ()
  | some problem => .error (.config (c.problemMessage problem))

/-- Where a server listens, as host and port. -/
def bindAddress (c : ServerConfig) : String := c.host ++ ":" ++ toString c.port

/-- **What validation accepts**: room for an event, and waits that end before the timeout. -/
theorem validate_eq_ok_iff {c : ServerConfig} :
    c.validate = .ok () ↔
      0 < c.bufferCapacity ∧ c.minWait.nanos ≤ c.maxWait.nanos ∧
        c.maxWait.nanos < c.requestTimeout.nanos := by
  unfold validate problem?
  by_cases h1 : c.bufferCapacity = 0
  · simp [h1]
  · by_cases h2 : c.maxWait.nanos < c.minWait.nanos
    · simp only [h1, h2, if_false, if_true, reduceCtorEq, false_iff]
      omega
    · by_cases h3 : c.requestTimeout.nanos ≤ c.maxWait.nanos
      · simp only [h1, h2, h3, if_false, if_true, reduceCtorEq, false_iff]
        omega
      · simp only [h1, h2, h3, if_false, true_iff]
        omega

theorem validate_default : default.validate = .ok () := by
  rw [validate_eq_ok_iff]; decide

end ServerConfig
end EventRelay

/-
# Client settings

Where the server is, how long to wait for it, and which deployment is expected.  The
server's URL is kept without slashes at its end.
-/

import EventRelay.Config.Defaults
import EventRelay.Config.Environment
import EventRelay.Duration

namespace EventRelay

/-- What a client can be told. -/
structure ClientConfig where
  baseUrl : String
  /-- The pause before another attempt to connect. -/
  retryDelay : Duration
  requestTimeout : Duration
  /-- The deployment that the client expects. -/
  fingerprint : Fingerprint
  deriving DecidableEq

namespace ClientConfig

/-- A URL without slashes at its end. -/
def withoutSlashes (url : String) : String :=
  String.ofList (Text.dropTail (· = '/') url.toList)

/-- The settings a client starts from. -/
def default : ClientConfig where
  baseUrl := Defaults.serverUrl
  retryDelay := .ofMillis Defaults.retryDelayMillis
  requestTimeout := .ofMillis Defaults.requestTimeoutMillis
  fingerprint := .compiled

/-- The settings that an environment asks for. -/
def ofEnvironment (env : Environment) : ClientConfig where
  baseUrl := withoutSlashes (env.textOr "COMETBUS_URL" Defaults.serverUrl)
  retryDelay := .ofMillis (env.word "COMETBUS_RETRY_DELAY_MS" Defaults.retryDelayMillis)
  requestTimeout :=
    .ofMillis (env.word "COMETBUS_REQUEST_TIMEOUT_MS" Defaults.requestTimeoutMillis)
  fingerprint := env.fingerprint

/-- The same settings for a server at another URL. -/
def withBaseUrl (c : ClientConfig) (url : String) : ClientConfig :=
  { c with baseUrl := withoutSlashes url }

end ClientConfig
end EventRelay

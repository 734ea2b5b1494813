/-
# Default settings

The values that server and client start from when nothing else is set, and the limits
and names that both sides of a connection share.
-/

namespace EventRelay
namespace Defaults

/-- The version of the program, which is also the deployment it names. -/
def version : String := "2026.10.0"

/-- Events that the log retains. -/
def bufferCapacity : Nat := 1024

/-- How long a poll that finds events waits for more, in milliseconds. -/
def minWaitMillis : Nat := 1000

/-- How long an idle poll is held open, in milliseconds. -/
def maxWaitMillis : Nat := 10000

/-- How long a session may stay idle, in seconds. -/
def sessionTtlSeconds : Nat := 30

/-- How often idle sessions are looked for, in seconds. -/
def sweepIntervalSeconds : Nat := 5

/-- Session events that a slow listener can still catch up with. -/
def sessionEventCapacity : Nat := 256

/-- The header that carries a session id. -/
def sourceHeader : String := "X-Remote-Event-Source"

/-- The same header in lower case. -/
def sourceHeaderName : String := "x-remote-event-source"

/-- The port a server listens on. -/
def serverPort : Nat := 3000

/-- The address a server listens on. -/
def serverHost : String := "0.0.0.0"

/-- How long a request may take, in milliseconds. -/
def requestTimeoutMillis : Nat := 30000

/-- The path segment of fingerprints. -/
def fingerprintPath : String := "variant"

/-- How long a browser may keep what it was told about origins, in seconds. -/
def corsMaxAgeSeconds : Nat := 3600

/-- The greatest request body, in bytes. -/
def maxBodyBytes : Nat := 1048576

/-- The pause before another attempt to connect, in milliseconds. -/
def retryDelayMillis : Nat := 3000

/-- Where a client looks for the server. -/
def serverUrl : String := "http://127.0.0.1:3000"

/-- Connection changes that a slow listener can still catch up with. -/
def sessionChangeCapacity : Nat := 32

/-- The origin that is allowed when none is listed. -/
def origin : String := "http://localhost:3000"

/-- The field names that log records use, identity first. -/
def logFields : List String :=
  ["source_id", "server_epoch", "type_id", "sequence", "cursor", "last_sequence", "duration_ms",
    "event_count", "session_count", "state", "failure_kind", "delay_ms"]

end Defaults
end EventRelay

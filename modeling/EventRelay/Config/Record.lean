/-
# Settings as records

Settings in the units in which they are asked for, each length of time cut to whole ones.
-/

import EventRelay.Config.Client
import EventRelay.Config.Server
import EventRelay.FaultRecord
import EventRelay.Log.Basic

namespace EventRelay

open Json

/-- A length of time in whole milliseconds. -/
def Duration.record (d : Duration) : Value := .int d.millis

namespace ServerConfig

/-- The record of a server's settings, with the verdict of `validate`. -/
def record (c : ServerConfig) : List (String × Value) :=
  [("buffer_capacity", .int c.bufferCapacity), ("min_wait_ms", c.minWait.record),
    ("max_wait_ms", c.maxWait.record), ("session_ttl_secs", .int c.sessionTtl.seconds),
    ("sweep_interval_secs", .int c.sweepInterval.seconds),
    ("request_timeout_ms", c.requestTimeout.record),
    ("fingerprint", .string c.fingerprint.text), ("bind_addr", .string c.bindAddress),
    ("validate", c.validate.record fun _ => .string "ok")]

end ServerConfig

namespace ClientConfig

/-- The record of a client's settings. -/
def record (c : ClientConfig) : List (String × Value) :=
  [("base_url", .string c.baseUrl), ("retry_delay_ms", c.retryDelay.record),
    ("request_timeout_ms", c.requestTimeout.record),
    ("fingerprint", .string c.fingerprint.text)]

end ClientConfig

namespace Defaults

/-- The defaults that are numbers. -/
def numbers : List (String × Nat) :=
  [("buffer_capacity", bufferCapacity), ("cors_max_age_secs", corsMaxAgeSeconds),
    ("max_body_size_bytes", maxBodyBytes), ("max_wait_ms", maxWaitMillis),
    ("min_wait_ms", minWaitMillis), ("request_timeout_ms", requestTimeoutMillis),
    ("retry_delay_ms", retryDelayMillis), ("server_port", serverPort),
    ("session_change_capacity", sessionChangeCapacity),
    ("session_event_capacity", sessionEventCapacity), ("session_ttl_secs", sessionTtlSeconds),
    ("sweep_interval_secs", sweepIntervalSeconds)]

/-- The record of all that both sides of a connection take for granted. -/
def record : List (String × Value) :=
  [("empty_cursor", .int Log.emptyCursor), ("fingerprint_path", .string fingerprintPath),
    ("log_fields", .array (logFields.map .string)), ("server_url", .string serverUrl),
    ("source_header", .string sourceHeader), ("source_header_name", .string sourceHeaderName)] ++
  numbers.map fun (name, n) => (name, .int n)

end Defaults
end EventRelay

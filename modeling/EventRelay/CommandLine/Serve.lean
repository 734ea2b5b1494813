/-
# Serving from the command line

A server takes all its settings from the environment.  Before it listens it makes sure
that they can be honoured, in this order: the settings themselves, the address, the room for
its log, and the origins whose pages may call.
-/

import EventRelay.Config.Origins
import EventRelay.Config.Server
import EventRelay.Http.HostName
import EventRelay.Log.Basic

namespace EventRelay
namespace CommandLine

/-- One number of an IPv4 address, without zeros in front. -/
def isOctet (cs : List Char) : Bool :=
  cs.length ≤ 3 && (cs.length ≤ 1 || cs.head? != some '0') && (Text.digits? cs).any (· < 256)

/-- Whether a text is an IPv4 address. -/
def isIPv4 (cs : List Char) : Bool :=
  let parts := cs.splitOn '.'
  parts.length = 4 && parts.all isOctet

/-- Whether a text is an IPv6 address, perhaps with a zone. -/
def isIPv6 (cs : List Char) : Bool :=
  let zone := (cs.dropWhile (· ≠ '%')).drop 1
  (HostName.ipv6Groups? (cs.takeWhile (· ≠ '%'))).isSome &&
    (!cs.contains '%' || (Text.digits? zone).any (· < 1 <<< 32))

/-- Whether a host can be listened on: an IPv4 address, or an IPv6 address in brackets. -/
def isListenable (host : String) : Bool :=
  match host.toList with
  | '[' :: rest => rest.getLast? == some ']' && isIPv6 rest.dropLast
  | cs => isIPv4 cs

/-- Why a server does not begin. -/
inductive ServeHalt where
  | fault (f : Fault)
  /-- The host is no address. -/
  | badAddress
  /-- The log is to keep more events than there can be room for. -/
  | noRoom
  /-- The origins cannot be served. -/
  | unservableOrigins
  deriving DecidableEq

namespace ServeHalt

/-- The wording of a halt, for those that have one. -/
def message? : ServeHalt → Option String
  | fault f => some f.message
  | badAddress => some "invalid socket address syntax"
  | noRoom | unservableOrigins => none

/-- The exit status after a halt. -/
def exitCode : ServeHalt → Nat
  | fault _ | badAddress => 1
  | noRoom | unservableOrigins => 101

/-- The halt of a server that is not set up. -/
def ofObstacle : Obstacle → ServeHalt
  | .fault f => fault f
  | .panic => noRoom

end ServeHalt

/-- The settings and origins that an environment asks for. -/
def servePlan (env : Environment) : Except ServeHalt (ServerConfig × List String) := do
  let config := ServerConfig.ofEnvironment env
  config.validate.mapError .fault
  if !isListenable config.host then throw .badAddress
  let _ ← (Log.new config.bufferCapacity).mapError ServeHalt.ofObstacle
  let origins := Origins.ofSetting (env.lookup "ALLOWED_ORIGINS")
  if !Origins.servable origins then throw .unservableOrigins
  return (config, origins)

end CommandLine
end EventRelay

/-
# Listening and publishing from the command line

| options | the program |
| --- | --- |
| `--type` | listens to events of the types given, until it is stopped |
| `--publish` with `--payload` | publishes one event |
| `--url`, `--retry-delay-ms` | where the server is, and how patiently to retry |

Options go before the environment.
-/

import EventRelay.CommandLine.Options
import EventRelay.Config.Client
import EventRelay.Json.Reader
import EventRelay.TypeId

namespace EventRelay
namespace CommandLine

/-- What a listener can be told. -/
structure ListenOptions where
  url : Option String
  types : List TypeId
  /-- The pause before another attempt to connect, in milliseconds. -/
  retryDelay : Option Nat
  publish : Option TypeId
  payload : Option String

/-- What a listener sets out to do. -/
inductive ListenPlan where
  | halt (h : Halt)
  /-- It cannot begin. -/
  | fail (message : String)
  | publish (config : ClientConfig) (typeId : TypeId) (payload : Json.Value)
  | listen (config : ClientConfig) (types : List TypeId)

namespace ListenOptions

/-- The options of a listener. -/
def rules : List OptionRule :=
  [⟨"url", some 'u', false, false⟩, ⟨"type", some 't', true, true⟩,
    ⟨"retry-delay-ms", none, false, false⟩, ⟨"publish", none, false, false⟩,
    ⟨"payload", none, false, false⟩]

/-- A value that has to be readable. -/
def readable {α : Type} (read : String → Option α) (s : String) : Except Halt α :=
  match read s with
  | some a => .ok a
  | none => .error .misuse

/-- The one value of an option, if it is given. -/
def single {α : Type} (given : List Given) (long : String) (read : String → Option α) :
    Except Halt (Option α) :=
  match valuesOf given long with
  | [] => .ok none
  | s :: _ => (readable read s).map some

/-- Reads the options of a listener; an event to publish needs a payload. -/
def parse (args : List String) : Except Halt ListenOptions := do
  let given ← scan rules args
  let typeId := fun s => (TypeId.ofString s).toOption
  let options : ListenOptions := {
    url := ← single given "url" some
    types := ← (valuesOf given "type").mapM (readable typeId)
    retryDelay := ← single given "retry-delay-ms" (Text.natural? (1 <<< 64))
    publish := ← single given "publish" typeId
    payload := ← single given "payload" some }
  if options.publish.isSome && options.payload.isNone then .error .misuse
  else return options

/-- The settings that options and environment ask for. -/
def config (o : ListenOptions) (env : Environment) : ClientConfig :=
  let c := ClientConfig.ofEnvironment env
  let c :=
    match o.url with
    | some url => c.withBaseUrl url
    | none => c
  match o.retryDelay with
  | some ms => { c with retryDelay := .ofMillis ms }
  | none => c

/-- What the options ask for. -/
def plan (o : ListenOptions) (env : Environment) : ListenPlan :=
  match o.publish with
  | some t =>
    let raw := o.payload.getD "null"
    match Json.Value.parse raw with
    | .ok payload => .publish (o.config env) t payload
    | .error fault => .fail (fault.messageIn raw)
  | none =>
    if o.types.isEmpty then .fail "nothing to listen to: pass at least one --type"
    else .listen (o.config env) o.types

end ListenOptions

/-- What a command line asks for. -/
def listenPlan (args : List String) (env : Environment) : ListenPlan :=
  match ListenOptions.parse args with
  | .error h => .halt h
  | .ok o => o.plan env

/-- How a program that cannot go on words why. -/
def errorLine (message : String) : String := "Error: " ++ message

/-- The exit status after words that were not carried out. -/
def Halt.exitCode : Halt → Nat
  | .misuse => 2
  | .help | .version => 0

end CommandLine
end EventRelay

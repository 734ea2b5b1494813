/-
# Messages on the wire

For every message a writer into a JSON value and a reader of JSON text.  Fields are
written in the order of declaration; readers take them in any order, pass unknown fields
over, and accept a list of the fields as well.  Choices are written by name.

`Wire α` joins the two directions of one type.
-/

import EventRelay.Event
import EventRelay.Fingerprint
import EventRelay.Json.Decode
import EventRelay.Json.Reader

namespace EventRelay

open Json

/-- A type with a form on the wire. -/
class Wire (α : Type) where
  write : α → Value
  read : Raw → Decoded α

namespace Wire

/-- Reads what stands for a value. -/
def ofValue {α : Type} [Wire α] (v : Value) : Decoded α := read (Raw.ofValue v)

/-- Reads what a text begins with and passes over the rest. -/
def ofFront {α : Type} [Wire α] (text : String) : Decoded α := read (Raw.read text.toList).1

/-- Reads a whole text. -/
def ofText {α : Type} [Wire α] (text : String) : Decoded α := do
  let (raw, rest) := Raw.read text.toList
  let a ← read raw
  match skipSpace (rest.getD []) with
  | [] => return a
  | extra => .error (.malformed (faultPeeked .trailingCharacters extra))

/-- The text of a message. -/
def text {α : Type} [Wire α] (a : α) : String := (write a).text

/-- A string that a reader of the domain may refuse. -/
def checked {α : Type} (ofString : String → Outcome α) (raw : Raw) : Decoded α := do
  let s ← Decode.string "a string" raw
  match ofString s with
  | .ok a => return a
  | .error fault => refuse fault.message

/-- A UUID. -/
def uuid (raw : Raw) : Decoded Uuid := do
  let s ← Decode.string "a formatted UUID string" raw
  match Uuid.parse s with
  | .ok u => return u
  | .error problem => refuse ("UUID parsing failed: " ++ problem.message)

/-- A point in time. -/
def timestamp (raw : Raw) : Decoded Timestamp := do
  let s ← Decode.string "an RFC 3339 formatted date and time string" raw
  match Timestamp.parse s with
  | .ok t => return t
  | .error problem => refuse problem.message

/-- A payload inside of so many containers. -/
def payload (around : Nat) (raw : Raw) : Decoded Value := Decode.value (Raw.maxDepth - around) raw

/-- A record that its shape leaves no other way to read. -/
def impossible {α : Type} : Decoded α := refuse "unexpected record"

instance : Wire TypeId := ⟨fun t => .string t.text, checked TypeId.ofString⟩

instance : Wire SessionId := ⟨fun id => .string id.text, checked SessionId.parse⟩

instance : Wire SourceId := ⟨fun s => .string s.text, fun raw => (uuid raw).map SourceId.mk⟩

instance : Wire Epoch := ⟨fun e => .int e.val, fun raw => (Decode.nat32 raw).map Epoch.ofNat⟩

/-- A fingerprint is taken as it comes; only one that is made here is checked. -/
instance : Wire Fingerprint :=
  ⟨fun f => .string f.text, fun raw => (Decode.string "a string" raw).map Fingerprint.mk⟩

instance : Wire FailureKind :=
  ⟨fun k => .string k.name, Decode.choice (FailureKind.all.map fun k => (k.name, k))⟩

instance : Wire ConnectionState :=
  ⟨fun s => .string s.name, Decode.choice (ConnectionState.all.map fun s => (s.name, s))⟩

/-- The fields of an event whose payload is inside of so many containers. -/
def eventShape (around : Nat) : Shape where
  title := "EventEnvelope"
  rules :=
    [.need "sequence" Decode.int64, .need "event_id" uuid,
      .need "type_id" (checked TypeId.ofString), .need "occurred_at" timestamp,
      .need "payload" (payload around)]

/-- An event whose payload is inside of so many containers. -/
def event (around : Nat) (raw : Raw) : Decoded Event := do
  match ← (eventShape around).slots raw with
  | [some sequence, some eventId, some typeId, some occurredAt, some body] =>
    return {
      sequence := ← Decode.int64 sequence
      eventId := ← uuid eventId
      typeId := ← checked TypeId.ofString typeId
      occurredAt := ← timestamp occurredAt
      payload := ← payload around body }
  | _ => impossible

/-- The containers around the payload of an event that stands alone: its record. -/
def aroundEvent : Nat := 1

/-- The containers around the payload of an event of a batch: two records and a list. -/
def aroundBatched : Nat := 3

instance : Wire Event where
  write e := .object
    [("sequence", .int e.sequence), ("event_id", .string e.eventId.text),
      ("type_id", .string e.typeId.text), ("occurred_at", .string e.occurredAt.text),
      ("payload", e.payload)]
  read := event aroundEvent

/-- The fields of a batch. -/
def batchShape : Shape where
  title := "EventBatch"
  rules := [.need "events" (Decode.list (event aroundBatched)), .need "cursor" Decode.int64]

instance : Wire Batch where
  write b := .object
    [("events", .array (b.events.map write)), ("cursor", .int b.cursor)]
  read raw := do
    match ← batchShape.slots raw with
    | [some events, some cursor] =>
      return {
        events := ← Decode.list (event aroundBatched) events
        cursor := ← Decode.int64 cursor }
    | _ => impossible

/-- The fields of a publish request; an absent payload is `null`. -/
def publishShape : Shape where
  title := "PublishRequest"
  rules := [.need "type_id" (checked TypeId.ofString), .default "payload" (payload aroundEvent)]

instance : Wire PublishRequest where
  write r := .object [("type_id", .string r.typeId.text), ("payload", r.payload)]
  read raw := do
    match ← publishShape.slots raw with
    | [some typeId, body] =>
      return {
        typeId := ← checked TypeId.ofString typeId
        payload := ← (body.map (payload aroundEvent)).getD (.ok .null) }
    | _ => impossible

/-- The fields of a receipt. -/
def receiptShape : Shape where
  title := "PublishReceipt"
  rules := [.need "sequence" Decode.int64]

instance : Wire PublishReceipt where
  write r := .object [("sequence", .int r.sequence)]
  read raw := do
    match ← receiptShape.slots raw with
    | [some sequence] => return { sequence := ← Decode.int64 sequence }
    | _ => impossible

/-- The fields of a grant. -/
def grantShape : Shape where
  title := "SessionGrant"
  rules := [.need "session_id" (checked SessionId.parse)]

instance : Wire SessionGrant where
  write g := .object [("session_id", .string g.sessionId.text)]
  read raw := do
    match ← grantShape.slots raw with
    | [some sessionId] => return { sessionId := ← checked SessionId.parse sessionId }
    | _ => impossible

/-- The fields of a subscription change. -/
def subscriptionShape : Shape where
  title := "SubscriptionChange"
  rules := [.need "changed" Decode.bool]

instance : Wire SubscriptionChange where
  write c := .object [("changed", .bool c.changed)]
  read raw := do
    match ← subscriptionShape.slots raw with
    | [some changed] => return { changed := ← Decode.bool changed }
    | _ => impossible

/-- The fields of a connection change. -/
def connectionShape : Shape where
  title := "SessionChange"
  rules :=
    [.need "in_session" Decode.bool, .need "is_new" Decode.bool,
      .optional "cause" (Decode.nullable (read (α := FailureKind)))]

instance : Wire ConnectionChange where
  write c := .object
    [("in_session", .bool c.inSession), ("is_new", .bool c.isNew),
      ("cause", .orNull (c.cause.map write))]
  read raw := do
    match ← connectionShape.slots raw with
    | [some inSession, some isNew, cause] =>
      return {
        inSession := ← Decode.bool inSession
        isNew := ← Decode.bool isNew
        cause := ← (cause.map (Decode.nullable read)).getD (.ok none) }
    | _ => impossible

/-- What happened, by name, without the session it happened to. -/
def sessionEventNames : List (String × (SourceId → SessionEvent)) :=
  [("created", .created), ("invalidated", .invalidated), ("expired", .expired)]

/-- How a refusal calls a session event. -/
def sessionEventTitle : String := "adjacently tagged enum SessionEvent"

/-- The two fields of a session event, found where they stand. -/
structure SessionEventParts where
  make : Option (SourceId → SessionEvent)
  source : Option Raw

/-- Reads the fields of a session event in text order. -/
def sessionEventParts : List (RawKey × Raw) → SessionEventParts → Decoded SessionEventParts
  | [], parts => .ok parts
  | (.error fault, _) :: _, _ => .error (.malformed fault)
  | (.ok key, raw) :: rest, parts =>
    if key = "event" then
      if parts.make.isSome then refuse "duplicate field `event`"
      else do
        let make ← (Decode.choice sessionEventNames raw).mapError (Refusal.within (.field key))
        sessionEventParts rest { parts with make := some make }
    else if key = "source_id" then
      if parts.source.isSome then refuse "duplicate field `source_id`"
      else do
        if parts.make.isSome then
          let _ ← (uuid raw).mapError (Refusal.within (.field key))
        sessionEventParts rest { parts with source := some raw }
    else
      match raw.skipFault? with
      | some fault => .error (.malformed fault)
      | none => sessionEventParts rest parts

instance : Wire SessionEvent where
  write e := .object [("event", .string e.name), ("source_id", .string e.source.text)]
  read
    | .object _ members => do
      match ← sessionEventParts members ⟨none, none⟩ with
      | ⟨some make, some source⟩ => return make ⟨← uuid source⟩
      | ⟨some _, none⟩ => refuse "missing field `source_id`"
      | ⟨none, _⟩ => refuse "missing field `event`"
    | .array left items =>
      match items with
      | [] => refuse ("invalid length 0, expected " ++ sessionEventTitle)
      | event :: rest => do
        let make ← (Decode.choice sessionEventNames event).mapError (Refusal.within (.item 0))
        match rest with
        | [] => refuse ("invalid length 1, expected " ++ sessionEventTitle)
        | source :: more =>
          let id ← (uuid source).mapError (Refusal.within (.item 1))
          Shape.overflow items.length left more
          return make ⟨id⟩
    | raw => raw.mismatch sessionEventTitle

/-- A value written again after it was read as a message of one type. -/
def again (α : Type) [Wire α] (v : Value) : Decoded Value := (ofValue (α := α) v).map write

/-- The messages that go over the wire, by name, each with the way to write it again. -/
def messages : List (String × (Value → Decoded Value)) :=
  [("TypeId", again TypeId), ("EventEnvelope", again Event), ("EventBatch", again Batch),
    ("PublishRequest", again PublishRequest), ("PublishReceipt", again PublishReceipt),
    ("SessionGrant", again SessionGrant), ("SubscriptionChange", again SubscriptionChange),
    ("SessionEvent", again SessionEvent), ("SessionChange", again ConnectionChange),
    ("ConnectionState", again ConnectionState), ("DeploymentFingerprint", again Fingerprint),
    ("RemoteSessionId", again SessionId), ("SourceId", again SourceId),
    ("ServerEpoch", again Epoch)]

end Wire
end EventRelay

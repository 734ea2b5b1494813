/-
# The forms of the messages

`Message` says of each type of message which of its values the wire can carry, and which JSON values
a message may be given as: records as objects or as lists (`Json.Record`), choices by name or as an
object of that name (`Chosen`), and everything else as it is written.

What the fields of a message are read from follows, decoder by decoder (`Json.Decodes`).
-/

import EventRelay.Proofs.Identities
import EventRelay.Proofs.Instants
import EventRelay.Proofs.Json.Payloads
import EventRelay.Proofs.Json.Records
import EventRelay.Wire

namespace EventRelay

open Json

/-- A signed word. -/
def IsWord (i : Int) : Prop := Decode.minInt64 ≤ i ∧ i ≤ Decode.maxInt64

/-- The values that a choice is given as: its name, or an object that gives the name `null`. -/
inductive Chosen (name : String) : Value → Prop where
  | bare : Chosen name (.string name)
  | wrapped : Chosen name (.object [(name, .null)])

/-- A payload that the wire carries unchanged inside of so many containers. -/
def Carried (around : Nat) (payload : Value) : Prop := payload.Kept (Raw.maxDepth - around)

/-- What there is to say of the messages of one type. -/
class Message (α : Type) where
  /-- The messages that the wire can carry. -/
  Fits : α → Prop
  /-- The payloads that a message hands on. -/
  payloads : α → List Value
  /-- The values that a message may be given as. -/
  Form : α → Value → Prop

namespace Message

/-- Messages that are given as they are written. -/
@[reducible] def plain (α : Type) [Wire α] : Message α :=
  ⟨fun _ => True, fun _ => [], fun a v => v = Wire.write a⟩

/-- Messages that are given by name. -/
@[reducible] def chosen (α : Type) (name : α → String) : Message α :=
  ⟨fun _ => True, fun _ => [], fun a => Chosen (name a)⟩

/-- Records without payload. -/
@[reducible] def record (α : Type) (fits : α → Prop) (fields : α → List Field) : Message α :=
  ⟨fits, fun _ => [], fun a => Record [] [] (fields a)⟩

end Message

/-! ### The messages -/

instance : Message TypeId := .plain TypeId

instance : Message SessionId := .plain SessionId

instance : Message SourceId := .plain SourceId

instance : Message Epoch := .plain Epoch

instance : Message FailureKind := .chosen FailureKind FailureKind.name

instance : Message ConnectionState := .chosen ConnectionState ConnectionState.name

instance : Message PublishReceipt :=
  .record PublishReceipt (fun r => IsWord r.sequence) fun r => [("sequence", .int r.sequence)]

instance : Message SessionGrant :=
  .record SessionGrant (fun _ => True) fun g => [("session_id", .string g.sessionId.text)]

instance : Message SubscriptionChange :=
  .record SubscriptionChange (fun _ => True) fun c => [("changed", .bool c.changed)]

/-- An event that the wire can carry, its payload being inside of so many containers. -/
structure Event.Fits (around : Nat) (e : Event) : Prop where
  sequence : IsWord e.sequence
  payload : Carried around e.payload

/-- The fields of an event. -/
def Event.fields (e : Event) : List Field :=
  [("sequence", .int e.sequence), ("event_id", .string e.eventId.text),
    ("type_id", .string e.typeId.text), ("occurred_at", .string e.occurredAt.text),
    ("payload", e.payload)]

instance : Message Event where
  Fits := Event.Fits Wire.aroundEvent
  payloads e := [e.payload]
  Form e := Record [] [] e.fields

/-- Each event of a batch may be given in a form of its own. -/
instance : Message Batch where
  Fits b := (∀ e ∈ b.events, e.Fits Wire.aroundBatched) ∧ IsWord b.cursor
  payloads b := b.events.map Event.payload
  Form b v := ∃ items, List.Forall₂ Message.Form b.events items ∧
    Record [] [] [("events", .array items), ("cursor", .int b.cursor)] v

/-- A payload of `null` may be left out. -/
instance : Message PublishRequest where
  Fits r := Carried Wire.aroundEvent r.payload
  payloads r := [r.payload]
  Form r := Record ["payload"] ["payload"]
    [("type_id", .string r.typeId.text), ("payload", r.payload)]

instance : Message SessionEvent where
  Fits _ := True
  payloads _ := []
  Form e v := ∃ named, Chosen e.name named ∧
    Record [] [] [("event", named), ("source_id", .string e.source.text)] v

/-- The values that a cause is given as, `null` for none. -/
def CauseForm : Option FailureKind → Value → Prop
  | none, v => v = .null
  | some kind, v => Chosen kind.name v

/-- An object may leave out that there is no cause. -/
instance : Message ConnectionChange where
  Fits _ := True
  payloads _ := []
  Form c v := ∃ cause, CauseForm c.cause cause ∧ Record ["cause"] []
    [("in_session", .bool c.inSession), ("is_new", .bool c.isNew), ("cause", cause)] v

/-! ### What fields are read from -/

namespace Wire

variable {α : Type}

theorem decodes_integer {expected : String} {low high i : Int} (h : low ≤ i ∧ i ≤ high) :
    Decodes (Decode.integer expected low high) (.int i) i := by
  intro raw hraw
  rw [Raw.standsFor_number.1 hraw]
  exact if_pos h

theorem decodes_int64 {i : Int} (h : IsWord i) : Decodes Decode.int64 (.int i) i := decodes_integer h

theorem isWord_of_int64 {raw : Raw} {i : Int} (h : Decode.int64 raw = .ok i) : IsWord i := by
  unfold Decode.int64 Decode.integer at h
  split at h
  · split at h
    · cases h
      assumption
    · cases h
  · exact absurd h Raw.mismatch_ne_ok

theorem decodes_bool (b : Bool) : Decodes Decode.bool (.bool b) b := by
  intro raw hraw
  rw [Raw.standsFor_bool.1 hraw]
  rfl

theorem decodes_checked {ofString : String → Outcome α} {s : String} {a : α}
    (h : ofString s = .ok a) : Decodes (Wire.checked ofString) (.string s) a := by
  intro raw hraw
  rw [Raw.standsFor_string.1 hraw, Wire.checked]
  simp only [Decode.string, bind, Except.bind, h]
  rfl

theorem decodes_uuid (u : Uuid) : Decodes Wire.uuid (.string u.text) u := by
  intro raw hraw
  rw [Raw.standsFor_string.1 hraw, Wire.uuid]
  simp only [Decode.string, bind, Except.bind, Uuid.parse, Uuid.parse?_text]
  rfl

theorem decodes_timestamp (t : Timestamp) : Decodes Wire.timestamp (.string t.text) t := by
  intro raw hraw
  rw [Raw.standsFor_string.1 hraw, Wire.timestamp]
  simp only [Decode.string, bind, Except.bind, Timestamp.parse_text]
  rfl

theorem decodes_payload {around : Nat} {v : Value} (h : Carried around v) :
    Decodes (Wire.payload around) v v := by
  intro raw hraw
  rw [Wire.payload, Decode.value, Raw.toValue_of_standsFor h raw hraw]
  rfl

theorem carried_of_payload {around : Nat} {raw : Raw} {v : Value}
    (h : Wire.payload around raw = .ok v) : Carried around v :=
  Raw.kept_of_toValue raw v (Decoded.mapError_eq_ok.1 h)

/-- **A choice is read from its name**, bare or wrapped. -/
theorem decodes_choice {choices : List (String × α)} {name : String} {a : α} {v : Value}
    (h : choices.lookup name = some a) (hv : Chosen name v) :
    Decodes (Decode.choice choices) v a := by
  have hnamed : Decode.named choices name = .ok a := by
    rw [Decode.named, h]
  intro raw hraw
  cases hv with
  | bare =>
    rw [Raw.standsFor_string.1 hraw]
    exact hnamed
  | wrapped =>
    obtain ⟨left, members, rfl, hmembers⟩ := Raw.standsFor_object.1 hraw
    obtain ⟨content, rest, rfl, hcontent, hrest⟩ := Raw.membersStandFor_cons.1 hmembers
    rw [Raw.membersStandFor_nil.1 hrest, Raw.standsFor_null.1 hcontent]
    simp only [Decode.choice, hnamed]
    rfl

/-- What stands for a choice is not `null`. -/
theorem ne_null_of_chosen {name : String} {v : Value} (hv : Chosen name v) {raw : Raw}
    (hraw : Raw.StandsFor v raw) : raw ≠ .null := by
  rintro rfl
  cases hv with
  | bare => exact nomatch Raw.standsFor_string.1 hraw
  | wrapped =>
    obtain ⟨left, members, hnull, -⟩ := Raw.standsFor_object.1 hraw
    cases hnull

theorem nullable_of_ne_null {decoder : Raw → Decoded α} {raw : Raw} (h : raw ≠ .null) :
    Decode.nullable decoder raw = (decoder raw).map some := by
  unfold Decode.nullable
  split
  · exact absurd rfl h
  · rfl

/-- Items are read one by one from what stands for them. -/
theorem decodes_list {item : Raw → Decoded α} {vs : List Value} {as : List α}
    (h : List.Forall₂ (Decodes item) vs as) : Decodes (Decode.list item) (.array vs) as := by
  have hitems (index : Nat) (raws : List Raw) (hraws : Raw.ItemsStandFor vs raws) :
      Decode.items item index raws = .ok as := by
    induction h generalizing index raws with
    | nil =>
      rw [Raw.itemsStandFor_nil.1 hraws]
      rfl
    | @cons v a vs as hfirst hrest ih =>
      obtain ⟨raw, rest, rfl, hraw, hothers⟩ := Raw.itemsStandFor_cons.1 hraws
      rw [Decode.items, hfirst raw hraw, ih (index + 1) rest hothers]
      rfl
  intro raw hraw
  obtain ⟨left, raws, rfl, hraws⟩ := Raw.standsFor_array.1 hraw
  exact hitems 0 raws hraws

/-- Each item of a list that is read was read by itself. -/
theorem exists_of_mem_list {item : Raw → Decoded α} {raw : Raw} {as : List α}
    (h : Decode.list item raw = .ok as) : ∀ a ∈ as, ∃ part, item part = .ok a := by
  have hitems (index : Nat) (raws : List Raw) (as : List α)
      (h : Decode.items item index raws = .ok as) : ∀ a ∈ as, ∃ part, item part = .ok a := by
    induction raws generalizing index as with
    | nil =>
      cases h
      nofun
    | cons raw rest ih =>
      obtain ⟨a, ha, hrest⟩ := Decoded.bind_eq_ok.1 h
      obtain ⟨as, has, hall⟩ := Decoded.bind_eq_ok.1 hrest
      cases hall
      exact List.forall_mem_cons.2 ⟨⟨raw, Decoded.mapError_eq_ok.1 ha⟩, ih (index + 1) as has⟩
  unfold Decode.list at h
  split at h
  · exact hitems _ _ as h
  · exact absurd h Raw.mismatch_ne_ok

end Wire

end EventRelay

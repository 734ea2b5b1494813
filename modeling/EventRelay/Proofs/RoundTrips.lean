/-
# Messages go over the wire and back

`Faithful` is what reading and writing owe to the forms of a type of messages, and it is shown type
by type: each form of a message is read as the message, whatever text it stands in, and whatever is
read is a message that the wire can carry.

`Wire.allRoundTrip` draws the conclusion for all types: a message is read from what it is written as
and from each of its other forms; and what is read from any text whatsoever, written again, comes
back unchanged in every further round.
-/

import EventRelay.Proofs.Forms
import EventRelay.Proofs.Messages
import Mathlib.Data.List.Permutation

namespace EventRelay

open Json

/-- What reading and writing owe to the forms of the messages of a type. -/
structure Faithful (α : Type) [Wire α] [Message α] : Prop where
  /-- A message is written in one of its forms. -/
  written : ∀ a : α, Message.Form a (Wire.write a)
  /-- It is read from each of them, whatever text the form stands in. -/
  reads : ∀ (a : α) (v : Value), Message.Fits a → Message.Form a v → Decodes Wire.read v a
  /-- What is read is a message that the wire can carry. -/
  fits : ∀ (raw : Raw) (a : α), Wire.read raw = .ok a → Message.Fits a
  /-- A form can be read as text if the payloads can. -/
  legible : ∀ (a : α) (v : Value), Message.Fits a → Message.Form a v →
    (∀ w ∈ Message.payloads a, w.Legible) → v.Legible

namespace Faithful

variable {α : Type}

theorem legible_string (s : String) : (Value.string s).Legible := by
  simp [Value.Legible]

theorem legible_bool (b : Bool) : (Value.bool b).Legible := by
  simp [Value.Legible]

theorem legible_int {i : Int} (h : IsWord i) : (Value.int i).Legible := by
  obtain ⟨hlow, hhigh⟩ := h
  have hmax : Decode.maxInt64 = 0x7fffffffffffffff := rfl
  rw [Value.int, Value.Legible]
  exact Number.legible_integer hlow (by omega)

theorem legible_chosen {name : String} {v : Value} (h : Chosen name v) : v.Legible := by
  cases h <;> simp [Value.Legible, Value.FieldsLegible]

/-! ### Identities -/

/-- Messages without other forms. -/
theorem plain [Wire α] (hreads : ∀ a : α, Decodes Wire.read (Wire.write a) a)
    (hlegible : ∀ a : α, (Wire.write a).Legible) : @Faithful α _ (.plain α) :=
  letI : Message α := .plain α
  { written := fun _ => rfl
    reads := fun a _ _ hv => hv ▸ hreads a
    fits := fun _ _ _ => trivial
    legible := fun a _ _ hv _ => hv ▸ hlegible a }

theorem typeId : Faithful TypeId :=
  plain (fun t => Wire.decodes_checked (TypeId.ofString_text t)) fun t => legible_string t.text

theorem sessionId : Faithful SessionId :=
  plain (fun id => Wire.decodes_checked (SessionId.parse_text id)) fun id => legible_string id.text

theorem sourceId : Faithful SourceId := by
  refine plain (fun s raw hraw => ?_) fun s => legible_string s.text
  have hread : Wire.read (α := SourceId) raw = (Wire.uuid raw).map SourceId.mk := rfl
  rw [hread, Wire.decodes_uuid s.uuid raw hraw]
  rfl

theorem epoch : Faithful Epoch := by
  have hrange (e : Epoch) : e.val < 0x100000000 := e.lt
  refine plain (fun e raw hraw => ?_) fun e => legible_int ?_
  · have hnat : (0 : Int) ≤ e.val ∧ (e.val : Int) ≤ 0xffffffff := by
      have := hrange e
      omega
    have hread : Wire.read (α := Epoch) raw =
        ((Decode.integer "u32" 0 0xffffffff raw).map Int.toNat).map Epoch.ofNat := rfl
    rw [hread, Wire.decodes_integer hnat raw hraw]
    simp only [Except.map, Int.toNat_natCast, Epoch.ofNat, Nat.mod_eq_of_lt e.lt]
  · have := hrange e
    have hmin : Decode.minInt64 = -0x8000000000000000 := rfl
    have hmax : Decode.maxInt64 = 0x7fffffffffffffff := rfl
    exact ⟨by omega, by omega⟩

/-! ### Choices -/

/-- Messages that are read by the names that they are written as. -/
theorem chosen [Wire α] {name : α → String} {choices : List (String × α)}
    (hread : Wire.read = Decode.choice choices) (hwrite : ∀ a, Wire.write a = .string (name a))
    (hname : ∀ a, choices.lookup (name a) = some a) : @Faithful α _ (.chosen α name) :=
  letI : Message α := .chosen α name
  { written := fun a => hwrite a ▸ Chosen.bare
    reads := fun a _ _ hv => hread ▸ Wire.decodes_choice (hname a) hv
    fits := fun _ _ _ => trivial
    legible := fun _ _ _ hv _ => legible_chosen hv }

theorem failureKind : Faithful FailureKind :=
  chosen rfl (fun _ => rfl) fun k => by cases k <;> rfl

theorem connectionState : Faithful ConnectionState :=
  chosen rfl (fun _ => rfl) fun s => by cases s <;> rfl

/-! ### Records -/

theorem receipt : Faithful PublishReceipt where
  written _ := .self _
  reads r v hfits hv raw hraw := by
    obtain ⟨sequence, hslots, hsequence⟩ := Shape.slots_of_single (s := Wire.receiptShape) rfl
      (Wire.decodes_int64 hfits) hv hraw
    simp only [Wire.read, hslots, bind, Except.bind, hsequence]
    rfl
  fits raw r h := by
    obtain ⟨found, -, hread⟩ := Decoded.bind_eq_ok.1 h
    split at hread
    · obtain ⟨sequence, hsequence, hr⟩ := Decoded.bind_eq_ok.1 hread
      cases hr
      exact Wire.isWord_of_int64 hsequence
    · cases hread
  legible r _ hfits hv _ := hv.legible (by simp [legible_int hfits])

theorem grant : Faithful SessionGrant where
  written _ := .self _
  reads g v _ hv raw hraw := by
    obtain ⟨sessionId, hslots, hsessionId⟩ := Shape.slots_of_single (s := Wire.grantShape) rfl
      (Wire.decodes_checked (SessionId.parse_text g.sessionId)) hv hraw
    simp only [Wire.read, hslots, bind, Except.bind, hsessionId]
    rfl
  fits _ _ _ := trivial
  legible _ _ _ hv _ := hv.legible (by simp [legible_string])

theorem subscription : Faithful SubscriptionChange where
  written _ := .self _
  reads c v _ hv raw hraw := by
    obtain ⟨changed, hslots, hchanged⟩ := Shape.slots_of_single (s := Wire.subscriptionShape) rfl
      (Wire.decodes_bool c.changed) hv hraw
    simp only [Wire.read, hslots, bind, Except.bind, hchanged]
    rfl
  fits _ _ _ := trivial
  legible _ _ _ hv _ := hv.legible (by simp [legible_bool])

/-- **An event is read from each of its forms**, so many containers around its payload. -/
theorem decodes_event {around : Nat} {e : Event} {v : Value} (hfits : e.Fits around)
    (hv : Message.Form e v) : Decodes (Wire.event around) v e := by
  intro raw hraw
  have hsequence := Wire.decodes_int64 hfits.sequence
  have heventId := Wire.decodes_uuid e.eventId
  have htypeId := Wire.decodes_checked (TypeId.ofString_text e.typeId)
  have hoccurredAt := Wire.decodes_timestamp e.occurredAt
  have hpayload := Wire.decodes_payload hfits.payload
  obtain ⟨found, hslots, hfound⟩ := Shape.slots_of_record (s := Wire.eventShape around)
    (.cons (.need hsequence (by simp) (by simp)) <| .cons (.need heventId (by simp) (by simp)) <|
      .cons (.need htypeId (by simp) (by simp)) <| .cons (.need hoccurredAt (by simp) (by simp)) <|
      .cons (.need hpayload (by simp) (by simp)) .nil) (by simp) hv hraw
  simp only [List.forall₂_cons_left_iff, List.forall₂_nil_left_iff, found_nil_iff] at hfound
  obtain ⟨_, _, ⟨sequence, rfl, h₁⟩, ⟨_, _, ⟨eventId, rfl, h₂⟩, ⟨_, _, ⟨typeId, rfl, h₃⟩,
    ⟨_, _, ⟨occurredAt, rfl, h₄⟩, ⟨_, _, ⟨payload, rfl, h₅⟩, rfl, rfl⟩, rfl⟩, rfl⟩, rfl⟩, rfl⟩ := hfound
  simp only [Wire.event, hslots, bind, Except.bind, hsequence sequence h₁, heventId eventId h₂,
    htypeId typeId h₃, hoccurredAt occurredAt h₄, hpayload payload h₅]
  rfl

/-- An event that is read is one that the wire can carry. -/
theorem fits_of_event {around : Nat} {raw : Raw} {e : Event} (h : Wire.event around raw = .ok e) :
    e.Fits around := by
  obtain ⟨found, -, hread⟩ := Decoded.bind_eq_ok.1 h
  split at hread
  · obtain ⟨sequence, hsequence, hread⟩ := Decoded.bind_eq_ok.1 hread
    obtain ⟨eventId, -, hread⟩ := Decoded.bind_eq_ok.1 hread
    obtain ⟨typeId, -, hread⟩ := Decoded.bind_eq_ok.1 hread
    obtain ⟨occurredAt, -, hread⟩ := Decoded.bind_eq_ok.1 hread
    obtain ⟨payload, hpayload, hread⟩ := Decoded.bind_eq_ok.1 hread
    cases hread
    exact ⟨Wire.isWord_of_int64 hsequence, Wire.carried_of_payload hpayload⟩
  · cases hread

theorem legible_event {e : Event} {v : Value} (hsequence : IsWord e.sequence)
    (hpayload : e.payload.Legible) (hv : Message.Form e v) : v.Legible :=
  hv.legible (by simp [Event.fields, legible_int hsequence, legible_string, hpayload])

theorem event : Faithful Event where
  written _ := .self _
  reads _ _ := decodes_event
  fits _ _ := fits_of_event
  legible e _ hfits hv hpayloads :=
    legible_event hfits.sequence (hpayloads e.payload (List.mem_singleton_self _)) hv

theorem batch : Faithful Batch where
  written b := by
    refine ⟨b.events.map Wire.write, ?_, .self _⟩
    exact List.forall₂_map_right_iff.2 (List.forall₂_same.2 fun e _ => event.written e)
  reads b v hfits hv raw hraw := by
    obtain ⟨items, hitems, hv⟩ := hv
    have heach : List.Forall₂ (Decodes (Wire.event Wire.aroundBatched)) items b.events := by
      refine List.Forall₂.flip (((List.forall₂_and_left _ _).2 ⟨hfits.1, hitems⟩).imp ?_)
      exact fun e v ⟨hfits, hv⟩ => decodes_event hfits hv
    have hevents : Decodes (Decode.list (Wire.event Wire.aroundBatched)) (.array items) b.events :=
      Wire.decodes_list heach
    have hcursor := Wire.decodes_int64 hfits.2
    obtain ⟨found, hslots, hfound⟩ := Shape.slots_of_record (s := Wire.batchShape)
      (.cons (.need hevents (by simp) (by simp)) <| .cons (.need hcursor (by simp) (by simp)) .nil)
      (by simp) hv hraw
    simp only [List.forall₂_cons_left_iff, List.forall₂_nil_left_iff, found_nil_iff] at hfound
    obtain ⟨_, _, ⟨events, rfl, h₁⟩, ⟨_, _, ⟨cursor, rfl, h₂⟩, rfl, rfl⟩, rfl⟩ := hfound
    simp only [Wire.read, hslots, bind, Except.bind, hevents events h₁, hcursor cursor h₂]
    rfl
  fits raw b h := by
    obtain ⟨found, -, hread⟩ := Decoded.bind_eq_ok.1 h
    split at hread
    · obtain ⟨events, hevents, hread⟩ := Decoded.bind_eq_ok.1 hread
      obtain ⟨cursor, hcursor, hread⟩ := Decoded.bind_eq_ok.1 hread
      cases hread
      refine ⟨fun e he => ?_, Wire.isWord_of_int64 hcursor⟩
      obtain ⟨part, hpart⟩ := Wire.exists_of_mem_list hevents e he
      exact fits_of_event hpart
    · cases hread
  legible b v hfits hv hpayloads := by
    obtain ⟨items, hitems, hv⟩ := hv
    have hlegible : ∀ v ∈ items, v.Legible := by
      intro v hv
      obtain ⟨e, he, hform⟩ := exists_of_forall₂ hitems hv
      exact legible_event (hfits.1 e he).sequence (hpayloads e.payload (List.mem_map_of_mem he)) hform
    refine hv.legible fun f hf => ?_
    rcases List.mem_cons.1 hf with rfl | hf
    · rw [Value.Legible, Value.itemsLegible_iff]
      exact hlegible
    · rw [List.mem_singleton.1 hf]
      exact legible_int hfits.2

theorem publish : Faithful PublishRequest where
  written _ := .self _
  reads r v hfits hv raw hraw := by
    have htypeId := Wire.decodes_checked (TypeId.ofString_text r.typeId)
    have hpayload := Wire.decodes_payload hfits
    obtain ⟨found, hslots, hfound⟩ := Shape.slots_of_record (s := Wire.publishShape)
      (.cons (.need htypeId (by simp) (by simp)) <| .cons (.default hpayload) .nil)
      (by simp) hv hraw
    simp only [List.forall₂_cons_left_iff, List.forall₂_nil_left_iff] at hfound
    obtain ⟨_, _, hfirst, ⟨body, _, hbody, rfl, rfl⟩, rfl⟩ := hfound
    obtain ⟨typeId, rfl, h₁⟩ := (found_iff (by simp) (by simp)).1 hfirst
    have h₂ := hbody.read hpayload Eq.symm
    simp only [Wire.read, hslots, bind, Except.bind, htypeId typeId h₁, h₂]
    rfl
  fits raw r h := by
    obtain ⟨found, -, hread⟩ := Decoded.bind_eq_ok.1 h
    split at hread
    · rename_i body
      obtain ⟨typeId, -, hread⟩ := Decoded.bind_eq_ok.1 hread
      obtain ⟨payload, hpayload, hread⟩ := Decoded.bind_eq_ok.1 hread
      cases hread
      cases body with
      | none =>
        cases hpayload
        exact .null
      | some body => exact Wire.carried_of_payload hpayload
    · cases hread
  legible r _ _ hv hpayloads :=
    hv.legible (by simp [legible_string, hpayloads r.payload (List.mem_singleton_self _)])

/-- A cause is read from each of its forms. -/
theorem decodes_cause {cause : Option FailureKind} {v : Value} (hv : CauseForm cause v) :
    Decodes (Decode.nullable (Wire.read (α := FailureKind))) v cause := by
  intro raw hraw
  cases cause with
  | none =>
    obtain rfl : v = .null := hv
    rw [Raw.standsFor_null.1 hraw]
    rfl
  | some kind =>
    rw [Wire.nullable_of_ne_null (Wire.ne_null_of_chosen hv hraw),
      failureKind.reads kind v trivial hv raw hraw]
    rfl

/-- Only no cause is given as `null`. -/
theorem eq_none_of_null {cause : Option FailureKind} (hv : CauseForm cause .null) : none = cause := by
  cases cause with
  | none => rfl
  | some kind => cases (hv : Chosen kind.name .null)

theorem legible_cause {cause : Option FailureKind} {v : Value} (hv : CauseForm cause v) :
    v.Legible := by
  cases cause with
  | none =>
    obtain rfl : v = .null := hv
    simp [Value.Legible]
  | some kind => exact legible_chosen hv

theorem connection : Faithful ConnectionChange where
  written c := by
    refine ⟨_, ?_, .self _⟩
    cases c.cause with
    | none => rfl
    | some kind => exact failureKind.written kind
  reads c v _ hv raw hraw := by
    obtain ⟨cause, hcause, hv⟩ := hv
    have hinSession := Wire.decodes_bool c.inSession
    have hisNew := Wire.decodes_bool c.isNew
    have hreads := decodes_cause hcause
    have hnull : cause = .null → none = c.cause := fun hc => eq_none_of_null (hc ▸ hcause)
    obtain ⟨found, hslots, hfound⟩ := Shape.slots_of_record (s := Wire.connectionShape)
      (.cons (.need hinSession (by simp) (by simp)) <| .cons (.need hisNew (by simp) (by simp)) <|
        .cons (.optional hreads (by simp)) .nil) (by simp) hv hraw
    simp only [List.forall₂_cons_left_iff, List.forall₂_nil_left_iff] at hfound
    obtain ⟨_, _, hfirst, ⟨_, _, hsecond, ⟨found, _, hthird, rfl, rfl⟩, rfl⟩, rfl⟩ := hfound
    obtain ⟨inSession, rfl, h₁⟩ := (found_iff (by simp) (by simp)).1 hfirst
    obtain ⟨isNew, rfl, h₂⟩ := (found_iff (by simp) (by simp)).1 hsecond
    have h₃ := hthird.read hreads hnull
    simp only [Wire.read, hslots, bind, Except.bind, hinSession inSession h₁, hisNew isNew h₂] at h₃ ⊢
    rw [h₃]
    rfl
  fits _ _ _ := trivial
  legible _ _ _ hv _ := by
    obtain ⟨cause, hcause, hv⟩ := hv
    exact hv.legible (by simp [legible_bool, legible_cause hcause])

/-- **A session event is read from its two fields**, whichever of them comes first. -/
theorem decodes_sessionEvent {e : SessionEvent} {v : Value} (hv : Message.Form e v) :
    Decodes Wire.read v e := by
  intro raw hraw
  obtain ⟨named, hnamed, hv⟩ := hv
  obtain ⟨make, hlookup, hmake⟩ : ∃ make : SourceId → SessionEvent,
      Wire.sessionEventNames.lookup e.name = some make ∧ make e.source = e := by
    cases e <;> exact ⟨_, rfl, rfl⟩
  have hchoice := Wire.decodes_choice hlookup hnamed
  have huuid := Wire.decodes_uuid e.source.uuid
  rcases record_nil_iff.1 hv with ⟨given, hgiven, rfl⟩ | rfl
  · obtain ⟨left, members, rfl, hmembers⟩ := Raw.standsFor_object.1 hraw
    rcases List.perm_pair.1 hgiven with rfl | rfl
    · obtain ⟨event, rest, rfl, hevent, hrest⟩ := Raw.membersStandFor_cons.1 hmembers
      obtain ⟨source, rest, rfl, hsource, hrest⟩ := Raw.membersStandFor_cons.1 hrest
      rw [Raw.membersStandFor_nil.1 hrest]
      simp [Wire.read, Wire.sessionEventParts, hchoice event hevent, huuid source hsource, hmake,
        bind, Except.bind, pure, Except.pure]
    · obtain ⟨source, rest, rfl, hsource, hrest⟩ := Raw.membersStandFor_cons.1 hmembers
      obtain ⟨event, rest, rfl, hevent, hrest⟩ := Raw.membersStandFor_cons.1 hrest
      rw [Raw.membersStandFor_nil.1 hrest]
      simp [Wire.read, Wire.sessionEventParts, hchoice event hevent, huuid source hsource, hmake,
        bind, Except.bind, pure, Except.pure]
  · obtain ⟨left, raws, rfl, hraws⟩ := Raw.standsFor_array.1 hraw
    obtain ⟨event, rest, rfl, hevent, hrest⟩ := Raw.itemsStandFor_cons.1 hraws
    obtain ⟨source, rest, rfl, hsource, hrest⟩ := Raw.itemsStandFor_cons.1 hrest
    rw [Raw.itemsStandFor_nil.1 hrest]
    simp [Wire.read, Shape.overflow, hchoice event hevent, huuid source hsource, hmake,
      bind, Except.bind, pure, Except.pure]

theorem sessionEvent : Faithful SessionEvent where
  written _ := ⟨_, .bare, .self _⟩
  reads _ _ _ := decodes_sessionEvent
  fits _ _ _ := trivial
  legible _ _ _ hv _ := by
    obtain ⟨named, hnamed, hv⟩ := hv
    exact hv.legible (by simp [legible_chosen hnamed, legible_string])

end Faithful

/-! ### There and back -/

namespace Wire

/-- A round made so many times. -/
def rounds {β : Type} (round : β → Decoded β) : Nat → β → Decoded β
  | 0, b => .ok b
  | n + 1, b => do rounds round n (← round b)

/-- What a round gives back unchanged, any number of rounds gives back unchanged. -/
theorem rounds_of_fixed {β : Type} {round : β → Decoded β} {b : β} (h : round b = .ok b) (n : Nat) :
    rounds round n b = .ok b := by
  induction n with
  | zero => rfl
  | succ n ih =>
    rw [rounds, h]
    exact ih

/-- A text written again after it was read as a message of one type. -/
def againAsText (α : Type) [Wire α] (s : String) : Decoded String :=
  (ofText (α := α) s).map Wire.text

variable {α : Type} [Wire α] [Message α]

/-- The text of each payload of a message is read as that payload. -/
def Legible (a : α) : Prop := ∀ v ∈ Message.payloads a, v.Legible

/-- A message that goes over the wire and back: it is read from what it is written as, and what it
is written as comes back unchanged from any number of further rounds. -/
structure Returns (a : α) : Prop where
  value : ofValue (write a) = .ok a
  values : ∀ n, rounds (again α) n (write a) = .ok (write a)
  text : Legible a → ofText (Wire.text a) = .ok a
  texts : Legible a → ∀ n, rounds (againAsText α) n (Wire.text a) = .ok (Wire.text a)

/-- Messages of a type that go back and forth. -/
structure RoundTrips (α : Type) [Wire α] [Message α] : Prop where
  /-- Each message that the wire can carry goes over it and back. -/
  returns : ∀ a : α, Message.Fits a → Returns a
  /-- No other message does. -/
  fits_iff : ∀ a : α, Message.Fits a ↔ ofValue (write a) = .ok a
  /-- It is read from each of its forms. -/
  forms : ∀ (a : α) (v : Value), Message.Fits a → Message.Form a v →
    ofValue v = .ok a ∧ (Legible a → ofText v.text = .ok a)
  /-- Whatever is read as a message, the message goes over the wire and back from then on. -/
  accepted : ∀ (raw : Raw) (a : α), read raw = .ok a → Message.Fits a ∧ Returns a

/-- A form is read as its message, as a value and as text. -/
theorem ofValue_of_form (h : Faithful α) {a : α} {v : Value} (hfits : Message.Fits a)
    (hv : Message.Form a v) : ofValue v = .ok a ∧ (Legible a → ofText v.text = .ok a) := by
  have hreads := h.reads a v hfits hv
  exact ⟨hreads _ (Raw.standsFor_ofValue v), fun hlegible =>
    ofText_valueText (h.legible a v hfits hv hlegible) hreads⟩

/-- A message that the wire can carry goes over it and back. -/
theorem returns_of_faithful (h : Faithful α) {a : α} (hfits : Message.Fits a) : Returns a := by
  obtain ⟨hvalue, htext⟩ := ofValue_of_form h hfits (h.written a)
  have hagain : again α (write a) = .ok (write a) := by
    rw [again, hvalue]
    rfl
  refine ⟨hvalue, rounds_of_fixed hagain, htext, fun hlegible => rounds_of_fixed ?_⟩
  rw [againAsText, Wire.text, htext hlegible]
  rfl

/-- **A type whose forms are read faithfully goes back and forth.** -/
theorem RoundTrips.of_faithful (h : Faithful α) : RoundTrips α where
  returns _ := returns_of_faithful h
  fits_iff a := ⟨fun hfits => (returns_of_faithful h hfits).value, h.fits _ a⟩
  forms _ _ := ofValue_of_form h
  accepted raw a hread :=
    have hfits := h.fits raw a hread
    ⟨hfits, returns_of_faithful h hfits⟩

/-- The types of messages that go over the wire and back. -/
structure AllRoundTrip : Prop where
  typeId : RoundTrips TypeId
  sessionId : RoundTrips SessionId
  sourceId : RoundTrips SourceId
  epoch : RoundTrips Epoch
  failureKind : RoundTrips FailureKind
  connectionState : RoundTrips ConnectionState
  event : RoundTrips Event
  batch : RoundTrips Batch
  publish : RoundTrips PublishRequest
  receipt : RoundTrips PublishReceipt
  grant : RoundTrips SessionGrant
  subscription : RoundTrips SubscriptionChange
  sessionEvent : RoundTrips SessionEvent
  connection : RoundTrips ConnectionChange

/-- **Every message goes over the wire and back**: it is read from what it is written as and from
each of its forms, and what was read once comes back unchanged ever after. -/
theorem allRoundTrip : AllRoundTrip where
  typeId := .of_faithful .typeId
  sessionId := .of_faithful .sessionId
  sourceId := .of_faithful .sourceId
  epoch := .of_faithful .epoch
  failureKind := .of_faithful .failureKind
  connectionState := .of_faithful .connectionState
  event := .of_faithful .event
  batch := .of_faithful .batch
  publish := .of_faithful .publish
  receipt := .of_faithful .receipt
  grant := .of_faithful .grant
  subscription := .of_faithful .subscription
  sessionEvent := .of_faithful .sessionEvent
  connection := .of_faithful .connection

/-- A request as a list that leaves its payload out. -/
example : ofValue (α := PublishRequest) (.array [.string "order.created"]) =
    .ok ⟨⟨"order.created", by decide⟩, .null⟩ := rfl

end Wire
end EventRelay

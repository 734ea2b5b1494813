/-
# Messages read back

What is written as the text of a message is read as that message, once the value it is written as
is read as the message wherever its containers begin (`Wire.ofText_text`).
-/

import EventRelay.Http.ErrorBody
import EventRelay.Proofs.Json.Texts

namespace EventRelay

open Json

/-- The text of a value is read as a message if the value is. -/
theorem Wire.ofText_valueText {α : Type} [Wire α] {a : α} {v : Value} (hlegible : v.Legible)
    (hread : ∀ raw, Raw.StandsFor v raw → Wire.read raw = .ok a) : Wire.ofText v.text = .ok a := by
  obtain ⟨raw, htext, hstands⟩ := Raw.read_text hlegible
  rw [Wire.ofText, htext]
  simp only [hread raw hstands]
  rfl

/-- **The text of a message is read as the message** if the value that it is written as is. -/
theorem Wire.ofText_text {α : Type} [Wire α] {a : α} (hlegible : (Wire.write a).Legible)
    (hread : ∀ raw, Raw.StandsFor (Wire.write a) raw → Wire.read raw = .ok a) :
    Wire.ofText (Wire.text a) = .ok a :=
  ofText_valueText hlegible hread

namespace ErrorBody

/-- **What a server tells of a failure is what a client reads.** -/
theorem ofText_text (b : ErrorBody) : Wire.ofText (Wire.text b) = .ok b := by
  obtain ⟨error, kind⟩ := b
  apply Wire.ofText_text
  · cases kind <;> simp [Wire.write, Value.orNull, Value.Legible, Value.FieldsLegible]
  · intro raw hraw
    simp only [Wire.write, Raw.standsFor_object, Raw.membersStandFor_cons, Raw.membersStandFor_nil,
      Raw.standsFor_string] at hraw
    obtain ⟨left, members, rfl, told, rest, rfl, rfl, named, rest', rfl, hnamed, rfl⟩ := hraw
    cases kind with
    | none =>
      simp only [Option.map_none, Value.orNull, Raw.standsFor_null] at hnamed
      subst hnamed
      rfl
    | some k =>
      simp only [Option.map_some, Value.orNull, Raw.standsFor_string] at hnamed
      subst hnamed
      cases k <;> rfl

end ErrorBody

/-- Only the status and the body of a response count. -/
theorem Fault.ofReply_congr {r r' : Response} (hstatus : r.status = r'.status)
    (hbody : r.body = r'.body) : Fault.ofReply r = Fault.ofReply r' := by
  rw [Fault.ofReply, Fault.ofReply, hstatus, hbody]

/-- **The client sees the kind that the server saw**, and its wording where it keeps one. -/
theorem Fault.ofReply_response (e : Fault) :
    Fault.ofReply (Rejection.fault e).response = .ofResponse e.status (some e.kind) e.message := by
  have hbody : Wire.ofText (Rejection.fault e).response.body = .ok (Rejection.fault e).body :=
    ErrorBody.ofText_text _
  rw [Fault.ofReply, hbody]
  rfl

namespace SubscriptionChange

/-- What a server tells of a change is what a client reads. -/
theorem ofText_text (c : SubscriptionChange) : Wire.ofText (Wire.text c) = .ok c := by
  apply Wire.ofText_text
  · simp [Wire.write, Value.Legible, Value.FieldsLegible]
  · intro raw hraw
    simp only [Wire.write, Raw.standsFor_object, Raw.membersStandFor_cons, Raw.membersStandFor_nil,
      Raw.standsFor_bool] at hraw
    obtain ⟨left, members, rfl, told, rest, rfl, rfl, rfl⟩ := hraw
    rfl

end SubscriptionChange

end EventRelay

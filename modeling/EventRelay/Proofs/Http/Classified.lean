/-
# Failures across the wire

A server words a failure and names its kind in the body of its response, and a client that reads
the body sees the kind that the server saw (`Fault.ofReply_response`).  Where the body is lost, or
is none that names a kind, the client goes by the status alone.  It may then see another kind, as
with a deployment that is not served, whose status it takes for the end of a session; but whether
the session held can go on comes out the same (`Fault.classified`).

A body names a kind if it is an object with a wording and the name of a kind among its fields, or,
as every message may be given, the list of these two (`ErrorBody.Told`, `Fault.ofReply_list`).  A
name that is none of the kinds, a field that is missing and a text that breaks off are no such body.
-/

import EventRelay.Proofs.Json.Shapes
import EventRelay.Proofs.Messages

namespace EventRelay

open Json

/-! ### Bodies that name a kind -/

namespace ErrorBody

/-- A text that tells a wording and a kind: an object with the two among its fields, nothing of it
broken, or a list of the two. -/
inductive Shaped : Raw → FailureKind → Prop
  | object {left : Nat} {members : List (RawKey × Raw)} {error : String} {named : Raw}
      {kind : FailureKind} (whole : Raw.skipMembers? members = none)
      (wording : (.ok "error", .string (.ok error)) ∈ members)
      (naming : (.ok "kind", named) ∈ members) (named_kind : Wire.read named = .ok kind) :
      Shaped (.object left members) kind
  | list {left : Nat} {error : String} {named : Raw} {kind : FailureKind}
      (named_kind : Wire.read named = .ok kind) :
      Shaped (.array left [.string (.ok error), named]) kind

/-- A body that names a kind, with nothing but blanks behind it. -/
def Told (text : String) (kind : FailureKind) : Prop :=
  skipSpace ((Raw.read text.toList).2.getD []) = [] ∧ Shaped (Raw.read text.toList).1 kind

/-- No check of such a body lets a broken field through. -/
theorem check_whole {rule : FieldRule} (hrule : rule ∈ shape.rules) {raw : Raw}
    (h : rule.check raw = .ok ()) : raw.skipFault? = none := by
  simp only [shape, List.mem_cons, List.not_mem_nil, or_false] at hrule
  rcases hrule with rfl | rfl
  · obtain ⟨s, hs, -⟩ := Decoded.map_eq_ok.1 h
    rw [Decode.string_eq_ok.1 hs]
    rfl
  · obtain ⟨found, hfound, -⟩ := Decoded.map_eq_ok.1 h
    rcases Decode.nullable_eq_ok hfound with ⟨rfl, -⟩ | ⟨k, hk, -⟩
    · rfl
    · exact Decode.skipFault?_of_choice hk

/-- What is read of the two places of such a body. -/
theorem read_places {raw : Raw} {b : ErrorBody} (h : Wire.read raw = .ok b) :
    ∃ named, shape.slots raw = .ok [some (.string (.ok b.error)), named] ∧
      ∀ kind, b.kind = some kind → ∃ raw', named = some raw' ∧ Wire.read raw' = .ok kind := by
  obtain ⟨slots, hslots, hread⟩ := Decoded.bind_eq_ok.1 h
  split at hread
  · rename_i error named
    obtain ⟨wording, hwording, hrest⟩ := Decoded.bind_eq_ok.1 hread
    obtain ⟨found, hfound, hb⟩ := Decoded.bind_eq_ok.1 hrest
    cases hb
    rw [Decode.string_eq_ok] at hwording
    subst hwording
    refine ⟨named, hslots, fun kind hkind => ?_⟩
    cases hkind
    cases named with
    | none => cases hfound
    | some raw' =>
      rcases Decode.nullable_eq_ok hfound with ⟨-, hnone⟩ | ⟨k, hk, hsome⟩
      · cases hnone
      · cases hsome
        exact ⟨raw', rfl, hk⟩
  · cases hread

/-- **A body that is read as naming a kind tells it.** -/
theorem shaped_of_read {raw : Raw} {b : ErrorBody} {kind : FailureKind}
    (h : Wire.read raw = .ok b) (hkind : b.kind = some kind) : Shaped raw kind := by
  obtain ⟨places, hslots, hnaming⟩ := read_places h
  obtain ⟨named, rfl, hnamed⟩ := hnaming kind hkind
  cases raw with
  | object left members =>
    exact .object (Shape.skipMembers?_of_slots (fun _ hrule _ => check_whole hrule) hslots)
      (Shape.mem_of_slots_object hslots (List.mem_cons_self ..))
      (Shape.mem_of_slots_object hslots (List.mem_cons_of_mem _ (List.mem_cons_self ..))) hnamed
  | array left items =>
    have hitems : items = [.string (.ok b.error), named] :=
      (List.map_inj_right fun _ _ => Option.some.inj).1
        (Shape.items_of_slots (by decide) hslots)
    subst hitems
    exact .list hnamed
  | _ => exact absurd hslots Raw.mismatch_ne_ok

theorem told_of_ofText {text : String} {b : ErrorBody} {kind : FailureKind}
    (h : Wire.ofText text = .ok b) (hkind : b.kind = some kind) : Told text kind := by
  unfold Wire.ofText at h
  obtain ⟨body, hread, hrest⟩ := Decoded.bind_eq_ok.1 h
  split at hrest
  · cases hrest
    exact ⟨‹_›, shaped_of_read hread hkind⟩
  · cases hrest

/-- What is read of the list of a wording and a kind. -/
theorem ofText_list (error : String) (kind : FailureKind) :
    Wire.ofText (Value.array [.string error, .string kind.name]).text =
      .ok (⟨error, some kind⟩ : ErrorBody) := by
  refine Wire.ofText_valueText (by simp [Value.Legible, Value.ItemsLegible]) fun raw hraw => ?_
  simp only [Raw.standsFor_array, Raw.itemsStandFor_cons, Raw.itemsStandFor_nil,
    Raw.standsFor_string] at hraw
  obtain ⟨left, items, rfl, told, rest, rfl, rfl, named, rest', rfl, rfl, rfl⟩ := hraw
  cases kind <;> rfl

end ErrorBody

/-! ### What a client makes of a failure -/

/-- A client that is told of no kind goes by the status. -/
theorem Fault.ofReply_untold {reply : Response}
    (h : ∀ body : ErrorBody, Wire.ofText reply.body = .ok body → body.kind = none) :
    ∃ message, Fault.ofReply reply = .ofResponse reply.status none message := by
  unfold Fault.ofReply
  split
  · rename_i body hbody
    exact ⟨body.error, by rw [h body hbody]⟩
  · exact ⟨_, rfl⟩

/-- **The status of a failure says whether the session can go on**, unless the failure was
classified elsewhere. -/
theorem Fault.isResumable_ofResponse_status {e : Fault} (h : ∀ kind text, e ≠ .remote kind text)
    (message : String) :
    (Fault.ofResponse e.status none message).kind.isResumable = e.kind.isResumable := by
  cases e with
  | remote kind text => exact absurd rfl (h kind text)
  | _ => rfl

/-- **The classification of a failure survives the wire.**  A failure is no success, and a client
that gets the response sees the kind that the server saw; where it keeps a wording with a kind that
the server has classified, that is the wording of the failure.

If the body names no kind, because it is lost, because it is no record of a wording and a kind or
because what it names is none of the kinds, the status alone tells the client whether the session
can go on.  Only a failure that was classified elsewhere has no status of its own; and only texts
that tell a kind, as `ErrorBody.Told` has it, are read as naming one. -/
theorem Fault.classified (e : Fault) :
    e.status.isSuccess = false ∧
      (Fault.ofReply (Rejection.fault e).response).kind = e.kind ∧
      (∀ kind text, Fault.ofReply (Rejection.fault e).response = .remote kind text →
        text = e.message) ∧
      ((∀ kind text, e ≠ .remote kind text) → ∀ reply : Response, reply.status = e.status →
        (∀ body : ErrorBody, Wire.ofText reply.body = .ok body → body.kind = none) →
          (Fault.ofReply reply).kind.isResumable = e.kind.isResumable) ∧
      ∀ (text : String) (body : ErrorBody) (kind : FailureKind), Wire.ofText text = .ok body →
        body.kind = some kind → ErrorBody.Told text kind := by
  refine ⟨by cases e <;> rfl, ?_, ?_, ?_, fun _ _ _ => ErrorBody.told_of_ofText⟩
  · rw [Fault.ofReply_response, Fault.kind_ofResponse]
  · intro kind text hremote
    rw [Fault.ofReply_response] at hremote
    cases hkind : e.kind <;> rw [hkind] at hremote <;> cases hremote <;> rfl
  · intro hown reply hstatus huntold
    obtain ⟨message, hreply⟩ := Fault.ofReply_untold huntold
    rw [hreply, hstatus, Fault.isResumable_ofResponse_status hown]

/-- **The list of a wording and a kind is read as well as the object**, by whichever status it
comes. -/
theorem Fault.ofReply_list (error : String) (kind : FailureKind) (status : Status)
    (headers : Headers) :
    Fault.ofReply ⟨status, headers, (Value.array [.string error, .string kind.name]).text⟩ =
      .ofResponse status (some kind) error := by
  simp only [Fault.ofReply, ErrorBody.ofText_list]

example : (Fault.ofReply ⟨⟨401⟩, [], "[\"x\",\"overflow\"]"⟩).kind = .overflow := by
  decide +kernel

/-- A deployment that is not served is taken for the end of a session when the body is lost: another
kind, and as little resumable. -/
theorem Fault.classified_lost :
    (Fault.ofReply (.ofStatus 404)).kind = .invalidSession ∧
      (Fault.ofReply (.ofStatus 404)).kind.isResumable =
        (Fault.deploymentMismatch "v2").kind.isResumable :=
  ⟨by decide +kernel,
    (Fault.classified (.deploymentMismatch "v2")).2.2.2.1 (fun _ _ h => by cases h) (.ofStatus 404) rfl
      fun body h => by cases h⟩

end EventRelay

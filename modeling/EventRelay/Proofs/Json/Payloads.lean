/-
# Values carried unchanged

A reader keeps the fields of an object in increasing order of their keys, and follows containers
only so deep.  `Json.Value.Kept` says which values are as a reader keeps them: they are the values
that come of reading a text (`Json.Raw.kept_of_toValue`), and each of them is read from any text
that stands for it (`Json.Raw.toValue_of_standsFor`).
-/

import EventRelay.Proofs.Json.Shapes
import EventRelay.Proofs.Json.Texts
import Mathlib.Data.List.Induction
import Mathlib.Data.String.Basic

namespace EventRelay
namespace Json

/-! ### Fields in their order -/

namespace Fields

variable {key : String} {value : Value} {fields : List (String × Value)} {f : String × Value}

/-- Fields in increasing order of their keys, one field a key. -/
def Ordered (fields : List (String × Value)) : Prop := fields.Pairwise fun f g => f.1 < g.1

theorem mem_of_mem_insert (h : f ∈ insert key value fields) : f = (key, value) ∨ f ∈ fields := by
  induction fields with
  | nil => exact .inl (List.mem_singleton.1 h)
  | cons g rest ih =>
    obtain ⟨k, v⟩ := g
    rw [insert] at h
    split at h
    · exact (List.mem_cons.1 h).imp_right (List.mem_cons_of_mem _)
    · split at h
      · exact List.mem_cons.1 h
      · rcases List.mem_cons.1 h with rfl | h
        · exact .inr (List.mem_cons_self ..)
        · exact (ih h).imp_right (List.mem_cons_of_mem _)

/-- **Setting a field keeps the order.** -/
theorem Ordered.insert (h : Ordered fields) : Ordered (insert key value fields) := by
  induction fields with
  | nil => exact List.pairwise_singleton ..
  | cons g rest ih =>
    obtain ⟨k, v⟩ := g
    obtain ⟨hfirst, hrest⟩ := List.pairwise_cons.1 h
    rw [Fields.insert]
    split
    · rename_i heq
      exact List.pairwise_cons.2 ⟨fun g hg => heq ▸ hfirst g hg, hrest⟩
    · split
      · rename_i hlt
        refine List.pairwise_cons.2 ⟨fun g hg => ?_, h⟩
        rcases List.mem_cons.1 hg with rfl | hg
        · exact hlt
        · exact lt_trans hlt (hfirst g hg)
      · rename_i hne hlt
        refine List.pairwise_cons.2 ⟨fun g hg => ?_, ih hrest⟩
        rcases mem_of_mem_insert hg with rfl | hg
        · exact lt_of_le_of_ne (not_lt.1 hlt) (Ne.symm hne)
        · exact hfirst g hg

/-- A field behind all others is put behind them. -/
theorem insert_of_last (h : ∀ g ∈ fields, g.1 < key) :
    insert key value fields = fields ++ [(key, value)] := by
  induction fields with
  | nil => rfl
  | cons g rest ih =>
    obtain ⟨k, v⟩ := g
    have hlt : k < key := h (k, v) (List.mem_cons_self ..)
    rw [insert, if_neg (ne_of_gt hlt), if_neg (lt_asymm hlt),
      ih fun g hg => h g (List.mem_cons_of_mem _ hg)]
    rfl

/-- **What is made of assignments is in order**, and each of its fields was assigned. -/
theorem ofAssignments_spec (assignments : List (String × Value)) :
    Ordered (ofAssignments assignments) ∧ ∀ f ∈ ofAssignments assignments, f ∈ assignments := by
  induction assignments using List.reverseRecOn with
  | nil => exact ⟨List.Pairwise.nil, nofun⟩
  | append_singleton front a ih =>
    obtain ⟨hordered, hmem⟩ := ih
    rw [ofAssignments, List.foldl_append]
    refine ⟨hordered.insert, fun f hf => ?_⟩
    rw [List.mem_append, List.mem_singleton]
    rcases mem_of_mem_insert hf with rfl | hf
    · exact .inr rfl
    · exact .inl (hmem f hf)

/-- **Fields in order are made of their own assignments.** -/
theorem ofAssignments_of_ordered (h : Ordered fields) : ofAssignments fields = fields := by
  induction fields using List.reverseRecOn with
  | nil => rfl
  | append_singleton front a ih =>
    obtain ⟨hfront, -, hlast⟩ := List.pairwise_append.1 h
    have hsame : front.foldl (fun fields a => insert a.1 a.2 fields) [] = front := ih hfront
    rw [ofAssignments, List.foldl_append, hsame]
    exact insert_of_last fun g hg => hlast g hg a (List.mem_singleton_self a)

end Fields

/-! ### Values as a reader keeps them -/

/-- A value as a reader keeps it who follows containers `room` deep. -/
inductive Value.Kept : (room : Nat) → Value → Prop where
  | null {room : Nat} : Kept room .null
  | bool {room : Nat} (b : Bool) : Kept room (.bool b)
  | number {room : Nat} (n : Number) : Kept room (.number n)
  | string {room : Nat} (s : String) : Kept room (.string s)
  | array {room : Nat} {items : List Value} (inside : ∀ v ∈ items, Kept room v) :
    Kept (room + 1) (.array items)
  | object {room : Nat} {fields : List (String × Value)} (ordered : Fields.Ordered fields)
      (inside : ∀ f ∈ fields, Kept room f.2) : Kept (room + 1) (.object fields)

namespace Raw

variable {room : Nat}

/-- Items that are each read as they were told are read as they were told. -/
theorem itemValues_of_standFor {items : List Value} {raws : List Raw}
    (hread : ∀ v ∈ items, ∀ raw, StandsFor v raw → toValue room raw = .ok v)
    (h : ItemsStandFor items raws) : itemValues room raws = .ok items := by
  induction items generalizing raws with
  | nil =>
    rw [itemsStandFor_nil.1 h]
    rfl
  | cons v items ih =>
    obtain ⟨raw, rest, rfl, hstands, hothers⟩ := itemsStandFor_cons.1 h
    have hfirst := hread v (List.mem_cons_self ..) raw hstands
    have hrest := ih (fun w hw => hread w (List.mem_cons_of_mem _ hw)) hothers
    rw [itemValues, hfirst, hrest]
    rfl

/-- Fields that are each read as they were told are assigned as they were told. -/
theorem fieldValues_of_standFor {fields : List (String × Value)} {members : List (RawKey × Raw)}
    (hread : ∀ f ∈ fields, ∀ raw, StandsFor f.2 raw → toValue room raw = .ok f.2)
    (h : MembersStandFor fields members) : fieldValues room members = .ok fields := by
  induction fields generalizing members with
  | nil =>
    rw [membersStandFor_nil.1 h]
    rfl
  | cons f fields ih =>
    obtain ⟨k, v⟩ := f
    obtain ⟨raw, rest, rfl, hstands, hothers⟩ := membersStandFor_cons.1 h
    have hfirst := hread (k, v) (List.mem_cons_self ..) raw hstands
    have hrest := ih (fun g hg => hread g (List.mem_cons_of_mem _ hg)) hothers
    rw [fieldValues, hfirst, hrest]
    rfl

/-- **A value that is kept is read from every text that stands for it.** -/
theorem toValue_of_standsFor {v : Value} (hv : v.Kept room) :
    ∀ raw, StandsFor v raw → toValue room raw = .ok v := by
  induction hv with
  | null =>
    intro raw h
    rw [standsFor_null.1 h]
    rfl
  | bool b =>
    intro raw h
    rw [standsFor_bool.1 h]
    rfl
  | number n =>
    intro raw h
    rw [standsFor_number.1 h]
    rfl
  | string s =>
    intro raw h
    rw [standsFor_string.1 h]
    rfl
  | array inside ih =>
    intro raw h
    obtain ⟨left, raws, rfl, hraws⟩ := standsFor_array.1 h
    rw [toValue, itemValues_of_standFor ih hraws]
    rfl
  | object ordered inside ih =>
    intro raw h
    obtain ⟨left, members, rfl, hmembers⟩ := standsFor_object.1 h
    rw [toValue, fieldValues_of_standFor ih hmembers]
    simp only [Except.map, Function.comp_apply, Fields.ofAssignments_of_ordered ordered]

mutual

/-- **What a text is read as is kept.** -/
theorem kept_of_toValue {room : Nat} :
    ∀ (raw : Raw) (v : Value), toValue room raw = .ok v → v.Kept room
  | .null, v, h => by cases h; exact .null
  | .bool b, v, h => by cases h; exact .bool b
  | .number n, v, h => by
    obtain ⟨n, -, rfl⟩ := Decoded.map_eq_ok.1 h
    exact .number n
  | .string s, v, h => by
    obtain ⟨s, -, rfl⟩ := Decoded.map_eq_ok.1 h
    exact .string s
  | .array left items, v, h => by
    cases room with
    | zero => cases h
    | succ room =>
      obtain ⟨vs, hvs, rfl⟩ := Decoded.map_eq_ok.1 h
      exact .array (kept_of_itemValues items vs hvs)
  | .object left members, v, h => by
    cases room with
    | zero => cases h
    | succ room =>
      obtain ⟨fs, hfs, rfl⟩ := Decoded.map_eq_ok.1 h
      obtain ⟨hordered, hassigned⟩ := Fields.ofAssignments_spec fs
      exact .object hordered fun f hf => kept_of_fieldValues members fs hfs f (hassigned f hf)
  | .broken fault, v, h => by cases h

/-- The items of a list are kept. -/
theorem kept_of_itemValues {room : Nat} :
    ∀ (raws : List Raw) (vs : List Value), itemValues room raws = .ok vs → ∀ v ∈ vs, v.Kept room
  | [], vs, h => by cases h; nofun
  | raw :: rest, vs, h => by
    obtain ⟨w, hw, hrest⟩ := Decoded.bind_eq_ok.1 h
    obtain ⟨ws, hws, hall⟩ := Decoded.bind_eq_ok.1 hrest
    cases hall
    exact List.forall_mem_cons.2 ⟨kept_of_toValue raw w hw, kept_of_itemValues rest ws hws⟩

/-- What is assigned to the fields of an object is kept. -/
theorem kept_of_fieldValues {room : Nat} :
    ∀ (members : List (RawKey × Raw)) (fs : List (String × Value)),
      fieldValues room members = .ok fs → ∀ f ∈ fs, f.2.Kept room
  | [], fs, h => by cases h; nofun
  | (key, raw) :: rest, fs, h => by
    obtain ⟨k, -, hmember⟩ := Decoded.bind_eq_ok.1 h
    obtain ⟨w, hw, hrest⟩ := Decoded.bind_eq_ok.1 hmember
    obtain ⟨ws, hws, hall⟩ := Decoded.bind_eq_ok.1 hrest
    cases hall
    exact List.forall_mem_cons.2 ⟨kept_of_toValue raw w hw, kept_of_fieldValues rest ws hws⟩

end

mutual

/-- The faultless text of a value stands for it. -/
theorem standsFor_ofValue : ∀ v : Value, StandsFor v (ofValue v)
  | .null => standsFor_null.2 rfl
  | .bool _ => standsFor_bool.2 rfl
  | .number _ => standsFor_number.2 rfl
  | .string _ => standsFor_string.2 rfl
  | .array items => standsFor_array.2 ⟨0, _, rfl, itemsStandFor_ofItems items⟩
  | .object fields => standsFor_object.2 ⟨0, _, rfl, membersStandFor_ofFields fields⟩

theorem itemsStandFor_ofItems : ∀ items : List Value, ItemsStandFor items (ofItems items)
  | [] => trivial
  | v :: rest =>
    itemsStandFor_cons.2 ⟨_, _, rfl, standsFor_ofValue v, itemsStandFor_ofItems rest⟩

theorem membersStandFor_ofFields : ∀ fields : List (String × Value),
    MembersStandFor fields (ofFields fields)
  | [] => trivial
  | (_, v) :: rest =>
    membersStandFor_cons.2 ⟨_, _, rfl, standsFor_ofValue v, membersStandFor_ofFields rest⟩

end

end Raw

end Json
end EventRelay

/-
# The forms of a record

A record is given as an object of its fields in any order or as a list of them in the order of
declaration, and a field that would be `null` may be left out where its rule allows it.
`Json.Record` says which values these are.  Whatever form a record is given in, what its shape finds
for each field is a text that stands for the value of the field (`Json.Shape.slots_of_record`).
-/

import EventRelay.Proofs.Json.Shapes
import EventRelay.Proofs.Json.Texts
import Mathlib.Data.List.Forall2
import Mathlib.Data.List.Nodup

namespace EventRelay
namespace Json

variable {α : Type} {spare last : List String}

/-! ### What a record may be given as -/

/-- A field of a record and its value. -/
abbrev Field := String × Value

/-- The values that give a record its fields.  Of an object `spare` fields may be left out if they
are `null`, of a list those in `last`. -/
inductive Record (spare last : List String) (fields : List Field) : Value → Prop where
  | object {given omitted : List Field} (all : (given ++ omitted).Perm fields)
      (nulls : ∀ f ∈ omitted, f.1 ∈ spare ∧ f.2 = .null) : Record spare last fields (.object given)
  | list {given omitted : List Field} (all : given ++ omitted = fields)
      (nulls : ∀ f ∈ omitted, f.1 ∈ last ∧ f.2 = .null) :
      Record spare last fields (.array (given.map Prod.snd))

theorem Value.itemsLegible_iff {items : List Value} :
    Value.ItemsLegible items ↔ ∀ v ∈ items, v.Legible := by
  induction items with
  | nil => simp [Value.ItemsLegible]
  | cons v items ih => simp [Value.ItemsLegible, ih]

theorem Value.fieldsLegible_iff {fields : List Field} :
    Value.FieldsLegible fields ↔ ∀ f ∈ fields, f.2.Legible := by
  induction fields with
  | nil => simp [Value.FieldsLegible]
  | cons f fields ih =>
    obtain ⟨k, v⟩ := f
    simp [Value.FieldsLegible, ih]

/-- A record is legible in each of its forms if its fields are. -/
theorem Record.legible {fields : List Field} {v : Value} (h : Record spare last fields v)
    (hfields : ∀ f ∈ fields, f.2.Legible) : v.Legible := by
  cases h with
  | object all _ =>
    rw [Value.Legible, Value.fieldsLegible_iff]
    exact fun f hf => hfields f (all.mem_iff.1 (List.mem_append_left _ hf))
  | list all _ =>
    rw [Value.Legible, Value.itemsLegible_iff]
    intro v hv
    obtain ⟨f, hf, rfl⟩ := List.mem_map.1 hv
    exact hfields f (all ▸ List.mem_append_left _ hf)

/-- A record that leaves nothing out is an object of all its fields or the list of them. -/
theorem record_nil_iff {fields : List Field} {v : Value} :
    Record [] [] fields v ↔
      (∃ given, given.Perm fields ∧ v = .object given) ∨ v = .array (fields.map Prod.snd) := by
  have hnone {omitted : List Field} (nulls : ∀ f ∈ omitted, f.1 ∈ ([] : List String) ∧ f.2 = .null) :
      omitted = [] :=
    List.eq_nil_iff_forall_not_mem.2 fun f hf => List.not_mem_nil (nulls f hf).1
  constructor
  · intro h
    cases h with
    | @object given _ all nulls =>
      rw [hnone nulls, List.append_nil] at all
      exact .inl ⟨given, all, rfl⟩
    | list all nulls =>
      rw [hnone nulls, List.append_nil] at all
      exact .inr (all ▸ rfl)
  · rintro (⟨given, all, rfl⟩ | rfl)
    · exact .object ((List.append_nil given).symm ▸ all) (List.forall_mem_nil _)
    · exact .list (List.append_nil fields) (List.forall_mem_nil _)

/-- A record may be given as the object of all its fields. -/
theorem Record.self (fields : List Field) : Record spare last fields (.object fields) :=
  .object (.of_eq (List.append_nil fields)) (List.forall_mem_nil _)

/-! ### Rules and their fields -/

/-- What is found for a field: a text that stands for its value, or nothing for a `null` that may be
left out. -/
def Found (spare last : List String) (f : Field) : Option Raw → Prop
  | some raw => Raw.StandsFor f.2 raw
  | none => (f.1 ∈ spare ∨ f.1 ∈ last) ∧ f.2 = .null

/-- A decoder reads whatever stands for a value as `a`. -/
def Decodes (decoder : Raw → Decoded α) (v : Value) (a : α) : Prop :=
  ∀ raw, Raw.StandsFor v raw → decoder raw = .ok a

section Found

variable {f : Field} {found : Option Raw}

/-- For a field that may not be left out there is a text. -/
theorem found_iff (hspare : f.1 ∉ spare) (hlast : f.1 ∉ last) :
    Found spare last f found ↔ ∃ raw, found = some raw ∧ Raw.StandsFor f.2 raw := by
  cases found <;> simp [Found, hspare, hlast]

theorem found_nil_iff :
    Found [] [] f found ↔ ∃ raw, found = some raw ∧ Raw.StandsFor f.2 raw :=
  found_iff List.not_mem_nil List.not_mem_nil

/-- **A field that may be left out is read, or it is what `null` stands for.** -/
theorem Found.read {decoder : Raw → Decoded α} {a absent : α} (h : Found spare last f found)
    (hreads : Decodes decoder f.2 a) (hnull : f.2 = .null → absent = a) :
    (found.map decoder).getD (.ok absent) = .ok a := by
  cases found with
  | none => rw [← hnull h.2]; rfl
  | some raw => exact hreads raw h

end Found

/-- A rule that is made for a field. -/
structure FieldRule.For (spare last : List String) (rule : FieldRule) (f : Field) : Prop where
  name : rule.name = f.1
  check : ∀ raw, Raw.StandsFor f.2 raw → rule.check raw = .ok ()
  byName : f.1 ∈ spare → rule.neededByName = false
  byPlace : f.1 ∈ last → rule.neededByPlace = false

namespace FieldRule

variable {decoder : Raw → Decoded α} {name : String} {v : Value} {a : α}

theorem check_of_decodes (h : Decodes decoder v a) {raw : Raw} (hraw : Raw.StandsFor v raw) :
    (decoder raw).map (fun _ => ()) = .ok () := by
  rw [h raw hraw]
  rfl

theorem For.need (h : Decodes decoder v a) (hspare : name ∉ spare) (hlast : name ∉ last) :
    (FieldRule.need name decoder).For spare last (name, v) :=
  ⟨rfl, fun _ => check_of_decodes h, fun hmem => absurd hmem hspare, fun hmem => absurd hmem hlast⟩

theorem For.optional (h : Decodes decoder v a) (hlast : name ∉ last) :
    (FieldRule.optional name decoder).For spare last (name, v) :=
  ⟨rfl, fun _ => check_of_decodes h, fun _ => rfl, fun hmem => absurd hmem hlast⟩

theorem For.default (h : Decodes decoder v a) :
    (FieldRule.default name decoder).For spare last (name, v) :=
  ⟨rfl, fun _ => check_of_decodes h, fun _ => rfl, fun _ => rfl⟩

end FieldRule

/-- What stands on the right of a relation between lists has something on its left. -/
theorem exists_of_forall₂ {β γ : Type} {R : β → γ → Prop} {bs : List β} {cs : List γ} {c : γ}
    (h : List.Forall₂ R bs cs) (hc : c ∈ cs) : ∃ b ∈ bs, R b c := by
  induction h with
  | nil => exact absurd hc List.not_mem_nil
  | cons hfirst _ ih =>
    rcases List.mem_cons.1 hc with rfl | hc
    · exact ⟨_, List.mem_cons_self .., hfirst⟩
    · obtain ⟨b, hb, hrelated⟩ := ih hc
      exact ⟨b, List.mem_cons_of_mem _ hb, hrelated⟩

namespace Shape

variable {fields todo : List Field} {slots : Slots} {raw : Raw}

/-! ### Objects -/

/-- The place of a field while an object is read: open as long as the field is still to come, then
filled with what stands for its value. -/
structure Holds (spare last : List String) (todo : List Field) (f : Field)
    (slot : FieldRule × Option Raw) : Prop where
  rule : slot.1.For spare last f
  found : (f ∈ todo ∧ slot.2 = none) ∨ f ∉ todo ∧ ∃ raw, slot.2 = some raw ∧ Raw.StandsFor f.2 raw

/-- A place does not change by a field of another name. -/
theorem Holds.of_cons {f g : Field} {slot : FieldRule × Option Raw}
    (h : Holds spare last (g :: todo) f slot) (hne : f ≠ g) : Holds spare last todo f slot := by
  refine ⟨h.rule, ?_⟩
  rcases h.found with ⟨hmem, hopen⟩ | ⟨hmem, hfilled⟩
  · exact .inl ⟨(List.mem_cons.1 hmem).resolve_left hne, hopen⟩
  · exact .inr ⟨fun h => hmem (List.mem_cons_of_mem _ h), hfilled⟩

/-- **A field goes to its place**, and the other places stay as they are. -/
theorem put_holds {g : Field} (hnames : (fields.map Prod.fst).Nodup) (hg : g ∈ fields)
    (htodo : g ∉ todo) (hraw : Raw.StandsFor g.2 raw)
    (h : List.Forall₂ (Holds spare last (g :: todo)) fields slots) :
    ∃ slots', put g.1 raw slots = .ok slots' ∧ List.Forall₂ (Holds spare last todo) fields slots' := by
  induction h with
  | nil => exact absurd hg List.not_mem_nil
  | @cons f slot fields slots hslot hslots ih =>
    obtain ⟨rule, found⟩ := slot
    obtain ⟨hother, hnames⟩ := List.nodup_cons.1 hnames
    rcases List.mem_cons.1 hg with rfl | hg
    · have hopen : found = none := by
        rcases hslot.found with ⟨-, hopen⟩ | ⟨hmem, -⟩
        · exact hopen
        · exact absurd (List.mem_cons_self ..) hmem
      subst hopen
      have hcheck : (rule.check raw).mapError (Refusal.within (.field g.1)) = .ok () :=
        Decoded.mapError_eq_ok.2 (hslot.rule.check raw hraw)
      have hfilled : Holds spare last todo g (rule, some raw) :=
        ⟨hslot.rule, .inr ⟨htodo, raw, rfl, hraw⟩⟩
      -- The names differ, so it is no other field's place that is filled.
      have hne : ∀ f ∈ fields, f ≠ g := fun f hf heq => hother (heq ▸ List.mem_map_of_mem hf)
      have hothers : List.Forall₂ (Holds spare last todo) fields slots :=
        ((List.forall₂_and_left _ _).2 ⟨hne, hslots⟩).imp fun f slot ⟨hf, hslot⟩ => hslot.of_cons hf
      refine ⟨(rule, some raw) :: slots, ?_, .cons hfilled hothers⟩
      simp only [put, if_pos hslot.rule.name, hcheck]
      rfl
    · have hne : f.1 ≠ g.1 := fun heq => hother (heq ▸ List.mem_map_of_mem hg)
      obtain ⟨slots', hput, hslots'⟩ := ih hnames hg
      refine ⟨(rule, found) :: slots', ?_, .cons (hslot.of_cons fun heq => hne (heq ▸ rfl)) hslots'⟩
      have hrule : rule.name ≠ g.1 := hslot.rule.name ▸ hne
      simp only [put, if_neg hrule, hput]
      rfl

/-- **The fields of an object go to their places** in whatever order they come. -/
theorem putAll_holds {given omitted : List Field} {members : List (RawKey × Raw)}
    (hnames : (fields.map Prod.fst).Nodup) (hgiven : ∀ g ∈ given, g ∈ fields)
    (honce : (given ++ omitted).Nodup) (hmembers : Raw.MembersStandFor given members)
    (h : List.Forall₂ (Holds spare last (given ++ omitted)) fields slots) :
    ∃ slots', putAll members slots = .ok slots' ∧
      List.Forall₂ (Holds spare last omitted) fields slots' := by
  induction given generalizing members slots with
  | nil =>
    rw [Raw.membersStandFor_nil.1 hmembers]
    exact ⟨slots, rfl, h⟩
  | cons g given ih =>
    obtain ⟨k, v⟩ := g
    obtain ⟨raw, rest, rfl, hraw, hrest⟩ := Raw.membersStandFor_cons.1 hmembers
    obtain ⟨hfresh, honce⟩ := List.nodup_cons.1 honce
    obtain ⟨slots₁, hput, hslots₁⟩ :=
      put_holds hnames (hgiven (k, v) (List.mem_cons_self ..)) hfresh hraw h
    obtain ⟨slots₂, hputAll, hslots₂⟩ :=
      ih (fun g hg => hgiven g (List.mem_cons_of_mem _ hg)) honce hrest hslots₁
    refine ⟨slots₂, ?_, hslots₂⟩
    rw [putAll, hput]
    exact hputAll

/-- Nothing is missing once all places are filled but those that an object may leave open. -/
theorem firstMissing?_eq_none (h : ∀ slot ∈ slots, slot.2 = none → slot.1.neededByName = false) :
    firstMissing? slots = none := by
  induction slots with
  | nil => rfl
  | cons slot rest ih =>
    obtain ⟨rule, found⟩ := slot
    have hrest := ih fun slot hslot => h slot (List.mem_cons_of_mem _ hslot)
    cases found with
    | none =>
      have hspare : rule.neededByName = false := h _ (List.mem_cons_self ..) rfl
      rw [firstMissing?, hspare]
      exact hrest
    | some raw => exact hrest

/-- What stands in the places of a record is what is found for its fields. -/
theorem found_of_holds {omitted : List Field} (nulls : ∀ f ∈ omitted, f.1 ∈ spare ∧ f.2 = .null)
    (h : List.Forall₂ (Holds spare last omitted) fields slots) :
    firstMissing? slots = none ∧ List.Forall₂ (Found spare last) fields (slots.map Prod.snd) := by
  constructor
  · refine firstMissing?_eq_none fun slot hslot hopen => ?_
    obtain ⟨f, -, hf⟩ := exists_of_forall₂ h hslot
    rcases hf.found with ⟨hmem, -⟩ | ⟨-, raw, hfilled, -⟩
    · exact hf.rule.byName (nulls f hmem).1
    · rw [hopen] at hfilled
      cases hfilled
  · refine List.forall₂_map_right_iff.2 (h.imp fun f slot hf => ?_)
    rcases hf.found with ⟨hmem, hopen⟩ | ⟨-, raw, hfilled, hraw⟩
    · rw [hopen]
      exact ⟨.inl (nulls f hmem).1, (nulls f hmem).2⟩
    · rw [hfilled]
      exact hraw

/-! ### Lists -/

/-- Where a list ends, the places of fields that it may leave out stay open. -/
theorem fill_nil {s : Shape} {rules : List FieldRule} {omitted : List Field}
    (nulls : ∀ f ∈ omitted, f.1 ∈ last ∧ f.2 = .null)
    (h : List.Forall₂ (FieldRule.For spare last) rules omitted) (index : Nat) :
    ∃ slots, fill s index rules [] = .ok slots ∧
      List.Forall₂ (Found spare last) omitted (slots.map Prod.snd) := by
  induction h generalizing index with
  | nil => exact ⟨[], rfl, .nil⟩
  | @cons rule f rules fields hrule hrules ih =>
    obtain ⟨hlast, hnull⟩ := nulls f (List.mem_cons_self ..)
    obtain ⟨slots, hfill, hfound⟩ :=
      ih (fun f hf => nulls f (List.mem_cons_of_mem _ hf)) (index + 1)
    refine ⟨(rule, none) :: slots, ?_, .cons ⟨.inr hlast, hnull⟩ hfound⟩
    rw [fill, hrule.byPlace hlast, hfill]
    rfl

/-- **The items of a list go to the places one after another**; the last ones may stay open. -/
theorem fill_found {s : Shape} {rules : List FieldRule} {given omitted : List Field}
    {raws : List Raw} (nulls : ∀ f ∈ omitted, f.1 ∈ last ∧ f.2 = .null)
    (hraws : Raw.ItemsStandFor (given.map Prod.snd) raws)
    (h : List.Forall₂ (FieldRule.For spare last) rules (given ++ omitted)) (index : Nat) :
    ∃ slots, fill s index rules raws = .ok slots ∧ raws.length ≤ rules.length ∧
      List.Forall₂ (Found spare last) (given ++ omitted) (slots.map Prod.snd) := by
  induction given generalizing rules raws index with
  | nil =>
    obtain rfl := Raw.itemsStandFor_nil.1 hraws
    obtain ⟨slots, hfill, hfound⟩ := fill_nil nulls h index
    exact ⟨slots, hfill, Nat.zero_le _, hfound⟩
  | cons g given ih =>
    cases h with
    | @cons rule _ rules _ hrule hrules =>
      obtain ⟨raw, raws, rfl, hraw, hrest⟩ := Raw.itemsStandFor_cons.1 hraws
      obtain ⟨slots, hfill, hlength, hfound⟩ := ih hrest hrules (index + 1)
      have hcheck : (rule.check raw).mapError (Refusal.within (.item index)) = .ok () :=
        Decoded.mapError_eq_ok.2 (hrule.check raw hraw)
      refine ⟨(rule, some raw) :: slots, ?_, Nat.succ_le_succ hlength, .cons hraw hfound⟩
      rw [fill, hcheck, hfill]
      rfl

/-! ### Either form -/

/-- **A record is found in whatever form it is given**: for each field there is a text that stands
for its value, or the field is a `null` that was left out. -/
theorem slots_of_record {s : Shape} {v : Value}
    (hrules : List.Forall₂ (FieldRule.For spare last) s.rules fields)
    (hnames : (fields.map Prod.fst).Nodup) (hv : Record spare last fields v)
    (hraw : Raw.StandsFor v raw) :
    ∃ found, s.slots raw = .ok found ∧ List.Forall₂ (Found spare last) fields found := by
  cases hv with
  | @object given omitted all nulls =>
    obtain ⟨left, members, rfl, hmembers⟩ := Raw.standsFor_object.1 hraw
    have honce : (given ++ omitted).Nodup := all.nodup_iff.2 (List.Nodup.of_map _ hnames)
    -- At first all fields are still to come, at the end only those that are left out.
    have hopen : List.Forall₂ (Holds spare last (given ++ omitted)) fields
        (s.rules.map fun rule => (rule, none)) := by
      refine List.forall₂_map_right_iff.2 ?_
      refine ((List.forall₂_and_left _ _).2 ⟨fun f hf => all.mem_iff.2 hf, hrules.flip⟩).imp ?_
      exact fun f rule ⟨hf, hrule⟩ => ⟨hrule, .inl ⟨hf, rfl⟩⟩
    obtain ⟨slots, hput, hslots⟩ := putAll_holds hnames
      (fun g hg => all.mem_iff.1 (List.mem_append_left _ hg)) honce hmembers hopen
    obtain ⟨hmissing, hfound⟩ := found_of_holds nulls hslots
    refine ⟨slots.map Prod.snd, ?_, hfound⟩
    rw [Shape.slots, hput]
    simp only [bind, Except.bind, hmissing]
    rfl
  | @list given omitted all nulls =>
    subst all
    obtain ⟨left, raws, rfl, hraws⟩ := Raw.standsFor_array.1 hraw
    obtain ⟨slots, hfill, hlength, hfound⟩ := fill_found (s := s) nulls hraws hrules 0
    refine ⟨slots.map Prod.snd, ?_, hfound⟩
    rw [Shape.slots, hfill]
    simp only [bind, Except.bind, List.drop_eq_nil_of_le hlength]
    rfl

/-- A record of one field is found as the text of that field. -/
theorem slots_of_single {s : Shape} {name : String} {decoder : Raw → Decoded α} {told v : Value}
    {a : α} (hrules : s.rules = [.need name decoder]) (hreads : Decodes decoder told a)
    (hv : Record [] [] [(name, told)] v) (hraw : Raw.StandsFor v raw) :
    ∃ part, s.slots raw = .ok [some part] ∧ decoder part = .ok a := by
  have hfor : List.Forall₂ (FieldRule.For [] []) s.rules [(name, told)] :=
    hrules ▸ .cons (.need hreads List.not_mem_nil List.not_mem_nil) .nil
  obtain ⟨found, hslots, hfound⟩ := slots_of_record hfor (List.nodup_singleton name) hv hraw
  simp only [List.forall₂_cons_left_iff, List.forall₂_nil_left_iff, found_nil_iff] at hfound
  obtain ⟨_, _, ⟨part, rfl, hpart⟩, rfl, rfl⟩ := hfound
  exact ⟨part, hslots, hreads part hpart⟩

end Shape
end Json
end EventRelay

/-
# What a record takes from a text

An object is told a record field by field: a field fills the place that its rule has left open, or
no rule is for it and it is passed over (`Json.Shape.put_cases`).  What a record reads is then
found in the text under the name of its rule (`Json.Shape.putAll_spec`), and nothing of the object
is broken (`Json.Shape.skipMembers?_of_putAll`).
-/

import EventRelay.Json.Decode

namespace EventRelay
namespace Json

namespace Decoded

variable {ε ε' α β : Type} {x : Except ε α}

theorem bind_eq_ok {f : α → Except ε β} {b : β} :
    (x >>= f) = .ok b ↔ ∃ a, x = .ok a ∧ f a = .ok b := by
  cases x with
  | error fault => simp [bind, Except.bind]
  | ok a => simp [bind, Except.bind]

theorem map_eq_ok {f : α → β} {b : β} :
    x.map f = .ok b ↔ ∃ a, x = .ok a ∧ f a = b := by
  cases x <;> simp [Except.map]

@[simp] theorem mapError_ok {f : ε → ε'} {a : α} :
    (Except.ok a : Except ε α).mapError f = .ok a := rfl

theorem mapError_eq_ok {f : ε → ε'} {a : α} : x.mapError f = .ok a ↔ x = .ok a := by
  cases x with
  | error fault => exact ⟨nofun, nofun⟩
  | ok b => rw [mapError_ok, Except.ok.injEq, Except.ok.injEq]

end Decoded

/-! ### Decoders that succeed -/

theorem Raw.mismatch_ne_ok {α : Type} {raw : Raw} {expected : String} {a : α} :
    raw.mismatch expected ≠ .ok a := by
  intro h
  obtain ⟨_, -, hrefused⟩ := Decoded.bind_eq_ok.1 h
  cases hrefused

namespace Decode

theorem string_eq_ok {expected s : String} {raw : Raw} :
    string expected raw = .ok s ↔ raw = .string (.ok s) := by
  constructor
  · intro h
    unfold string at h
    split at h
    · cases h
      rfl
    · exact absurd h Raw.mismatch_ne_ok
  · rintro rfl
    rfl

/-- A value that may be `null` is, or it is read. -/
theorem nullable_eq_ok {α : Type} {decoder : Raw → Decoded α} {raw : Raw} {found : Option α}
    (h : nullable decoder raw = .ok found) :
    (raw = .null ∧ found = none) ∨ ∃ a, decoder raw = .ok a ∧ found = some a := by
  unfold nullable at h
  split at h
  · cases h
    exact .inl ⟨rfl, rfl⟩
  · obtain ⟨a, ha, rfl⟩ := Decoded.map_eq_ok.1 h
    exact .inr ⟨a, ha, rfl⟩

/-- A choice that is read is not broken. -/
theorem skipFault?_of_choice {α : Type} {choices : List (String × α)} {raw : Raw} {a : α}
    (h : choice choices raw = .ok a) : raw.skipFault? = none := by
  unfold choice at h
  split at h
  · rfl
  · obtain ⟨_, -, hunit⟩ := Decoded.bind_eq_ok.1 h
    split at hunit
    · rfl
    · exact absurd hunit Raw.mismatch_ne_ok
  · cases h
  · cases h
  · exact absurd h Raw.mismatch_ne_ok

end Decode

/-! ### Records -/

namespace Shape

variable {slots slots' : Slots} {rule : FieldRule} {key : String} {raw : Raw}

/-- **What becomes of a field**: no rule is for it and it is passed over, or it fills the place that
its rule has left open. -/
theorem put_cases (h : put key raw slots = .ok slots') :
    (raw.skipFault? = none ∧ slots' = slots) ∨
      ∃ front rule back, slots = front ++ (rule, none) :: back ∧
        slots' = front ++ (rule, some raw) :: back ∧ rule.name = key ∧ rule.check raw = .ok () := by
  induction slots generalizing slots' with
  | nil =>
    simp only [put] at h
    split at h
    · cases h
    · cases h
      exact .inl ⟨‹_›, rfl⟩
  | cons slot rest ih =>
    obtain ⟨rule, found⟩ := slot
    simp only [put] at h
    by_cases hname : rule.name = key
    · rw [if_pos hname] at h
      cases found with
      | some r => cases h
      | none =>
        obtain ⟨_, hcheck, hfilled⟩ := Decoded.bind_eq_ok.1 h
        cases hfilled
        exact .inr ⟨[], rule, rest, rfl, rfl, hname, Decoded.mapError_eq_ok.1 hcheck⟩
    · rw [if_neg hname] at h
      obtain ⟨rest', hput, rfl⟩ := Decoded.map_eq_ok.1 h
      rcases ih hput with ⟨hskip, rfl⟩ | ⟨front, rule', back, rfl, rfl, hname', hcheck⟩
      · exact .inl ⟨hskip, rfl⟩
      · exact .inr ⟨(rule, found) :: front, rule', back, rfl, rfl, hname', hcheck⟩

/-- **What the fields of an object leave in the places of a record**: the rules stay, and every
place holds what it held, or a field of its name. -/
theorem putAll_spec {members : List (RawKey × Raw)} (h : putAll members slots = .ok slots') :
    slots'.map Prod.fst = slots.map Prod.fst ∧
      ∀ rule raw, (rule, some raw) ∈ slots' →
        (rule, some raw) ∈ slots ∨ (.ok rule.name, raw) ∈ members := by
  induction members generalizing slots with
  | nil =>
    cases h
    exact ⟨rfl, fun _ _ hmem => .inl hmem⟩
  | cons m rest ih =>
    obtain ⟨key, raw⟩ := m
    cases key with
    | error fault => cases h
    | ok key =>
      obtain ⟨filled, hput, hrest⟩ := Decoded.bind_eq_ok.1 h
      obtain ⟨hrules, hmems⟩ := ih hrest
      rcases put_cases hput with ⟨-, rfl⟩ | ⟨front, rule, back, rfl, rfl, hname, -⟩
      · exact ⟨hrules, fun rule raw hmem =>
          (hmems rule raw hmem).imp_right (List.mem_cons_of_mem _)⟩
      · refine ⟨by simpa using hrules, fun rule' raw' hmem => ?_⟩
        rcases hmems rule' raw' hmem with hold | hnew
        · simp only [List.mem_append, List.mem_cons, Prod.mk.injEq, Option.some.injEq] at hold ⊢
          rcases hold with hfront | ⟨rfl, rfl⟩ | hback
          · exact .inl (.inl hfront)
          · exact .inr (.inl ⟨by rw [hname], rfl⟩)
          · exact .inl (.inr (.inr hback))
        · exact .inr (List.mem_cons_of_mem _ hnew)

/-- **A record that is filled in has no broken field**, if no check of it lets one through. -/
theorem skipMembers?_of_putAll {members : List (RawKey × Raw)}
    (hchecks : ∀ slot ∈ slots, ∀ raw, slot.1.check raw = .ok () → raw.skipFault? = none)
    (h : putAll members slots = .ok slots') : Raw.skipMembers? members = none := by
  induction members generalizing slots with
  | nil => rfl
  | cons m rest ih =>
    obtain ⟨key, raw⟩ := m
    cases key with
    | error fault => cases h
    | ok key =>
      obtain ⟨filled, hput, hrest⟩ := Decoded.bind_eq_ok.1 h
      rcases put_cases hput with ⟨hskip, rfl⟩ | ⟨front, rule, back, rfl, rfl, hname, hcheck⟩
      · simp [Raw.skipMembers?, hskip, ih hchecks hrest]
      · have hraw := hchecks (rule, none) (by simp) raw hcheck
        have hothers := ih (fun slot hslot => by
          simp only [List.mem_append, List.mem_cons] at hslot hchecks
          rcases hslot with hfront | rfl | hback
          · exact hchecks slot (.inl hfront)
          · exact hchecks (rule, none) (.inr (.inl rfl))
          · exact hchecks slot (.inr (.inr hback))) hrest
        simp [Raw.skipMembers?, hraw, hothers]

/-- **What a list gives a record whose fields are all needed**: its first items, one a field. -/
theorem fill_spec {s : Shape} {index : Nat} {rules : List FieldRule} {items : List Raw}
    (hneeded : ∀ rule ∈ rules, rule.neededByPlace = true)
    (h : fill s index rules items = .ok slots) :
    rules.length ≤ items.length ∧ slots.map Prod.snd = (items.take rules.length).map some := by
  induction rules generalizing index items slots with
  | nil =>
    cases h
    exact ⟨Nat.zero_le _, rfl⟩
  | cons rule rules ih =>
    cases items with
    | nil =>
      rw [fill, if_pos (hneeded rule (List.mem_cons_self ..))] at h
      cases h
    | cons raw items =>
      obtain ⟨_, -, hrest⟩ := Decoded.bind_eq_ok.1 h
      obtain ⟨others, hothers, hslots⟩ := Decoded.bind_eq_ok.1 hrest
      cases hslots
      obtain ⟨hlength, hfound⟩ := ih (fun r hr => hneeded r (List.mem_cons_of_mem _ hr)) hothers
      exact ⟨Nat.succ_le_succ hlength, by simp [hfound]⟩

/-- Nothing may stand behind the last field of a list. -/
theorem eq_nil_of_overflow {count left : Nat} {items : List Raw}
    (h : overflow count left items = .ok ()) : items = [] := by
  unfold overflow at h
  split at h
  · rfl
  · cases h
  · split at h <;> cases h

/-! ### What is read of a whole record -/

variable {s : Shape} {found : List (Option Raw)}

/-- **What a record reads of an object stands in it under the name of its rule.** -/
theorem mem_of_slots_object {left : Nat} {members : List (RawKey × Raw)}
    (h : s.slots (.object left members) = .ok found) {rule : FieldRule} {raw : Raw}
    (hmem : (rule, some raw) ∈ s.rules.zip found) : (.ok rule.name, raw) ∈ members := by
  obtain ⟨slots, hput, hrest⟩ := Decoded.bind_eq_ok.1 h
  obtain ⟨hrules, hmems⟩ := putAll_spec hput
  have hfound : slots.map Prod.snd = found := by
    split at hrest
    · cases hrest
    · exact Except.ok.inj hrest
  have hslots : slots = s.rules.zip found :=
    List.zip_of_prod (by rw [hrules, List.map_map]; exact List.map_id _) hfound
  refine (hmems rule raw (hslots ▸ hmem)).resolve_left fun hopen => ?_
  obtain ⟨_, -, hpair⟩ := List.mem_map.1 hopen
  cases hpair

/-- Nothing of an object that a record reads is broken, if no check of a field lets it through. -/
theorem skipMembers?_of_slots {left : Nat} {members : List (RawKey × Raw)}
    (hchecks : ∀ rule ∈ s.rules, ∀ raw, rule.check raw = .ok () → raw.skipFault? = none)
    (h : s.slots (.object left members) = .ok found) : Raw.skipMembers? members = none := by
  obtain ⟨slots, hput, -⟩ := Decoded.bind_eq_ok.1 h
  refine skipMembers?_of_putAll (fun slot hslot raw => ?_) hput
  obtain ⟨rule, hrule, rfl⟩ := List.mem_map.1 hslot
  exact hchecks rule hrule raw

/-- **A record whose fields are all needed reads every item of a list.** -/
theorem items_of_slots {left : Nat} {items : List Raw}
    (hneeded : ∀ rule ∈ s.rules, rule.neededByPlace = true)
    (h : s.slots (.array left items) = .ok found) : items.map some = found := by
  obtain ⟨slots, hfill, hrest⟩ := Decoded.bind_eq_ok.1 h
  obtain ⟨_, hover, hplaces⟩ := Decoded.bind_eq_ok.1 hrest
  obtain ⟨-, hfound⟩ := fill_spec hneeded hfill
  have hitems : items.take s.rules.length = items :=
    List.take_of_length_le (List.drop_eq_nil_iff.1 (eq_nil_of_overflow hover))
  rw [hitems] at hfound
  exact hfound.symm.trans (Except.ok.inj hplaces)

end Shape
end Json
end EventRelay

/-
# Reading what was written

The compact text of a value is read as that value, whatever stands behind it
(`Json.Raw.readBack`).  A reader notes where containers begin in a text, so what it makes of
the text is told up to these places: `Json.Raw.StandsFor` says that a raw text is the faultless
text of a value, wherever it stands.

Strings are written with escapes, and every escape is read as the character it was written for
(`Json.Scan.string_escaped`).  What a number's text is read as is left to `Json.Number.Legible`.
-/

import EventRelay.Json.Printer
import EventRelay.Json.Reader

namespace EventRelay
namespace Json

/-! ### Strings -/

namespace Scan

/-- A control character is read from its four hexadecimal digits. -/
theorem hexEscape_control {n : Nat} (h : n < 0x20) (rest : List Char) :
    hexEscape (Text.hexFixed 4 n ++ rest) = .ok (n, rest) := by
  have hlength : (Text.hexFixed 4 n).length = 4 := Text.length_hexFixed 4 n
  have hbytes : byteCount (Text.hexFixed 4 n) = 4 := by
    have hall : ∀ m : Fin 0x20, byteCount (Text.hexFixed 4 m.val) = 4 := by decide
    exact hall ⟨n, h⟩
  have hnumber : Text.hexNumber? (Text.hexFixed 4 n) = some n :=
    Text.hexNumber?_hexFixed (by decide) (Nat.lt_of_lt_of_le h (by decide))
  rw [hexEscape, List.take_left' hlength, List.drop_left' hlength, hbytes, hnumber]
  rfl

/-- How a character is written: by a short escape, by its digits, or as it is. -/
theorem escapeChar_cases (c : Char) :
    (∃ e, e ≠ 'u' ∧ shortEscape? e = some c ∧ escapeChar c = ['\\', e]) ∨
      (c.toNat < 0x20 ∧ escapeChar c = '\\' :: 'u' :: Text.hexFixed 4 c.toNat) ∨
      (c ≠ '"' ∧ c ≠ '\\' ∧ ¬ c.toNat < 0x20 ∧ escapeChar c = [c]) := by
  by_cases hshort : c ∈ ['"', '\\', '\x08', '\x0c', '\n', '\r', '\t']
  · simp only [List.mem_cons, List.not_mem_nil, or_false] at hshort
    rcases hshort with rfl | rfl | rfl | rfl | rfl | rfl | rfl <;>
      exact .inl ⟨_, by decide, by decide, rfl⟩
  · simp only [List.mem_cons, List.not_mem_nil, or_false, not_or] at hshort
    obtain ⟨h₁, h₂, h₃, h₄, h₅, h₆, h₇⟩ := hshort
    by_cases hcontrol : c.toNat < 0x20
    · exact .inr (.inl ⟨hcontrol, by simp [escapeChar, h₁, h₂, h₃, h₄, h₅, h₆, h₇, hcontrol]⟩)
    · exact .inr (.inr ⟨h₁, h₂, hcontrol,
        by simp [escapeChar, h₁, h₂, h₃, h₄, h₅, h₆, h₇, hcontrol]⟩)

/-- **A character is read as it was written**, whether it was escaped or not. -/
theorem string_escapeChar (fuel : Nat) (read : List Char) (c : Char) (rest : List Char) :
    string (fuel + 1) ⟨read, none, none⟩ (escapeChar c ++ rest) =
      string fuel ⟨c :: read, none, none⟩ rest := by
  rcases escapeChar_cases c with ⟨e, he, hc, heq⟩ | ⟨hcontrol, heq⟩ | ⟨hquote, hslash, hplain, heq⟩
  · rw [heq, List.cons_append, List.cons_append, string.eq_def]
    simp [he, hc, Progress.push]
  · have hlead : ¬ (0xD800 ≤ c.toNat ∧ c.toNat ≤ 0xDBFF) := by omega
    have htail : ¬ (0xDC00 ≤ c.toNat ∧ c.toNat ≤ 0xDFFF) := by omega
    rw [heq, List.cons_append, List.cons_append, string.eq_def]
    simp [hexEscape_control hcontrol, Progress.unit, hlead, htail, bind, Except.bind]
  · rw [heq, List.singleton_append, string.eq_def]
    simp [hquote, hslash, hplain, Progress.push]

/-- **A string is read as it was written.** -/
theorem string_escaped {fuel : Nat} {cs : List Char} (h : cs.length < fuel) (read rest : List Char) :
    string fuel ⟨read, none, none⟩ (cs.flatMap escapeChar ++ '"' :: rest) =
      .ok (.ok (String.ofList (read.reverse ++ cs)), rest) := by
  induction cs generalizing fuel read with
  | nil =>
    obtain ⟨fuel, rfl⟩ : ∃ f, fuel = f + 1 := ⟨fuel - 1, by simp at h; omega⟩
    simp [string]
  | cons c cs ih =>
    obtain ⟨fuel, rfl⟩ : ∃ f, fuel = f + 1 := ⟨fuel - 1, by simp at h; omega⟩
    rw [List.flatMap_cons, List.append_assoc, string_escapeChar, ih (by simpa using h)]
    simp

theorem length_le_flatMap_escapeChar (cs : List Char) :
    cs.length ≤ (cs.flatMap escapeChar).length := by
  induction cs with
  | nil => exact Nat.le_refl _
  | cons c cs ih =>
    have hpos : 1 ≤ (escapeChar c).length := by
      rcases escapeChar_cases c with ⟨e, -, -, heq⟩ | ⟨-, heq⟩ | ⟨-, -, -, heq⟩ <;> rw [heq] <;> simp
    rw [List.flatMap_cons, List.length_append, List.length_cons]
    omega

/-- **What stands between quotes is read back.** -/
theorem stringBody_escaped (s : String) (rest : List Char) :
    stringBody (s.toList.flatMap escapeChar ++ '"' :: rest) = .ok (.ok s, rest) := by
  have hlength := length_le_flatMap_escapeChar s.toList
  have hfuel : s.toList.length < (s.toList.flatMap escapeChar ++ '"' :: rest).length + 1 := by
    rw [List.length_append]
    omega
  rw [stringBody, string_escaped hfuel]
  simp

end Scan

/-! ### What a text is read as -/

/-- Whether a value can end where a text goes on like this. -/
def Ends : List Char → Prop
  | [] => True
  | c :: _ => c = ',' ∨ c = ']' ∨ c = '\x7d'

/-- A number whose text is read as that number. -/
def Number.Legible (n : Number) : Prop :=
  (∃ c cs, n.text.toList = c :: cs ∧ (c = '-' ∨ c.isDigit = true)) ∧
    ∀ rest, Ends rest → Scan.number (n.text.toList ++ rest) = .ok (.ok n, rest)

namespace Value

mutual

/-- A value whose numbers are all read as they are written. -/
def Legible : Value → Prop
  | .number n => n.Legible
  | .array items => ItemsLegible items
  | .object fields => FieldsLegible fields
  | _ => True

/-- Items whose numbers are all read as they are written. -/
def ItemsLegible : List Value → Prop
  | [] => True
  | v :: rest => Legible v ∧ ItemsLegible rest

/-- Fields whose numbers are all read as they are written. -/
def FieldsLegible : List (String × Value) → Prop
  | [] => True
  | (_, v) :: rest => Legible v ∧ FieldsLegible rest

end

end Value

namespace Raw

mutual

/-- A raw text without fault that tells a value, wherever its containers begin. -/
def StandsFor : Value → Raw → Prop
  | .null, .null => True
  | .bool b, .bool c => c = b
  | .number n, .number m => m = .ok n
  | .string s, .string t => t = .ok s
  | .array items, .array _ raws => ItemsStandFor items raws
  | .object fields, .object _ members => MembersStandFor fields members
  | _, _ => False

/-- Raw items that tell the items of a list. -/
def ItemsStandFor : List Value → List Raw → Prop
  | [], [] => True
  | v :: items, raw :: raws => StandsFor v raw ∧ ItemsStandFor items raws
  | _, _ => False

/-- Raw members that tell the fields of an object. -/
def MembersStandFor : List (String × Value) → List (RawKey × Raw) → Prop
  | [], [] => True
  | (k, v) :: fields, (key, raw) :: members =>
    key = .ok k ∧ StandsFor v raw ∧ MembersStandFor fields members
  | _, _ => False

end

@[simp] theorem standsFor_null {raw : Raw} : StandsFor .null raw ↔ raw = .null := by
  cases raw <;> simp [StandsFor]

@[simp] theorem standsFor_bool {b : Bool} {raw : Raw} : StandsFor (.bool b) raw ↔ raw = .bool b := by
  cases raw <;> simp [StandsFor]

@[simp] theorem standsFor_number {n : Number} {raw : Raw} :
    StandsFor (.number n) raw ↔ raw = .number (.ok n) := by
  cases raw <;> simp [StandsFor]

@[simp] theorem standsFor_string {s : String} {raw : Raw} :
    StandsFor (.string s) raw ↔ raw = .string (.ok s) := by
  cases raw <;> simp [StandsFor]

theorem standsFor_array {items : List Value} {raw : Raw} :
    StandsFor (.array items) raw ↔ ∃ left raws, raw = .array left raws ∧ ItemsStandFor items raws := by
  cases raw <;> simp [StandsFor, and_assoc]

@[simp] theorem itemsStandFor_nil {raws : List Raw} : ItemsStandFor [] raws ↔ raws = [] := by
  cases raws <;> simp [ItemsStandFor]

theorem itemsStandFor_cons {v : Value} {items : List Value} {raws : List Raw} :
    ItemsStandFor (v :: items) raws ↔
      ∃ raw rest, raws = raw :: rest ∧ StandsFor v raw ∧ ItemsStandFor items rest := by
  cases raws <;> simp [ItemsStandFor, and_assoc]

theorem standsFor_object {fields : List (String × Value)} {raw : Raw} :
    StandsFor (.object fields) raw ↔
      ∃ left members, raw = .object left members ∧ MembersStandFor fields members := by
  cases raw <;> simp [StandsFor, and_assoc]

@[simp] theorem membersStandFor_nil {members : List (RawKey × Raw)} :
    MembersStandFor [] members ↔ members = [] := by
  cases members <;> simp [MembersStandFor]

theorem membersStandFor_cons {k : String} {v : Value} {fields : List (String × Value)}
    {members : List (RawKey × Raw)} :
    MembersStandFor ((k, v) :: fields) members ↔
      ∃ raw rest, members = (.ok k, raw) :: rest ∧ StandsFor v raw ∧ MembersStandFor fields rest := by
  rcases members with _ | ⟨⟨key, raw⟩, rest⟩
  · simp [MembersStandFor]
  · simp only [MembersStandFor, List.cons.injEq, Prod.mk.injEq]
    constructor
    · rintro ⟨hkey, hraw, hrest⟩
      exact ⟨raw, rest, ⟨⟨hkey, rfl⟩, rfl⟩, hraw, hrest⟩
    · rintro ⟨raw', rest', ⟨⟨hkey, rfl⟩, rfl⟩, hraw, hrest⟩
      exact ⟨hkey, hraw, hrest⟩

end Raw

/-! ### Values -/

namespace Value

/-- The items behind the first one, each with the comma before it. -/
def itemsTail (items : List Value) : List Char := items.flatMap fun v => ',' :: v.text.toList

/-- A field as it is written, from behind the opening quote of its key. -/
def memberText (k : String) (v : Value) : List Char :=
  k.toList.flatMap escapeChar ++ '"' :: ':' :: v.text.toList

/-- The fields behind the first one, each with the comma before it. -/
def fieldsTail (fields : List (String × Value)) : List Char :=
  fields.flatMap fun f => ',' :: '"' :: memberText f.1 f.2

theorem toList_quote (s : String) : (quote s).toList = '"' :: (s.toList.flatMap escapeChar ++ ['"']) := by
  simp [quote]

theorem toList_itemsText (v : Value) (items : List Value) :
    (itemsText (v :: items)).toList = v.text.toList ++ itemsTail items := by
  induction items generalizing v with
  | nil => simp [itemsText, itemsTail]
  | cons w items ih => simp [itemsText, ih, itemsTail]

theorem length_text_le_memberText (k : String) (v : Value) :
    v.text.toList.length + 2 ≤ (memberText k v).length := by
  simp only [memberText, List.length_append, List.length_cons]
  omega

theorem toList_fieldsText (k : String) (v : Value) (fields : List (String × Value)) :
    (fieldsText ((k, v) :: fields)).toList = '"' :: memberText k v ++ fieldsTail fields := by
  induction fields generalizing k v with
  | nil => simp [fieldsText, fieldsTail, memberText, toList_quote]
  | cons f fields ih => simp [fieldsText, ih, fieldsTail, memberText, toList_quote]

end Value

theorem skipSpace_cons {c : Char} (h : isSpace c = false) (cs : List Char) :
    skipSpace (c :: cs) = c :: cs := by
  simp [skipSpace, h]

/-- The first character of a number is none that another value begins with, and no blank. -/
theorem number_head {c : Char} (h : c = '-' ∨ c.isDigit = true) :
    isSpace c = false ∧ c ≠ ']' ∧ c ≠ 'n' ∧ c ≠ 't' ∧ c ≠ 'f' := by
  rcases h with rfl | h
  · decide
  · have hspace : isSpace c = false := by
      simp only [isSpace, Bool.or_eq_false_iff, beq_eq_false_iff_ne]
      refine ⟨⟨⟨?_, ?_⟩, ?_⟩, ?_⟩ <;> rintro rfl <;> exact absurd h (by decide)
    refine ⟨hspace, ?_, ?_, ?_, ?_⟩ <;> rintro rfl <;> exact absurd h (by decide)

theorem Ends.itemsTail (items : List Value) (rest : List Char) :
    Ends (Value.itemsTail items ++ ']' :: rest) := by
  cases items <;> simp [Value.itemsTail, Ends]

theorem Ends.fieldsTail (fields : List (String × Value)) (rest : List Char) :
    Ends (Value.fieldsTail fields ++ '\x7d' :: rest) := by
  cases fields <;> simp [Value.fieldsTail, Ends]

namespace Value

/-- **The text of a value has a first character**, which is no blank and closes nothing. -/
theorem text_head {v : Value} (hv : v.Legible) :
    ∃ c cs, v.text.toList = c :: cs ∧ isSpace c = false ∧ c ≠ ']' := by
  cases v with
  | null => exact ⟨'n', _, rfl, by decide, by decide⟩
  | bool b => cases b <;> exact ⟨_, _, rfl, by decide, by decide⟩
  | number n =>
    rw [Legible] at hv
    obtain ⟨⟨c, cs, htext, hc⟩, -⟩ := hv
    exact ⟨c, cs, by rw [text, htext], (number_head hc).1, (number_head hc).2.1⟩
  | string s => exact ⟨'"', _, by rw [text, toList_quote], by decide, by decide⟩
  | array items => exact ⟨'[', _, by rw [text]; simp; rfl, by decide, by decide⟩
  | object fields => exact ⟨'\x7b', _, by rw [text]; simp; rfl, by decide, by decide⟩

end Value

/-- Values by what they are made of. -/
theorem Value.byParts {P : Value → Prop} (null : P .null) (bool : ∀ b, P (.bool b))
    (number : ∀ n, P (.number n)) (string : ∀ s, P (.string s))
    (array : ∀ items, (∀ v ∈ items, P v) → P (.array items))
    (object : ∀ fields, (∀ f ∈ fields, P f.2) → P (.object fields)) : ∀ v, P v
  | .null => null
  | .bool b => bool b
  | .number n => number n
  | .string s => string s
  | .array items => array items fun v _ => byParts null bool number string array object v
  | .object fields => object fields fun f _ => byParts null bool number string array object f.2
termination_by v => sizeOf v
decreasing_by
  · have hlt := List.sizeOf_lt_of_mem ‹v ∈ items›
    simp only [Value.array.sizeOf_spec]
    omega
  · have hlt := List.sizeOf_lt_of_mem ‹f ∈ fields›
    obtain ⟨k, w⟩ := f
    simp only [Value.object.sizeOf_spec, Prod.mk.sizeOf_spec] at hlt ⊢
    omega

namespace Raw

/-- A value whose text is read as that value, whatever follows it. -/
def ReadBack (v : Value) : Prop :=
  ∀ (fuel : Nat) (rest : List Char), 2 * v.text.toList.length ≤ fuel → Ends rest →
    ∃ raw, readValue fuel (v.text.toList ++ rest) = (raw, some rest) ∧ StandsFor v raw

/-- The items of a list are read as they were written, from the first one on. -/
theorem readItem_text {v : Value} {items : List Value} (hv : v.Legible)
    (hitems : Value.ItemsLegible items) (hread : ∀ w ∈ v :: items, w.Legible → ReadBack w)
    (fuel : Nat) (hfuel : 2 * (v.text.toList.length + (Value.itemsTail items).length) + 1 ≤ fuel)
    (rest : List Char) :
    ∃ raws, readItem fuel (v.text.toList ++ (Value.itemsTail items ++ ']' :: rest)) =
        (raws, some rest) ∧ ItemsStandFor (v :: items) raws := by
  induction items generalizing v fuel with
  | nil =>
    obtain ⟨fuel, rfl⟩ : ∃ f, fuel = f + 1 := ⟨fuel - 1, by omega⟩
    obtain ⟨c, cs, hhead, -⟩ := Value.text_head hv
    obtain ⟨raw, hraw, hstand⟩ := hread v (List.mem_cons_self ..) hv fuel _ (by omega)
      (Ends.itemsTail [] rest)
    rw [hhead, List.length_cons] at hfuel
    obtain ⟨fuel, rfl⟩ : ∃ f, fuel = f + 1 := ⟨fuel - 1, by omega⟩
    rw [readItem, hraw]
    exact ⟨[raw], by simp [Value.itemsTail, readItems, skipSpace, isSpace], by
      simp [ItemsStandFor, hstand]⟩
  | cons w items ih =>
    obtain ⟨fuel, rfl⟩ : ∃ f, fuel = f + 1 := ⟨fuel - 1, by omega⟩
    obtain ⟨raw, hraw, hstand⟩ := hread v (List.mem_cons_self ..) hv fuel _ (by omega)
      (Ends.itemsTail (w :: items) rest)
    simp only [Value.ItemsLegible] at hitems
    simp only [Value.itemsTail, List.flatMap_cons, List.length_append, List.length_cons] at hfuel
    obtain ⟨fuel, rfl⟩ : ∃ f, fuel = f + 1 := ⟨fuel - 1, by omega⟩
    obtain ⟨raws, hraws, hrest⟩ := ih hitems.1 hitems.2
      (fun u hu => hread u (List.mem_cons_of_mem _ hu)) fuel (by simp only [Value.itemsTail]; omega)
    obtain ⟨d, ds, hhead, hspace, hbracket⟩ := Value.text_head hitems.1
    refine ⟨raw :: raws, ?_, by simp only [ItemsStandFor]; exact ⟨hstand, hrest⟩⟩
    rw [readItem, hraw]
    simp only [Value.itemsTail, List.flatMap_cons, List.append_assoc, List.cons_append, hhead]
      at hraws ⊢
    rw [readItems, skipSpace_cons (by decide)]
    simp [skipSpace_cons hspace, hbracket, hraws]

/-- The key of a field is read as it was written. -/
theorem stringBody_memberText (k : String) (v : Value) (rest : List Char) :
    Scan.stringBody (Value.memberText k v ++ rest) = .ok (.ok k, ':' :: (v.text.toList ++ rest)) := by
  rw [Value.memberText, List.append_assoc, List.cons_append, List.cons_append,
    Scan.stringBody_escaped]

/-- The fields of an object are read as they were written, from the first one on. -/
theorem readMember_text {k : String} {v : Value} {fields : List (String × Value)} (hv : v.Legible)
    (hfields : Value.FieldsLegible fields)
    (hread : ∀ f ∈ (k, v) :: fields, f.2.Legible → ReadBack f.2) (fuel : Nat)
    (hfuel : 2 * ((Value.memberText k v).length + (Value.fieldsTail fields).length) + 1 ≤ fuel)
    (rest : List Char) :
    ∃ members, readMember fuel (Value.memberText k v ++ (Value.fieldsTail fields ++ '\x7d' :: rest)) =
        (members, some rest) ∧ MembersStandFor ((k, v) :: fields) members := by
  have hshort := Value.length_text_le_memberText k v
  induction fields generalizing k v fuel with
  | nil =>
    obtain ⟨fuel, rfl⟩ : ∃ f, fuel = f + 1 := ⟨fuel - 1, by omega⟩
    have hback : ReadBack v := hread (k, v) (List.mem_cons_self ..) hv
    obtain ⟨raw, hraw, hstand⟩ := hback fuel _ (by omega) (Ends.fieldsTail [] rest)
    obtain ⟨fuel, rfl⟩ : ∃ f, fuel = f + 1 := ⟨fuel - 1, by omega⟩
    rw [readMember, stringBody_memberText]
    refine ⟨[(.ok k, raw)], ?_, by simp [MembersStandFor, hstand]⟩
    simp only [skipSpace_cons (c := ':') (by decide), if_true, hraw]
    simp [Value.fieldsTail, readMembers, skipSpace, isSpace]
  | cons f fields ih =>
    obtain ⟨l, w⟩ := f
    obtain ⟨fuel, rfl⟩ : ∃ f, fuel = f + 1 := ⟨fuel - 1, by omega⟩
    have hback : ReadBack v := hread (k, v) (List.mem_cons_self ..) hv
    obtain ⟨raw, hraw, hstand⟩ := hback fuel _ (by omega)
      (Ends.fieldsTail ((l, w) :: fields) rest)
    simp only [Value.FieldsLegible] at hfields
    simp only [Value.fieldsTail, List.flatMap_cons, List.length_append, List.length_cons] at hfuel
    obtain ⟨fuel, rfl⟩ : ∃ f, fuel = f + 1 := ⟨fuel - 1, by omega⟩
    obtain ⟨members, hmembers, hrest⟩ := ih hfields.1 hfields.2
      (fun g hg => hread g (List.mem_cons_of_mem _ hg)) fuel
      (by simp only [Value.fieldsTail]; omega) (Value.length_text_le_memberText l w)
    rw [readMember, stringBody_memberText]
    refine ⟨(.ok k, raw) :: members, ?_, by
      simp only [MembersStandFor]; exact ⟨trivial, hstand, hrest⟩⟩
    simp only [skipSpace_cons (c := ':') (by decide), if_true, hraw]
    simp only [Value.fieldsTail, List.flatMap_cons, List.append_assoc, List.cons_append]
      at hmembers ⊢
    rw [readMembers, skipSpace_cons (by decide)]
    simp [skipSpace_cons, isSpace, hmembers]

theorem readBack_number {n : Number} (hn : n.Legible) : ReadBack (.number n) := by
  intro fuel rest hfuel hrest
  obtain ⟨⟨c, cs, htext, hc⟩, hread⟩ := hn
  obtain ⟨hspace, -, hn, ht, hf⟩ := number_head hc
  have hnumber := hread rest hrest
  rw [htext, List.cons_append] at hnumber
  rw [Value.text, htext, List.length_cons] at hfuel
  obtain ⟨fuel, rfl⟩ : ∃ f, fuel = f + 1 := ⟨fuel - 1, by omega⟩
  refine ⟨.number (.ok n), ?_, by simp⟩
  rw [Value.text, htext, List.cons_append, readValue, skipSpace_cons hspace]
  simp only [hn, ht, hf, if_false, hnumber]
  simp [hc]

theorem readBack_string (s : String) : ReadBack (.string s) := by
  intro fuel rest hfuel hrest
  rw [Value.text, Value.toList_quote, List.length_cons] at hfuel
  obtain ⟨fuel, rfl⟩ : ∃ f, fuel = f + 1 := ⟨fuel - 1, by omega⟩
  refine ⟨.string (.ok s), ?_, by simp⟩
  rw [Value.text, Value.toList_quote, List.cons_append, readValue, skipSpace_cons (by decide),
    List.append_assoc, List.singleton_append]
  simp [Scan.stringBody_escaped]

theorem readBack_array {items : List Value} (hitems : Value.ItemsLegible items)
    (hread : ∀ v ∈ items, v.Legible → ReadBack v) : ReadBack (.array items) := by
  intro fuel rest hfuel hrest
  cases items with
  | nil =>
    obtain ⟨fuel, rfl⟩ : ∃ f, fuel = f + 2 := by
      simp [Value.text, Value.itemsText] at hfuel
      exact ⟨fuel - 2, by omega⟩
    refine ⟨.array (byteCount ('[' :: ']' :: rest) - 1) [], ?_, by simp [StandsFor, ItemsStandFor]⟩
    simp [Value.text, Value.itemsText, readValue, readItems, skipSpace, isSpace]
  | cons v items =>
    have htext : (Value.array (v :: items)).text.toList =
        '[' :: (v.text.toList ++ (Value.itemsTail items ++ [']'])) := by
      simp [Value.text, Value.toList_itemsText]
    simp only [htext, List.length_cons, List.length_append, List.length_nil] at hfuel
    simp only [Value.ItemsLegible] at hitems
    obtain ⟨fuel, rfl⟩ : ∃ f, fuel = f + 2 := ⟨fuel - 2, by omega⟩
    obtain ⟨c, cs, hhead, hspace, hbracket⟩ := Value.text_head hitems.1
    obtain ⟨raws, hraws, hstand⟩ := readItem_text hitems.1 hitems.2 hread fuel (by omega) rest
    refine ⟨.array (byteCount ((Value.array (v :: items)).text.toList ++ rest) - 1) raws, ?_,
      by simpa [StandsFor] using hstand⟩
    rw [htext]
    simp only [List.cons_append, List.append_assoc, List.nil_append, hhead] at hraws ⊢
    rw [readValue, skipSpace_cons (by decide)]
    simp [readItems, skipSpace_cons hspace, hbracket, hraws]

theorem readBack_object {fields : List (String × Value)} (hfields : Value.FieldsLegible fields)
    (hread : ∀ f ∈ fields, f.2.Legible → ReadBack f.2) : ReadBack (.object fields) := by
  intro fuel rest hfuel hrest
  rcases fields with _ | ⟨⟨k, v⟩, fields⟩
  · obtain ⟨fuel, rfl⟩ : ∃ f, fuel = f + 2 := by
      simp [Value.text, Value.fieldsText] at hfuel
      exact ⟨fuel - 2, by omega⟩
    refine ⟨.object (byteCount ('\x7b' :: '\x7d' :: rest) - 1) [], ?_, by simp [StandsFor]⟩
    simp [Value.text, Value.fieldsText, readValue, readMembers, skipSpace, isSpace]
  · have htext : (Value.object ((k, v) :: fields)).text.toList =
        '\x7b' :: '"' :: (Value.memberText k v ++ (Value.fieldsTail fields ++ ['\x7d'])) := by
      simp [Value.text, Value.toList_fieldsText]
    simp only [htext, List.length_cons, List.length_append, List.length_nil] at hfuel
    simp only [Value.FieldsLegible] at hfields
    obtain ⟨fuel, rfl⟩ : ∃ f, fuel = f + 2 := ⟨fuel - 2, by omega⟩
    obtain ⟨members, hmembers, hstand⟩ :=
      readMember_text hfields.1 hfields.2 hread fuel (by omega) rest
    refine ⟨.object (byteCount ((Value.object ((k, v) :: fields)).text.toList ++ rest) - 1) members,
      ?_, by simpa [StandsFor] using hstand⟩
    rw [htext]
    simp only [List.cons_append, List.append_assoc, List.nil_append]
    rw [readValue, skipSpace_cons (by decide)]
    simp [readMembers, skipSpace_cons, isSpace, hmembers]

/-- **The text of a value is read as that value**, whatever follows it. -/
theorem readBack {v : Value} (hv : v.Legible) : ReadBack v := by
  induction v using Value.byParts with
  | null =>
    intro fuel rest hfuel _
    obtain ⟨fuel, rfl⟩ : ∃ f, fuel = f + 1 := ⟨fuel - 1, by simp [Value.text] at hfuel; omega⟩
    exact ⟨.null, by simp [Value.text, readValue, skipSpace, isSpace, Scan.word], by simp⟩
  | bool b =>
    intro fuel rest hfuel _
    obtain ⟨fuel, rfl⟩ : ∃ f, fuel = f + 1 :=
      ⟨fuel - 1, by cases b <;> simp [Value.text] at hfuel <;> omega⟩
    refine ⟨.bool b, ?_, by simp⟩
    cases b <;> simp [Value.text, readValue, skipSpace, isSpace, Scan.word]
  | number n => exact readBack_number (by simpa only [Value.Legible] using hv)
  | string s => exact readBack_string s
  | array items ih => exact readBack_array (by simpa only [Value.Legible] using hv) ih
  | object fields ih => exact readBack_object (by simpa only [Value.Legible] using hv) ih

/-- **A whole text is read as the value it was written for**, and nothing of it is left. -/
theorem read_text {v : Value} (hv : v.Legible) :
    ∃ raw, read v.text.toList = (raw, some []) ∧ StandsFor v raw := by
  have hread := readBack hv (4 * v.text.toList.length + 4) [] (by omega) trivial
  rwa [List.append_nil] at hread

end Raw

end Json
end EventRelay

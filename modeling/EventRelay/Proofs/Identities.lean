/-
# Identities read back

The text of an identity is read as that identity (`Uuid.parse?_text`, `SessionId.parse_text`).
Reading is wider than writing, so what is shown is that a text that was written is in none of the
other forms.
-/

import EventRelay.Identity
import Mathlib.Data.List.TakeWhile

namespace EventRelay

/-! ### Digits -/

namespace Text

/-- **A number in fixed width is made of digits**: what holds of all of them holds of its
characters. -/
theorem forall_hexFixed {P : Char → Prop} (h : ∀ d : Fin 16, P (hexDigit d.val)) (width n : Nat) :
    ∀ c ∈ hexFixed width n, P c := by
  induction width generalizing n with
  | zero => simp [hexFixed]
  | succ width ih =>
    intro c hc
    rw [hexFixed, List.mem_append, List.mem_singleton] at hc
    rcases hc with hc | rfl
    · exact ih (n / 16) c hc
    · exact h ⟨n % 16, Nat.mod_lt _ (by decide)⟩

theorem trimChars_eq_self {cs : List Char} (h : ∀ c ∈ cs, isBlank c = false) : trimChars cs = cs := by
  have hfront : ∀ ds : List Char, (∀ c ∈ ds, isBlank c = false) → ds.dropWhile isBlank = ds :=
    fun ds hds => List.dropWhile_eq_self_iff.2 fun hl => by simp [hds _ (List.getElem_mem hl)]
  rw [trimChars, hfront cs h, dropTail,
    hfront cs.reverse fun c hc => h c (List.mem_reverse.1 hc), List.reverse_reverse]

end Text

/-! ### UUIDs -/

namespace Uuid

/-- Digits that are grouped are found again once the hyphens are gone. -/
theorem filter_group {ds : List Char} (h : ∀ c ∈ ds, c ≠ '-') :
    (group ds).filter (fun c => decide (c ≠ '-')) = ds := by
  have hkept : ∀ l : List Char, (∀ c ∈ l, c ∈ ds) → l.filter (fun c => decide (c ≠ '-')) = l :=
    fun l hl => List.filter_eq_self.2 fun c hc => decide_eq_true (h c (hl c hc))
  have htail : ∀ n, ds.drop n = (ds.drop n).take 4 ++ ds.drop (n + 4) := by
    intro n
    rw [← List.drop_drop, List.take_append_drop]
  have hparts : ds = ds.take 8 ++ ((ds.drop 8).take 4 ++ ((ds.drop 12).take 4 ++
      ((ds.drop 16).take 4 ++ ds.drop 20))) := by
    rw [← htail 16, ← htail 12, ← htail 8, List.take_append_drop]
  have hhyphen : decide ('-' ≠ '-') = false := rfl
  simp only [group, List.filter_append, List.filter_cons, hhyphen]
  rw [hkept _ fun c hc => List.mem_of_mem_take hc,
    hkept _ fun c hc => List.mem_of_mem_drop (List.mem_of_mem_take hc),
    hkept _ fun c hc => List.mem_of_mem_drop (List.mem_of_mem_take hc),
    hkept _ fun c hc => List.mem_of_mem_drop (List.mem_of_mem_take hc),
    hkept _ fun c hc => List.mem_of_mem_drop hc]
  simpa using hparts.symm

/-- The characters of a UUID are digits and hyphens. -/
theorem forall_text {P : Char → Prop} (h : ∀ d : Fin 16, P (Text.hexDigit d.val)) (hhyphen : P '-')
    (u : Uuid) : ∀ c ∈ u.text.toList, P c := by
  have hdigits : ∀ c ∈ u.digits, P c := Text.forall_hexFixed h 32 u.val
  intro c hc
  by_cases hc' : c = '-'
  · exact hc' ▸ hhyphen
  · rw [text, String.toList_ofList] at hc
    simp only [group, List.mem_append, List.mem_cons, hc', false_or] at hc
    refine hdigits c ?_
    rcases hc with (((hc | hc) | hc) | hc) | hc
    · exact List.mem_of_mem_take hc
    · exact List.mem_of_mem_drop (List.mem_of_mem_take hc)
    · exact List.mem_of_mem_drop (List.mem_of_mem_take hc)
    · exact List.mem_of_mem_drop (List.mem_of_mem_take hc)
    · exact List.mem_of_mem_drop hc

/-- **A UUID is read from its text.** -/
theorem parse?_text (u : Uuid) : parse? u.text = some u := by
  have hdigits : ∀ c ∈ u.digits, c ≠ '-' ∧ c ≠ '\x7b' ∧ c.toLower ≠ 'u' :=
    Text.forall_hexFixed (by decide) 32 u.val
  have hread : ofDigits? u.digits = some u := by
    have hnumber : Text.hexNumber? u.digits = some u.val :=
      Text.hexNumber?_hexFixed (by decide) u.lt
    rw [ofDigits?, hnumber]
    exact dif_pos u.lt
  have hhyphenated : ofHyphenated? (group u.digits) = some u := by
    have hfilter := filter_group fun c hc => (hdigits c hc).1
    simp only [ofHyphenated?]
    rw [hfilter, if_pos ⟨length_digits u, rfl⟩, hread]
  obtain ⟨d, ds, hfront⟩ : ∃ d ds, u.digits = d :: ds := by
    cases hcases : u.digits with
    | nil => exact absurd (hcases ▸ length_digits u) (by decide)
    | cons d ds => exact ⟨d, ds, rfl⟩
  obtain ⟨tail, hgroup⟩ : ∃ tail, group u.digits = d :: tail := ⟨_, by rw [hfront]; rfl⟩
  obtain ⟨-, hbrace, hurn⟩ := hdigits d (hfront ▸ List.mem_cons_self ..)
  have hbare : unwrap? (group u.digits) = none := by
    rw [hgroup]
    simp [unwrap?, hbrace, urnMark, hurn]
  have hlength : (group u.digits).length ≠ 32 := by
    simp [group]
  rw [parse?, text, String.toList_ofList]
  simp only [hbare, if_neg hlength, hhyphenated]

end Uuid

/-! ### Session ids -/

/-- An epoch is read from its text. -/
theorem Epoch.parse?_text (e : Epoch) : Epoch.parse? e.text = some e := by
  have hdigits : ∀ c ∈ Text.hexFixed 8 e.val, c ≠ '+' := Text.forall_hexFixed (by decide) 8 e.val
  have hunsigned : (Text.hexFixed 8 e.val).head? ≠ some '+' := fun hplus =>
    hdigits '+' (List.mem_of_mem_head? hplus) rfl
  have hnumber : Text.hexNumber? (Text.hexFixed 8 e.val) = some e.val :=
    Text.hexNumber?_hexFixed (by decide) e.lt
  rw [parse?, text, String.toList_ofList]
  simp only [if_neg hunsigned, hnumber]
  exact dif_pos e.lt

namespace SessionId

theorem forall_text {P : Char → Prop} (h : ∀ d : Fin 16, P (Text.hexDigit d.val)) (hhyphen : P '-')
    (hpoint : P '.') (id : SessionId) : ∀ c ∈ id.text.toList, P c := by
  intro c hc
  simp only [text, Epoch.text, SourceId.text, String.toList_append, String.toList_ofList,
    List.mem_append] at hc
  rcases hc with (hc | hc) | hc
  · exact Text.forall_hexFixed h 8 id.epoch.val c hc
  · rw [List.mem_singleton.1 hc]
    exact hpoint
  · exact Uuid.forall_text h hhyphen id.source.uuid c hc

/-- **A session id is read from its text.** -/
theorem parse_text (id : SessionId) : parse id.text = .ok id := by
  have htrim : Text.trimChars id.text.toList = id.text.toList :=
    Text.trimChars_eq_self (forall_text (by decide) (by decide) (by decide) id)
  have hepoch : ∀ c ∈ id.epoch.text.toList, decide (c ≠ '.') = true := by
    rw [Epoch.text, String.toList_ofList]
    exact Text.forall_hexFixed (by decide) 8 id.epoch.val
  have hsplit : splitAtPoint? id.text.toList = some (id.epoch.text.toList, id.source.text.toList) := by
    have htext : id.text.toList = id.epoch.text.toList ++ '.' :: id.source.text.toList := by
      simp [text]
    rw [htext, splitAtPoint?, List.dropWhile_append_of_pos hepoch,
      List.takeWhile_append_of_pos hepoch]
    simp
  rw [parse, htrim, hsplit]
  simp only [SourceId.text, String.ofList_toList, Uuid.parse?_text, Epoch.parse, Epoch.parse?_text]
  rfl

end SessionId
end EventRelay

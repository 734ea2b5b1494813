/-
# How identities are spelled

Many texts are read as one session id.  The grammar, `SessionId.Spelled`, says which:

| part | spellings |
| --- | --- |
| session id | blanks, an epoch, a point, a source and blanks |
| epoch | a plus sign or none, and digits of either case, as many as there are |
| source | 32 digits; or five groups with hyphens between them, bare, in braces, or a urn |

`SessionId.readsAsSpelled` says that a text is read as an id exactly if it spells the two numbers of
that id, so that texts stand for one id exactly if they spell the same numbers; and that the one
text an id is written as is such a text, wherever it is read.
-/

import EventRelay.Http.Api
import EventRelay.Proofs.Blanks
import EventRelay.Proofs.Identities
import EventRelay.Proofs.Messages
import Mathlib.Data.List.Forall2
import Mathlib.Data.List.Induction
import Mathlib.Data.Nat.Digits.Defs

namespace EventRelay

/-! ### Digits -/

namespace Text

/-- A digit of either case and its value. -/
def IsDigit (c : Char) (d : Nat) : Prop := d < 16 ∧ (c = hexDigit d ∨ c = hexDigitUpper d)

/-- Digits of either case and the number that they stand for; their values are told from the last
digit on. -/
def Numeral (ds : List Char) (n : Nat) : Prop :=
  ∃ vs, List.Forall₂ IsDigit ds.reverse vs ∧ n = Nat.ofDigits 16 vs

variable {c : Char} {cs ds : List Char} {d n : Nat}

/-- What holds of the digits of both cases holds of every digit. -/
theorem IsDigit.forall {P : Char → Prop}
    (h : ∀ d : Fin 16, P (hexDigit d.val) ∧ P (hexDigitUpper d.val)) (hc : IsDigit c d) : P c := by
  obtain ⟨hd, rfl | rfl⟩ := hc
  · exact (h ⟨d, hd⟩).1
  · exact (h ⟨d, hd⟩).2

theorem hexValue?_iff : hexValue? c = some d ↔ IsDigit c d := by
  constructor
  · intro h
    refine ⟨hexValue?_lt h, ?_⟩
    unfold hexValue? at h
    simp only [Bool.and_eq_true, decide_eq_true_eq] at h
    split at h
    · cases h
      refine .inl ?_
      rw [hexDigit, if_pos (by omega), show 48 + (c.toNat - 48) = c.toNat by omega,
        Char.ofNat_toNat]
    · split at h
      · cases h
        refine .inl ?_
        rw [hexDigit, if_neg (by omega), show 87 + (c.toNat - 87) = c.toNat by omega,
          Char.ofNat_toNat]
      · split at h <;> cases h
        refine .inr ?_
        rw [hexDigitUpper, if_neg (by omega), show 55 + (c.toNat - 55) = c.toNat by omega,
          Char.ofNat_toNat]
  · have hread : ∀ d : Fin 16, hexValue? (hexDigit d.val) = some d.val ∧
        hexValue? (hexDigitUpper d.val) = some d.val := by decide
    rintro ⟨hd, rfl | rfl⟩
    · exact (hread ⟨d, hd⟩).1
    · exact (hread ⟨d, hd⟩).2

theorem numeral_nil : Numeral [] n ↔ n = 0 := by
  constructor
  · rintro ⟨vs, hvs, rfl⟩
    cases hvs
    rfl
  · rintro rfl
    exact ⟨[], .nil, rfl⟩

/-- One digit more. -/
theorem numeral_concat :
    Numeral (ds ++ [c]) n ↔ ∃ m d, Numeral ds m ∧ IsDigit c d ∧ n = 16 * m + d := by
  unfold Numeral
  rw [List.reverse_concat]
  constructor
  · rintro ⟨vs, hvs, rfl⟩
    obtain ⟨d, us, hd, hus, rfl⟩ := List.forall₂_cons_left_iff.1 hvs
    exact ⟨_, d, ⟨us, hus, rfl⟩, hd, by rw [Nat.ofDigits_cons]; omega⟩
  · rintro ⟨_, d, ⟨vs, hvs, rfl⟩, hd, rfl⟩
    exact ⟨d :: vs, .cons hd hvs, by rw [Nat.ofDigits_cons]; omega⟩

/-- **Digits are read as the number that they stand for.** -/
theorem hexDigits?_iff : hexDigits? ds = some n ↔ Numeral ds n := by
  induction ds using List.reverseRecOn generalizing n with
  | nil => rw [numeral_nil]; simp [hexDigits?, eq_comm]
  | append_singleton ds c ih =>
    have hlast : hexDigits? (ds ++ [c]) = hexStep (hexDigits? ds) c := by simp [hexDigits?]
    rw [numeral_concat, hlast]
    constructor
    · intro h
      obtain ⟨m, hm, h⟩ := Option.bind_eq_some_iff.1 h
      obtain ⟨d, hd, h⟩ := Option.bind_eq_some_iff.1 h
      exact ⟨m, d, ih.1 hm, hexValue?_iff.1 hd, (Option.some.inj h).symm⟩
    · rintro ⟨m, d, hm, hd, rfl⟩
      rw [ih.2 hm, hexStep]
      simp only [hexValue?_iff.2 hd, bind, Option.bind, pure]

theorem hexNumber?_iff : hexNumber? ds = some n ↔ ds ≠ [] ∧ Numeral ds n := by
  rw [← hexDigits?_iff, hexNumber?]
  cases ds <;> simp

theorem Numeral.isDigit (hn : Numeral ds n) (hc : c ∈ ds) : ∃ d, IsDigit c d := by
  induction ds using List.reverseRecOn generalizing n with
  | nil => cases hc
  | append_singleton ds c' ih =>
    obtain ⟨m, d, hm, hd, -⟩ := numeral_concat.1 hn
    rcases List.mem_append.1 hc with hc | hc
    · exact ih hm hc
    · exact ⟨d, List.mem_singleton.1 hc ▸ hd⟩

theorem Numeral.forall {P : Char → Prop}
    (h : ∀ d : Fin 16, P (hexDigit d.val) ∧ P (hexDigitUpper d.val)) (hn : Numeral ds n) :
    ∀ c ∈ ds, P c := by
  intro c hc
  obtain ⟨d, hd⟩ := hn.isDigit hc
  exact hd.forall h

/-- A number of so many digits. -/
theorem Numeral.lt (hn : Numeral ds n) : n < 16 ^ ds.length := by
  induction ds using List.reverseRecOn generalizing n with
  | nil => rw [numeral_nil.1 hn]; decide
  | append_singleton ds c ih =>
    obtain ⟨m, d, hm, hd, rfl⟩ := numeral_concat.1 hn
    have hlt := ih hm
    have hdigit := hd.1
    rw [List.length_append, List.length_singleton, Nat.pow_succ]
    omega

end Text

/-! ### Epochs -/

/-- A spelling of an epoch: a plus sign or none, and digits. -/
def Epoch.Spelled (cs : List Char) (m : Nat) : Prop :=
  ∃ ds, (cs = ds ∨ cs = '+' :: ds) ∧ ds ≠ [] ∧ Text.Numeral ds m

/-- Digits do not begin with a plus sign. -/
theorem Text.Numeral.head?_ne {ds : List Char} {n : Nat} (hds : Text.Numeral ds n) :
    ds.head? ≠ some '+' := fun h =>
  hds.forall (P := (· ≠ '+')) (by decide) '+' (List.mem_of_mem_head? h) rfl

/-- A text spells one epoch at most. -/
theorem Epoch.Spelled.unique {cs : List Char} {m m' : Nat} (h : Epoch.Spelled cs m)
    (h' : Epoch.Spelled cs m') : m = m' := by
  obtain ⟨ds, hcs, -, hn⟩ := h
  obtain ⟨ds', hcs', -, hn'⟩ := h'
  have hsame : ds = ds' := by
    rcases hcs with rfl | rfl <;> rcases hcs' with heq | heq
    · exact heq
    · exact absurd (by rw [heq]; rfl) hn.head?_ne
    · exact absurd (by rw [← heq]; rfl) hn'.head?_ne
    · exact (List.cons.inj heq).2
  rw [← hsame, ← Text.hexDigits?_iff, Text.hexDigits?_iff.2 hn] at hn'
  exact Option.some.inj hn'

/-- **A text is read as an epoch exactly if it spells it.** -/
theorem Epoch.parse?_iff {s : String} {e : Epoch} :
    Epoch.parse? s = some e ↔ Epoch.Spelled s.toList e.val := by
  have hnumber (ds : List Char) :
      ((Text.hexNumber? ds).bind fun n =>
        if h : n < 1 <<< 32 then some (⟨n, h⟩ : Epoch) else none) = some e ↔
          ds ≠ [] ∧ Text.Numeral ds e.val := by
    rw [← Text.hexNumber?_iff]
    constructor
    · intro h
      obtain ⟨n, hn, h⟩ := Option.bind_eq_some_iff.1 h
      split at h <;> cases h
      exact hn
    · intro h
      rw [h]
      exact dif_pos e.lt
  show ((Text.hexNumber? _).bind _) = _ ↔ _
  rw [hnumber]
  constructor
  · by_cases hhead : s.toList.head? = some '+'
    · rw [if_pos hhead]
      rintro ⟨hne, hds⟩
      obtain ⟨rest, hrest⟩ := List.head?_eq_some_iff.1 hhead
      exact ⟨_, .inr (by rw [hrest]; rfl), hne, hds⟩
    · rw [if_neg hhead]
      rintro ⟨hne, hds⟩
      exact ⟨_, .inl rfl, hne, hds⟩
  · rintro ⟨ds, heq | heq, hne, hds⟩ <;> rw [heq]
    · rw [if_neg hds.head?_ne]
      exact ⟨hne, hds⟩
    · rw [if_pos (List.head?_cons ..)]
      exact ⟨hne, hds⟩

/-! ### Sources -/

namespace Uuid

/-- Five groups of digits with hyphens between them. -/
def Hyphenated (cs : List Char) (n : Nat) : Prop :=
  ∃ a b c d e : List Char, a.length = 8 ∧ b.length = 4 ∧ c.length = 4 ∧ d.length = 4 ∧
    e.length = 12 ∧ cs = a ++ '-' :: b ++ '-' :: c ++ '-' :: d ++ '-' :: e ∧
    Text.Numeral (a ++ b ++ c ++ d ++ e) n

/-- A spelling of a UUID in one of four forms. -/
inductive Spelled : List Char → Nat → Prop where
  | simple {ds n} (length : ds.length = 32) (digits : Text.Numeral ds n) : Spelled ds n
  | hyphenated {cs n} (groups : Hyphenated cs n) : Spelled cs n
  | braced {cs n} (groups : Hyphenated cs n) : Spelled ('\x7b' :: cs ++ ['\x7d']) n
  | urn {mark cs n} (named : mark.map Char.toLower = "urn:uuid:".toList)
      (groups : Hyphenated cs n) : Spelled (mark ++ cs) n

/-- Digits in their five groups. -/
theorem take_append_groups (ds : List Char) :
    ds.take 8 ++ (ds.drop 8).take 4 ++ (ds.drop 12).take 4 ++ (ds.drop 16).take 4 ++ ds.drop 20 =
      ds := by
  have hnext (n k : Nat) : ds.take n ++ (ds.drop n).take k = ds.take (n + k) := List.take_add.symm
  rw [hnext, hnext, hnext, List.take_append_drop]

theorem ofDigits?_iff {ds : List Char} {u : Uuid} (hlength : ds.length = 32) :
    ofDigits? ds = some u ↔ Text.Numeral ds u.val := by
  have hne : ds ≠ [] := fun h => by rw [h] at hlength; cases hlength
  have hnumber : Text.hexNumber? ds = some u.val ↔ Text.Numeral ds u.val := by
    rw [Text.hexNumber?_iff, and_iff_right hne]
  rw [← hnumber]
  constructor
  · intro h
    obtain ⟨n, hn, h⟩ := Option.bind_eq_some_iff.1 h
    split at h <;> cases h
    exact hn
  · intro h
    rw [ofDigits?, h]
    exact dif_pos u.lt

theorem ofHyphenated?_iff {cs : List Char} {u : Uuid} :
    ofHyphenated? cs = some u ↔ Hyphenated cs u.val := by
  simp only [ofHyphenated?]
  constructor
  · intro h
    split at h
    · rename_i hform
      rw [ofDigits?_iff hform.1] at h
      generalize cs.filter (fun c => decide (c ≠ '-')) = ds at hform h
      have hlength := hform.1
      exact ⟨_, _, _, _, _, by simp [hlength], by simp [hlength], by simp [hlength],
        by simp [hlength], by simp [hlength], hform.2, by rw [take_append_groups]; exact h⟩
    · cases h
  · rintro ⟨a, b, c, d, e, ha, hb, hc, hd, he, rfl, hn⟩
    have hgroup : group (a ++ b ++ c ++ d ++ e) =
        a ++ '-' :: b ++ '-' :: c ++ '-' :: d ++ '-' :: e := by
      simp [group, List.drop_append, List.drop_eq_nil_of_le, ha, hb, hc, hd]
    have hfilter := filter_group (hn.forall (P := (· ≠ '-')) (by decide))
    have hlength : (a ++ b ++ c ++ d ++ e).length = 32 := by simp [ha, hb, hc, hd, he]
    rw [hgroup] at hfilter
    rw [hfilter, if_pos ⟨hlength, hgroup.symm⟩, ofDigits?_iff hlength]
    exact hn

theorem Hyphenated.length_eq {cs : List Char} {n : Nat} (h : Hyphenated cs n) : cs.length = 36 := by
  obtain ⟨a, b, c, d, e, ha, hb, hc, hd, he, rfl, -⟩ := h
  simp [ha, hb, hc, hd, he]

/-- A UUID without wrapping begins with a digit. -/
theorem Hyphenated.exists_cons {cs : List Char} {n : Nat} (h : Hyphenated cs n) :
    ∃ x rest v, cs = x :: rest ∧ Text.IsDigit x v := by
  obtain ⟨a, b, c, d, e, ha, -, -, -, -, rfl, hn⟩ := h
  obtain ⟨x, a, rfl⟩ := List.exists_cons_of_length_pos (by omega : 0 < a.length)
  obtain ⟨v, hv⟩ := hn.isDigit (c := x) (by simp)
  exact ⟨x, _, v, rfl, hv⟩

theorem unwrap?_digit {x : Char} {v : Nat} (hx : Text.IsDigit x v) (rest : List Char) :
    unwrap? (x :: rest) = none := by
  obtain ⟨hbrace, hurn⟩ : x ≠ '\x7b' ∧ x.toLower ≠ 'u' :=
    hx.forall (P := fun x => x ≠ '\x7b' ∧ x.toLower ≠ 'u') (by decide)
  simp [unwrap?, hbrace, urnMark, hurn]

theorem unwrap?_braced (cs : List Char) :
    unwrap? ('\x7b' :: cs ++ ['\x7d']) = some (cs, 1) := by
  have hlast : ('\x7b' :: cs ++ ['\x7d']).getLast? = some '\x7d' := List.getLast?_concat ..
  rw [unwrap?, if_pos ⟨rfl, by simp, hlast⟩]
  simp

theorem unwrap?_urn {mark : List Char} (hmark : mark.map Char.toLower = urnMark) (cs : List Char) :
    unwrap? (mark ++ cs) = some (cs, 9) := by
  have hlength : mark.length = 9 := by rw [← List.length_map Char.toLower, hmark]; rfl
  have hbrace : (mark ++ cs).head? ≠ some '\x7b' := by
    obtain ⟨x, mark, rfl⟩ := List.exists_cons_of_length_pos (by omega : 0 < mark.length)
    simp only [List.map_cons, urnMark, List.cons.injEq] at hmark
    rintro hx
    obtain rfl : x = '\x7b' := by simpa using hx
    exact absurd hmark.1 (by decide)
  rw [unwrap?, if_neg fun h => hbrace h.1,
    if_pos (by
      rw [List.take_append_of_le_length (by omega), List.take_of_length_le (by omega), hmark]),
    List.drop_append_of_le_length (by omega), List.drop_eq_nil_of_le (by omega), List.nil_append]

/-- What is taken off is braces, or the mark of the URN form. -/
theorem of_unwrap? {cs inner : List Char} {k : Nat} (h : unwrap? cs = some (inner, k)) :
    cs = '\x7b' :: inner ++ ['\x7d'] ∨
      ∃ mark, mark.map Char.toLower = urnMark ∧ cs = mark ++ inner := by
  unfold unwrap? at h
  split at h
  · rename_i hbraces
    cases h
    obtain ⟨hhead, hlength, hlast⟩ := hbraces
    obtain ⟨rest, rfl⟩ := List.head?_eq_some_iff.1 hhead
    refine .inl ?_
    have hne : rest ≠ [] := by rintro rfl; simp at hlength
    rw [List.getLast?_cons_of_ne_nil hne] at hlast
    obtain ⟨front, rfl⟩ := List.getLast?_eq_some_iff.1 hlast
    simp
  · split at h <;> cases h
    rename_i hmark
    exact .inr ⟨_, hmark, (List.take_append_drop 9 cs).symm⟩

/-- **A text is read as a UUID exactly if it spells it.** -/
theorem parse?_iff {s : String} {u : Uuid} : parse? s = some u ↔ Spelled s.toList u.val := by
  simp only [parse?]
  constructor
  · intro h
    cases hunwrap : unwrap? s.toList with
    | some p =>
      obtain ⟨inner, k⟩ := p
      simp only [hunwrap] at h
      have hgroups := ofHyphenated?_iff.1 h
      rcases of_unwrap? hunwrap with hcs | ⟨mark, hmark, hcs⟩ <;> rw [hcs]
      · exact .braced hgroups
      · exact .urn hmark hgroups
    | none =>
      simp only [hunwrap] at h
      split at h
      · rename_i hlength
        exact .simple hlength ((ofDigits?_iff hlength).1 h)
      · exact .hyphenated (ofHyphenated?_iff.1 h)
  · generalize s.toList = cs
    intro h
    cases h with
    | simple hlength hdigits =>
      obtain ⟨x, rest, rfl⟩ := List.exists_cons_of_length_pos (by omega : 0 < cs.length)
      obtain ⟨v, hv⟩ := hdigits.isDigit (c := x) (by simp)
      simp only [unwrap?_digit hv rest, if_pos hlength]
      exact (ofDigits?_iff hlength).2 hdigits
    | hyphenated hgroups =>
      obtain ⟨x, rest, v, rfl, hv⟩ := hgroups.exists_cons
      have hlength := hgroups.length_eq
      simp only [unwrap?_digit hv rest, if_neg (show ¬ (x :: rest).length = 32 by omega)]
      exact ofHyphenated?_iff.2 hgroups
    | braced hgroups =>
      simp only [unwrap?_braced]
      exact ofHyphenated?_iff.2 hgroups
    | urn hmark hgroups =>
      simp only [unwrap?_urn hmark]
      exact ofHyphenated?_iff.2 hgroups

/-- A UUID has 128 bits. -/
theorem Spelled.lt {cs : List Char} {n : Nat} (h : Spelled cs n) : n < 1 <<< 128 := by
  have hgrouped {cs : List Char} (hcs : Hyphenated cs n) : n < 1 <<< 128 := by
    obtain ⟨a, b, c, d, e, ha, hb, hc, hd, he, -, hn⟩ := hcs
    have hlt := hn.lt
    simp only [List.length_append, ha, hb, hc, hd, he] at hlt
    exact hlt
  cases h with
  | simple hlength hn =>
    have hlt := hn.lt
    rw [hlength] at hlt
    exact hlt
  | hyphenated hcs | braced hcs | urn _ hcs => exact hgrouped hcs

/-- A text spells one UUID at most. -/
theorem Spelled.unique {cs : List Char} {n n' : Nat} (h : Spelled cs n) (h' : Spelled cs n') :
    n = n' := by
  have hread {n : Nat} (h : Spelled cs n) : parse? (String.ofList cs) = some ⟨n, h.lt⟩ :=
    parse?_iff.2 (by rw [String.toList_ofList]; exact h)
  have hsame := (hread h).symm.trans (hread h')
  simpa using hsame

end Uuid

/-! ### Session ids -/

namespace Text

/-- Digits are not blank. -/
theorem Numeral.not_blank {ds : List Char} {n : Nat} (h : Numeral ds n) :
    ∀ c ∈ ds, isBlank c = false :=
  h.forall (by decide)

/-- A character that is a letter or a sign once it is in lower case is not blank. -/
theorem isBlank_toLower {c : Char} (h : isBlank c.toLower = false) : isBlank c = false := by
  rw [Bool.eq_false_iff] at h ⊢
  intro hblank
  refine h ?_
  have hsame : c.toLower = c := by
    refine dif_neg fun hupper => ?_
    have hlow : 65 ≤ c.toNat := UInt32.le_iff_toNat_le.1 hupper.1
    have hhigh : c.toNat ≤ 90 := UInt32.le_iff_toNat_le.1 hupper.2
    simp only [isBlank, Bool.or_eq_true, Bool.and_eq_true, decide_eq_true_eq, beq_iff_eq] at hblank
    omega
  rw [hsame]
  exact hblank

end Text

/-- No character of an epoch is blank or a point. -/
theorem Epoch.Spelled.forall {cs : List Char} {m : Nat} (h : Epoch.Spelled cs m) :
    ∀ c ∈ cs, Text.isBlank c = false ∧ c ≠ '.' := by
  obtain ⟨ds, hcs, -, hn⟩ := h
  have hds : ∀ c ∈ ds, Text.isBlank c = false ∧ c ≠ '.' := hn.forall (by decide)
  rcases hcs with rfl | rfl
  · exact hds
  · exact List.forall_mem_cons.2 ⟨by decide, hds⟩

/-- No character of a UUID is blank. -/
theorem Uuid.Spelled.forall {cs : List Char} {n : Nat} (h : Uuid.Spelled cs n) :
    ∀ c ∈ cs, Text.isBlank c = false := by
  have hgrouped {cs : List Char} (hcs : Uuid.Hyphenated cs n) :
      ∀ c ∈ cs, Text.isBlank c = false := by
    obtain ⟨a, b, c, d, e, -, -, -, -, -, rfl, hn⟩ := hcs
    have hds := hn.not_blank
    have hhyphen : Text.isBlank '-' = false := by decide
    simp only [List.forall_mem_append, List.forall_mem_cons] at hds ⊢
    tauto
  cases h with
  | simple hlength hn => exact hn.not_blank
  | hyphenated hcs => exact hgrouped hcs
  | braced hcs =>
    simp only [List.forall_mem_append, List.forall_mem_cons]
    exact ⟨⟨by decide, hgrouped hcs⟩, by decide, by simp⟩
  | urn hmark hcs =>
    refine List.forall_mem_append.2 ⟨fun c hc => Text.isBlank_toLower ?_, hgrouped hcs⟩
    have hletters : "urn:uuid:".toList.any Text.isBlank = false := by decide
    have hmem : c.toLower ∈ "urn:uuid:".toList := hmark ▸ List.mem_map_of_mem hc
    exact Bool.eq_false_iff.2 (List.any_eq_false.1 hletters _ hmem)

theorem Epoch.parse_eq_ok_iff {s : String} {e : Epoch} :
    Epoch.parse s = .ok e ↔ Epoch.Spelled s.toList e.val := by
  rw [← Epoch.parse?_iff, Epoch.parse]
  cases Epoch.parse? s <;> simp

namespace SessionId

/-- A spelling of a session id of epoch `m` and source `n`. -/
def Spelled (s : String) (m n : Nat) : Prop :=
  ∃ front epoch source back, s.toList = front ++ (epoch ++ '.' :: source) ++ back ∧
    (∀ c ∈ front, Text.isBlank c = true) ∧ (∀ c ∈ back, Text.isBlank c = true) ∧
    Epoch.Spelled epoch m ∧ Uuid.Spelled source n

theorem splitAtPoint?_iff {cs epoch source : List Char} :
    splitAtPoint? cs = some (epoch, source) ↔ cs = epoch ++ '.' :: source ∧ '.' ∉ epoch := by
  unfold splitAtPoint?
  constructor
  · intro h
    have hall := List.takeWhile_append_dropWhile (p := fun c => decide (c ≠ '.')) (l := cs)
    cases hrest : cs.dropWhile (fun c => decide (c ≠ '.')) with
    | nil => simp only [hrest] at h; cases h
    | cons c rest =>
      simp only [hrest, Option.some.injEq, Prod.mk.injEq] at h
      obtain ⟨rfl, rfl⟩ := h
      have hne : cs.dropWhile (fun c => decide (c ≠ '.')) ≠ [] := by rw [hrest]; simp
      have hhead := List.head_dropWhile_not _ hne
      simp only [hrest, List.head_cons, decide_eq_false_iff_not, not_not] at hhead
      subst hhead
      refine ⟨by rw [← hrest, hall], fun hmem => ?_⟩
      simpa using List.mem_takeWhile_imp hmem
  · rintro ⟨rfl, hnone⟩
    have hepoch : ∀ c ∈ epoch, decide (c ≠ '.') = true := fun c hc =>
      decide_eq_true fun heq => hnone (heq ▸ hc)
    rw [List.dropWhile_append_of_pos hepoch, List.takeWhile_append_of_pos hepoch]
    simp

/-- What is left of a spelling without the blanks at its ends, and where its point is. -/
theorem Spelled.split {s : String} {m n : Nat} (h : Spelled s m n) :
    ∃ epoch source, splitAtPoint? (Text.trimChars s.toList) = some (epoch, source) ∧
      Epoch.Spelled epoch m ∧ Uuid.Spelled source n := by
  obtain ⟨front, epoch, source, back, htext, hfront, hback, hepoch, hsource⟩ := h
  have hfull : ∀ c ∈ epoch ++ '.' :: source, Text.isBlank c = false :=
    List.forall_mem_append.2 ⟨fun c hc => (hepoch.forall c hc).1,
      List.forall_mem_cons.2 ⟨by decide, hsource.forall⟩⟩
  refine ⟨epoch, source, ?_, hepoch, hsource⟩
  rw [htext, Text.trimChars_append hfront hback hfull]
  exact splitAtPoint?_iff.2 ⟨rfl, fun hmem => (hepoch.forall _ hmem).2 rfl⟩

/-- **A text is read as a session id exactly if it spells it.** -/
theorem parse_eq_ok_iff {s : String} {id : SessionId} :
    parse s = .ok id ↔ Spelled s id.epoch.val id.source.uuid.val := by
  unfold parse
  constructor
  · intro h
    obtain ⟨front, back, htext, hfront, hback⟩ := (Text.trimmed_trimChars s.toList).around
    split at h
    · cases h
    · rename_i epoch source hsplit
      split at h
      · cases h
      · rename_i uuid hsource
        cases hepoch : Epoch.parse (String.ofList epoch) with
        | error fault => rw [hepoch] at h; cases h
        | ok e =>
          rw [hepoch] at h
          cases h
          rw [(splitAtPoint?_iff.1 hsplit).1] at htext
          refine ⟨front, epoch, source, back, htext, hfront, hback, ?_, ?_⟩
          · simpa using Epoch.parse_eq_ok_iff.1 hepoch
          · simpa using Uuid.parse?_iff.1 hsource
  · intro h
    obtain ⟨epoch, source, hsplit, hepoch, hsource⟩ := h.split
    have huuid : Uuid.parse? (String.ofList source) = some id.source.uuid :=
      Uuid.parse?_iff.2 (by simpa using hsource)
    have hepoch' : Epoch.parse (String.ofList epoch) = .ok id.epoch :=
      Epoch.parse_eq_ok_iff.2 (by simpa using hepoch)
    simp only [hsplit, huuid, hepoch']
    rfl

/-- A text that is no session id is refused as invalid. -/
theorem parse_error {s : String} {fault : Fault} (h : parse s = .error fault) :
    ∃ message, fault = .invalidInput message := by
  unfold parse at h
  split at h
  · cases h
    exact ⟨_, rfl⟩
  · split at h
    · cases h
      exact ⟨_, rfl⟩
    · unfold Epoch.parse at h
      split at h <;> cases h
      exact ⟨_, rfl⟩

theorem eq_iff {id id' : SessionId} : id = id' ↔
    id.epoch.val = id'.epoch.val ∧ id.source.uuid.val = id'.source.uuid.val := by
  obtain ⟨⟨m, _⟩, ⟨⟨n, _⟩⟩⟩ := id
  obtain ⟨⟨m', _⟩, ⟨⟨n', _⟩⟩⟩ := id'
  simp

/-- A text spells one session id at most. -/
theorem Spelled.unique {s : String} {m n m' n' : Nat} (h : Spelled s m n) (h' : Spelled s m' n') :
    m = m' ∧ n = n' := by
  obtain ⟨epoch, source, htext, hepoch, hsource⟩ := h.split
  obtain ⟨epoch', source', htext', hepoch', hsource'⟩ := h'.split
  rw [htext] at htext'
  cases htext'
  exact ⟨hepoch.unique hepoch', hsource.unique hsource'⟩

end SessionId

/-- **The text of a session id can stand in a header.** -/
theorem Api.isReadable_text (id : SessionId) : Api.isReadable id.text = true := by
  rw [Api.isReadable, List.all_eq_true]
  exact SessionId.forall_text (by decide) (by decide) (by decide) id

/-- A server reads the session of a request from the header that bears its text. -/
theorem Api.session?_of_header {r : Request} {id : SessionId}
    (h : r.header? Defaults.sourceHeaderName = some id.text) : Api.session? r = some id := by
  rw [Api.session?, h]
  simp only [Api.isReadable_text, if_true, SessionId.parse_text]
  rfl

namespace SessionId

/-- How session ids are written and read. -/
structure ReadsAsSpelled : Prop where
  /-- A text is read as an id exactly if it spells the two numbers of the id. -/
  spelled : ∀ {s : String} {id : SessionId},
    parse s = .ok id ↔ Spelled s id.epoch.val id.source.uuid.val
  /-- Every text is read that spells an epoch of 32 bits. -/
  accepts : ∀ {s : String} {m n : Nat}, Spelled s m n → m < 2 ^ 32 →
    ∃ id, parse s = .ok id ∧ id.epoch.val = m ∧ id.source.uuid.val = n
  /-- Every other text is refused as invalid. -/
  rejects : ∀ {s : String}, (∀ m n, m < 2 ^ 32 → ¬ Spelled s m n) →
    ∃ message, parse s = .error (.invalidInput message)
  /-- Two texts stand for one id exactly if they spell the same numbers. -/
  same : ∀ {s s' : String} {id id' : SessionId} {m n m' n' : Nat}, parse s = .ok id →
    parse s' = .ok id' → Spelled s m n → Spelled s' m' n' → (id = id' ↔ m = m' ∧ n = n')
  /-- Ids are one exactly if they are written as one text. -/
  canonical : ∀ {id id' : SessionId}, id = id' ↔ id.text = id'.text
  /-- An id is read from its text, -/
  text : ∀ id, parse id.text = .ok id
  /-- from the header of a request that bears its text, -/
  header : ∀ {r : Request} {id : SessionId},
    r.header? Defaults.sourceHeaderName = some id.text → Api.session? r = some id
  /-- and from its text as a string of a message. -/
  message : ∀ id : SessionId, Wire.write id = .string id.text ∧ Wire.ofText (Wire.text id) = .ok id

/-- **Session ids are read as they are spelled.** -/
theorem readsAsSpelled : ReadsAsSpelled where
  spelled := parse_eq_ok_iff
  accepts h hm :=
    have ⟨_, _, _, hsource⟩ := h.split
    ⟨⟨⟨_, hm⟩, ⟨⟨_, hsource.2.lt⟩⟩⟩, parse_eq_ok_iff.2 h, rfl, rfl⟩
  rejects {s} h := by
    cases hparse : parse s with
    | ok id => exact absurd (parse_eq_ok_iff.1 hparse) (h _ _ id.epoch.lt)
    | error fault =>
      obtain ⟨message, rfl⟩ := parse_error hparse
      exact ⟨message, rfl⟩
  same {s s' id id' m n m' n'} hs hs' h h' := by
    obtain ⟨rfl, rfl⟩ := h.unique (parse_eq_ok_iff.1 hs)
    obtain ⟨rfl, rfl⟩ := h'.unique (parse_eq_ok_iff.1 hs')
    exact eq_iff
  canonical {id id'} := by
    refine ⟨fun h => h ▸ rfl, fun h => ?_⟩
    have hread := parse_text id
    rw [h, parse_text] at hread
    exact (Except.ok.inj hread).symm
  text := parse_text
  header := Api.session?_of_header
  message id := by
    refine ⟨rfl, Wire.ofText_text (by simp [Wire.write, Json.Value.Legible]) fun raw hraw => ?_⟩
    simp only [Wire.write, Json.Raw.standsFor_string] at hraw
    subst hraw
    have hstring : Json.Decode.string "a string" (.string (.ok id.text)) = .ok id.text := rfl
    simp only [Wire.read, Wire.checked, hstring, bind, Except.bind, parse_text]
    rfl

end SessionId
end EventRelay

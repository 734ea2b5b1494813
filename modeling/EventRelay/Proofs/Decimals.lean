/-
# Decimal numerals read back

The digits of a number are read as that number, with zeros in front of them or without
(`Text.digits?_padded`), and the text of an integer of at most 64 bits is read as that integer
wherever a value may end (`Json.Number.legible_integer`).
-/

import EventRelay.Proofs.Json.Texts
import EventRelay.Timestamp

namespace EventRelay

/-! ### Digits -/

namespace Text

/-- The digits of a number are digits. -/
theorem isDigit_of_mem_toDigits {n : Nat} {c : Char} (h : c ∈ Nat.toDigits 10 n) :
    c.isDigit = true :=
  Nat.isDigit_of_mem_toDigits (by decide) (by decide) h

theorem digitValue?_of_isDigit {c : Char} (h : c.isDigit = true) :
    digitValue? c = some (c.toNat - 48) := by
  obtain ⟨hlow, hhigh⟩ := Char.isDigit_iff_toNat.1 h
  have hrange : (decide (48 ≤ c.toNat) && decide (c.toNat ≤ 57)) = true := by
    simpa using ⟨hlow, hhigh⟩
  rw [digitValue?, if_pos hrange]

/-- A run of digits is read as the number that they write. -/
theorem digits?_of_isDigit {ds : List Char} (hne : ds ≠ []) (hds : ∀ c ∈ ds, c.isDigit = true) :
    digits? ds = some (Nat.ofDigitChars 10 ds 0) := by
  have hfold : ∀ (cs : List Char) (n : Nat), (∀ c ∈ cs, c.isDigit = true) →
      cs.foldl (fun acc c => do return 10 * (← acc) + (← digitValue? c)) (some n) =
        some (Nat.ofDigitChars 10 cs n) := by
    intro cs
    induction cs with
    | nil => intro n _; rfl
    | cons c cs ih =>
      intro n hcs
      have hvalue := digitValue?_of_isDigit (hcs c (List.mem_cons_self ..))
      rw [List.foldl_cons, Nat.ofDigitChars_cons, ← ih _ fun d hd => hcs d (List.mem_cons_of_mem _ hd)]
      simp only [bind, Option.bind, hvalue, pure]
      rfl
  rw [digits?, if_neg (by simpa using hne)]
  exact hfold ds 0 hds

end Text

namespace Timestamp

variable {width n : Nat}

/-- A padded number is made of digits. -/
theorem isDigit_of_mem_padded {c : Char} (h : c ∈ padded width n) : c.isDigit = true := by
  rcases List.mem_append.1 h with hzero | hdigit
  · rw [(List.mem_replicate.1 hzero).2]
    decide
  · exact Text.isDigit_of_mem_toDigits hdigit

theorem padded_ne_nil : padded width n ≠ [] := by
  simp [padded]

/-- **A padded number is read as that number.** -/
theorem digits?_padded : Text.digits? (padded width n) = some n := by
  rw [Text.digits?_of_isDigit padded_ne_nil fun _ => isDigit_of_mem_padded, padded,
    Nat.ofDigitChars_append, Nat.ofDigitChars_replicate_zero, Nat.mul_zero,
    Nat.ofDigitChars_ten_toDigits]

/-- A number that fits its width is padded to that width. -/
theorem length_padded (hwidth : 0 < width) (h : n < Nat.pow 10 width) :
    (padded width n).length = width := by
  have hshort : (Nat.toDigits 10 n).length ≤ width :=
    (Nat.length_toDigits_le_iff (by decide) hwidth).2 h
  rw [padded, List.length_append, List.length_replicate]
  omega

end Timestamp

/-! ### Integers -/

namespace Json

/-- Where a value ends there is no digit, no point and no exponent. -/
theorem Ends.head?_ne {rest : List Char} (h : Ends rest) :
    ∀ c, rest.head? = some c → c.isDigit = false ∧ c ≠ '.' ∧ c ≠ 'e' ∧ c ≠ 'E' := by
  intro c hc
  obtain ⟨rest, rfl⟩ := List.head?_eq_some_iff.1 hc
  rcases h with rfl | rfl | rfl <;> decide

/-- Only zero begins with a zero. -/
theorem head?_toDigits_ne {n : Nat} (h : 0 < n) : (Nat.toDigits 10 n).head? ≠ some '0' := by
  induction n using Nat.strongRecOn with
  | ind n ih =>
    rw [Nat.toDigits_eq_if (by decide)]
    split
    · simpa using Nat.pos_iff_ne_zero.1 h
    · have hhead := ih (n / 10) (by omega) (by omega)
      obtain ⟨c, ds, hcons⟩ := List.exists_cons_of_ne_nil (Nat.toDigits_ne_nil (n := n / 10) (b := 10))
      rw [hcons] at hhead ⊢
      simpa using hhead

namespace Scan

variable {rest : List Char}

/-- A run of digits is read up to its end. -/
theorem digitRun_append {ds : List Char} (hds : ∀ c ∈ ds, c.isDigit = true)
    (hrest : ∀ c, rest.head? = some c → c.isDigit = false) :
    digitRun (ds ++ rest) = (ds.map fun c => c.toNat - 48, rest) := by
  have hend : rest.takeWhile Char.isDigit = [] ∧ rest.dropWhile Char.isDigit = rest := by
    cases rest with
    | nil => exact ⟨rfl, rfl⟩
    | cons c rest => simp [hrest c rfl]
  rw [digitRun, List.takeWhile_append_of_pos hds, List.dropWhile_append_of_pos hds, hend.1, hend.2,
    List.append_nil]

/-- The whole part of a number is read from its digits. -/
theorem wholePart_toDigits (n : Nat) (hrest : ∀ c, rest.head? = some c → c.isDigit = false) :
    wholePart (Nat.toDigits 10 n ++ rest) =
      .ok ((Nat.toDigits 10 n).map fun c => c.toNat - 48, rest) := by
  rcases Nat.eq_zero_or_pos n with rfl | hpos
  · rw [Nat.toDigits_zero, List.singleton_append, wholePart.eq_def]
    cases rest with
    | nil => rfl
    | cons c rest => simp [hrest c rfl]
  · have hdigits : ∀ c ∈ Nat.toDigits 10 n, c.isDigit = true := fun _ => Text.isDigit_of_mem_toDigits
    obtain ⟨c, ds, hcons⟩ := List.exists_cons_of_ne_nil (Nat.toDigits_ne_nil (n := n) (b := 10))
    have hzero : c ≠ '0' := fun h => head?_toDigits_ne hpos (by rw [hcons, h]; rfl)
    have hc : c.isDigit = true := hdigits c (by rw [hcons]; exact List.mem_cons_self ..)
    have hrun := digitRun_append hdigits hrest
    rw [hcons, List.cons_append] at hrun ⊢
    rw [wholePart.eq_def]
    simp only [if_neg hzero, if_pos hc, hrun]

/-- Where a value ends, a number has no decimals and no exponent. -/
theorem parts_of_ends (h : Ends rest) :
    decimalPart rest = .ok (none, rest) ∧ exponentPart rest = .ok (none, rest) := by
  cases rest with
  | nil => exact ⟨rfl, rfl⟩
  | cons c rest =>
    obtain ⟨-, hpoint, he, hE⟩ := h.head?_ne c rfl
    constructor
    · rw [decimalPart]
      simp [hpoint]
    · rw [exponentPart]
      simp [he, hE]

end Scan

/-- The digits of a number have its value. -/
theorem foldl_toDigits (n : Nat) :
    ((Nat.toDigits 10 n).map fun c => c.toNat - 48).foldl (fun acc d => 10 * acc + d) 0 = n := by
  rw [List.foldl_map]
  exact Nat.ofDigitChars_ten_toDigits

/-- The sign in front of digits. -/
def signText (negative : Bool) : List Char := if negative then ['-'] else []

/-- A number without decimals and exponent is read from its sign and its digits. -/
theorem Scan.number_toDigits {negative : Bool} {n : Nat} {m : Number} {rest : List Char}
    (hrest : Ends rest)
    (hm : Literal.number? ⟨negative, (Nat.toDigits 10 n).map fun c => c.toNat - 48, none, none⟩ =
      some m) :
    number (signText negative ++ (Nat.toDigits 10 n ++ rest)) = .ok (.ok m, rest) := by
  have hwhole := wholePart_toDigits n fun c hc => (hrest.head?_ne c hc).1
  obtain ⟨hdecimal, hexponent⟩ := parts_of_ends hrest
  have hsign : ((signText negative ++ (Nat.toDigits 10 n ++ rest)).head? == some '-') = negative := by
    cases negative with
    | true => rfl
    | false =>
      obtain ⟨c, ds, hcons⟩ := List.exists_cons_of_ne_nil (Nat.toDigits_ne_nil (n := n) (b := 10))
      have hc : c.isDigit = true :=
        Text.isDigit_of_mem_toDigits (n := n) (by rw [hcons]; exact List.mem_cons_self ..)
      have hminus : c ≠ '-' := by rintro rfl; exact absurd hc (by decide)
      simp [signText, hcons, hminus]
  have hdrop : (if negative then (signText negative ++ (Nat.toDigits 10 n ++ rest)).drop 1
      else signText negative ++ (Nat.toDigits 10 n ++ rest)) = Nat.toDigits 10 n ++ rest := by
    cases negative <;> rfl
  unfold number
  simp only [hsign, hdrop, hwhole, hdecimal, hexponent, hm, bind, Except.bind, pure, Except.pure]

/-- **An integer of at most 64 bits is read as it is written.** -/
theorem Number.legible_integer {i : Int} (hlow : -0x8000000000000000 ≤ i)
    (hhigh : i < 0x10000000000000000) : (Number.integer i).Legible := by
  have hread (negative : Bool) (n : Nat)
      (htext : (Number.integer i).text.toList = signText negative ++ Nat.toDigits 10 n)
      (hvalue : Literal.number? ⟨negative, (Nat.toDigits 10 n).map fun c => c.toNat - 48, none, none⟩ =
        some (.integer i)) : (Number.integer i).Legible := by
    obtain ⟨c, ds, hcons⟩ := List.exists_cons_of_ne_nil (Nat.toDigits_ne_nil (n := n) (b := 10))
    have hc : c.isDigit = true :=
      Text.isDigit_of_mem_toDigits (n := n) (by rw [hcons]; exact List.mem_cons_self ..)
    refine ⟨?_, fun rest hrest => ?_⟩
    · rw [htext, hcons]
      cases negative with
      | true => exact ⟨'-', c :: ds, rfl, .inl rfl⟩
      | false => exact ⟨c, ds, rfl, .inr hc⟩
    · rw [htext, List.append_assoc, Scan.number_toDigits hrest hvalue]
  have hword : Literal.wordBound = 0x10000000000000000 := rfl
  have hhalf : (1 <<< 63 : Nat) = 0x8000000000000000 := rfl
  rcases Int.lt_or_le i 0 with hneg | hpos
  · refine hread true i.natAbs ?_ ?_
    · rw [text, Int.toString_eq_repr, Int.repr_eq_if, if_neg (by omega), String.toList_append,
        Nat.toList_repr, show (-i).toNat = i.natAbs by omega]
      rfl
    · have hsize : 0 < i.natAbs ∧ i.natAbs ≤ 1 <<< 63 := by omega
      rw [Literal.number?, foldl_toDigits]
      simp only [Option.isNone_none, Bool.not_true, Bool.and_false, Bool.false_and, Bool.false_eq_true,
        Bool.true_and, hsize, decide_true, if_true, if_false]
      rw [show -(i.natAbs : Int) = i by omega]
  · refine hread false i.toNat ?_ ?_
    · rw [text, Int.toString_eq_repr, Int.repr_eq_if, if_pos hpos, Nat.toList_repr]
      rfl
    · have hsize : i.toNat < Literal.wordBound := by omega
      rw [Literal.number?, foldl_toDigits]
      simp only [Option.isNone_none, Bool.not_false, Bool.true_and, hsize, decide_true, if_true]
      rw [Int.toNat_of_nonneg hpos]

end Json
end EventRelay

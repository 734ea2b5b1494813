/-
# Points in time read back

The text of a point in time is read as that point in time (`Timestamp.parse_text`), whatever its
year and down to the nanosecond, leap seconds included.  The parser is followed through the text
part by part: each part is read from what was written for it and leaves what was written behind it.
-/

import EventRelay.Proofs.Decimals

namespace EventRelay
namespace Timestamp

variable {width most low high n : Nat} {ds rest : List Char}

/-! ### Numbers -/

/-- The next character is no digit. -/
def Stops (rest : List Char) : Prop := ∀ c, rest.head? = some c → c.isDigit = false

theorem stops_cons {c : Char} (h : c.isDigit = false) : Stops (c :: rest) := by
  intro d hd
  cases hd
  exact h

/-- As many digits are taken as there are, up to the number asked for. -/
theorem takeWhile_take_append (hds : ∀ c ∈ ds, c.isDigit = true) (hlength : ds.length ≤ most)
    (hrest : ds.length = most ∨ Stops rest) :
    ((ds ++ rest).take most).takeWhile Char.isDigit = ds := by
  have hend : (rest.take (most - ds.length)).takeWhile Char.isDigit = [] := by
    rcases hrest with hfull | hstops
    · rw [hfull, Nat.sub_self, List.take_zero, List.takeWhile_nil]
    · cases rest with
      | nil => simp
      | cons c rest =>
        cases most - ds.length with
        | zero => rfl
        | succ k => rw [List.take_succ_cons, List.takeWhile_cons_of_neg (by simp [hstops c rfl])]
  rw [List.take_append, List.take_of_length_le hlength, List.takeWhile_append_of_pos hds, hend,
    List.append_nil]

theorem readNumber_append (hne : ds ≠ []) (hds : ∀ c ∈ ds, c.isDigit = true)
    (hlength : ds.length ≤ most) (hrest : ds.length = most ∨ Stops rest)
    (hvalue : Text.digits? ds = some n) (hsmall : n < 1 <<< 63) :
    readNumber most (ds ++ rest) = .ok (n, rest) := by
  have htake := takeWhile_take_append hds hlength hrest
  unfold readNumber
  split
  · rename_i hnil
    exact absurd (List.append_eq_nil_iff.1 hnil).1 hne
  · simp only [htake, hvalue, if_pos hsmall, List.drop_left]

/-- A padded number is read as that number. -/
theorem readNumber_padded (hlength : (padded width n).length ≤ most)
    (hrest : (padded width n).length = most ∨ Stops rest) (hsmall : n < 1 <<< 63) :
    readNumber most (padded width n ++ rest) = .ok (n, rest) :=
  readNumber_append padded_ne_nil (fun _ => isDigit_of_mem_padded) hlength hrest digits?_padded hsmall

/-- No blanks stand before a digit. -/
theorem skipBlanks_append (hne : ds ≠ []) (hds : ∀ c ∈ ds, c.isDigit = true) :
    skipBlanks (ds ++ rest) = ds ++ rest := by
  obtain ⟨c, ds, rfl⟩ := List.exists_cons_of_ne_nil hne
  have hc : Text.isBlank c = false := by
    obtain ⟨hlow, hhigh⟩ := Char.isDigit_iff_toNat.1 (hds c (List.mem_cons_self ..))
    have hzero : '0'.toNat = 48 := rfl
    have hnine : '9'.toNat = 57 := rfl
    rw [Bool.eq_false_iff]
    intro hblank
    simp only [Text.isBlank, Bool.or_eq_true, Bool.and_eq_true, decide_eq_true_eq, beq_iff_eq]
      at hblank
    omega
  rw [List.cons_append, skipBlanks, List.dropWhile_cons_of_neg (by simp [hc])]

/-- **A part of a date or of a time is read from its two digits.** -/
theorem readPart_padded (hlow : low ≤ n) (hhigh : n ≤ high) (htwo : n < 100) :
    readPart low high (padded 2 n ++ rest) = .ok (n, rest) := by
  have hlength : (padded 2 n).length = 2 := length_padded (by decide) htwo
  have hnumber : readNumber 2 (padded 2 n ++ rest) = .ok (n, rest) :=
    readNumber_padded (Nat.le_of_eq hlength) (.inl hlength) (by omega)
  rw [readPart, skipBlanks_append padded_ne_nil fun _ => isDigit_of_mem_padded, hnumber]
  exact if_pos ⟨hlow, hhigh⟩

/-! ### Years -/

/-- A year of four digits has no sign. -/
theorem readYear_digits (hne : ds ≠ []) (hds : ∀ c ∈ ds, c.isDigit = true) :
    readYear (ds ++ rest) = (readNumber 4 (ds ++ rest)).map fun (n, after) => ((n : Int), after) := by
  obtain ⟨c, ds, rfl⟩ := List.exists_cons_of_ne_nil hne
  have hc := hds c (List.mem_cons_self ..)
  unfold readYear
  split
  · rename_i heq
    cases heq
    exact absurd hc (by decide)
  · rename_i heq
    cases heq
    exact absurd hc (by decide)
  · rfl

/-- **A year is read from its text**, with a sign or without, once a mark follows that is no digit. -/
theorem readYear_yearText {year : Int} (hlow : minYear ≤ year) (hhigh : year ≤ maxYear)
    (hrest : Stops rest) : readYear (yearText year ++ rest) = .ok (year, rest) := by
  have hmin : minYear = -262143 := rfl
  have hmax : maxYear = 262142 := rfl
  have hsigned (n : Nat) (hn : n < 1 <<< 63) : readNumber (padded 4 n ++ rest).length
      (padded 4 n ++ rest) = .ok (n, rest) :=
    readNumber_padded (by simp) (.inr hrest) hn
  unfold yearText
  split
  · rename_i hfour
    have hlength : (padded 4 year.toNat).length = 4 :=
      length_padded (by decide) (show year.toNat < 10000 by omega)
    have hnumber : readNumber 4 (padded 4 year.toNat ++ rest) = .ok (year.toNat, rest) :=
      readNumber_padded (Nat.le_of_eq hlength) (.inl hlength) (by omega)
    rw [readYear_digits padded_ne_nil fun _ => isDigit_of_mem_padded, hnumber]
    simp only [Except.map, Int.toNat_of_nonneg hfour.1]
  · split
    · rename_i hpos
      rw [List.cons_append, readYear, hsigned _ (by omega)]
      simp only [Except.map, Int.toNat_of_nonneg hpos]
    · rw [List.cons_append, readYear, hsigned _ (by omega)]
      simp only [Except.map]
      rw [show -(year.natAbs : Int) = year by omega]

/-- No blanks stand before a year. -/
theorem skipBlanks_yearText {year : Int} : skipBlanks (yearText year ++ rest) = yearText year ++ rest := by
  unfold yearText
  split
  · exact skipBlanks_append padded_ne_nil fun _ => isDigit_of_mem_padded
  · split
    · rfl
    · rfl

/-! ### Decimals -/

/-- Decimals are read as nanoseconds, however many there are. -/
theorem readNanos_padded {k m : Nat} (hk : 0 < k) (hnine : k ≤ 9) (hm : m < Nat.pow 10 k)
    (hrest : Stops rest) :
    readNanos ('.' :: (padded k m ++ rest)) = .ok (m * Nat.pow 10 (9 - k), rest) := by
  have hlength : (padded k m).length = k := length_padded hk hm
  have hdigits : ∀ c ∈ padded k m, c.isDigit = true := fun _ => isDigit_of_mem_padded
  have hbound : Nat.pow 10 k ≤ 1000000000 := Nat.pow_le_pow_right (by decide) hnine
  have hnumber : readNumber 9 (padded k m ++ rest) = .ok (m, rest) :=
    readNumber_padded (by omega) (.inr hrest) (by omega)
  have hused : ((padded k m ++ rest).take 9).takeWhile Char.isDigit = padded k m :=
    takeWhile_take_append hdigits (by omega) (.inr hrest)
  have hleft : (padded k m ++ rest).dropWhile Char.isDigit = rest := by
    rw [List.dropWhile_append_of_pos hdigits]
    cases rest with
    | nil => rfl
    | cons c rest => exact List.dropWhile_cons_of_neg (by simp [hrest c rfl])
  rw [readNanos]
  simp only [hnumber, hused, hleft, hlength, bind, Except.bind, pure, Except.pure]

/-- **Nanoseconds are read from their decimals.** -/
theorem readNanos_decimals {nano : Nat} (h : nano < 1000000000) :
    readNanos (decimals nano ++ ['Z']) = .ok (nano, ['Z']) := by
  have hstops : Stops ['Z'] := stops_cons (by decide)
  unfold decimals
  split
  · rename_i hzero
    rw [hzero]
    rfl
  · split
    · rename_i hmillis
      rw [List.cons_append, readNanos_padded (by decide) (by decide)
        (show nano / 1000000 < 1000 by omega) hstops]
      rw [show nano / 1000000 * Nat.pow 10 (9 - 3) = nano by simp; omega]
    · split
      · rename_i hmicros
        rw [List.cons_append, readNanos_padded (by decide) (by decide)
          (show nano / 1000 < 1000000 by omega) hstops]
        rw [show nano / 1000 * Nat.pow 10 (9 - 6) = nano by simp; omega]
      · rw [List.cons_append, readNanos_padded (by decide) (by decide) h hstops]
        rw [show nano * Nat.pow 10 (9 - 9) = nano by simp]

/-! ### The whole -/

/-- Without an offset a time is what it says. -/
theorem toUtc?_zero (t : Timestamp) :
    toUtc? (t.year, t.month, t.day) t.hour t.minute t.second t.nano 0 = some t := by
  obtain ⟨hhour, hminute, -, -⟩ := t.validTime
  have hday : ((60 * (t.hour : Int) + t.minute - 0) % 1440).toNat = 60 * t.hour + t.minute := by omega
  unfold toUtc?
  simp only [hday]
  rw [if_neg (by omega), if_neg (by omega), show (60 * t.hour + t.minute) / 60 = t.hour by omega,
    show (60 * t.hour + t.minute) % 60 = t.minute by omega, ofParts?, dif_pos t.validDate,
    dif_pos t.validTime]

/-- **A point in time is read from its text.** -/
theorem parse_text (t : Timestamp) : parse t.text = .ok t := by
  obtain ⟨hminYear, hmaxYear, hminMonth, hmaxMonth, hminDay, hmaxDay⟩ := t.validDate
  obtain ⟨hhour, hminute, hsecond, hnano⟩ := t.validTime
  have hdays : daysIn t.year t.month ≤ 31 := by
    unfold daysIn
    split
    · split <;> decide
    · split <;> decide
  have hmark (c : Char) (rest : List Char) (hc : Text.isBlank c = false) :
      readMark c (skipBlanks (c :: rest)) = .ok rest := by
    rw [skipBlanks, List.dropWhile_cons_of_neg (by simp [hc]), readMark, if_pos rfl]
  have hyear (rest : List Char) :
      readYear (yearText t.year ++ '-' :: rest) = .ok (t.year, '-' :: rest) :=
    readYear_yearText hminYear hmaxYear (stops_cons (by decide))
  have hword : ¬ (t.year < -0x80000000 ∨ 0x80000000 ≤ t.year) := by
    have hmin : minYear = -262143 := rfl
    have hmax : maxYear = 262142 := rfl
    omega
  have hmonth (rest : List Char) : readPart 1 12 (padded 2 t.month ++ rest) = .ok (t.month, rest) :=
    readPart_padded hminMonth hmaxMonth (by omega)
  have hday (rest : List Char) : readPart 1 31 (padded 2 t.day ++ rest) = .ok (t.day, rest) :=
    readPart_padded hminDay (Nat.le_trans hmaxDay hdays) (by omega)
  have hhours (rest : List Char) : readPart 0 23 (padded 2 t.hour ++ rest) = .ok (t.hour, rest) :=
    readPart_padded (Nat.zero_le _) (by omega) (by omega)
  have hminutes (rest : List Char) :
      readPart 0 59 (padded 2 t.minute ++ rest) = .ok (t.minute, rest) :=
    readPart_padded (Nat.zero_le _) (by omega) (by omega)
  have hseconds (rest : List Char) :
      readPart 0 60 (padded 2 t.second ++ rest) = .ok (t.second, rest) :=
    readPart_padded (Nat.zero_le _) hsecond (by omega)
  have hnanos : readNanos (decimals t.nano ++ ['Z']) = .ok (t.nano, ['Z']) :=
    readNanos_decimals hnano
  have hoffset : readOffset (skipBlanks ['Z']) = .ok (0, []) := rfl
  have hleft : (skipBlanks []).isEmpty = true := rfl
  have hvalid : ValidDate t.year t.month t.day ∧ -1440 < (0 : Int) ∧ (0 : Int) < 1440 :=
    ⟨t.validDate, by decide, by decide⟩
  unfold parse
  rw [text, String.toList_ofList]
  simp only [List.append_assoc, List.cons_append, skipBlanks_yearText, hyear, bind, Except.bind,
    if_neg hword, hmark '-' _ (by decide), hmark ':' _ (by decide), hmonth, hday,
    hhours, hminutes, hseconds, hnanos, hoffset, hleft, if_pos hvalid, toUtc?_zero]
  rfl

end Timestamp
end EventRelay

/-
# Hexadecimal numerals

One digit alphabet, written in lower case and read in either case.  `hexFixed`
writes a number in a fixed number of digits, `hexNumber?` reads any non-empty run
of them.
-/

namespace EventRelay
namespace Text

/-- The lower-case digit of a value below 16. -/
def hexDigit (n : Nat) : Char :=
  if n < 10 then Char.ofNat (48 + n) else Char.ofNat (87 + n)

/-- The upper-case digit of a value below 16. -/
def hexDigitUpper (n : Nat) : Char :=
  if n < 10 then Char.ofNat (48 + n) else Char.ofNat (55 + n)

/-- The value of a digit of either case. -/
def hexValue? (c : Char) : Option Nat :=
  let n := c.toNat
  if 48 ≤ n && n ≤ 57 then some (n - 48)
  else if 97 ≤ n && n ≤ 102 then some (n - 87)
  else if 65 ≤ n && n ≤ 70 then some (n - 55)
  else none

theorem hexValue?_lt {c : Char} {n : Nat} (h : hexValue? c = some n) : n < 16 := by
  unfold hexValue? at h
  simp only [Bool.and_eq_true, decide_eq_true_eq] at h
  split at h
  · cases h; omega
  · split at h
    · cases h; omega
    · split at h
      · cases h; omega
      · cases h

theorem hexValue?_hexDigit {n : Nat} (h : n < 16) : hexValue? (hexDigit n) = some n := by
  have : ∀ m : Fin 16, hexValue? (hexDigit m.val) = some m.val := by decide
  exact this ⟨n, h⟩

/-- The low `width` digits of a number, most significant first. -/
def hexFixed : (width : Nat) → (n : Nat) → List Char
  | 0, _ => []
  | width + 1, n => hexFixed width (n / 16) ++ [hexDigit (n % 16)]

@[simp] theorem length_hexFixed (width n : Nat) : (hexFixed width n).length = width := by
  induction width generalizing n with
  | zero => rfl
  | succ w ih => simp [hexFixed, ih]

/-- A number in as few digits as it needs, and one for zero. -/
def hexText (n : Nat) : List Char := Nat.toDigits 16 n

/-- One more digit on the right of a number read so far. -/
def hexStep (acc : Option Nat) (c : Char) : Option Nat := do
  let n ← acc
  let d ← hexValue? c
  return 16 * n + d

/-- The value of a run of digits, `none` when another character is among them. -/
def hexDigits? (cs : List Char) : Option Nat := cs.foldl hexStep (some 0)

/-- The value of a non-empty run of digits. -/
def hexNumber? (cs : List Char) : Option Nat := if cs.isEmpty then none else hexDigits? cs

theorem foldl_hexStep_hexFixed (width n a : Nat) (h : n < Nat.pow 16 width) :
    (hexFixed width n).foldl hexStep (some a) = some (Nat.pow 16 width * a + n) := by
  induction width generalizing n with
  | zero =>
    have hpow : Nat.pow 16 0 = 1 := rfl
    simp [hexFixed]
    omega
  | succ w ih =>
    have hpow : Nat.pow 16 (w + 1) = Nat.pow 16 w * 16 := rfl
    have hn : n / 16 < Nat.pow 16 w := Nat.div_lt_of_lt_mul (by omega)
    have hd : n % 16 < 16 := Nat.mod_lt _ (by decide)
    rw [hexFixed, List.foldl_append, ih _ hn]
    simp only [List.foldl_cons, List.foldl_nil, hexStep, hexValue?_hexDigit hd, bind, Option.bind,
      pure]
    congr 1
    have := Nat.div_add_mod n 16
    have e : Nat.pow 16 w * 16 * a = 16 * (Nat.pow 16 w * a) := by
      rw [Nat.mul_comm (Nat.pow 16 w) 16, Nat.mul_assoc]
    rw [hpow]
    omega

/-- **Reading what was written in fixed width gives the number back.** -/
theorem hexNumber?_hexFixed {width n : Nat} (hw : 0 < width) (h : n < Nat.pow 16 width) :
    hexNumber? (hexFixed width n) = some n := by
  have hne : (hexFixed width n).isEmpty = false := by
    cases hx : hexFixed width n with
    | nil => have := length_hexFixed width n; rw [hx] at this; simp at this; omega
    | cons _ _ => rfl
  simp [hexNumber?, hne, hexDigits?, foldl_hexStep_hexFixed width n 0 h]

end Text
end EventRelay

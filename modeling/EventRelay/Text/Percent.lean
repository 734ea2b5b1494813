/-
# Percent encoding

A text that has to pass through a URL keeps the characters that are safe there; every
byte of any other character is written as a percent sign and two hexadecimal digits.
Reading undoes that: a percent sign without two digits after it stands for itself, and
the bytes have to be UTF-8.
-/

import EventRelay.Text.Hex

namespace EventRelay
namespace Text

/-- A byte as a percent sign and two digits. -/
def percentByte (b : UInt8) : List Char :=
  ['%', hexDigitUpper (b.toNat / 16), hexDigitUpper (b.toNat % 16)]

/-- A character that a URL carries as it is, or the encoded bytes of another one. -/
def percentChar (isSafe : Char → Bool) (c : Char) : List Char :=
  if isSafe c then [c] else (String.utf8EncodeChar c).flatMap percentByte

/-- A text with every character encoded that is not safe. -/
def percentEncode (isSafe : Char → Bool) (cs : List Char) : List Char :=
  cs.flatMap (percentChar isSafe)

/-- The bytes that a text stands for. -/
def percentBytes : List Char → List UInt8
  | '%' :: a :: b :: rest =>
    match hexValue? a, hexValue? b with
    | some x, some y => UInt8.ofNat (16 * x + y) :: percentBytes rest
    | _, _ => String.utf8EncodeChar '%' ++ percentBytes (a :: b :: rest)
  | c :: rest => String.utf8EncodeChar c ++ percentBytes rest
  | [] => []

/-- The text that an encoded text stands for, unless its bytes are not UTF-8. -/
def percentDecode? (cs : List Char) : Option (List Char) :=
  (percentBytes cs).toByteArray.utf8Decode?.map Array.toList

@[simp] theorem hexValue?_hexDigitUpper {n : Nat} (h : n < 16) :
    hexValue? (hexDigitUpper n) = some n := by
  have : ∀ m : Fin 16, hexValue? (hexDigitUpper m.val) = some m.val := by decide
  exact this ⟨n, h⟩

/-- **An encoded byte is read back.** -/
theorem percentBytes_percentByte (b : UInt8) (rest : List Char) :
    percentBytes (percentByte b ++ rest) = b :: percentBytes rest := by
  have hb : b.toNat < 256 := b.toNat_lt
  simp only [percentByte, List.cons_append, List.nil_append, percentBytes,
    hexValue?_hexDigitUpper (show b.toNat / 16 < 16 by omega),
    hexValue?_hexDigitUpper (show b.toNat % 16 < 16 by omega)]
  rw [show 16 * (b.toNat / 16) + b.toNat % 16 = b.toNat by omega]
  simp

theorem percentBytes_flatMap_percentByte (bs : List UInt8) (rest : List Char) :
    percentBytes (bs.flatMap percentByte ++ rest) = bs ++ percentBytes rest := by
  induction bs with
  | nil => rfl
  | cons b bs ih => rw [List.flatMap_cons, List.append_assoc, percentBytes_percentByte, ih]; rfl

theorem percentBytes_cons_of_ne {c : Char} (h : c ≠ '%') (rest : List Char) :
    percentBytes (c :: rest) = String.utf8EncodeChar c ++ percentBytes rest := by
  rw [percentBytes]
  intro a b r hc
  exact absurd hc h

theorem percentBytes_percentChar {isSafe : Char → Bool} (h : isSafe '%' = false) (c : Char)
    (rest : List Char) :
    percentBytes (percentChar isSafe c ++ rest) =
      String.utf8EncodeChar c ++ percentBytes rest := by
  unfold percentChar
  split
  · rename_i hs
    have hne : c ≠ '%' := fun e => by rw [e, h] at hs; cases hs
    exact percentBytes_cons_of_ne hne rest
  · rw [percentBytes_flatMap_percentByte]

/-- **Encoding keeps the bytes of a text**, as long as the percent sign counts as unsafe. -/
theorem percentBytes_percentEncode {isSafe : Char → Bool} (h : isSafe '%' = false)
    (cs rest : List Char) :
    percentBytes (percentEncode isSafe cs ++ rest) =
      cs.flatMap String.utf8EncodeChar ++ percentBytes rest := by
  induction cs with
  | nil => rfl
  | cons c cs ih =>
    simp only [percentEncode, List.flatMap_cons, List.append_assoc] at ih ⊢
    rw [percentBytes_percentChar h, ih]

/-- **What was encoded is decoded again.** -/
theorem percentDecode?_percentEncode {isSafe : Char → Bool} (h : isSafe '%' = false)
    (cs : List Char) : percentDecode? (percentEncode isSafe cs) = some cs := by
  have hb := percentBytes_percentEncode h cs []
  simp only [List.append_nil, percentBytes] at hb
  unfold percentDecode?
  rw [hb]
  have : (cs.flatMap String.utf8EncodeChar).toByteArray = cs.utf8Encode := rfl
  rw [this, List.utf8Decode?_utf8Encode]
  simp

end Text
end EventRelay

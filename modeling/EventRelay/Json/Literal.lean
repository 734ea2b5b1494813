/-
# The value of a number literal

A literal without point and exponent whose value fits 64 bits is an integer, but for
`-0`; every other literal is a double.  Its digits are kept as long as they fit in 64
bits; digits of the whole part beyond that only raise the exponent, and further
decimals are dropped.  The double is then the kept digits scaled by a power of ten,
with one rounding for the digits and one for the scaling.

| literal | value |
| --- | --- |
| `18446744073709551615` | integer |
| `18446744073709551616` | double |
| `-0` | the double `-0.0` |
| `1e400` | none: too large |
| `1e-400` | `0.0` |
-/

import EventRelay.Json.Value
import EventRelay.Text.Numeral

namespace EventRelay
namespace Json

/-- The parts of a number literal, digits as values. -/
structure Literal where
  negative : Bool
  whole : List Nat
  /-- The digits after the point, if there is a point. -/
  decimals : Option (List Nat)
  /-- Sign (`true` for minus) and digits of the exponent, if there is one. -/
  exponent : Option (Bool × List Nat)

namespace Literal

/-- The bound of an unsigned word. -/
def wordBound : Nat := 1 <<< 64

/-- The bound of an exponent's size. -/
def exponentBound : Nat := 1 <<< 31

/-- Digits kept so far, and how many digits of the whole part were too many. -/
structure Kept where
  digits : Nat
  shift : Int
  full : Bool

/-- One more digit of the whole part. -/
def Kept.whole (k : Kept) (d : Nat) : Kept :=
  if k.full || wordBound ≤ 10 * k.digits + d then { k with shift := k.shift + 1, full := true }
  else { k with digits := 10 * k.digits + d }

/-- One more decimal. -/
def Kept.decimal (k : Kept) (d : Nat) : Kept :=
  if k.full || wordBound ≤ 10 * k.digits + d then { k with full := true }
  else { k with digits := 10 * k.digits + d, shift := k.shift - 1 }

/-- The nearest double to a power of ten below `10 ^ 309`. -/
def powerOfTen (n : Nat) : Magnitude := (Magnitude.ofNat? (Nat.pow 10 n)).getD Magnitude.zero

/-- A magnitude times `10 ^ k`, `none` when it is too large. -/
def scale : (fuel : Nat) → Magnitude → (k : Int) → Option Magnitude
  | 0, x, _ => some x
  | fuel + 1, x, k =>
    if k.natAbs ≤ 308 then
      if 0 ≤ k then x.mul? (powerOfTen k.natAbs) else x.div? (powerOfTen k.natAbs)
    else if x.isZero then some x
    else if 0 ≤ k then none
    else (x.div? (powerOfTen 308)).bind fun y => scale fuel y (k + 308)

/-- The value of a run of digits, `none` when it reaches the bound of exponents. -/
def exponent? (ds : List Nat) : Option Nat :=
  ds.foldl (fun acc d => do
    let n := 10 * (← acc) + d
    if n < exponentBound then some n else none) (some 0)

/-- The double of a literal. -/
def double? (l : Literal) : Option Binary64 := do
  let whole := l.whole.foldl Kept.whole ⟨0, 0, false⟩
  let kept := (l.decimals.getD []).foldl Kept.decimal { whole with full := false }
  let magnitude ←
    match l.exponent with
    | none => (Magnitude.ofNat? kept.digits).bind fun x => scale 8 x kept.shift
    | some (minus, ds) =>
      match exponent? ds with
      | some e =>
        let shift := if minus then kept.shift - (e : Int) else kept.shift + (e : Int)
        (Magnitude.ofNat? kept.digits).bind fun x => scale 8 x shift
      | none => if kept.digits = 0 || minus then some Magnitude.zero else none
  return ⟨l.negative, magnitude⟩

/-- The value of a literal, `none` when it is too large for a double. -/
def number? (l : Literal) : Option Number :=
  let n := l.whole.foldl (fun acc d => 10 * acc + d) 0
  if l.decimals.isNone && l.exponent.isNone && !l.negative && n < wordBound then
    some (.integer n)
  else if l.decimals.isNone && l.exponent.isNone && l.negative && 0 < n && n ≤ 1 <<< 63 then
    some (.integer (-(n : Int)))
  else l.double?.map .double

end Literal
end Json
end EventRelay

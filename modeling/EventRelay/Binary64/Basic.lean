/-
# Double-precision numbers

A finite double is a sign and `mantissa · 2 ^ exponent` with

| part | range |
| --- | --- |
| `mantissa` | below `2 ^ 53`, and at least `2 ^ 52` unless the exponent is the least |
| `exponent` | from `-1074` to `971` |

`round?` takes a quotient of naturals to the nearest such magnitude, ties to the
even mantissa; `none` means the quotient is too large.  Product and quotient of
magnitudes are the exact results, rounded once.
-/

namespace EventRelay

/-- The size of a finite double: `mantissa · 2 ^ exponent`. -/
structure Magnitude where
  mantissa : Nat
  exponent : Int
  deriving DecidableEq, Repr

/-- A finite double. -/
structure Binary64 where
  negative : Bool
  magnitude : Magnitude
  deriving DecidableEq, Repr

namespace Magnitude

/-- The least exponent, that of zero and of the subnormal numbers. -/
def minExponent : Int := -1074

/-- The greatest exponent of a finite number. -/
def maxExponent : Int := 971

def zero : Magnitude := ⟨0, minExponent⟩

def isZero (x : Magnitude) : Bool := x.mantissa == 0

/-- Numerator of the exact value. -/
def num (x : Magnitude) : Nat := x.mantissa <<< x.exponent.toNat

/-- Denominator of the exact value. -/
def den (x : Magnitude) : Nat := 1 <<< (-x.exponent).toNat

theorem den_pos (x : Magnitude) : 0 < x.den := by simp [den]

/-- The quotient `num / (den · 2 ^ e)` rounded to an integer, a tie to the even one. -/
def roundAt (num den : Nat) (e : Int) : Nat :=
  let n := num <<< (-e).toNat
  let d := den <<< e.toNat
  let q := n / d
  let r := n % d
  if 2 * r < d then q else if 2 * r = d then q + q % 2 else q + 1

/-- The exponent at which `num / den` has 53 binary digits, or the least exponent. -/
def exponentFor (num den : Nat) : Int :=
  let guess : Int := (num.log2 : Int) - (den.log2 : Int) - 53
  let short := num <<< (-(guess + 1)).toNat < den <<< ((guess + 1).toNat + 52)
  max minExponent (if short then guess else guess + 1)

/-- The magnitude nearest to `num / den`, `none` when it would be infinite. -/
def round? (num den : Nat) : Option Magnitude :=
  if num = 0 then some zero
  else
    let e := exponentFor num den
    let m := roundAt num den e
    let x : Magnitude := if m = 1 <<< 53 then ⟨1 <<< 52, e + 1⟩ else ⟨m, e⟩
    if x.exponent ≤ maxExponent then some x else none

/-- The nearest magnitude to a natural number. -/
def ofNat? (n : Nat) : Option Magnitude := round? n 1

/-- The product of two magnitudes, rounded once. -/
def mul? (x y : Magnitude) : Option Magnitude := round? (x.num * y.num) (x.den * y.den)

/-- The quotient of two magnitudes, rounded once; the divisor is not zero. -/
def div? (x y : Magnitude) : Option Magnitude := round? (x.num * y.den) (x.den * y.num)

theorem round?_zero (den : Nat) : round? 0 den = some zero := by simp [round?]

end Magnitude
end EventRelay

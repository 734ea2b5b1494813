/-
# The shortest decimal text of a double

`Magnitude.shortest` gives the fewest decimal digits that read back as the same
double, and of those the ones nearest to it.  A decimal reads back when it lies
between the midpoints to the two neighbouring doubles, the midpoints included
exactly for an even mantissa.

For one digit, two digits, and so on up to seventeen, only the two points of that
decimal grid next to the value are tried: if any point of a grid reads back, one of
these two does.
-/

import EventRelay.Binary64.Basic

namespace EventRelay
namespace Magnitude

/-- `10 ^ e ≤ num / den < 10 ^ (e + 1)` for this `e`. -/
def decimalExponent (num den : Nat) : Int :=
  if den ≤ num then ((Nat.toDigits 10 (num / den)).length : Int) - 1
  else -(((List.range 400).find? fun j => den ≤ num * Nat.pow 10 j).getD 400 : Int)

/-- Whether `digits · 10 ^ k` lies between the midpoints around the magnitude. -/
def readsBack (x : Magnitude) (digits : Nat) (k : Int) : Bool :=
  let below := if x.mantissa = 1 <<< 52 ∧ minExponent < x.exponent then 1 else 2
  let e := x.exponent - 2
  let point := (digits * Nat.pow 10 k.toNat) <<< (-e).toNat
  let unit := Nat.pow 10 (-k).toNat <<< e.toNat
  let low := (4 * x.mantissa - below) * unit
  let high := (4 * x.mantissa + 2) * unit
  if x.mantissa % 2 = 0 then low ≤ point && point ≤ high else low < point && point < high

/-- The point of the grid with step `10 ^ k` that reads back and is nearest to the value. -/
def onGrid? (x : Magnitude) (k : Int) : Option Nat :=
  let n := x.num * Nat.pow 10 (-k).toNat
  let d := x.den * Nat.pow 10 k.toNat
  let floor := n / d
  let downIsNearer := 2 * (n % d) ≤ d
  match x.readsBack floor k, x.readsBack (floor + 1) k with
  | true, true => some (if downIsNearer then floor else floor + 1)
  | true, false => some floor
  | false, true => some (floor + 1)
  | false, false => none

/-- Digits `n` and exponent `k` of the shortest decimal `n · 10 ^ k`. -/
def shortest (x : Magnitude) : Nat × Int :=
  if x.mantissa = 0 then (0, 0)
  else
    let top := decimalExponent x.num x.den
    let tries := (List.range 17).filterMap fun (i : Nat) =>
      let k := top - (i : Int)
      (x.onGrid? k).map fun n => (n, k)
    tries.headD (x.num / x.den, 0)

end Magnitude

namespace Binary64

/-- Where a decimal text changes from positional to scientific notation. -/
structure DecimalStyle where
  /-- Positional when the point falls at most this many digits right of the first. -/
  maxIntegerDigits : Int
  /-- Positional when fewer than this many zeros stand between point and digits. -/
  maxLeadingZeros : Int

/-- Numbers are positional below `10 ^ 16` and down to `10 ^ -5`. -/
def jsonStyle : DecimalStyle := ⟨16, 5⟩

/-- The decimal text of digits times a power of ten, with at least one decimal when positional. -/
def decimalText (style : DecimalStyle) (digits : Nat) (k : Int) : List Char :=
  let ds := Nat.toDigits 10 digits
  let point := (ds.length : Int) + k
  if 0 ≤ k ∧ point ≤ style.maxIntegerDigits then
    ds ++ List.replicate k.toNat '0' ++ ['.', '0']
  else if 0 < point ∧ point ≤ style.maxIntegerDigits then
    ds.take point.toNat ++ '.' :: ds.drop point.toNat
  else if -style.maxLeadingZeros < point ∧ point ≤ 0 then
    ['0', '.'] ++ List.replicate (-point).toNat '0' ++ ds
  else
    let scale := (toString (point - 1)).toList
    match ds with
    | [d] => d :: 'e' :: scale
    | d :: rest => d :: '.' :: rest ++ 'e' :: scale
    | [] => []

/-- The digits of a decimal without its trailing zeros, and the exponent that makes up for them. -/
def stripZeros : (fuel digits : Nat) → Int → Nat × Int
  | 0, digits, k => (digits, k)
  | fuel + 1, digits, k =>
    if digits ≠ 0 ∧ digits % 10 = 0 then stripZeros fuel (digits / 10) (k + 1) else (digits, k)

/-- The shortest text of a double. -/
def text (x : Binary64) : String :=
  let (digits, k) := x.magnitude.shortest
  let (digits, k) := stripZeros 20 digits k
  let body := if digits = 0 then ['0', '.', '0'] else decimalText jsonStyle digits k
  String.ofList (if x.negative then '-' :: body else body)

end Binary64
end EventRelay

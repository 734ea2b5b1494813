/-
# Lengths of time

A duration counts nanoseconds.  A message shows it in the largest of the units second,
millisecond, microsecond and nanosecond that it reaches, with as many decimals as it
needs: `10s`, `1.5µs`, `999ns`.
-/

namespace EventRelay

/-- A length of time. -/
structure Duration where
  nanos : Nat
  deriving DecidableEq, Repr

namespace Duration

def ofNanos (n : Nat) : Duration := ⟨n⟩

def ofMillis (n : Nat) : Duration := ⟨n * 1000000⟩

def ofSeconds (n : Nat) : Duration := ⟨n * 1000000000⟩

/-- Whole milliseconds. -/
def millis (d : Duration) : Nat := d.nanos / 1000000

/-- Whole seconds. -/
def seconds (d : Duration) : Nat := d.nanos / 1000000000

@[simp] theorem millis_ofMillis (n : Nat) : (ofMillis n).millis = n := by
  simp [millis, ofMillis]

@[simp] theorem seconds_ofSeconds (n : Nat) : (ofSeconds n).seconds = n := by
  simp [seconds, ofSeconds]

/-- The digits of a fraction of `10 ^ width`, without the zeros at its end. -/
def fractionDigits (width n : Nat) : List Char :=
  let ds := Nat.toDigits 10 n
  let padded := List.replicate (width - ds.length) '0' ++ ds
  (padded.reverse.dropWhile (· = '0')).reverse

/-- A count of units of `10 ^ width` nanoseconds, and the nanoseconds beyond them. -/
def inUnits (width whole rest : Nat) (unit : String) : String :=
  let fraction := fractionDigits width rest
  toString whole ++ (if fraction.isEmpty then "" else "." ++ String.ofList fraction) ++ unit

/-- A duration as messages show it. -/
def text (d : Duration) : String :=
  let n := d.nanos
  if 1000000000 ≤ n then inUnits 9 (n / 1000000000) (n % 1000000000) "s"
  else if 1000000 ≤ n then inUnits 6 (n / 1000000) (n % 1000000) "ms"
  else if 1000 ≤ n then inUnits 3 (n / 1000) (n % 1000) "µs"
  else inUnits 0 n 0 "ns"

end Duration
end EventRelay

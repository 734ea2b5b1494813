/-
# Decimal numerals of bounded range

The numerals that settings and options are written in: ASCII digits with an
optional sign, without separators, and a value inside the range of the field they
are for.  A minus sign is read only where the range holds negative numbers.
-/

namespace EventRelay
namespace Text

/-- The value of an ASCII digit. -/
def digitValue? (c : Char) : Option Nat :=
  if 48 ≤ c.toNat && c.toNat ≤ 57 then some (c.toNat - 48) else none

/-- The value of a non-empty run of ASCII digits. -/
def digits? (cs : List Char) : Option Nat :=
  if cs.isEmpty then none
  else cs.foldl (fun acc c => do return 10 * (← acc) + (← digitValue? c)) (some 0)

/-- A numeral without minus sign and of value below `bound`. -/
def natural? (bound : Nat) (s : String) : Option Nat := do
  let cs := s.toList
  let n ← digits? (if cs.head? = some '+' then cs.drop 1 else cs)
  if n < bound then some n else none

/-- A signed numeral `i` with `-bound ≤ i < bound`. -/
def integer? (bound : Nat) (s : String) : Option Int := do
  let cs := s.toList
  if cs.head? = some '-' then
    let n ← digits? (cs.drop 1)
    if n ≤ bound then some (-(n : Int)) else none
  else
    let n ← digits? (if cs.head? = some '+' then cs.drop 1 else cs)
    if n < bound then some (n : Int) else none

/-- The two truth values by name. -/
def truth? (s : String) : Option Bool :=
  if s = "true" then some true else if s = "false" then some false else none

theorem natural?_lt {bound n : Nat} {s : String} (h : natural? bound s = some n) : n < bound := by
  simp only [natural?, bind, Option.bind_eq_some_iff] at h
  obtain ⟨m, _, hm⟩ := h
  split at hm
  · cases hm; assumption
  · cases hm

end Text
end EventRelay

/-
# UUIDs

A UUID is a number of 128 bits.  It is written in lower case with hyphens after 8, 12,
16 and 20 digits and read in four forms, digits in either case:

| form | example |
| --- | --- |
| hyphenated | `01890a5d-ac96-774b-bcce-b302099a8057` |
| simple | `01890a5dac96774bbcceb302099a8057` |
| braced | a hyphenated one between braces |
| URN | `urn:uuid:` in any case before a hyphenated one |
-/

import EventRelay.Text.Hex

namespace EventRelay

/-- A number of 128 bits. -/
structure Uuid where
  val : Nat
  lt : val < 1 <<< 128
  deriving DecidableEq

namespace Uuid

/-- The digits of a UUID. -/
def digits (u : Uuid) : List Char := Text.hexFixed 32 u.val

@[simp] theorem length_digits (u : Uuid) : u.digits.length = 32 := Text.length_hexFixed 32 u.val

/-- Digits in five groups with hyphens between them. -/
def group (ds : List Char) : List Char :=
  ds.take 8 ++ '-' :: (ds.drop 8).take 4 ++ '-' :: (ds.drop 12).take 4 ++
    '-' :: (ds.drop 16).take 4 ++ '-' :: ds.drop 20

/-- The hyphenated text of a UUID. -/
def text (u : Uuid) : String := String.ofList (group u.digits)

/-- The four bits that name the version of a UUID. -/
def version (u : Uuid) : Nat := u.val >>> 76 % 16

/-- A UUID of the number that a run of digits stands for. -/
def ofDigits? (ds : List Char) : Option Uuid := do
  let n ← Text.hexNumber? ds
  if h : n < 1 <<< 128 then some ⟨n, h⟩ else none

/-- Reads the hyphenated form. -/
def ofHyphenated? (cs : List Char) : Option Uuid :=
  let ds := cs.filter (· ≠ '-')
  if ds.length = 32 ∧ cs = group ds then ofDigits? ds else none

/-- The mark of the URN form. -/
def urnMark : List Char := ['u', 'r', 'n', ':', 'u', 'u', 'i', 'd', ':']

/-- What is left of a text once the wrapping of a hyphenated UUID is taken off, and how much came
off in front; `none` for the bare text. -/
def unwrap? (cs : List Char) : Option (List Char × Nat) :=
  if cs.head? = some '\x7b' ∧ 2 ≤ cs.length ∧ cs.getLast? = some '\x7d' then
    some ((cs.drop 1).dropLast, 1)
  else if (cs.take 9).map Char.toLower = urnMark then some (cs.drop 9, 9)
  else none

/-- Reads any of the four forms. -/
def parse? (s : String) : Option Uuid :=
  let cs := s.toList
  match unwrap? cs with
  | some (inner, _) => ofHyphenated? inner
  | none => if cs.length = 32 then ofDigits? cs else ofHyphenated? cs

/-- Why a text is no UUID. -/
inductive Problem where
  | character (c : Char) (index : Nat)
  | length (count : Nat)
  | groupCount (count : Nat)
  | groupLength (index expected count : Nat)
  deriving DecidableEq, Repr

/-- The wording of a problem. -/
def Problem.message : Problem → String
  | character c index =>
    "invalid character: found `" ++ c.toString ++ "` at " ++ toString index
  | length count => "invalid length: found " ++ toString count
  | groupCount count => "invalid group count: expected 5, found " ++ toString count
  | groupLength index expected count =>
    "invalid group length in group " ++ toString index ++ ": expected " ++ toString expected ++
      ", found " ++ toString count

/-- The lengths of the five groups. -/
def groupLengths : List Nat := [8, 4, 4, 4, 12]

/-- The first group, counted from `index`, that has another length than it should. -/
def wrongGroup? : (index : Nat) → List Nat → List Nat → Option Problem
  | index, expected :: es, count :: cs =>
    if expected = count then wrongGroup? (index + 1) es cs
    else some (.groupLength index expected count)
  | _, _, _ => none

/-- What is wrong with a text that is no UUID. -/
def problem (s : String) : Problem :=
  let cs := s.toList
  let (body, offset) := (unwrap? cs).getD (cs, 0)
  let wrong := body.zipIdx.find? fun p => p.1 ≠ '-' && (Text.hexValue? p.1).isNone
  match wrong with
  | some (c, i) => .character c (offset + (body.take i).foldl (fun n c => n + c.utf8Size) 0)
  | none =>
    let groups := (body.splitOn '-').map List.length
    if groups.length = 1 ∧ (unwrap? cs).isNone then .length s.utf8ByteSize
    else if groups.length ≠ 5 then .groupCount groups.length
    else (wrongGroup? 0 groupLengths groups).getD (.length s.utf8ByteSize)

/-- Reads a UUID or says why there is none. -/
def parse (s : String) : Except Problem Uuid :=
  match parse? s with
  | some u => .ok u
  | none => .error (problem s)

/-- The UUID of version 7 for a time in milliseconds and a serial number. -/
def ofTime (millis serial : Nat) : Uuid :=
  let high := (millis % 1 <<< 48) <<< 80 + 7 <<< 76 + (serial >>> 62 % 1 <<< 12) <<< 64
  let low := 1 <<< 63 + serial % 1 <<< 62
  ⟨high + low, by
    have h1 : millis % 1 <<< 48 < 1 <<< 48 := Nat.mod_lt _ (by decide)
    have h2 : serial >>> 62 % 1 <<< 12 < 1 <<< 12 := Nat.mod_lt _ (by decide)
    have h3 : serial % 1 <<< 62 < 1 <<< 62 := Nat.mod_lt _ (by decide)
    omega⟩

theorem version_ofTime (millis serial : Nat) : (ofTime millis serial).version = 7 := by
  have h2 : serial >>> 62 % 1 <<< 12 < 1 <<< 12 := Nat.mod_lt _ (by decide)
  have h3 : serial % 1 <<< 62 < 1 <<< 62 := Nat.mod_lt _ (by decide)
  simp only [version, ofTime]
  omega

end Uuid
end EventRelay

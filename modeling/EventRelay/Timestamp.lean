/-
# Points in time as text

A timestamp is a date and a time of day in UTC, with nanoseconds; a leap second is second
60.  It is written as RFC 3339 has it, with a `Z` and as many decimals as it needs, in
threes: none, 3, 6 or 9.

Reading is wider: blanks around the numbers, one or two digits where two are usual, a
space or `t` before the time, an offset or `UTC` in place of `Z`, and any number of
decimals, of which nine count.  A time with an offset is brought to UTC.
-/

import EventRelay.Text.Blank
import EventRelay.Text.Numeral

namespace EventRelay
namespace Timestamp

/-- Whether a year of the Gregorian calendar has a 29th of February. -/
def isLeapYear (year : Int) : Bool := year % 4 = 0 && (year % 100 ≠ 0 || year % 400 = 0)

/-- The days of a month. -/
def daysIn (year : Int) (month : Nat) : Nat :=
  if month = 2 then (if isLeapYear year then 29 else 28)
  else if month = 4 ∨ month = 6 ∨ month = 9 ∨ month = 11 then 30 else 31

/-- The least and the greatest year. -/
def minYear : Int := -262143

def maxYear : Int := 262142

/-- Dates that exist. -/
def ValidDate (year : Int) (month day : Nat) : Prop :=
  minYear ≤ year ∧ year ≤ maxYear ∧ 1 ≤ month ∧ month ≤ 12 ∧ 1 ≤ day ∧ day ≤ daysIn year month

/-- Times of day that exist. -/
def ValidTime (hour minute second nano : Nat) : Prop :=
  hour < 24 ∧ minute < 60 ∧ second ≤ 60 ∧ nano < 1000000000

instance (y : Int) (m d : Nat) : Decidable (ValidDate y m d) := by
  unfold ValidDate; infer_instance

instance (h m s n : Nat) : Decidable (ValidTime h m s n) := by
  unfold ValidTime; infer_instance

end Timestamp

/-- A point in time, in UTC. -/
structure Timestamp where
  year : Int
  month : Nat
  day : Nat
  hour : Nat
  minute : Nat
  second : Nat
  nano : Nat
  validDate : Timestamp.ValidDate year month day
  validTime : Timestamp.ValidTime hour minute second nano
  deriving DecidableEq

namespace Timestamp

/-- A number in at least `width` digits. -/
def padded (width n : Nat) : List Char :=
  let ds := Nat.toDigits 10 n
  List.replicate (width - ds.length) '0' ++ ds

/-- A year: four digits, and a sign outside of 0 to 9999. -/
def yearText (year : Int) : List Char :=
  if 0 ≤ year ∧ year ≤ 9999 then padded 4 year.toNat
  else if 0 ≤ year then '+' :: padded 4 year.toNat
  else '-' :: padded 4 year.natAbs

/-- Decimals in threes, none for zero. -/
def decimals (nano : Nat) : List Char :=
  if nano = 0 then []
  else if nano % 1000000 = 0 then '.' :: padded 3 (nano / 1000000)
  else if nano % 1000 = 0 then '.' :: padded 6 (nano / 1000)
  else '.' :: padded 9 nano

/-- The text of a point in time. -/
def text (t : Timestamp) : String :=
  String.ofList (yearText t.year ++ '-' :: padded 2 t.month ++ '-' :: padded 2 t.day ++
    'T' :: padded 2 t.hour ++ ':' :: padded 2 t.minute ++ ':' :: padded 2 t.second ++
    decimals t.nano ++ ['Z'])

/-- Why a text is no point in time. -/
inductive Problem where
  | outOfRange
  | invalid
  | tooShort
  | tooLong
  deriving DecidableEq, Repr

/-- The wording of a problem. -/
def Problem.message : Problem → String
  | outOfRange => "input is out of range"
  | invalid => "input contains invalid characters"
  | tooShort => "premature end of input"
  | tooLong => "trailing input"

/-- A text from its first character that is not blank. -/
def skipBlanks (cs : List Char) : List Char := cs.dropWhile Text.isBlank

/-- A number of one to `most` digits. -/
def readNumber (most : Nat) (cs : List Char) : Except Problem (Nat × List Char) :=
  match cs with
  | [] => .error .tooShort
  | _ =>
    let ds := (cs.take most).takeWhile Char.isDigit
    match Text.digits? ds with
    | none => .error .invalid
    | some n => if n < 1 <<< 63 then .ok (n, cs.drop ds.length) else .error .outOfRange

/-- A year, of any number of digits behind a sign. -/
def readYear (cs : List Char) : Except Problem (Int × List Char) :=
  match cs with
  | '-' :: rest => (readNumber rest.length rest).map fun (n, after) => (-(n : Int), after)
  | '+' :: rest => (readNumber rest.length rest).map fun (n, after) => ((n : Int), after)
  | _ => (readNumber 4 cs).map fun (n, after) => ((n : Int), after)

/-- One fixed character. -/
def readMark (c : Char) (cs : List Char) : Except Problem (List Char) :=
  match cs with
  | [] => .error .tooShort
  | d :: rest => if d = c then .ok rest else .error .invalid

/-- A number of one or two digits within bounds, blanks before it skipped. -/
def readPart (low high : Nat) (cs : List Char) : Except Problem (Nat × List Char) := do
  let (n, rest) ← readNumber 2 (skipBlanks cs)
  if low ≤ n ∧ n ≤ high then .ok (n, rest) else .error .outOfRange

/-- The nanoseconds after a point, if a point is next. -/
def readNanos (cs : List Char) : Except Problem (Nat × List Char) :=
  match cs with
  | '.' :: rest => do
    let (n, _) ← readNumber 9 rest
    let used := ((rest.take 9).takeWhile Char.isDigit).length
    return (n * Nat.pow 10 (9 - used), rest.dropWhile Char.isDigit)
  | _ => .ok (0, cs)

/-- Two digits. -/
def readTwo (cs : List Char) : Except Problem ((Nat × Nat) × List Char) :=
  match cs with
  | a :: b :: rest =>
    match Text.digitValue? a, Text.digitValue? b with
    | some x, some y => .ok ((x, y), rest)
    | _, _ => .error .invalid
  | _ => .error .tooShort

/-- An offset from UTC in minutes. -/
def readOffset (cs : List Char) : Except Problem (Int × List Char) :=
  match cs with
  | [] => .error .tooShort
  | c :: rest =>
    if c = 'Z' ∨ c = 'z' then .ok (0, rest)
    else if (cs.take 3).map Char.toLower = ['u', 't', 'c'] then .ok (0, cs.drop 3)
    else if c = '+' ∨ c = '-' ∨ c = '\u2212' then do
      let ((h1, h2), rest) ← readTwo rest
      let rest := rest.dropWhile fun c => c = ':' || Text.isBlank c
      let ((m1, m2), rest) ← readTwo rest
      if 6 ≤ m1 then .error .outOfRange
      else
        let minutes : Int := (10 * h1 + h2) * 60 + 10 * m1 + m2
        .ok (if c = '+' then minutes else -minutes, rest)
    else .error .invalid

/-- The date a day later. -/
def nextDate (year : Int) (month day : Nat) : Int × Nat × Nat :=
  if day < daysIn year month then (year, month, day + 1)
  else if month < 12 then (year, month + 1, 1)
  else (year + 1, 1, 1)

/-- The date a day earlier. -/
def previousDate (year : Int) (month day : Nat) : Int × Nat × Nat :=
  if 1 < day then (year, month, day - 1)
  else if 1 < month then (year, month - 1, daysIn year (month - 1))
  else (year - 1, 12, 31)

/-- The point in time of a date and a time of day, if both exist. -/
def ofParts? (date : Int × Nat × Nat) (hour minute second nano : Nat) : Option Timestamp :=
  if hd : ValidDate date.1 date.2.1 date.2.2 then
    if ht : ValidTime hour minute second nano then
      some ⟨date.1, date.2.1, date.2.2, hour, minute, second, nano, hd, ht⟩
    else none
  else none

/-- A local time brought to UTC. -/
def toUtc? (date : Int × Nat × Nat) (hour minute second nano : Nat) (offset : Int) :
    Option Timestamp :=
  let minutes : Int := 60 * hour + minute - offset
  let date :=
    if minutes < 0 then previousDate date.1 date.2.1 date.2.2
    else if 1440 ≤ minutes then nextDate date.1 date.2.1 date.2.2
    else date
  let ofDay := (minutes % 1440).toNat
  ofParts? date (ofDay / 60) (ofDay % 60) second nano

/-- Reads a point in time. -/
def parse (s : String) : Except Problem Timestamp := do
  let (year, rest) ← readYear (skipBlanks s.toList)
  if year < -0x80000000 ∨ 0x80000000 ≤ year then .error .outOfRange
  let rest ← readMark '-' (skipBlanks rest)
  let (month, rest) ← readPart 1 12 rest
  let rest ← readMark '-' (skipBlanks rest)
  let (day, rest) ← readPart 1 31 rest
  let rest ←
    match rest with
    | [] => .error .tooShort
    | c :: after => if c = 't' ∨ c = 'T' ∨ c = ' ' then .ok after else .error .invalid
  let (hour, rest) ← readPart 0 23 rest
  let rest ← readMark ':' (skipBlanks rest)
  let (minute, rest) ← readPart 0 59 rest
  let rest ← readMark ':' (skipBlanks rest)
  let (second, rest) ← readPart 0 60 rest
  let (nano, rest) ← readNanos rest
  let (offset, rest) ← readOffset (skipBlanks rest)
  if (skipBlanks rest).isEmpty then
    if ValidDate year month day ∧ -1440 < offset ∧ offset < 1440 then
      match toUtc? (year, month, day) hour minute second nano offset with
      | some t => .ok t
      | none => .error .outOfRange
    else .error .outOfRange
  else .error .tooLong

/-- The date of a number of days since the start of 1970. -/
def dateOfDay (days : Nat) : Int × Nat × Nat :=
  let z := days + 719468
  let era := z / 146097
  let dayOfEra := z % 146097
  let yearOfEra := (dayOfEra - dayOfEra / 1460 + dayOfEra / 36524 - dayOfEra / 146096) / 365
  let dayOfYear := dayOfEra - (365 * yearOfEra + yearOfEra / 4 - yearOfEra / 100)
  let fifth := (5 * dayOfYear + 2) / 153
  let day := dayOfYear - (153 * fifth + 2) / 5 + 1
  let month := if fifth < 10 then fifth + 3 else fifth - 9
  let year := yearOfEra + era * 400 + (if month ≤ 2 then 1 else 0)
  ((year : Int), month, day)

/-- The start of 1970. -/
def unixEpoch : Timestamp := ⟨1970, 1, 1, 0, 0, 0, 0, by decide, by decide⟩

/-- The point in time a number of nanoseconds after the start of 1970. -/
def ofUnixNanos (nanos : Nat) : Timestamp :=
  let seconds := nanos / 1000000000
  let ofDay := seconds % 86400
  (ofParts? (dateOfDay (seconds / 86400)) (ofDay / 3600) (ofDay % 3600 / 60) (ofDay % 60)
    (nanos % 1000000000)).getD unixEpoch

end Timestamp
end EventRelay

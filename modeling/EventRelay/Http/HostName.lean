/-
# Names of hosts in URLs

A host is a domain, an IPv4 address or an IPv6 address in brackets, and each has one
written form: a domain in lower case, an IPv4 address as four decimal numbers, an IPv6
address in groups of four hexadecimal digits with its longest run of zero groups left
out.  A name whose last label is a number has to be an IPv4 address.
-/

import EventRelay.Text.Numeral
import EventRelay.Text.Percent

namespace EventRelay
namespace HostName

/-- What can be wrong with the name of a host. -/
inductive Problem where
  | empty
  | domain
  | ipv4
  | ipv6
  deriving DecidableEq, Repr

namespace Problem

/-- The wording of a problem. -/
def message : Problem → String
  | empty => "empty host"
  | domain => "invalid international domain name"
  | ipv4 => "invalid IPv4 address"
  | ipv6 => "invalid IPv6 address"

end Problem

/-- Characters that no domain holds. -/
def forbidden : List Char :=
  ['"', '#', '%', '/', ':', '<', '>', '?', '@', '[', '\\', ']', '^', '\x60', '\x7b', '|', '\x7d',
    '\x7f']

/-- Whether a domain may hold a character. -/
def isDomainChar (c : Char) : Bool :=
  0x20 < c.toNat && c.toNat < 0x80 && !forbidden.contains c

/-- A number in the notation of IPv4 addresses: hexadecimal after `0x`, octal after `0`. -/
def ipv4Number? (cs : List Char) : Option Nat :=
  match cs with
  | [] => none
  | '0' :: x :: rest =>
    if x = 'x' ∨ x = 'X' then
      if rest.isEmpty then some 0 else Text.hexDigits? rest
    else if (x :: rest).all fun c => '0' ≤ c ∧ c ≤ '7' then
      some ((x :: rest).foldl (fun n c => 8 * n + (c.toNat - 48)) 0)
    else none
  | cs => Text.digits? cs

/-- The labels of a name, without the empty one at its end. -/
def labels (cs : List Char) : List (List Char) :=
  let parts := cs.splitOn '.'
  if parts.length ≥ 2 ∧ parts.getLast? = some [] then parts.dropLast else parts

/-- Whether the last label of a name is a number. -/
def endsInNumber (cs : List Char) : Bool :=
  match (labels cs).getLast? with
  | none => false
  | some last =>
    (!last.isEmpty && last.all Char.isDigit) ||
      (last.take 2 == ['0', 'x'] && (ipv4Number? last).isSome)

/-- The value of an IPv4 address; its last number fills what the others leave. -/
def ipv4Value? (numbers : List Nat) : Option Nat :=
  let count := numbers.length
  let firsts := numbers.dropLast
  if firsts.all (· < 256) then
    match numbers.getLast? with
    | none => none
    | some last =>
      if last < 1 <<< (8 * (5 - count)) then
        some (firsts.foldl (fun n b => 256 * n + b) 0 <<< (8 * (5 - count)) + last)
      else none
  else none

/-- An IPv4 address in its written form. -/
def ipv4 (cs : List Char) : Except Problem String :=
  let parts := labels cs
  if 4 < parts.length then .error .ipv4
  else
    match parts.mapM ipv4Number? with
    | none => .error .ipv4
    | some numbers =>
      match ipv4Value? numbers with
      | none => .error .ipv4
      | some v =>
        .ok (".".intercalate
          [toString (v >>> 24), toString (v >>> 16 % 256), toString (v >>> 8 % 256),
            toString (v % 256)])

/-- One group of an IPv6 address. -/
def ipv6Group? (cs : List Char) : Option Nat :=
  if cs.length ≤ 4 then Text.hexNumber? cs else none

/-- The dotted end of an IPv6 address as two groups. -/
def ipv6Tail? (cs : List Char) : Option (List Nat) := do
  let parts := cs.splitOn '.'
  let numbers ← parts.mapM fun p =>
    if p.length ≤ 3 ∧ (p.length ≤ 1 ∨ p.head? ≠ some '0') then Text.digits? p else none
  match numbers with
  | [a, b, c, d] =>
    if a < 256 ∧ b < 256 ∧ c < 256 ∧ d < 256 then some [256 * a + b, 256 * c + d] else none
  | _ => none

/-- A run of groups between colons; the last one may be dotted. -/
def ipv6Run? : List (List Char) → Option (List Nat)
  | [] => some []
  | [last] => if last.contains '.' then ipv6Tail? last else (ipv6Group? last).map ([·])
  | g :: rest => do return (← ipv6Group? g) :: (← ipv6Run? rest)

/-- What stands before and after the first double colon. -/
def splitAtGap? : List Char → Option (List Char × List Char)
  | ':' :: ':' :: rest => some ([], rest)
  | c :: rest => (splitAtGap? rest).map fun (before, after) => (c :: before, after)
  | [] => none

/-- The groups of a side of a gap; an empty side has none. -/
def ipv6Side? (cs : List Char) : Option (List Nat) :=
  if cs.isEmpty then some [] else ipv6Run? (cs.splitOn ':')

/-- The eight groups of an IPv6 address. -/
def ipv6Groups? (cs : List Char) : Option (List Nat) :=
  match splitAtGap? cs with
  | none => do
    let groups ← ipv6Side? cs
    if groups.length = 8 then some groups else none
  | some (before, after) => do
    if before.contains '.' then none
    let front ← ipv6Side? before
    let back ← ipv6Side? after
    if front.length + back.length < 8 then
      some (front ++ List.replicate (8 - front.length - back.length) 0 ++ back)
    else none

/-- The length of the run of zeros that a list begins with. -/
def zerosAhead (groups : List Nat) : Nat := (groups.takeWhile (· = 0)).length

/-- Where the first longest run of at least two zero groups begins, and how long it is. -/
def longestGap? (groups : List Nat) : Option (Nat × Nat) :=
  let runs := (List.range groups.length).map fun i => (i, zerosAhead (groups.drop i))
  let best := runs.foldl (fun best r => if best.2 < r.2 then r else best) (0, 1)
  if 2 ≤ best.2 then some best else none

/-- Groups with colons between them. -/
def colons (groups : List Nat) : String :=
  ":".intercalate (groups.map fun g => String.ofList (Text.hexText g))

/-- An IPv6 address in its written form. -/
def ipv6 (cs : List Char) : Except Problem String :=
  match ipv6Groups? cs with
  | none => .error .ipv6
  | some groups =>
    match longestGap? groups with
    | none => .ok ("[" ++ colons groups ++ "]")
    | some (start, count) =>
      .ok ("[" ++ colons (groups.take start) ++ "::" ++ colons (groups.drop (start + count)) ++ "]")

/-- A domain or an IPv4 address in its written form. -/
def domain (cs : List Char) : Except Problem String :=
  match Text.percentDecode? cs with
  | none => .error .domain
  | some cs =>
    let cs := cs.map Char.toLower
    if !cs.all isDomainChar then .error .domain
    else if endsInNumber cs then ipv4 cs
    else .ok (String.ofList cs)

/-- The written form of a host. -/
def parse (cs : List Char) : Except Problem String :=
  match cs with
  | [] => .error .empty
  | '[' :: rest => if rest.getLast? = some ']' then ipv6 rest.dropLast else .error .ipv6
  | cs => domain cs

end HostName
end EventRelay

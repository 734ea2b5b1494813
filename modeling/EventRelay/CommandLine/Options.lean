/-
# Options on a command line

Every option takes values.  They stand behind its name in words of their own, or in the
same word: after an equals sign for a long name, right behind the letter for a short one.
A word that begins with a hyphen and is longer than that is never a value.

| written | option | values |
| --- | --- | --- |
| `--type a b` | type | `a`, `b` |
| `--type=a` | type | `a` |
| `-ta`, `-t=a`, `-t a` | type | `a` |
-/

namespace EventRelay
namespace CommandLine

/-- An option of a program. -/
structure OptionRule where
  long : String
  short : Option Char
  /-- Whether it takes more than one value at once. -/
  many : Bool
  /-- Whether it may be given again. -/
  repeatable : Bool
  deriving DecidableEq, Repr

/-- An option as it was given. -/
structure Given where
  long : String
  values : List String
  deriving DecidableEq, Repr

/-- Why the words are not carried out. -/
inductive Halt where
  /-- They are no use of the program. -/
  | misuse
  /-- They ask for help. -/
  | help
  /-- They ask for the version. -/
  | version
  deriving DecidableEq, Repr

/-- An option that was named, and its values so far. -/
structure Opened where
  rule : OptionRule
  values : List String

/-- Whether an option still takes a value. -/
def Opened.isOpen (o : Opened) : Bool := o.rule.many || o.values.isEmpty

/-- What has been read of a command line. -/
structure Scanned where
  given : List Given
  opened : Option Opened

namespace Scanned

/-- An option with its values, unless it was given before. -/
def add (s : Scanned) (rule : OptionRule) (values : List String) : Except Halt Scanned :=
  if !rule.repeatable && s.given.any (·.long = rule.long) then .error .misuse
  else .ok { s with given := s.given ++ [⟨rule.long, values⟩] }

/-- Closes the option that was named last; it must have a value. -/
def close (s : Scanned) : Except Halt Scanned :=
  match s.opened with
  | none => .ok s
  | some o =>
    if o.values.isEmpty then .error .misuse else { s with opened := none }.add o.rule o.values

/-- Opens an option, or takes it over with the value that came with it. -/
def openRule (s : Scanned) (rule : OptionRule) (attached : Option String) : Except Halt Scanned := do
  let s ← s.close
  match attached with
  | some value => s.add rule [value]
  | none => return { s with opened := some ⟨rule, []⟩ }

/-- A value of the option that was named last. -/
def value (s : Scanned) (word : String) : Except Halt Scanned :=
  match s.opened with
  | some o =>
    if o.isOpen then .ok { s with opened := some { o with values := o.values ++ [word] } }
    else .error .misuse
  | none => .error .misuse

/-- A word that names an option by its long name. -/
def long (rules : List OptionRule) (s : Scanned) (body : List Char) : Except Halt Scanned :=
  let name := String.ofList (body.takeWhile (· ≠ '='))
  let attached :=
    match body.dropWhile (· ≠ '=') with
    | [] => none
    | _ :: rest => some (String.ofList rest)
  match rules.find? fun r => r.long = name with
  | some rule => s.openRule rule attached
  | none => do
    let _ ← s.close
    if attached.isNone && name = "help" then .error .help
    else if attached.isNone && name = "version" then .error .version
    else .error .misuse

/-- A word that names an option by its letter. -/
def short (rules : List OptionRule) (s : Scanned) (letter : Char) (rest : List Char) :
    Except Halt Scanned :=
  match rules.find? fun r => r.short = some letter with
  | some rule =>
    let attached :=
      match rest with
      | [] => none
      | '=' :: value => some (String.ofList value)
      | value => some (String.ofList value)
    s.openRule rule attached
  | none => do
    let _ ← s.close
    if letter = 'h' then .error .help
    else if letter = 'V' then .error .version
    else .error .misuse

/-- One more word. -/
def word (rules : List OptionRule) (s : Scanned) (word : String) : Except Halt Scanned :=
  match word.toList with
  | '-' :: '-' :: body => s.long rules body
  | '-' :: letter :: rest => s.short rules letter rest
  | _ => s.value word

/-- All words; behind a double hyphen nothing may follow. -/
def words (rules : List OptionRule) : Scanned → List String → Except Halt Scanned
  | s, [] => s.close
  | s, w :: rest =>
    if w = "--" then if rest.isEmpty then s.close else .error .misuse
    else do words rules (← s.word rules w) rest

end Scanned

/-- The options of a command line in the order in which they were given. -/
def scan (rules : List OptionRule) (args : List String) : Except Halt (List Given) :=
  (Scanned.words rules ⟨[], none⟩ args).map Scanned.given

/-- The values of an option, over all the times it was given. -/
def valuesOf (given : List Given) (long : String) : List String :=
  (given.filter (·.long = long)).flatMap Given.values

end CommandLine
end EventRelay

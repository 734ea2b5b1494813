/-
# Media types

A media type is two names with a slash between them, and perhaps parameters.  A body is
JSON if its type is `application/json`, whatever stands behind a plus sign, or if what
stands behind the last plus sign of an application type is `json`.
-/

namespace EventRelay
namespace MediaType

/-- Characters of names. -/
def isNameChar (c : Char) : Bool :=
  c.isAlphanum || ['!', '#', '$', '%', '&', '\'', '*', '+', '-', '.', '^', '_', '\x60', '|', '~'].contains c

/-- What stands behind the closing quote of a quoted value. -/
def afterQuoted? : List Char → Option (List Char)
  | '"' :: rest => some rest
  | '\\' :: _ :: rest => afterQuoted? rest
  | _ :: rest => afterQuoted? rest
  | [] => none

/-- What stands behind a parameter's value. -/
def afterValue? (cs : List Char) : Option (List Char) :=
  match cs with
  | '"' :: rest => afterQuoted? rest
  | cs =>
    match cs.dropWhile isNameChar with
    | [] => some []
    | c :: rest => if c = ';' ∨ c = ' ' then some (c :: rest) else none

/-- Whether a text is a list of parameters; `fuel` bounds their number. -/
def areParameters : (fuel : Nat) → List Char → Bool
  | 0, _ => false
  | fuel + 1, cs =>
    match cs.dropWhile fun c => c == ';' || c == ' ' with
    | [] => true
    | cs =>
      match cs.dropWhile isNameChar with
      | '=' :: rest =>
        match afterValue? rest with
        | some rest => cs.head?.any isNameChar && areParameters fuel rest
        | none => false
      | _ => false

/-- The two names of a media type in lower case, if the text is one. -/
def names? (text : String) : Option (List Char × List Char) :=
  let cs := text.toList.map Char.toLower
  match cs.takeWhile isNameChar, cs.dropWhile isNameChar with
  | c :: main, '/' :: rest =>
    let sub := rest.takeWhile isNameChar
    let more := rest.dropWhile isNameChar
    let fits := more.isEmpty || (more.head?.any fun c => c == ';' || c == ' ')
    if !sub.isEmpty && fits && areParameters (more.length + 1) more then some (c :: main, sub)
    else none
  | _, _ => none

/-- Whether a body of a type is JSON. -/
def isJson (text : String) : Bool :=
  match names? text with
  | none => false
  | some (main, sub) =>
    main == "application".toList &&
      match sub.splitOn '+' with
      | [] => false
      | [whole] => whole == "json".toList
      | first :: rest =>
        ['+'].intercalate (first :: rest.dropLast) == "json".toList ||
          rest.getLast? == some "json".toList

end MediaType
end EventRelay

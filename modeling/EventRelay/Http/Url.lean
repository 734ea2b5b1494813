/-
# URLs

A URL is read as browsers read one.  Blanks around it and line breaks in it are dropped; a
path is a list of segments in which `.` and `..` have been carried out; and every
character that may not stand where it does is percent-encoded.  Schemes of the web are
special: their URLs have a host, and a backslash counts as a slash.

| part | encoded beyond controls and non-ASCII |
| --- | --- |
| path | blank `"` `#` `<` `>` `?` `{` `}` and the grave accent |
| segment put in by `push` | those, `/`, `%` and `\` |
| query | blank `"` `#` `<` `>` and, in special URLs, the apostrophe |
| fragment | blank `"` `<` `>` and the grave accent |
-/

import EventRelay.Http.HostName

namespace EventRelay

/-- Why a text is no URL. -/
inductive UrlProblem where
  | relative
  | port
  | host (problem : HostName.Problem)
  deriving DecidableEq, Repr

namespace UrlProblem

/-- The wording of a problem. -/
def message : UrlProblem → String
  | relative => "relative URL without a base"
  | port => "invalid port number"
  | host problem => problem.message

end UrlProblem

/-- What follows the authority of a URL. -/
inductive UrlPath where
  | segments (segments : List String)
  /-- The text of a URL that cannot carry segments. -/
  | flat (text : String)
  deriving DecidableEq, Repr

/-- A URL in its parts, each in its written form. -/
structure Url where
  scheme : String
  userInfo : Option String
  host : Option String
  port : Option Nat
  path : UrlPath
  query : Option String
  fragment : Option String
  deriving DecidableEq, Repr

namespace Url

/-- Whether a scheme is one of the web's own. -/
def isSpecial (scheme : String) : Bool :=
  ["http", "https", "ws", "wss", "ftp", "file"].contains scheme

/-- The port that a scheme implies. -/
def defaultPort? (scheme : String) : Option Nat :=
  [("http", 80), ("https", 443), ("ws", 80), ("wss", 443), ("ftp", 21)].lookup scheme

/-- Whether a character is printable ASCII. -/
def isPlain (c : Char) : Bool := 0x20 ≤ c.toNat && c.toNat < 0x7f

/-- Characters that are encoded in a path. -/
def pathMarks : List Char := [' ', '"', '#', '<', '>', '?', '\x60', '\x7b', '\x7d']

/-- Whether a path carries a character as it is. -/
def isPathChar (c : Char) : Bool := isPlain c && !pathMarks.contains c

/-- Whether a segment that is put in carries a character as it is. -/
def isSegmentChar (c : Char) : Bool := isPathChar c && !(['/', '%', '\\'].contains c)

/-- Whether a query carries a character as it is. -/
def isQueryChar (special : Bool) (c : Char) : Bool :=
  isPlain c && !([' ', '"', '#', '<', '>'].contains c) && !(special && c == '\'')

/-- Whether a fragment carries a character as it is. -/
def isFragmentChar (c : Char) : Bool := isPlain c && !([' ', '"', '<', '>', '\x60'].contains c)

/-- Whether a user name carries a character as it is. -/
def isUserChar (c : Char) : Bool :=
  isPathChar c && !(['/', ':', ';', '=', '@', '[', '\\', ']', '^', '|'].contains c)

/-- Characters that vanish wherever they stand. -/
def isBreak (c : Char) : Bool := c == '\t' || c == '\n' || c == '\r'

/-- A text without the blanks around it and the line breaks in it. -/
def tidy (cs : List Char) : List Char :=
  let isEdge := fun c : Char => c.toNat ≤ 0x20
  (((cs.dropWhile isEdge).reverse.dropWhile isEdge).reverse).filter fun c => !isBreak c

/-- Whether a segment stands for the place itself. -/
def isDot (s : String) : Bool := [".", "%2e", "%2E"].contains s

/-- Whether a segment stands for the place above. -/
def isDotDot (s : String) : Bool :=
  ["..", ".%2e", ".%2E", "%2e.", "%2E.", "%2e%2e", "%2e%2E", "%2E%2e", "%2E%2E"].contains s

/-- Puts one more segment at the end of a path. -/
def addSegment (ss : List String) (s : String) (isLast : Bool) : List String :=
  if isDotDot s then ss.dropLast ++ (if isLast then [""] else [])
  else if isDot s then ss ++ (if isLast then [""] else [])
  else ss ++ [s]

/-- The segments of the pieces of a path. -/
def addSegments : List String → List (List Char) → List String
  | ss, [] => ss
  | ss, piece :: rest =>
    addSegments
      (addSegment ss (String.ofList (Text.percentEncode isPathChar piece)) rest.isEmpty) rest

/-- The pieces of a path between its slashes. -/
def pieces (special : Bool) (cs : List Char) : List (List Char) :=
  (cs.map fun c => if special && c == '\\' then '/' else c).splitOn '/'

/-- The segments of a path; a slash at its front counts for nothing. -/
def segmentsOf (special : Bool) (cs : List Char) : List String :=
  match cs with
  | [] => if special then [""] else []
  | c :: rest =>
    if c = '/' ∨ (special ∧ c = '\\') then addSegments [] (pieces special rest)
    else addSegments [] (pieces special cs)

/-- A scheme in lower case, and what follows its colon. -/
def splitScheme? (cs : List Char) : Option (String × List Char) :=
  let isMark := fun c : Char => c.isAlphanum || c == '+' || c == '-' || c == '.'
  match cs.takeWhile isMark, cs.dropWhile isMark with
  | c :: rest, ':' :: after =>
    if c.isAlpha then some (String.ofList ((c :: rest).map Char.toLower), after) else none
  | _, _ => none

/-- A host and what follows it, up to the colon before the port. -/
def splitHost : (bracketed : Bool) → List Char → List Char × List Char
  | _, [] => ([], [])
  | bracketed, c :: rest =>
    if c = ':' ∧ ¬bracketed then ([], c :: rest)
    else
      let (host, after) := splitHost (c = '[' || (bracketed && c ≠ ']')) rest
      (c :: host, after)

/-- A port after its colon; one that goes without saying is left out. -/
def readPort (scheme : String) (cs : List Char) : Except UrlProblem (Option Nat) :=
  match cs with
  | [] | [_] => .ok none
  | _ :: digits =>
    match Text.digits? digits with
    | none => .error .port
    | some n =>
      if 65535 < n then .error .port
      else .ok (if defaultPort? scheme = some n then none else some n)

/-- A user name and a password, split at the first colon. -/
def userText (cs : List Char) : Option String :=
  let encode := fun cs => String.ofList (Text.percentEncode isUserChar cs)
  let name := encode (cs.takeWhile (· ≠ ':'))
  let word := encode ((cs.dropWhile (· ≠ ':')).drop 1)
  if word.isEmpty then (if name.isEmpty then none else some name) else some (name ++ ":" ++ word)

/-- An authority: what stands before its last at sign, and what stands after. -/
def splitUser (cs : List Char) : Option (List Char) × List Char :=
  if cs.contains '@' then
    let host := (cs.reverse.takeWhile (· ≠ '@')).reverse
    (some (cs.take (cs.length - host.length - 1)), host)
  else (none, cs)

/-- The host of a URL that is not special. -/
def plainHost (cs : List Char) : Except UrlProblem (Option String) :=
  match cs with
  | [] => .ok none
  | '[' :: _ => (HostName.parse cs).mapError .host |>.map some
  | cs =>
    if cs.any fun c => c ≠ '%' && c ≠ '\x7f' && (HostName.forbidden.contains c || c == ' ') then
      .error (.host .domain)
    else .ok (some (String.ofList (Text.percentEncode isPlain cs)))

/-- Everything after the scheme: query and fragment, and the text before them. -/
def splitTail (cs : List Char) : List Char × Option (List Char) × Option (List Char) :=
  let body := cs.takeWhile (· ≠ '#')
  let fragment :=
    match cs.dropWhile (· ≠ '#') with
    | [] => none
    | _ :: rest => some rest
  let query :=
    match body.dropWhile (· ≠ '?') with
    | [] => none
    | _ :: rest => some rest
  (body.takeWhile (· ≠ '?'), query, fragment)

/-- Reads an authority and a path after it. -/
def withAuthority (scheme : String) (cs : List Char) :
    Except UrlProblem (Option String × Option String × Option Nat × UrlPath) := do
  let special := isSpecial scheme
  let isEnd := fun c : Char => c == '/' || (special && c == '\\')
  let (user, hostPort) := splitUser (cs.takeWhile fun c => !isEnd c)
  let (host, after) := splitHost false hostPort
  let name ←
    if special && !(scheme == "file" && host.isEmpty) then
      (HostName.parse host).mapError .host |>.map some
    else plainHost host
  let port ← readPort scheme after
  return (user.bind userText, name, port,
    .segments (segmentsOf special (cs.dropWhile fun c => !isEnd c)))

/-- Reads a URL. -/
def parse (text : String) : Except UrlProblem Url := do
  match splitScheme? (tidy text.toList) with
  | none => .error .relative
  | some (scheme, after) =>
    let special := isSpecial scheme
    let (body, query, fragment) := splitTail after
    let isSlash := fun c : Char => c == '/' || (special && c == '\\')
    let (userInfo, host, port, path) ←
      if special && scheme != "file" then withAuthority scheme (body.dropWhile isSlash)
      else if body.take 2 == ['/', '/'] then withAuthority scheme (body.drop 2)
      else if special || body.head? == some '/' then
        .ok (none, none, none, .segments (segmentsOf special body))
      else .ok (none, none, none,
        .flat (String.ofList (Text.percentEncode (fun c => isPlain c) body)))
    return {
      scheme, userInfo, host, port, path
      query := query.map fun cs =>
        String.ofList (Text.percentEncode (isQueryChar special) cs)
      fragment := fragment.map fun cs =>
        String.ofList (Text.percentEncode isFragmentChar cs) }

/-- Whether a URL can carry a path of segments. -/
def hasSegments (u : Url) : Bool :=
  match u.path with
  | .segments _ => true
  | .flat _ => false

/-- The path as one segment is put at its end: `.` and `..` are passed over, line breaks vanish,
and what is then a dot segment is carried out. -/
def pushSegment (ss : List String) (s : String) : List String :=
  if s = "." ∨ s = ".." then ss
  else
    let encoded :=
      String.ofList (Text.percentEncode isSegmentChar (s.toList.filter fun c => !isBreak c))
    addSegment (if ss = [""] then [] else ss) encoded true

/-- A URL with one more segment at the end of its path. -/
def push (u : Url) (s : String) : Url :=
  match u.path with
  | .segments ss => { u with path := .segments (pushSegment ss s) }
  | .flat _ => u

/-- A URL without user name and password. -/
def withoutUser (u : Url) : Url := { u with userInfo := none }

/-- The text of a path. -/
def pathText : UrlPath → String
  | .segments ss => String.join (ss.map fun s => "/" ++ s)
  | .flat text => text

/-- The path and query of a URL, as a request names them. -/
def target (u : Url) : String :=
  let path := pathText u.path
  (if path.isEmpty then "/" else path) ++
    (match u.query with
    | some q => "?" ++ q
    | none => "")

/-- The text of a URL. -/
def text (u : Url) : String :=
  let authority :=
    match u.host with
    | some host =>
      "//" ++
        (match u.userInfo with
        | some user => user ++ "@"
        | none => "") ++ host ++
        (match u.port with
        | some p => ":" ++ toString p
        | none => "")
    | none => if u.scheme == "file" then "//" else ""
  u.scheme ++ ":" ++ authority ++ pathText u.path ++
    (match u.query with
    | some q => "?" ++ q
    | none => "") ++
    (match u.fragment with
    | some f => "#" ++ f
    | none => "")

end Url
end EventRelay

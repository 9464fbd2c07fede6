/- digest: Reading addresses from text. -/

import Assay.Text.Casing
import Assay.Url.Basic
import Assay.Url.Host

set_option autoImplicit false
set_option relaxedAutoImplicit false

namespace Assay.Url

/-- How an address is read: files, other well-known schemes, and the rest. -/
inductive SchemeKind
  | file | known | other
  deriving DecidableEq

def usualPorts : List (String × Nat) :=
  [("http", 80), ("https", 443), ("ws", 80), ("wss", 443), ("ftp", 21)]

def SchemeKind.of (scheme : String) : SchemeKind :=
  if scheme = "file" then .file
  else if usualPorts.any (·.1 == scheme) then .known
  else .other

def SchemeKind.isSpecial (k : SchemeKind) : Bool := k != .other

/-- Whether a character separates the parts of a path. -/
def isSlash (k : SchemeKind) (c : Char) : Bool := c == '/' || (c == '\\' && k.isSpecial)

def endsPath (c : Char) : Bool := c == '?' || c == '#'

def endsAuthority (k : SchemeKind) (c : Char) : Bool := isSlash k c || endsPath c

def isPlainLetter (c : Char) : Bool := ('a' ≤ c && c ≤ 'z') || ('A' ≤ c && c ≤ 'Z')

def escapesInFragment (c : Char) : Bool :=
  Text.isControlOrWide c || [' ', '"', '<', '>', '\x60'].contains c

def escapesInPath (c : Char) : Bool :=
  escapesInFragment c || ['#', '?', '{', '}'].contains c

/-- Characters that are written as bytes in user names. -/
def escapesInUser (c : Char) : Bool :=
  escapesInPath c || ['/', ':', ';', '=', '@', '[', '\\', ']', '^', '|'].contains c

def escapesInQuery (k : SchemeKind) (c : Char) : Bool :=
  Text.isControlOrWide c || [' ', '"', '#', '<', '>'].contains c || (c == '\'' && k.isSpecial)

/-- The scheme before the first colon, and the rest. -/
def readScheme? : List Char → Option (String × List Char)
  | [] => none
  | c :: rest =>
    let inScheme (c : Char) : Bool :=
      isPlainLetter c || Text.isDigit c || c == '+' || c == '-' || c == '.'
    if !isPlainLetter c then none
    else match rest.dropWhile inScheme with
      | ':' :: after =>
        some (String.ofList ((c :: rest.takeWhile inScheme).map Text.lowerPlain), after)
      | _ => none

/-- A drive: a letter, and a colon or a bar. -/
def isDrive : List Char → Bool
  | [c, d] => isPlainLetter c && (d == ':' || d == '|')
  | _ => false

def isDoubleDot (segment : List Char) : Bool :=
  ["..", ".%2e", "%2e.", "%2e%2e"].contains (String.ofList (segment.map Text.lowerPlain))

def isSingleDot (segment : List Char) : Bool :=
  [".", "%2e"].contains (String.ofList (segment.map Text.lowerPlain))

/-- A path without its last part; parts run backwards, and a drive stays. -/
def shorten : List (List Char) → List (List Char)
  | [] => []
  | last :: rest => if isDrive last then last :: rest else rest

/-- Adds a part to a path that runs backwards; `more` says that a slash follows. A drive at the
start of the path of a file is written with a colon. -/
def addSegment (k : SchemeKind) (path : List (List Char)) (segment : List Char) (more : Bool) :
    List (List Char) :=
  if isDoubleDot segment then
    let path := shorten path
    if more then path else [] :: path
  else if isSingleDot segment then if more then path else [] :: path
  else match path, segment with
    | [], [c, _] => if k = .file ∧ isDrive segment then [[c, ':']] else [segment]
    | path, segment => segment :: path

/-- The parts of a path, and what follows it. -/
def readSegments (k : SchemeKind) (path : List (List Char)) (cs : List Char) :
    List (List Char) × List Char :=
  let segment := Text.percentWhere escapesInPath (cs.takeWhile fun c => !endsAuthority k c)
  match _h : cs.dropWhile fun c => !endsAuthority k c with
  | [] => (addSegment k path segment false, [])
  | c :: rest =>
    if isSlash k c then readSegments k (addSegment k path segment true) rest
    else (addSegment k path segment false, c :: rest)
termination_by cs.length
decreasing_by
  have := (List.dropWhile_sublist (fun c => !endsAuthority k c) (l := cs)).length_le
  simp only [_h, List.length_cons] at this
  omega

def readPath (k : SchemeKind) (cs : List Char) : List String × List Char :=
  let (backwards, rest) := readSegments k [] cs
  (backwards.reverse.map String.ofList, rest)

/-- The path after a host: well-known schemes have one always, others where something is left. -/
def readPathAfterHost (k : SchemeKind) (cs : List Char) : List String × List Char :=
  match cs with
  | [] => if k.isSpecial then readPath k [] else ([], [])
  | c :: rest =>
    if isSlash k c then readPath k rest
    else if !k.isSpecial && endsPath c then ([], c :: rest)
    else readPath k (c :: rest)

def readTail (k : SchemeKind) (cs : List Char) : Option String × Option String :=
  let fragmentOf (cs : List Char) : Option String :=
    match cs with
    | [] => none
    | _ :: rest => some (String.ofList (Text.percentWhere escapesInFragment rest))
  match cs with
  | '?' :: rest =>
    let query := rest.takeWhile (· ≠ '#')
    (some (String.ofList (Text.percentWhere (escapesInQuery k) query)),
      fragmentOf (rest.dropWhile (· ≠ '#')))
  | cs => (none, fragmentOf cs)

/-- The user name and password before the last at sign, as they are written. -/
def userText (cs : List Char) : String :=
  let name := Text.percentWhere escapesInUser (cs.takeWhile (· ≠ ':'))
  let word := Text.percentWhere escapesInUser ((cs.dropWhile (· ≠ ':')).drop 1)
  if name = [] ∧ word = [] then ""
  else String.ofList (name ++ (if word = [] then [] else ':' :: word) ++ ['@'])

/-- The characters up to the last at sign, and those after it. -/
def cutUser? (cs : List Char) : Option (List Char × List Char) :=
  match cs.reverse.dropWhile (· ≠ '@') with
  | [] => none
  | _ :: before => some (before.reverse, (cs.reverse.takeWhile (· ≠ '@')).reverse)

/-- The characters of a host: up to a colon outside brackets. -/
def takeHost (inBrackets : Bool) : List Char → List Char × List Char
  | [] => ([], [])
  | c :: rest =>
    if c = ':' ∧ !inBrackets then ([], c :: rest)
    else
      let inBrackets := if c = '[' then true else if c = ']' then false else inBrackets
      let (host, after) := takeHost inBrackets rest
      (c :: host, after)

def portLimit : Nat := 65536

/-- The port after a host, and what is left; the usual port of the scheme is not written. A
backslash ends a port as well. -/
def readPort (scheme : String) : List Char → Except UrlError (String × List Char)
  | ':' :: cs =>
    let digits := cs.takeWhile Text.isDigit
    let rest := cs.dropWhile Text.isDigit
    let port := Text.digitsValue digits
    if portLimit ≤ port then .error .badPort
    else if rest.head?.any (· ≠ '\\') then .error .badPort
    else if digits.isEmpty ∨ usualPorts.contains (scheme, port) then .ok ("", rest)
    else .ok (":" ++ toString port, rest)
  | cs => .ok ("", cs)

/-- Whether an address has to have a host here: well-known schemes do, and so does one with a user
name, a port, or an at sign at its start and something after it. -/
def needsHost (k : SchemeKind) (user : String) (portChars cs : List Char) (more : Bool) : Bool :=
  k.isSpecial || !user.isEmpty || !portChars.isEmpty || (more && cs == ['@'])

/-- A host with all that belongs to it, and what is left; `more` says that something follows. -/
def readAuthority (scheme : String) (k : SchemeKind) (cs : List Char) (more : Bool) :
    Except UrlError (String × List Char) := do
  let (user, rest) := match cutUser? cs with
    | some (before, after) => (userText before, after)
    | none => ("", cs)
  let (hostChars, portChars) := takeHost false rest
  if hostChars.isEmpty && needsHost k user portChars cs more then .error .emptyHost
  else
    let host ← if k.isSpecial then readKnownHost hostChars else readOtherHost hostChars
    let (port, rest) ← readPort scheme portChars
    .ok (user ++ host ++ port, rest)

def readAfterSlashes (scheme : String) (k : SchemeKind) (cs : List Char) : Except UrlError Url := do
  let rest := cs.dropWhile fun c => !endsAuthority k c
  let (authority, left) ←
    readAuthority scheme k (cs.takeWhile fun c => !endsAuthority k c) (!rest.isEmpty)
  let (path, rest) := readPathAfterHost k (left ++ rest)
  let (query, fragment) := readTail k rest
  .ok ⟨scheme, some authority, .parts path, query, fragment⟩

/-- The host of a file and the rest; a drive is no host, and the own host is not written. -/
def readFileHost (cs : List Char) : Except UrlError (String × List Char) := do
  let host := cs.takeWhile fun c => !endsAuthority .file c
  let rest := cs.dropWhile fun c => !endsAuthority .file c
  if isDrive host then .ok ("", cs)
  else if host.isEmpty then .ok ("", rest)
  else
    let name ← readKnownHost host
    .ok (if name = "localhost" then "" else name, rest)

def startsWithDrive : List String → Bool
  | s :: _ => isDrive s.toList
  | [] => false

/-- A file of a host. The host goes where the path begins with a drive, and empty parts at the start
of the path do so in any case. -/
def fileAt (host : String) (path : List String) (rest : List Char) : Url :=
  let (query, fragment) := readTail .file rest
  let path' := match path.dropWhile (·.isEmpty) with
    | [] => [""]
    | more => more
  ⟨"file", some (if startsWithDrive path then "" else host), .parts path', query, fragment⟩

/-- The name of a file, after the scheme. Where no host is written, the slash after it begins a part
of its own. -/
def readFile (cs : List Char) : Except UrlError Url := do
  let isMark := isSlash .file
  if cs.head?.any isMark && cs.tail.head?.any isMark then
    let (host, rest) ← readFileHost (cs.drop 2)
    let (path, rest) := if host.isEmpty then readPath .file rest else readPathAfterHost .file rest
    .ok (fileAt host path rest)
  else
    let (path, rest) := readPathAfterHost .file cs
    .ok (fileAt "" path rest)

/-- An address of a scheme that is not well known, after the scheme. -/
def readOther (scheme : String) (cs : List Char) : Except UrlError Url :=
  match cs with
  | '/' :: '/' :: rest => readAfterSlashes scheme .other rest
  | '/' :: rest =>
    let (path, rest) := readPath .other rest
    let (query, fragment) := readTail .other rest
    .ok ⟨scheme, none, .parts path, query, fragment⟩
  | cs =>
    let text := Text.percentWhere Text.isControlOrWide (cs.takeWhile fun c => !endsPath c)
    let (query, fragment) := readTail .other (cs.dropWhile fun c => !endsPath c)
    .ok ⟨scheme, none, .opaqueText (String.ofList text), query, fragment⟩

def isOuterBlank (c : Char) : Bool := c.toNat ≤ 32

/-- The characters of an address: without blanks around it, and without tabs and line ends. -/
def plainChars (text : String) : List Char :=
  let cs := (text.toList.dropWhile isOuterBlank).reverse.dropWhile isOuterBlank
  cs.reverse.filter fun c => c ≠ '\t' && c ≠ '\n' && c ≠ '\r'

def read (text : String) : Except UrlError Url :=
  match readScheme? (plainChars text) with
  | none => .error .noScheme
  | some (scheme, rest) =>
    match SchemeKind.of scheme with
    | .file => readFile rest
    | .known => readAfterSlashes scheme .known (rest.dropWhile (isSlash .known))
    | .other => readOther scheme rest

end Assay.Url

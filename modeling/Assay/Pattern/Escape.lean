/- digest: The options of an expression, and what a backslash introduces: characters by their codes,
   named and short sets, and places between characters. -/

import Assay.Pattern.Basic
import Assay.Pattern.Flaw
import Assay.Pattern.Named
import Assay.Text.Blank
import Assay.Text.Letter
import Assay.Text.Ranges

set_option autoImplicit false
set_option relaxedAutoImplicit false

namespace Assay.Pattern

/-- The options that are in force at a place of an expression. -/
structure Options where
  ignoresCase : Bool
  manyLines : Bool
  dotTakesAll : Bool
  returnEndsLine : Bool
  wide : Bool
  spaced : Bool
  /-- Whether flaws of meaning count. Without them only the form is read. -/
  strict : Bool

namespace Options

/-- The options at the start: upper and lower case are the same, and all scripts are known. -/
def initial (strict : Bool) : Options := ⟨true, false, false, false, true, false, strict⟩

def folding (o : Options) : Folding :=
  if !o.ignoresCase then .off else if o.wide then .full else .plain

def set (o : Options) (letter : Char) (value : Bool) : Options :=
  if letter = 'i' then { o with ignoresCase := value }
  else if letter = 'm' then { o with manyLines := value }
  else if letter = 's' then { o with dotTakesAll := value }
  else if letter = 'R' then { o with returnEndsLine := value }
  else if letter = 'u' then { o with wide := value }
  else if letter = 'x' then { o with spaced := value }
  else o

/-- The letters of all options; one of them only says which match is preferred. -/
def letters : List Char := ['i', 'm', 's', 'U', 'u', 'R', 'x']

/-- Sets options from a list of letters, in which a minus sign turns the following ones off. -/
def setAll (o : Options) (value : Bool) : List Char → Options
  | [] => o
  | c :: rest => if c = '-' then setAll o false rest else setAll (o.set c value) value rest

/-- A flaw of meaning, if those count. -/
def check (o : Options) (holds : Bool) (kind : FlawKind) (place : Stretch) : Except Flaw Unit :=
  if o.strict && !holds then fail kind place else .ok ()

end Options

def passBlanks (inComment : Bool) : List Char → List Char
  | [] => []
  | c :: rest =>
    if inComment then passBlanks (c ≠ '\n') rest
    else if Text.isBlank c then passBlanks false rest
    else if c = '#' then passBlanks true rest
    else c :: rest

/-- Passes over blanks and comments where they do not count. -/
def skip (o : Options) (cs : List Char) : List Char :=
  if o.spaced then passBlanks false cs else cs

/-- The next character that counts, after the mark of a possible range. -/
def peek? (o : Options) (cs : List Char) : Option Char :=
  if o.spaced then
    match cs.dropWhile Text.isBlank with
    | '#' :: rest => (rest.dropWhile Text.isBlank).head?
    | rest => rest.head?
  else cs.head?

/-- The smallest part of an expression. -/
inductive Atom
  /-- `byteForm` says that the character was written as two hexadecimal digits. -/
  | char (c : Char) (byteForm : Bool)
  | set (s : CharSet)
  | edge (e : Edge)

abbrev Taken (α : Type) := α × List Char

def isMeta (c : Char) : Bool :=
  ['\\', '.', '+', '*', '?', '(', ')', '|', '[', ']', '{', '}', '^', '$', '#', '&', '-',
    '~'].contains c

/-- Characters that a backslash may precede without giving them a meaning. -/
def isPlainAfterBackslash (c : Char) : Bool :=
  isMeta c || (c.toNat < 128 && !Text.isPlainAlphanumeric c && c ≠ '<' && c ≠ '>')

def hexDigit? (c : Char) : Option Nat := Text.hexValue? (Text.lowerPlain c)

def ofCode? (code : Nat) : Option Char :=
  if code ≤ 0x10ffff ∧ ¬(0xd800 ≤ code ∧ code ≤ 0xdfff) then some (Char.ofNat code) else none

def readFixedCode (o : Options) (code : Nat) : Nat → List Char → Except Flaw (Taken Nat)
  | 0, cs => .ok (code, cs)
  | _ + 1, [] => fail .openEscape (.before [])
  | n + 1, c :: rest =>
    match hexDigit? c with
    | some d => readFixedCode o (code * 16 + d) n (skip o rest)
    | none => fail .badCodeDigit (.first (c :: rest))

/-- The digits of a code in braces, with the closing brace and what follows it. -/
def readBracedCode (o : Options) (brace : List Char) :
    Nat → Option Nat → List Char → Except Flaw (Taken (Nat × List Char))
  | 0, _, cs => fail .openEscape (.between brace cs)
  | fuel + 1, code, cs =>
    match cs with
    | [] => fail .openEscape (.between brace [])
    | '}' :: rest =>
      match code with
      | some n => .ok ((n, cs), skip o rest)
      | none => fail .noCode (.between brace (skip o rest))
    | c :: rest =>
      match hexDigit? c with
      | some d => readBracedCode o brace fuel (some (code.getD 0 * 16 + d)) (skip o rest)
      | none => fail .badCodeDigit (.first cs)

/-- A character by its code, after the letter that says how many digits there are. -/
def readCode (o : Options) (digits : Nat) (cs : List Char) : Except Flaw (Taken Atom) :=
  match skip o cs with
  | '{' :: inner => do
    let ((code, close), rest) ←
      readBracedCode o ('{' :: inner) (inner.length + 1) none (skip o inner)
    match ofCode? code with
    | some c => .ok (.char c false, rest)
    | none => fail .badCode (.between inner close)
  | cs => do
    let (code, rest) ← readFixedCode o 0 digits cs
    match ofCode? code with
    | some c => .ok (.char c (digits = 2), rest)
    | none => fail .badCode (.between cs rest)

def readSetName (o : Options) : Nat → List Char → List Char → Except Flaw (Taken (List Char))
  | 0, _, _ => fail .openEscape (.before [])
  | fuel + 1, done, cs =>
    match cs with
    | [] => fail .openEscape (.before [])
    | '}' :: rest => .ok (done.reverse, rest)
    | c :: rest => readSetName o fuel (c :: done) (skip o rest)

/-- The parts of a list around the first occurrence of another. -/
def cutAtChars? (mark : List Char) : List Char → Option (List Char × List Char)
  | [] => none
  | c :: rest =>
    if mark.isPrefixOf (c :: rest) then some ([], (c :: rest).drop mark.length)
    else (cutAtChars? mark rest).map fun r => (c :: r.1, r.2)

/-- The set of a value of a property, or what is not known of them. -/
def valuedSet (property value : List Char) : Except FlawKind CharSet :=
  match valuesOf? property with
  | none => .error .unknownSet
  | some sets =>
    match sets (plainName value) with
    | some s => .ok s
    | none => .error .unknownValue

/-- The set that the text between braces names, and whether the text negates it. -/
def setOfName (name : List Char) : Except FlawKind (CharSet × Bool) :=
  match cutAtChars? ['!', '='] name with
  | some (property, value) => (valuedSet property value).map (·, true)
  | none =>
    match (cutAtChars? [':'] name).or (cutAtChars? ['='] name) with
    | some (property, value) => (valuedSet property value).map (·, false)
    | none =>
      match namedSet? name with
      | some s => .ok (s, false)
      | none => .error (if isHollow name then .unknownValue else .unknownSet)

/-- A set by its name, at a place; without wide characters there is none. -/
def namedAtom (o : Options) (negated : Bool) (place : Stretch) (name : List Char) :
    Except Flaw Atom := do
  o.check o.wide .wideCharacter place
  match setOfName name with
  | .ok (s, opposite) => .ok (.set (.bracket o.folding (negated != opposite) s))
  | .error kind =>
    o.check false kind place
    .ok (.set .empty)

def readNamedSet (o : Options) (negated : Bool) (start cs : List Char) : Except Flaw (Taken Atom) :=
  match skip o cs with
  | [] => fail .openEscape (.before [])
  | '{' :: inner => do
    let (name, rest) ← readSetName o (inner.length + 1) [] (skip o inner)
    let a ← namedAtom o negated (.between start rest) name
    .ok (a, rest)
  | '\\' :: rest => fail .badSetName (.first ('\\' :: rest))
  | c :: rest => do
    let rest := skip o rest
    let a ← namedAtom o negated (.between start rest) [c]
    .ok (a, rest)

def readEdgeName (o : Options) : Nat → List Char → List Char → List Char × List Char
  | 0, done, cs => (done.reverse, cs)
  | fuel + 1, done, cs =>
    match cs with
    | c :: rest =>
      if c = '-' || ('a' ≤ c && c ≤ 'z') || ('A' ≤ c && c ≤ 'Z') then
        readEdgeName o fuel (c :: done) (skip o rest)
      else (done.reverse, cs)
    | [] => (done.reverse, [])

def namedEdge? (plain : Bool) : String → Option Edge
  | "start" => some (.wordStart plain)
  | "end" => some (.wordFinish plain)
  | "start-half" => some (.notAfterWord plain)
  | "end-half" => some (.notBeforeWord plain)
  | _ => none

/-- A word boundary, perhaps of one side only; braces that hold no name belong to what follows. -/
def readBoundary (o : Options) (start cs : List Char) : Except Flaw (Taken Atom) :=
  let plain := !o.wide
  match cs with
  | '{' :: inner =>
    let inside := skip o inner
    match readEdgeName o (inside.length + 1) [] inside with
    | ([], []) => fail .openBoundaryOrCount (.between start [])
    | ([], _) => .ok (.edge (.word plain), cs)
    | (name, '}' :: after) =>
      match namedEdge? plain (String.ofList name) with
      | some e => .ok (.edge e, after)
      | none => fail .unknownBoundary (.between inside ('}' :: after))
    | (_, rest) => fail .openBoundary (.between cs rest)
  | _ => .ok (.edge (.word plain), cs)

/-- A short class, which is closed under folding as it stands; without wide characters nothing can
be negated. -/
def shortAtom (o : Options) (negated : Bool) (place : Stretch) (s : CharSet) :
    Except Flaw Atom := do
  o.check (o.wide || !negated) .invalidText place
  .ok (.set (.bracket .off negated s))

/-- The character of a letter after a backslash, for those that have a code of their own. -/
def controlOf? : Char → Option Char
  | 'a' => some (Char.ofNat 7)
  | 'f' => some (Char.ofNat 12)
  | 't' => some '\t'
  | 'n' => some '\n'
  | 'r' => some '\r'
  | 'v' => some (Char.ofNat 11)
  | _ => none

/-- What a backslash introduces; `start` begins with the backslash, and the list is what follows it.
-/
def readEscape (o : Options) (start : List Char) : List Char → Except Flaw (Taken Atom)
  | [] => fail .openEscape (.between start [])
  | c :: rest =>
    let plain := !o.wide
    let short (negated : Bool) (s : CharSet) : Except Flaw (Taken Atom) := do
      let a ← shortAtom o negated (.between start rest) s
      .ok (a, rest)
    if Text.isDigit c then fail .backreference (.between start rest)
    else if isPlainAfterBackslash c then .ok (.char c false, rest)
    else match c with
      | 'x' => readCode o 2 rest
      | 'u' => readCode o 4 rest
      | 'U' => readCode o 8 rest
      | 'p' => readNamedSet o false start rest
      | 'P' => readNamedSet o true start rest
      | 'd' => short false (digitSet plain)
      | 'D' => short true (digitSet plain)
      | 's' => short false (spaceSet plain)
      | 'S' => short true (spaceSet plain)
      | 'w' => short false (wordSet plain)
      | 'W' => short true (wordSet plain)
      | 'A' => .ok (.edge .start, rest)
      | 'z' => .ok (.edge .finish, rest)
      | 'b' => readBoundary o start rest
      | 'B' => .ok (.edge (.notWord plain), rest)
      | '<' => .ok (.edge (.wordStart plain), rest)
      | '>' => .ok (.edge (.wordFinish plain), rest)
      | _ =>
        match controlOf? c with
        | some d => .ok (.char d false, rest)
        | none => fail .unknownEscape (.between start rest)

/-- Checks that a character may stand for itself: beyond the plain ones only when wide characters
are known, unless it was written out; inside brackets never without them. -/
def permit (o : Options) (inBrackets byteForm : Bool) (c : Char) (place : Stretch) :
    Except Flaw Unit :=
  o.check (o.wide || c.toNat < 128 || (!inBrackets && !byteForm))
    (if byteForm then .invalidText else .wideCharacter) place

def single (o : Options) (c : Char) : CharSet :=
  .bracket (if o.wide || c.toNat < 128 then o.folding else .off) false (.span c c)

end Assay.Pattern

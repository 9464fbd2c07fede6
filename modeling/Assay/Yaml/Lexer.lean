/- digest: The tokens of a text. Where lines begin decides where blocks begin and end, and a key
   shows itself as one only by the colon after it. -/

import Assay.Yaml.Scalar

set_option autoImplicit false
set_option relaxedAutoImplicit false

namespace Assay.Yaml

/-- A token that may turn out to be a key: its place among the tokens and in the text, and whether
it can be nothing else. -/
structure PossibleKey where
  place : Nat
  index : Nat
  line : Nat
  column : Nat
  required : Bool

/-- Tokens under construction: the last comes first. -/
structure Lexer where
  cursor : Cursor
  tokens : List Token
  /-- The columns of the blocks around, the innermost first; outside of all it is -1. -/
  indent : Int
  indents : List Int
  /-- Whether a key may begin here. -/
  keyAllowed : Bool
  /-- The possible key between each pair of brackets around, the innermost first. -/
  keys : List (Option PossibleKey)

namespace Lexer

def start (cs : List Char) : Lexer := ⟨.start cs, [], -1, [], true, [none]⟩

def inFlow (l : Lexer) : Bool := 1 < l.keys.length

def push (l : Lexer) (t : Token) : Lexer := { l with tokens := t :: l.tokens }

/-- Adds a token at a place before the last ones. -/
def insert (l : Lexer) (place : Nat) (t : Token) : Lexer :=
  let after := l.tokens.length - place
  { l with tokens := l.tokens.take after ++ t :: l.tokens.drop after }

/-- Passes over characters and adds the token that they are. -/
def pushMark (l : Lexer) (length : Nat) (t : Token) : Lexer :=
  { l with cursor := l.cursor.skip length }.push t

def endBlocks (column : Int) : List Int → Lexer → Lexer
  | outer :: rest, l =>
    if column < l.indent then
      endBlocks column rest { l with tokens := .blockEnd :: l.tokens, indent := outer, indents := rest }
    else l
  | [], l => l

/-- Ends blocks that lie to the right of a column; between brackets columns do not count. -/
def unroll (l : Lexer) (column : Int) : Lexer :=
  if l.inFlow then l else endBlocks column l.indents l

/-- Begins a block at a column to the right of those around. -/
def roll (l : Lexer) (column : Nat) (place : Nat) (t : Token) : Lexer :=
  if l.inFlow || (column : Int) ≤ l.indent then l
  else { l with indent := column, indents := l.indent :: l.indents }.insert place t

def dropKey (l : Lexer) : Except YamlError Lexer :=
  match l.keys with
  | some k :: rest =>
    if k.required then .error .keyExpected else .ok { l with keys := none :: rest }
  | _ => .ok l

def noteKey (l : Lexer) : Except YamlError Lexer :=
  if !l.keyAllowed then .ok l
  else do
    let required := !l.inFlow && l.indent == l.cursor.column
    let l ← l.dropKey
    .ok { l with
      keys := some ⟨l.tokens.length, l.cursor.index, l.cursor.line, l.cursor.column, required⟩ ::
        l.keys.tail }

def maxKeyLength : Nat := 1024

/-- Whether a possible key lies too far back to be one. -/
def isStale (c : Cursor) (k : PossibleKey) : Bool :=
  k.line < c.line || k.index + maxKeyLength < c.index

/-- Gives up the possible keys that lie too far back. -/
def dropStale (c : Cursor) :
    List (Option PossibleKey) → Except YamlError (List (Option PossibleKey))
  | [] => .ok []
  | none :: rest => (dropStale c rest).map (none :: ·)
  | some k :: rest =>
    if isStale c k then
      if k.required then .error .keyExpected else (dropStale c rest).map (none :: ·)
    else (dropStale c rest).map (some k :: ·)

/-- Passes over blanks, comments and line ends, and byte order marks where lines start. -/
def skipBlanks : Nat → Lexer → Lexer
  | 0, l => l
  | fuel + 1, l =>
    let tabs := l.inFlow || !l.keyAllowed
    let (_, c) := l.cursor.skipOrderMark.takeWhile fun x => x == ' ' || (tabs && x == '\t')
    let c := if c.isAt '#' then (c.takeWhile fun x => !isBreak x).2 else c
    match c.rest with
    | x :: _ =>
      if isBreak x then
        skipBlanks fuel
          { l with cursor := c.takeBreak.2, keyAllowed := l.keyAllowed || !l.inFlow }
      else { l with cursor := c }
    | [] => { l with cursor := c }

def readName (c : Cursor) : Except YamlError (String × Cursor) :=
  let (name, c) := (c.skip 1).takeWhile isWordChar
  let ends := c.atWordEnd ||
    c.rest.head?.any (['?', ':', ',', ']', '}', '%', '@', '\x60'].contains ·)
  if name.isEmpty || !ends then .error .badAnchor else .ok (String.ofList name, c)

def isUriChar (inside : Bool) (c : Char) : Bool :=
  isWordChar c ||
    [';', '/', '?', ':', '@', '&', '=', '+', '$', '.', '%', '!', '~', '*', '\'', '(', ')'].contains c ||
    (inside && [',', '[', ']'].contains c)

def unescape : List Char → Option (List UInt8)
  | [] => some []
  | '%' :: a :: b :: rest =>
    match hexNumber? 2 [a, b], unescape rest with
    | some n, some others => some (n.toUInt8 :: others)
    | _, _ => none
  | '%' :: _ => none
  | c :: rest => (unescape rest).map ((String.singleton c).toUTF8.toList ++ ·)

def readUri (inside : Bool) (c : Cursor) : Except YamlError (String × Cursor) :=
  let (text, c) := c.takeWhile (isUriChar inside)
  match (unescape text).bind fun bytes => String.fromUTF8? ⟨bytes.toArray⟩ with
  | some s => .ok (s, c)
  | none => .error .badTag

def readTag (l : Lexer) : Except YamlError (String × String × Cursor) := do
  let c := l.cursor
  let (handle, suffix, c) ←
    if c.rest[1]? == some '<' then do
      let (suffix, c) ← readUri true (c.skip 2)
      if suffix.isEmpty || !c.isAt '>' then .error YamlError.badTag
      else .ok ("", suffix, c.skip 1)
    else do
      let (word, after) := (c.skip 1).takeWhile isWordChar
      if after.isAt '!' then do
        let (suffix, c) ← readUri false (after.skip 1)
        if suffix.isEmpty then .error YamlError.badTag
        else .ok ("!" ++ String.ofList word ++ "!", suffix, c)
      else do
        let (suffix, c) ← readUri false (c.skip 1)
        .ok (if suffix.isEmpty then ("", "!", c) else ("!", suffix, c))
  if c.atWordEnd || (l.inFlow && c.isAt ',') then .ok (handle, suffix, c)
  else .error .badTag

/-- A number in digits, at most nine of them. -/
def readNumber (c : Cursor) : Except YamlError (Nat × Cursor) :=
  let (digits, c) := c.takeWhile fun x => '0' ≤ x && x ≤ '9'
  if digits.isEmpty || 9 < digits.length then .error .badDirective
  else .ok (digits.foldl (fun n d => 10 * n + (d.toNat - 48)) 0, c)

def readVersion (c : Cursor) : Except YamlError (Token × Cursor) := do
  let (major, c) ← readNumber (c.takeWhile isGap).2
  if !c.isAt '.' then .error .badDirective
  else
    let (minor, c) ← readNumber (c.skip 1)
    .ok (.version major minor, c)

def readTagPrefix (c : Cursor) : Except YamlError (Token × Cursor) := do
  let c := (c.takeWhile isGap).2
  if !c.isAt '!' then .error .badDirective
  else
    let (word, c) := (c.skip 1).takeWhile isWordChar
    let closed := c.isAt '!'
    let c := if closed then c.skip 1 else c
    if !closed && !word.isEmpty then .error .badDirective
    else if !c.rest.head?.any isGap then .error .badDirective
    else
      let handle := "!" ++ String.ofList word ++ (if closed then "!" else "")
      let (text, c) ← readUri true (c.takeWhile isGap).2
      if text.isEmpty || !c.atWordEnd then .error .badDirective
      else .ok (.tagPrefix handle text, c)

/-- Reads a directive after its mark, with the rest of its line. -/
def readDirective (c : Cursor) : Except YamlError (Token × Cursor) := do
  let (name, c) := (c.skip 1).takeWhile isWordChar
  let (token, c) ←
    if !c.atWordEnd then .error YamlError.badDirective
    else match String.ofList name with
      | "YAML" => readVersion c
      | "TAG" => readTagPrefix c
      | _ => .error .badDirective
  let (_, c) := c.takeWhile isGap
  let c := if c.isAt '#' then (c.takeWhile fun x => !isBreak x).2 else c
  if c.atLineEnd then .ok (token, c.takeBreak.2) else .error .badDirective

/-- A colon: the possible key before it is one, or a key without text is. -/
def readValue (l : Lexer) : Except YamlError Lexer :=
  match l.keys with
  | some k :: rest =>
    let l := { l.insert k.place .key with keys := none :: rest }
    .ok ({ l.roll k.column k.place .mappingStart with keyAllowed := false }.pushMark 1 .value)
  | _ =>
    if l.inFlow then .ok ({ l with keyAllowed := false }.pushMark 1 .value)
    else if !l.keyAllowed then .error .notHere
    else
      .ok ({ l.roll l.cursor.column l.tokens.length .mappingStart with keyAllowed := true }.pushMark 1
        .value)

def pushScalar (l : Lexer) (text : List Char) (style : Style) (c : Cursor) (keyAllowed : Bool) :
    Lexer :=
  { l with cursor := c, keyAllowed := keyAllowed }.push (.scalar (String.ofList text) style)

def beginsPlain (inFlow : Bool) : List Char → Bool
  | [] => false
  | c :: rest =>
    !(isGap c || isBreak c || ['-', '?', ':', ',', '[', ']', '{', '}', '#', '&', '*', '!', '|',
      '>', '\'', '"', '%', '@', '\x60'].contains c) ||
    (c == '-' && !rest.head?.any isGap) ||
    (!inFlow && (c == '?' || c == ':') && !Cursor.endsWord rest)

def readMark (l : Lexer) (keyAllowed : Bool) (t : Token) : Except YamlError Lexer := do
  let l ← l.dropKey
  .ok ({ l with keyAllowed := keyAllowed }.pushMark 1 t)

def openFlow (l : Lexer) (t : Token) : Except YamlError Lexer := do
  let l ← l.noteKey
  .ok ({ l with keys := none :: l.keys, keyAllowed := true }.pushMark 1 t)

def closeFlow (l : Lexer) (t : Token) : Except YamlError Lexer := do
  let l ← l.dropKey
  let keys := if l.inFlow then l.keys.tail else l.keys
  .ok ({ l with keys := keys, keyAllowed := false }.pushMark 1 t)

def openBlock (l : Lexer) (start t : Token) : Except YamlError Lexer :=
  if l.inFlow then l.readMark (t == .dash) t
  else if !l.keyAllowed then .error .notHere
  else (l.roll l.cursor.column l.tokens.length start).readMark true t

def readNamed (l : Lexer) (make : String → Token) : Except YamlError Lexer := do
  let l ← l.noteKey
  let (name, c) ← readName l.cursor
  .ok ({ l with cursor := c, keyAllowed := false }.push (make name))

def readOutside (l : Lexer) (length : Nat) (t : Token) : Except YamlError Lexer := do
  let l ← (l.unroll (-1)).dropKey
  .ok ({ l with keyAllowed := false }.pushMark length t)

def readToken (l : Lexer) : Except YamlError Lexer := do
  let c := l.cursor
  let wordEnds := Cursor.endsWord c.rest.tail
  match c.rest with
  | [] => .ok l
  | x :: _ =>
    if c.column == 0 && x == '%' then do
      let l ← (l.unroll (-1)).dropKey
      let (t, c) ← readDirective l.cursor
      .ok ({ l with cursor := c, keyAllowed := false }.push t)
    else if c.atDocumentMark then
      l.readOutside 3 (if x == '-' then .documentStart else .documentEnd)
    else if x == '[' then l.openFlow .leftBracket
    else if x == '{' then l.openFlow .leftBrace
    else if x == ']' then l.closeFlow .rightBracket
    else if x == '}' then l.closeFlow .rightBrace
    else if x == ',' then l.readMark true .comma
    else if x == '-' && wordEnds then l.openBlock .sequenceStart .dash
    else if x == '?' && (l.inFlow || wordEnds) then l.openBlock .mappingStart .key
    else if x == ':' && (l.inFlow || wordEnds) then l.readValue
    else if x == '*' then l.readNamed .alias
    else if x == '&' then l.readNamed .anchor
    else if x == '!' then do
      let l ← l.noteKey
      let (handle, suffix, c) ← l.readTag
      .ok ({ l with cursor := c, keyAllowed := false }.push (.tag handle suffix))
    else if (x == '|' || x == '>') && !l.inFlow then do
      let l ← l.dropKey
      let (text, c) ← readBlock (x == '>') l.indent (l.cursor.skip 1)
      .ok (l.pushScalar text (if x == '|' then .literal else .folded) c true)
    else if x == '\'' || x == '"' then do
      let l ← l.noteKey
      let (text, c) ← quotedWords x (l.cursor.rest.length + 1) [] (l.cursor.skip 1)
      .ok (l.pushScalar text .quoted c false)
    else if beginsPlain l.inFlow c.rest then do
      let l ← l.noteKey
      let (text, broken, c) ← plainWords l.inFlow (l.indent + 1) (l.cursor.rest.length + 1) [] .none
        l.cursor
      .ok (l.pushScalar text .plain c broken)
    else .error .badCharacter

def finish (l : Lexer) : Except YamlError (List Token) := do
  let l ← (l.unroll (-1)).dropKey
  .ok l.tokens.reverse

def readAll : Nat → Lexer → Except YamlError (List Token)
  | 0, l => l.finish
  | fuel + 1, l => do
    let l := l.skipBlanks (l.cursor.rest.length + 1)
    let keys ← dropStale l.cursor l.keys
    let l := { l with keys := keys }.unroll l.cursor.column
    if l.cursor.rest.isEmpty then l.finish
    else readAll fuel (← l.readToken)

end Lexer

def tokensOf (text : String) : Except YamlError (List Token) :=
  let cs := text.toList
  if !cs.all isAllowed then .error .badCharacter
  else Lexer.readAll (cs.length + 1) (.start cs)

end Assay.Yaml

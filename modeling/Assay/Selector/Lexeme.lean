/- digest: The words of a selector expression, up to the first character that starts none. -/

import Assay.Text.Blank
import Assay.Path.Read

set_option autoImplicit false
set_option relaxedAutoImplicit false

namespace Assay.Selector

/-- One word of an expression. -/
inductive Lexeme
  | root | dot | at | openBracket | closeBracket | star | question | comma | colon
  | openParen | closeParen | name (text : String) | quoted (text : String)
  | equal | notEqual | less | atMost | greater | atLeast | and | or | gap
  deriving DecidableEq, Inhabited

namespace Lexeme

/-- Characters that end a name: those with a meaning of their own and blanks. -/
def endsName (c : Char) : Bool :=
  ".*[]()@?,:=&|<>!".toList.contains c || Text.isBlank c

def isNamePart (c : Char) : Bool := !endsName c && c ≠ '$'

/-- The text up to the closing quote; after a backslash before a quote it goes on to the next one.
-/
def readQuoted (quote : Char) (cs : List Char) : Option (List Char × List Char) :=
  let head := cs.takeWhile (· ≠ quote)
  match cs.dropWhile (· ≠ quote) with
  | [] => none
  | _ :: rest =>
    match head.reverse with
    | '\\' :: before =>
      match rest.dropWhile (· ≠ quote) with
      | [] => none
      | _ :: after => some (before.reverse ++ quote :: rest.takeWhile (· ≠ quote), after)
    | _ => some (head, rest)

/-- The word at the front of a text. A `$` that is not alone begins a name. -/
def next (c : Char) (rest : List Char) : Option (Lexeme × List Char) :=
  let follows (d : Char) (word : Lexeme) (otherwise : Option (Lexeme × List Char)) :=
    match rest with
    | e :: more => if e = d then some (word, more) else otherwise
    | [] => none
  if c = '$' then
    match rest.takeWhile (fun d => !endsName d) with
    | [] => some (.root, rest)
    | more => some (.name (String.ofList ('$' :: more)), rest.dropWhile fun d => !endsName d)
  else if c = '.' then some (.dot, rest)
  else if c = '*' then some (.star, rest)
  else if c = '[' then some (.openBracket, rest)
  else if c = ']' then some (.closeBracket, rest)
  else if c = '(' then some (.openParen, rest)
  else if c = ')' then some (.closeParen, rest)
  else if c = '@' then some (.at, rest)
  else if c = '?' then some (.question, rest)
  else if c = ',' then some (.comma, rest)
  else if c = ':' then some (.colon, rest)
  else if c = '\'' ∨ c = '"' then
    (readQuoted c rest).map fun r => (.quoted (String.ofList r.1), r.2)
  else if c = '=' then follows '=' .equal none
  else if c = '>' then follows '=' .atLeast (some (.greater, rest))
  else if c = '<' then follows '=' .atMost (some (.less, rest))
  else if c = '&' then follows '&' .and none
  else if c = '|' then follows '|' .or none
  else if c = '!' then follows '=' .notEqual none
  else if Text.isBlank c then some (.gap, rest.dropWhile Text.isBlank)
  else some (.name (String.ofList (c :: rest.takeWhile isNamePart)), rest.dropWhile isNamePart)

/-- All words from the front; `fuel` is at least the length of the text. -/
def readAll : Nat → List Char → List Lexeme
  | 0, _ => []
  | _ + 1, [] => []
  | fuel + 1, c :: rest =>
    match next c rest with
    | none => []
    | some (word, rest) => word :: readAll fuel rest

/-- The number of bytes in some of the first words of a text. -/
def sizeOfFirst : Nat → List Char → Nat
  | 0, _ => 0
  | _ + 1, [] => 0
  | count + 1, c :: rest =>
    match next c rest with
    | none => 0
    | some (_, after) =>
      let length := rest.length + 1 - after.length
      ((c :: rest).take length).foldl (fun n d => n + d.utf8Size) 0 + sizeOfFirst count after

def ofText (text : List Char) : List Lexeme := readAll text.length text

end Lexeme

end Assay.Selector

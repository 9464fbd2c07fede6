/- digest: What is wrong with a regular expression, where it is, and the text that marks the place.
   -/

import Assay.Text.Search

set_option autoImplicit false
set_option relaxedAutoImplicit false

namespace Assay.Pattern

/-- A kind of flaw: the first ones break the form of an expression, the last four its meaning. -/
inductive FlawKind
  | edgeInSet | rangeOrder | rangeBound | openSet
  | noCode | badCode | badCodeDigit | openEscape | unknownEscape | badSetName
  | lonelyMinus | repeatedMinus | repeatedOption | unknownOption | openOptions
  | noName | badName | repeatedName | openName | openGroup | strayClose
  | noCount | badCount | countOrder | openCount | nothingToRepeat
  | unknownBoundary | openBoundary | openBoundaryOrCount
  | backreference | lookAround | tooDeep (limit : Nat)
  | unknownSet | unknownValue | wideCharacter | invalidText
  deriving DecidableEq, Repr

def FlawKind.message : FlawKind → String
  | .edgeInSet => "invalid escape sequence found in character class"
  | .rangeOrder => "invalid character class range, the start must be <= the end"
  | .rangeBound => "invalid range boundary, must be a literal"
  | .openSet => "unclosed character class"
  | .noCode => "hexadecimal literal empty"
  | .badCode => "hexadecimal literal is not a Unicode scalar value"
  | .badCodeDigit => "invalid hexadecimal digit"
  | .openEscape => "incomplete escape sequence, reached end of pattern prematurely"
  | .unknownEscape => "unrecognized escape sequence"
  | .badSetName => "invalid Unicode character class"
  | .lonelyMinus => "dangling flag negation operator"
  | .repeatedMinus => "flag negation operator repeated"
  | .repeatedOption => "duplicate flag"
  | .unknownOption => "unrecognized flag"
  | .openOptions => "expected flag but got end of regex"
  | .noName => "empty capture group name"
  | .badName => "invalid capture group character"
  | .repeatedName => "duplicate capture group name"
  | .openName => "unclosed capture group name"
  | .openGroup => "unclosed group"
  | .strayClose => "unopened group"
  | .noCount => "repetition quantifier expects a valid decimal"
  | .badCount => "decimal literal invalid"
  | .countOrder => "invalid repetition count range, the start must be <= the end"
  | .openCount => "unclosed counted repetition"
  | .nothingToRepeat => "repetition operator missing expression"
  | .unknownBoundary =>
    "unrecognized special word boundary assertion, valid choices are: start, end, start-half or end-half"
  | .openBoundary =>
    "special word boundary assertion is either unclosed or contains an invalid character"
  | .openBoundaryOrCount =>
    "found either the beginning of a special word boundary or a bounded repetition on a \\b with " ++
      "an opening brace, but no closing brace"
  | .backreference => "backreferences are not supported"
  | .lookAround => "look-around, including look-ahead and look-behind, is not supported"
  | .tooDeep limit =>
    "exceed the maximum number of nested parentheses/brackets (" ++ toString limit ++ ")"
  | .unknownSet => "Unicode property not found"
  | .unknownValue => "Unicode property value not found"
  | .wideCharacter => "Unicode not allowed here"
  | .invalidText => "pattern can match invalid UTF-8"

/-- A stretch of an expression. Its ends are given by the number of characters that follow them. -/
structure Stretch where
  fromEnd : Nat
  toEnd : Nat
  deriving DecidableEq, Repr

namespace Stretch

/-- The stretch between two places, each given by what follows it. -/
def between (start stop : List Char) : Stretch := ⟨start.length, stop.length⟩

def before (cs : List Char) : Stretch := between cs cs

def first (cs : List Char) : Stretch := between cs cs.tail

end Stretch

/-- A flaw, its place, and the earlier place that it clashes with. -/
structure Flaw where
  kind : FlawKind
  place : Stretch
  earlier : Option Stretch
  deriving DecidableEq, Repr

def fail {α : Type} (kind : FlawKind) (place : Stretch) :
    Except Flaw α := .error ⟨kind, place, none⟩

def clash {α : Type} (kind : FlawKind) (place earlier : Stretch) : Except Flaw α :=
  .error ⟨kind, place, some earlier⟩

/-- A line and a column in a text, both counted from one. -/
structure Spot where
  line : Nat
  column : Nat
  deriving DecidableEq

/-- The spot in front of the last characters of a text. -/
def Spot.fromEnd (text : List Char) (left : Nat) : Spot :=
  let before := text.take (text.length - left)
  ⟨before.count '\n' + 1, (before.reverse.takeWhile (· ≠ '\n')).length + 1⟩

/-- A stretch as two spots. -/
structure Mark where
  start : Spot
  stop : Spot

namespace Mark

def ofStretch (text : List Char) (s : Stretch) : Mark :=
  ⟨.fromEnd text s.fromEnd, .fromEnd text s.toEnd⟩

def inOneLine (m : Mark) : Bool := m.start.line == m.stop.line

def isBefore (m n : Mark) : Bool :=
  m.start.column < n.start.column || (m.start.column == n.start.column && m.stop.column ≤ n.stop.column)

/-- The signs under a line from a column on, for marks in order. -/
def signs (column : Nat) : List Mark → List Char
  | [] => []
  | m :: rest =>
    let gap := m.start.column - 1 - column
    let width := max 1 (m.stop.column - m.start.column)
    List.replicate gap ' ' ++ List.replicate width '^' ++ signs (column + gap + width) rest

/-- What is said of a mark over several lines. -/
def note (m : Mark) : String :=
  "on line " ++ toString m.start.line ++ " (column " ++ toString m.start.column ++ ") through line " ++
    toString m.stop.line ++ " (column " ++ toString (m.stop.column - 1) ++ ")"

end Mark

namespace Flaw

/-- The lines of an expression; a line end may begin with a carriage return. -/
def linesOf (text : String) : List String :=
  let parts := Text.split '\n' text
  let ended := parts.dropLast.map fun l => (Text.before? l "\r").getD l
  match parts.getLast? with
  | some "" => ended
  | some l => ended ++ [l]
  | none => ended

def marks (text : List Char) (f : Flaw) : List Mark :=
  let place := Mark.ofStretch text f.place
  match f.earlier with
  | none => [place]
  | some s =>
    let other := Mark.ofStretch text s
    if other.isBefore place then [other, place] else [place, other]

/-- A line of an expression after its head, and under it the marks that lie in it. -/
def showLine (head : String) (marks : List Mark) (line : String) : List String :=
  if marks.isEmpty then [head ++ line]
  else [head ++ line, String.ofList (List.replicate head.length ' ' ++ Mark.signs 0 marks)]

def lineHead (width number : Nat) : String :=
  let digits := toString number
  String.ofList (List.replicate (width - digits.length) ' ') ++ digits ++ ": "

def showLines (width : Nat) (marks : List Mark) (number : Nat) : List String → List String
  | [] => []
  | line :: rest =>
    showLine (lineHead width number) (marks.filter (·.start.line == number)) line ++
      showLines width marks (number + 1) rest

/-- The line around an expression of several lines. -/
def divider : String := String.ofList (List.replicate 79 '~')

/-- The expression with its marks. Several lines are numbered and set between dividers. -/
def shown (text : String) (f : Flaw) : List String :=
  let marks := f.marks text.toList
  let (inside, across) := marks.partition Mark.inOneLine
  if text.toList.contains '\n' then
    let lines := linesOf text
    let count := if Text.endsWith text "\n" then lines.length + 1 else lines.length
    [divider] ++ showLines (toString count).length inside 1 lines ++ [divider] ++ across.map Mark.note
  else showLine "    " inside text

def report (text : String) (f : Flaw) : String :=
  Text.join "\n" (["regex parse error:"] ++ f.shown text ++ ["error: " ++ f.kind.message])

end Flaw

end Assay.Pattern

/- digest: Reading scalars: plain ones, quoted ones, and blocks of lines. Line ends inside plain and
   quoted scalars fold to a space or to the empty lines after them. -/

import Assay.Yaml.Token

set_option autoImplicit false
set_option relaxedAutoImplicit false

namespace Assay.Yaml

/-- What stands between two words of a scalar: blanks on one line, or a line end and more of them.
-/
structure Gap where
  blanks : List Char
  broken : Bool
  first : List Char
  more : List Char

namespace Gap

def none : Gap := ⟨[], false, [], []⟩

def joined : Gap := ⟨[], true, [], []⟩

def text (g : Gap) : List Char :=
  if !g.broken then g.blanks
  else if g.first == ['\n'] then if g.more.isEmpty then [' '] else g.more
  else g.first ++ g.more

def addBreak (g : Gap) (b : List Char) : Gap :=
  if g.broken then { g with more := g.more ++ b } else ⟨[], true, b, []⟩

/-- Reads a gap. After a line end no tab may stand left of a column. -/
def read (column : Int) : Nat → Gap → Cursor → Except YamlError (Gap × Cursor)
  | 0, g, c => .ok (g, c)
  | fuel + 1, g, c =>
    match c.rest with
    | [] => .ok (g, c)
    | x :: _ =>
      if isGap x then
        if g.broken then
          if c.column < column && x == '\t' then .error .badIndentation
          else read column fuel g (c.skip 1)
        else read column fuel { g with blanks := g.blanks ++ [x] } (c.skip 1)
      else if isBreak x then
        let (b, c) := c.takeBreak
        read column fuel (g.addBreak b) c
      else .ok (g, c)

end Gap

def isFlowMark (c : Char) : Bool := [',', '[', ']', '{', '}'].contains c

def plainWord (inFlow : Bool) : List Char → Except YamlError (List Char)
  | [] => .ok []
  | c :: rest =>
    if isGap c || isBreak c then .ok []
    else if inFlow && c == ':' && rest.head?.any (fun d => isFlowMark d || d == '?') then
      .error .badScalar
    else if (c == ':' && Cursor.endsWord rest) || (inFlow && isFlowMark c) then .ok []
    else (plainWord inFlow rest).map (c :: ·)

/-- Reads the words of a plain scalar; with its text comes whether a line end follows it. -/
def plainWords (inFlow : Bool) (column : Int) :
    Nat → List Char → Gap → Cursor → Except YamlError (List Char × Bool × Cursor)
  | 0, text, gap, c => .ok (text, gap.broken, c)
  | fuel + 1, text, gap, c =>
    if c.atDocumentMark || c.isAt '#' then .ok (text, gap.broken, c)
    else do
      let word ← plainWord inFlow c.rest
      let c := c.skip word.length
      let text := if word.isEmpty then text else text ++ gap.text ++ word
      let gap := if word.isEmpty then gap else .none
      if c.rest.isEmpty || !c.atWordEnd then .ok (text, gap.broken, c)
      else
        let (gap, c) ← gap.read column c.rest.length c
        if !inFlow && c.column < column then .ok (text, gap.broken, c)
        else plainWords inFlow column fuel text gap c

def hexValue? (c : Char) : Option Nat :=
  if '0' ≤ c && c ≤ '9' then some (c.toNat - 48)
  else if 'a' ≤ c && c ≤ 'f' then some (c.toNat - 87)
  else if 'A' ≤ c && c ≤ 'F' then some (c.toNat - 55)
  else none

def hexNumber? (count : Nat) (cs : List Char) : Option Nat :=
  let digits := cs.take count
  if digits.length < count then none
  else digits.foldl (fun n c => match n, hexValue? c with
    | some n, some d => some (16 * n + d)
    | _, _ => none) (some 0)

def charOf? (n : Nat) : Option Char :=
  if h : n.isValidChar then some (Char.ofNatAux n h) else none

/-- An escape after its backslash: the character, and how many characters it is written with. -/
def readEscape : List Char → Option (Char × Nat)
  | '0' :: _ => some (Char.ofNat 0, 1)
  | 'a' :: _ => some ('\x07', 1)
  | 'b' :: _ => some ('\x08', 1)
  | 't' :: _ => some ('\t', 1)
  | '\t' :: _ => some ('\t', 1)
  | 'n' :: _ => some ('\n', 1)
  | 'v' :: _ => some ('\x0b', 1)
  | 'f' :: _ => some ('\x0c', 1)
  | 'r' :: _ => some ('\r', 1)
  | 'e' :: _ => some ('\x1b', 1)
  | ' ' :: _ => some (' ', 1)
  | '"' :: _ => some ('"', 1)
  | '/' :: _ => some ('/', 1)
  | '\\' :: _ => some ('\\', 1)
  | 'N' :: _ => some ('\u0085', 1)
  | '_' :: _ => some ('\u00a0', 1)
  | 'L' :: _ => some ('\u2028', 1)
  | 'P' :: _ => some ('\u2029', 1)
  | 'x' :: r => ((hexNumber? 2 r).bind charOf?).map (·, 3)
  | 'u' :: r => ((hexNumber? 4 r).bind charOf?).map (·, 5)
  | 'U' :: r => ((hexNumber? 8 r).bind charOf?).map (·, 9)
  | _ => none

/-- Reads a word of a quoted scalar: its text, whether an escaped line end follows, and the cursor.
-/
def quotedWord (mark : Char) :
    Nat → List Char → Cursor → Except YamlError (List Char × Bool × Cursor)
  | 0, text, c => .ok (text, false, c)
  | fuel + 1, text, c =>
    match c.rest with
    | [] => .ok (text, false, c)
    | x :: rest =>
      if isGap x || isBreak x then .ok (text, false, c)
      else if x == mark then
        if mark == '\'' && rest.head? == some '\'' then
          quotedWord mark fuel (text ++ ['\'']) (c.skip 2)
        else .ok (text, false, c)
      else if mark == '"' && x == '\\' then
        if rest.head?.any isBreak then .ok (text, true, (c.skip 1).takeBreak.2)
        else match readEscape rest with
          | some (y, length) => quotedWord mark fuel (text ++ [y]) (c.skip (1 + length))
          | none => .error .badEscape
      else quotedWord mark fuel (text ++ [x]) (c.skip 1)

def quotedWords (mark : Char) : Nat → List Char → Cursor → Except YamlError (List Char × Cursor)
  | 0, _, _ => .error .unclosed
  | fuel + 1, text, c =>
    if c.atDocumentMark || c.rest.isEmpty then .error .unclosed
    else do
      let (word, escaped, c) ← quotedWord mark c.rest.length [] c
      if c.isAt mark then .ok (text ++ word, c.skip 1)
      else
        let start : Gap := if escaped then .joined else .none
        let (gap, c) ← start.read 0 c.rest.length c
        quotedWords mark fuel (text ++ word ++ gap.text) c

/-- What happens to the line ends at the end of a block. -/
inductive Chomping
  | clip | strip | keep
  deriving DecidableEq

def chomping? : List Char → Option (Chomping × List Char)
  | '+' :: r => some (.keep, r)
  | '-' :: r => some (.strip, r)
  | _ => none

/-- A digit of a block's head; zero is none. -/
def increment? : List Char → Option (Nat × List Char)
  | c :: r => if '1' ≤ c && c ≤ '9' then some (c.toNat - 48, r) else none
  | [] => none

/-- The head of a block after its mark: chomping and increment in any order. -/
def blockHead (cs : List Char) : Chomping × Nat × List Char :=
  match chomping? cs with
  | some (chomping, r) =>
    match increment? r with
    | some (n, r) => (chomping, n, r)
    | none => (chomping, 0, r)
  | none =>
    match increment? cs with
    | some (n, r) =>
      match chomping? r with
      | some (chomping, r) => (chomping, n, r)
      | none => (.clip, n, r)
    | none => (.clip, 0, cs)

/-- Passes over spaces up to a column; without a column, over all of them. -/
def skipIndent (column : Nat) : Nat → Cursor → Cursor
  | 0, c => c
  | fuel + 1, c =>
    if (column == 0 || c.column < column) && c.isAt ' ' then skipIndent column fuel (c.skip 1) else c

/-- Reads empty lines of a block up to a column, and the largest column on the way. -/
def blockBreaks (column : Nat) :
    Nat → Nat → List Char → Cursor → Except YamlError (Nat × List Char × Cursor)
  | 0, widest, text, c => .ok (widest, text, c)
  | fuel + 1, widest, text, c =>
    let c := skipIndent column c.rest.length c
    let widest := max widest c.column
    if (column == 0 || c.column < column) && c.isAt '\t' then .error .badIndentation
    else match c.rest with
      | [] => .ok (widest, text, c)
      | x :: _ =>
        if isBreak x then
          let (b, c) := c.takeBreak
          blockBreaks column fuel widest (text ++ b) c
        else .ok (widest, text, c)

/-- The lines of a block: `pending` is the end of the line before, `breaks` are the empty lines
after it, and `wasBlank` says whether that line began with a blank. -/
def blockLines (folded : Bool) (chomping : Chomping) (column : Nat) :
    Nat → List Char → List Char → List Char → Bool → Cursor →
      Except YamlError (List Char × Cursor)
  | 0, text, _, _, _, c => .ok (text, c)
  | fuel + 1, text, pending, breaks, wasBlank, c =>
    if c.column == column && !c.rest.isEmpty then do
      let blank := c.rest.head?.any isGap
      let between :=
        if folded && pending == ['\n'] && !wasBlank && !blank then
          if breaks.isEmpty then [' '] else breaks
        else pending ++ breaks
      let (line, c) := c.takeWhile fun x => !isBreak x
      let (ending, c) := c.takeBreak
      let (_, breaks, c) ← blockBreaks column (c.rest.length + 1) 0 [] c
      blockLines folded chomping column fuel (text ++ between ++ line) ending breaks blank c
    else
      match chomping with
      | .strip => .ok (text, c)
      | .clip => .ok (text ++ pending, c)
      | .keep => .ok (text ++ pending ++ breaks, c)

/-- Reads a block of lines after its mark; `indent` is the column of the block around. -/
def readBlock (folded : Bool) (indent : Int) (c : Cursor) :
    Except YamlError (List Char × Cursor) := do
  let (chomping, increment, rest) := blockHead c.rest
  let c := c.skip (c.rest.length - rest.length)
  let (_, c) := c.takeWhile isGap
  let c := if c.isAt '#' then (c.takeWhile fun x => !isBreak x).2 else c
  if !c.atLineEnd then .error .badScalar
  else
    let c := c.takeBreak.2
    let given := if increment = 0 then 0 else (max indent 0).toNat + increment
    let (widest, breaks, c) ← blockBreaks given (c.rest.length + 1) 0 [] c
    let column := if given = 0 then max (max widest (indent + 1).toNat) 1 else given
    blockLines folded chomping column (c.rest.length + 1) [] [] breaks false c

end Assay.Yaml

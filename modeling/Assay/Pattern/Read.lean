/- digest: Reading regular expressions. Flaws of the form are found before those of the meaning, and
   of either kind the first one counts. -/

import Assay.Pattern.Bracket

set_option autoImplicit false
set_option relaxedAutoImplicit false

namespace Assay.Pattern

/-- The digits of a count; blanks around them are passed over. -/
def readCountDigits (o : Options) : Nat → Option Nat → List Char → Option Nat × List Char
  | 0, count, cs => (count, cs)
  | fuel + 1, count, cs =>
    match cs with
    | c :: rest =>
      if Text.isDigit c then
        readCountDigits o fuel (some (count.getD 0 * 10 + (c.toNat - '0'.toNat))) (skip o rest)
      else (count, cs)
    | [] => (count, [])

def countLimit : Nat := Nat.pow 2 32

/-- A count with blanks around it, or the flaw in it; and the rest in both cases. -/
def readCount (o : Options) (cs : List Char) : Except Flaw Nat × List Char :=
  let start := cs.dropWhile Text.isBlank
  let (count, rest) := readCountDigits o (start.length + 1) none start
  let place := Stretch.between start rest
  let result := match count with
    | none => fail .noCount place
    | some n => if n < countLimit then .ok n else fail .badCount place
  (result, skip o (rest.dropWhile Text.isBlank))

/-- The most that a repetition with a comma allows, after the comma. -/
def readMost (o : Options) (brace : List Char) (least : Except Flaw Nat) (cs : List Char) :
    Except Flaw (Taken (Nat × Option Nat)) := do
  match skip o cs with
  | [] => fail .openCount (.between brace [])
  | '}' :: after =>
    let least ← least
    .ok ((least, none), '}' :: after)
  | cs =>
    let least ← least
    let (most, rest) := readCount o cs
    let most ← most
    .ok ((least, some most), rest)

/-- The numbers of a repetition, up to its closing brace. -/
def readNumbers (o : Options) (brace cs : List Char) : Except Flaw (Taken (Nat × Option Nat)) := do
  match skip o cs with
  | [] => fail .openCount (.between brace [])
  | cs =>
    let (least, rest) := readCount o cs
    match rest with
    | [] => fail .openCount (.between brace [])
    | ',' :: after => readMost o brace least after
    | rest =>
      let n ← least
      .ok ((n, some n), rest)

/-- The bounds of a repetition and the mark of a reluctant one; `brace` begins with the opening
brace, and the list is what follows that. -/
def readBounds (o : Options) (brace cs : List Char) : Except Flaw (Taken (Nat × Option Nat)) := do
  let ((least, most), rest) ← readNumbers o brace cs
  match rest with
  | '}' :: rest =>
    let rest := match skip o rest with
      | '?' :: after => after
      | after => after
    if most.all (least ≤ ·) then .ok ((least, most), rest)
    else fail .countOrder (.between brace rest)
  | rest => fail .openCount (.between brace rest)

/-- The part of an expression inside one pair of brackets: the place of the first bracket, whether
the group is kept, the options before it, finished alternatives and the current sequence, both
backwards. -/
structure Level where
  opening : Stretch
  kept : Bool
  outside : Options
  done : List Pattern
  parts : List Pattern

namespace Level

def sequenceOf : List Pattern → Pattern
  | [] => .empty
  | [p] => p
  | parts => .sequence parts

def divide (l : Level) : Level :=
  { l with done := sequenceOf l.parts.reverse :: l.done, parts := [] }

def close (l : Level) : Pattern :=
  match (sequenceOf l.parts.reverse :: l.done).reverse with
  | [p] => p
  | alternatives => .choice alternatives

def push (l : Level) (p : Pattern) : Level := { l with parts := p :: l.parts }

def canRepeat (l : Level) : Bool :=
  match l.parts with
  | [] => false
  | .options :: _ => false
  | _ => true

def repeatLast (l : Level) (least : Nat) (most : Option Nat) : Level :=
  match l.parts with
  | [] => l
  | p :: rest => { l with parts := .repeated p least most :: rest }

end Level

/-- The names of groups with their places, the options, the current level, and the levels around it.
-/
structure Draft where
  names : List (List Char × Stretch)
  options : Options
  level : Level
  around : List Level

namespace Draft

/-- Appends a part to the current level. -/
def push (r : Draft) (p : Pattern) : Draft := { r with level := r.level.push p }

/-- Repeats the last part; `cs` begins with the sign of the repetition. A question mark after the
sign changes which match is preferred. -/
def repeatLast (r : Draft) (least : Nat) (most : Option Nat) (cs : List Char) :
    Except Flaw (Taken Draft) :=
  if r.level.canRepeat then
    .ok ({ r with level := r.level.repeatLast least most }, match cs.tail with
      | '?' :: rest => rest
      | rest => rest)
  else fail .nothingToRepeat (.before cs)

def openGroup (r : Draft) (opening : Stretch) (kept : Bool) (inside : Options) : Draft :=
  { r with
    options := inside, level := ⟨opening, kept, r.options, [], []⟩, around := r.level :: r.around }

def closeGroup? (r : Draft) : Option Draft :=
  match r.around with
  | [] => none
  | l :: around =>
    some { r with
      options := r.level.outside, level := l.push (.group r.level.kept r.level.close),
      around := around }

end Draft

def isGroupNameChar (first : Bool) (c : Char) : Bool :=
  if first then c == '_' || Text.isAlphabetic c
  else c == '_' || c == '.' || c == '[' || c == ']' || Text.isAlphanumeric c

/-- The characters of the name of a group and its closing mark. -/
def readNameChars (done : List Char) : List Char → Except Flaw (Taken (List Char))
  | [] => fail .openName (.before [])
  | '>' :: rest => .ok (done.reverse, '>' :: rest)
  | c :: rest =>
    if isGroupNameChar done.isEmpty c then readNameChars (c :: done) rest
    else fail .badName (.first (c :: rest))

/-- The letters of options up to a colon or a closing bracket: each at most once, and something
after the minus sign. -/
def readOptionLetters (done : List (Char × Stretch)) :
    List Char → Except Flaw (Taken (List Char × Bool))
  | [] => fail .openOptions (.before [])
  | c :: rest =>
    let place := Stretch.first (c :: rest)
    if c = ':' ∨ c = ')' then
      match done with
      | ('-', minus) :: _ => fail .lonelyMinus minus
      | _ => .ok ((done.reverse.map (·.1), c = ':'), rest)
    else if c = '-' ∨ Options.letters.contains c then
      match done.find? (·.1 == c) with
      | some (_, earlier) => clash (if c = '-' then .repeatedMinus else .repeatedOption) place earlier
      | none => readOptionLetters ((c, place) :: done) rest
    else fail .unknownOption place

/-- A group with a name, which no other may have; `start` begins with the opening bracket. -/
def openNamed (r : Draft) (start cs : List Char) : Except Flaw (Taken Draft) := do
  let (name, closing) ← readNameChars [] cs
  let place := Stretch.between cs closing
  if name.isEmpty then fail .noName (.before cs)
  else match r.names.find? (·.1 == name) with
    | some (_, earlier) => clash .repeatedName place earlier
    | none =>
      .ok ({ r with names := (name, place) :: r.names }.openGroup (.first start) true r.options,
        closing.tail)

/-- A group or a change of options; `start` begins with the opening bracket, and the list is what
follows that. -/
def readGroup (r : Draft) (start cs : List Char) : Except Flaw (Taken Draft) :=
  match skip r.options cs with
  | '?' :: rest =>
    match rest with
    | [] => fail .openGroup (.first start)
    | '=' :: after => fail .lookAround (.between start after)
    | '!' :: after => fail .lookAround (.between start after)
    | '<' :: '=' :: after => fail .lookAround (.between start after)
    | '<' :: '!' :: after => fail .lookAround (.between start after)
    | '<' :: named => openNamed r start named
    | 'P' :: '<' :: named => openNamed r start named
    | inside => do
      let ((letters, isGroup), after) ← readOptionLetters [] inside
      let changed := r.options.setAll true letters
      if isGroup then .ok (r.openGroup (.first start) false changed, after)
      else if letters.isEmpty then fail .nothingToRepeat (.before ('?' :: rest))
      else .ok ({ r with options := changed }.push .options, after)
  | rest => .ok (r.openGroup (.first start) true r.options, rest)

/-- Any character, or any that does not end a line. -/
def dotSet (o : Options) : CharSet :=
  if o.dotTakesAll then .all
  else if o.returnEndsLine then
    .bracket .off true (.union [.span '\r' '\r', .span '\n' '\n'])
  else .bracket .off true (.span '\n' '\n')

def startEdge (o : Options) : Edge :=
  if !o.manyLines then .start else if o.returnEndsLine then .anyLineStart else .lineStart

def finishEdge (o : Options) : Edge :=
  if !o.manyLines then .finish else if o.returnEndsLine then .anyLineFinish else .lineFinish

def Atom.toPattern (o : Options) (place : Stretch) : Atom → Except Flaw Pattern
  | .char c byteForm => do
    permit o false byteForm c place
    .ok (.one (single o c))
  | .set s => .ok (.one s)
  | .edge e => .ok (.edge e)

def readPart (r : Draft) (cs : List Char) : Except Flaw (Taken Draft) :=
  let o := r.options
  match cs with
  | [] => .ok (r, [])
  | '(' :: rest => readGroup r cs rest
  | ')' :: rest =>
    match r.closeGroup? with
    | some r => .ok (r, rest)
    | none => fail .strayClose (.first cs)
  | '|' :: rest => .ok ({ r with level := r.level.divide }, rest)
  | '[' :: rest => do
    let (s, rest) ← readSet o cs (2 * rest.length + 2) rest
    .ok (r.push (.one s), rest)
  | '?' :: _ => r.repeatLast 0 (some 1) cs
  | '*' :: _ => r.repeatLast 0 none cs
  | '+' :: _ => r.repeatLast 1 none cs
  | '{' :: rest => do
    if r.level.canRepeat then
      let ((least, most), rest) ← readBounds o cs rest
      .ok ({ r with level := r.level.repeatLast least most }, rest)
    else fail .nothingToRepeat (.before cs)
  | '\\' :: rest => do
    let (a, rest) ← readEscape o cs rest
    let p ← a.toPattern o (.between cs rest)
    .ok (r.push p, rest)
  | '.' :: rest => do
    o.check o.wide .invalidText (.first cs)
    .ok (r.push (.one (dotSet o)), rest)
  | '^' :: rest => .ok (r.push (.edge (startEdge o)), rest)
  | '$' :: rest => .ok (r.push (.edge (finishEdge o)), rest)
  | c :: rest => .ok (r.push (.one (single o c)), rest)

def readParts : Nat → Draft → List Char → Except Flaw Pattern
  | 0, _, cs => fail .openGroup (.before cs)
  | fuel + 1, r, cs =>
    match skip r.options cs with
    | [] => if r.around.isEmpty then .ok r.level.close else fail .openGroup r.level.opening
    | cs => do
      let (r, rest) ← readPart r cs
      readParts fuel r rest

/-- The expression that some characters spell, with or without a check of its meaning. -/
def readChars (strict : Bool) (cs : List Char) : Except Flaw Pattern :=
  let o := Options.initial strict
  readParts (cs.length + 1) ⟨[], o, ⟨.before cs, false, o, [], []⟩, []⟩ cs

/-- The expression that a text spells, if it is one and not nested too deeply. -/
def read (text : String) : Except Flaw Pattern := do
  let cs := text.toList
  let p ← readChars false cs
  if depthLimit < p.depth then fail (.tooDeep depthLimit) (.between cs []) else readChars true cs

end Assay.Pattern

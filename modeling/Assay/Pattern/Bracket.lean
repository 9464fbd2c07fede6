/- digest: Sets of characters between brackets: single characters, ranges, classes, sets inside
   sets, and the operations between them. -/

import Assay.Pattern.Escape

set_option autoImplicit false
set_option relaxedAutoImplicit false

namespace Assay.Pattern

def readSetAtom (o : Options) : List Char → Except Flaw (Taken Atom)
  | [] => fail .openSet (.before [])
  | '\\' :: rest => readEscape o ('\\' :: rest) rest
  | c :: rest => .ok (.char c false, rest)

/-- Checks that an atom may bound a range, and gives its character. -/
def boundOf (place : Stretch) : Atom → Except Flaw (Char × Bool)
  | .char c byteForm => .ok (c, byteForm)
  | _ => fail .rangeBound place

def Atom.toSet (o : Options) (place : Stretch) : Atom → Except Flaw CharSet
  | .char c byteForm => do
    permit o true byteForm c place
    .ok (.span c c)
  | .set s => .ok s
  | .edge _ => fail .edgeInSet place

/-- A character, a class or a range between brackets, of which the place of the first is given. -/
def readRange (o : Options) (opening : Stretch) (cs : List Char) : Except Flaw (Taken CharSet) := do
  let (first, rest) ← readSetAtom o cs
  let place := Stretch.between cs rest
  match skip o rest with
  | [] => fail .openSet opening
  | '-' :: after =>
    let next := peek? o after
    if next = some ']' ∨ next = some '-' then
      let s ← first.toSet o place
      .ok (s, '-' :: after)
    else
      let second := skip o after
      if second.isEmpty then fail .openSet opening
      else
        let (last, rest) ← readSetAtom o second
        let (a, aForm) ← boundOf place first
        let (b, bForm) ← boundOf (.between second rest) last
        permit o true aForm a place
        permit o true bForm b (.between second rest)
        if a ≤ b then .ok (.span a b, rest) else fail .rangeOrder (.between cs rest)
  | rest =>
    let s ← first.toSet o place
    .ok (s, rest)

/-- A class between `[:` and `:]`, after the first bracket: whether it is negated, its set, and the
rest. -/
def readPlainClass? : List Char → Option (Bool × CharSet × List Char)
  | ':' :: rest =>
    let (negated, rest) := match rest with
      | '^' :: r => (true, r)
      | r => (false, r)
    match rest.dropWhile (· ≠ ':') with
    | ':' :: ']' :: after => (plainClass? (rest.takeWhile (· ≠ ':'))).map (negated, ·, after)
    | _ => none
  | _ => none

/-- A set in brackets of its own, at a place; without wide characters nothing can be negated. -/
def bracketed (o : Options) (negated : Bool) (place : Stretch) (inner : CharSet) :
    Except Flaw CharSet := do
  o.check (o.wide || !negated) .invalidText place
  .ok (.bracket o.folding negated inner)

def unionOf : List CharSet → CharSet
  | [s] => s
  | sets => .union sets

/-- The items read so far, backwards, and the operation that waits for its right side. -/
structure SetDraft where
  items : List CharSet
  waiting : Option (SetOperation × CharSet)

namespace SetDraft

def push (d : SetDraft) (s : CharSet) : SetDraft := { d with items := s :: d.items }

def close (o : Options) (d : SetDraft) : CharSet :=
  let right := unionOf d.items.reverse
  match d.waiting with
  | some (operation, left) => .combined o.folding operation left right
  | none => right

/-- Puts everything so far on the left of an operation. -/
def await (o : Options) (d : SetDraft) (operation : SetOperation) : SetDraft :=
  ⟨[], some (operation, d.close o)⟩

end SetDraft

/-- Something must follow in a set; else its beginning is a flaw. -/
def needMore (start stop cs : List Char) : Except Flaw (List Char) :=
  if cs.isEmpty then fail .openSet (.between start stop) else .ok cs

def takeDashes (o : Options) (start : List Char) :
    Nat → SetDraft → List Char → Except Flaw (Taken SetDraft)
  | 0, d, cs => .ok (d, cs)
  | fuel + 1, d, cs =>
    match cs with
    | '-' :: rest => do
      let rest ← needMore start start (skip o rest)
      takeDashes o start fuel (d.push (.span '-' '-')) rest
    | _ => .ok (d, cs)

/-- The front of a bracket: its negation, dashes, and a closing bracket that stands for itself. -/
def readSetStart (o : Options) (start cs : List Char) : Except Flaw (Taken (Bool × SetDraft)) := do
  let cs ← needMore start [] (skip o cs)
  let (negated, cs) ← match cs with
    | '^' :: rest => do
      let rest ← needMore start [] (skip o rest)
      pure (true, rest)
    | cs => pure (false, cs)
  let (d, cs) ← takeDashes o start cs.length ⟨[], none⟩ cs
  match d.items, cs with
  | [], ']' :: rest => do
    let rest ← needMore start [] (skip o rest)
    .ok ((negated, d.push (.span ']' ']')), rest)
  | _, cs => .ok ((negated, d), cs)

mutual

/-- A set; `start` begins with its opening bracket, and the list is what follows that. -/
def readSet (o : Options) (start : List Char) : Nat → List Char → Except Flaw (Taken CharSet)
  | 0, cs => fail .openSet (.between start cs)
  | fuel + 1, cs => do
    let ((negated, d), cs) ← readSetStart o start cs
    readSetItems o start (.between start cs) negated d fuel cs

/-- The items of a set and its closing bracket; `opening` is the place of its front. -/
def readSetItems (o : Options) (start : List Char) (opening : Stretch) (negated : Bool)
    (d : SetDraft) : Nat → List Char → Except Flaw (Taken CharSet)
  | 0, _ => fail .openSet opening
  | fuel + 1, cs =>
    match skip o cs with
    | [] => fail .openSet opening
    | '[' :: rest =>
      match readPlainClass? rest with
      | some (opposite, s, after) => do
        let s ← bracketed o opposite (.between ('[' :: rest) after) s
        readSetItems o start opening negated (d.push s) fuel after
      | none => do
        let (s, after) ← readSet o ('[' :: rest) fuel rest
        readSetItems o start opening negated (d.push s) fuel after
    | ']' :: rest => do
      let s ← bracketed o negated (.between start rest) (d.close o)
      .ok (s, rest)
    | '&' :: '&' :: rest => readSetItems o start opening negated (d.await o .both) fuel rest
    | '-' :: '-' :: rest => readSetItems o start opening negated (d.await o .minus) fuel rest
    | '~' :: '~' :: rest => readSetItems o start opening negated (d.await o .either) fuel rest
    | cs => do
      let (s, rest) ← readRange o opening cs
      readSetItems o start opening negated (d.push s) fuel rest

end

end Assay.Pattern

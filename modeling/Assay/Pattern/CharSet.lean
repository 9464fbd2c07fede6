/- digest: Character sets of regular expressions: what they are made of, which characters belong to
   them, and the code ranges that they come to. -/

import Assay.Pattern.Table.Folding
import Assay.Text.Casing

set_option autoImplicit false
set_option relaxedAutoImplicit false

namespace Assay.Pattern

open Text (CodeRanges ShiftRules)

/-- Which characters count as the same: only themselves, the letters `a` to `z` in both cases, or
all characters with the same simple case folding. -/
inductive Folding
  | off | plain | full
  deriving DecidableEq

/-- How two sets are combined. -/
inductive SetOperation
  | both | minus | either
  deriving DecidableEq

/-- A set of characters. A bracket closes its set under folding before it is negated. -/
inductive CharSet
  | ranges (set : CodeRanges)
  | bracket (folding : Folding) (negated : Bool) (inner : CharSet)
  | union (items : List CharSet)
  | combined (folding : Folding) (operation : SetOperation) (left right : CharSet)

def Folding.others (f : Folding) (c : Char) : List Char :=
  match f with
  | .off => []
  | .plain => [Text.lowerPlain c, Text.upperPlain c]
  | .full =>
    let folded := Table.foldShifts.apply c
    folded :: Table.foldShifts.sources folded

def Folding.closes (f : Folding) (member : Char → Bool) (c : Char) : Bool :=
  member c || (f.others c).any member

/-- The moves that lead to the characters that stand for all others of the same kind. -/
def Folding.rules : Folding → ShiftRules
  | .off => ⟨[]⟩
  | .plain => ⟨[⟨'A'.toNat, 'Z'.toNat, 1, 32⟩]⟩
  | .full => Table.foldShifts

def SetOperation.apply : SetOperation → Bool → Bool → Bool
  | .both, a, b => a && b
  | .minus, a, b => a && !b
  | .either, a, b => a != b

def SetOperation.merge : SetOperation → CodeRanges → CodeRanges → CodeRanges
  | .both, s, t => s.both t
  | .minus, s, t => s.minus t
  | .either, s, t => CodeRanges.union [s.minus t, t.minus s]

namespace CharSet

mutual

def contains : CharSet → Char → Bool
  | .ranges set, c => set.contains c
  | .bracket folding negated inner, c => folding.closes (fun d => contains inner d) c != negated
  | .union items, c => anyContains items c
  | .combined folding operation left right, c =>
    operation.apply (folding.closes (fun d => contains left d) c)
      (folding.closes (fun d => contains right d) c)

def anyContains : List CharSet → Char → Bool
  | [], _ => false
  | s :: rest, c => contains s c || anyContains rest c

end

mutual

def codes : CharSet → CodeRanges
  | .ranges set => set.normal
  | .bracket folding negated inner =>
    let closed := folding.rules.closure (codes inner)
    if negated then closed.complement else closed
  | .union items => CodeRanges.union (codesOf items)
  | .combined folding operation left right =>
    operation.merge (folding.rules.closure (codes left)) (folding.rules.closure (codes right))

def codesOf : List CharSet → List CodeRanges
  | [] => []
  | s :: rest => codes s :: codesOf rest

end

def flat (s : CharSet) : CharSet := .ranges s.codes

def span (first last : Char) : CharSet := .ranges ⟨[(first.toNat, last.toNat)]⟩

def empty : CharSet := .ranges .empty

def all : CharSet := .ranges .all

def complement (s : CharSet) : CharSet := .bracket .off true s

def without (s t : CharSet) : CharSet := .combined .off .minus s t

def meet (s t : CharSet) : CharSet := .combined .off .both s t

mutual

def depth : CharSet → Nat
  | .ranges _ => 0
  | .bracket _ _ inner => depth inner + 1
  | .union items => maxDepth items + 1
  | .combined _ _ left right => max (depth left) (depth right) + 1

def maxDepth : List CharSet → Nat
  | [] => 0
  | s :: rest => max (depth s) (maxDepth rest)

end

end CharSet

end Assay.Pattern

/- digest: Regular expressions over characters: character sets, places between characters, groups,
   and the ways to combine them. -/

import Assay.Pattern.CharSet

set_option autoImplicit false
set_option relaxedAutoImplicit false

namespace Assay.Pattern

/-- A condition on a place between characters. -/
inductive Edge
  | start | finish | lineStart | lineFinish | anyLineStart | anyLineFinish
  | word (plain : Bool) | notWord (plain : Bool)
  | wordStart (plain : Bool) | wordFinish (plain : Bool)
  | notAfterWord (plain : Bool) | notBeforeWord (plain : Bool)
  deriving DecidableEq

end Pattern

/-- A regular expression. -/
inductive Pattern
  | empty
  /-- A change of options, which matches without characters and cannot be repeated. -/
  | options
  | one (set : Pattern.CharSet)
  | edge (place : Pattern.Edge)
  | repeated (inner : Pattern) (least : Nat) (most : Option Nat)
  /-- A group; one that is `kept` records where it matches. -/
  | group (kept : Bool) (inner : Pattern)
  | sequence (parts : List Pattern)
  | choice (parts : List Pattern)

namespace Pattern

mutual

def depth : Pattern → Nat
  | .empty => 0
  | .options => 0
  | .one set => set.depth
  | .edge _ => 0
  | .repeated inner _ _ => depth inner + 1
  | .group _ inner => depth inner + 1
  | .sequence parts => maxDepth parts + 1
  | .choice parts => maxDepth parts + 1

/-- The deepest nesting among several expressions. -/
def maxDepth : List Pattern → Nat
  | [] => 0
  | p :: rest => max (depth p) (maxDepth rest)

end

def depthLimit : Nat := 250

end Pattern

end Assay

/- digest: A regular expression as it is built: sets are ranges of codes, and what means the same is
   written in one way, so that neighbouring texts are joined and alternatives that are characters
   are one set. -/

import Assay.Pattern.Basic
import Assay.Pattern.Octets

set_option autoImplicit false
set_option relaxedAutoImplicit false

namespace Assay.Pattern

open Text (CodeRanges)

/-- What an expression is built from. -/
inductive Plan
  | nothing
  /-- The codes of a text, at least one. -/
  | text (codes : List Nat)
  /-- One of the codes of a set, as ascending ranges. -/
  | oneOf (ranges : List (Nat × Nat))
  | edge (place : Edge)
  | repeated (inner : Plan) (least : Nat) (most : Option Nat)
  | kept (inner : Plan)
  | sequence (parts : List Plan)
  | choice (parts : List Plan)

namespace Plan

mutual

/-- Whether two plans are the same. What is kept is kept at one place only. -/
def same : Plan → Plan → Bool
  | .nothing, .nothing => true
  | .text a, .text b => a == b
  | .oneOf a, .oneOf b => a == b
  | .edge a, .edge b => a == b
  | .repeated a least most, .repeated b least' most' =>
    least == least' && most == most' && same a b
  | .sequence a, .sequence b => allSame a b
  | .choice a, .choice b => allSame a b
  | _, _ => false

def allSame : List Plan → List Plan → Bool
  | [], [] => true
  | a :: as, b :: bs => same a b && allSame as bs
  | _, _ => false

end

def octetCount (code : Nat) : Nat := (octetsOf code).length

def textOctets (codes : List Nat) : List Nat := codes.flatMap octetsOf

/-- The sum of counts, all of which are known. -/
def plus? (a b : Option Nat) : Option Nat := a.bind fun m => b.map (m + ·)

/-- One of two counts, both of which are known. -/
def best? (better : Nat → Nat → Nat) (a b : Option Nat) : Option Nat :=
  a.bind fun m => b.map (better m)

mutual

/-- The fewest octets that a plan matches. Of the empty set nothing is known. -/
def shortest? : Plan → Option Nat
  | .nothing => some 0
  | .text codes => some (textOctets codes).length
  | .oneOf ranges => ranges.head?.map fun r => octetCount r.1
  | .edge _ => some 0
  | .repeated inner least _ => (shortest? inner).map (· * least)
  | .kept inner => shortest? inner
  | .sequence parts => shortestOfAll? parts
  | .choice parts => shortestOfAny? parts

def shortestOfAll? : List Plan → Option Nat
  | [] => some 0
  | p :: rest => plus? (shortest? p) (shortestOfAll? rest)

/-- The fewest octets that any of several plans matches. -/
def shortestOfAny? : List Plan → Option Nat
  | [] => none
  | [p] => shortest? p
  | p :: rest => best? min (shortest? p) (shortestOfAny? rest)

end

mutual

/-- The most octets that a plan matches, if there is a bound. -/
def longest? : Plan → Option Nat
  | .nothing => some 0
  | .text codes => some (textOctets codes).length
  | .oneOf ranges => ranges.getLast?.map fun r => octetCount r.2
  | .edge _ => some 0
  | .repeated inner _ most => most.bind fun m => (longest? inner).map (· * m)
  | .kept inner => longest? inner
  | .sequence parts => longestOfAll? parts
  | .choice parts => longestOfAny? parts

def longestOfAll? : List Plan → Option Nat
  | [] => some 0
  | p :: rest => plus? (longest? p) (longestOfAll? rest)

def longestOfAny? : List Plan → Option Nat
  | [] => none
  | [p] => longest? p
  | p :: rest => best? max (longest? p) (longestOfAny? rest)

end

/-- The plan of a set. A set of one character is a text. -/
def ofCodes (set : CodeRanges) : Plan :=
  let ranges := (CodeRanges.normal ⟨spelledRanges set⟩).ranges
  match ranges with
  | [(a, b)] => if a = b then .text [a] else .oneOf ranges
  | ranges => .oneOf ranges

/-- A plan a number of times. One that matches without octets is repeated once at most. -/
def times (inner : Plan) (least : Nat) (most : Option Nat) : Plan :=
  let least' := if longest? inner == some 0 then min least 1 else least
  let most' := if longest? inner == some 0 then some (min (most.getD 1) 1) else most
  if least' = 0 ∧ most' = some 0 then .nothing
  else if least' = 1 ∧ most' = some 1 then inner
  else .repeated inner least' most'

def row : Plan → List Plan
  | .nothing => []
  | .sequence parts => parts
  | p => [p]

/-- Puts a part in front of others, and joins texts. -/
def prepend (p : Plan) (parts : List Plan) : List Plan :=
  match p, parts with
  | .text a, .text b :: rest => .text (a ++ b) :: rest
  | p, parts => p :: parts

def inOrder (plans : List Plan) : Plan :=
  match (plans.flatMap row).foldr prepend [] with
  | [] => .nothing
  | [p] => p
  | parts => .sequence parts

def branches : Plan → List Plan
  | .choice parts => parts
  | p => [p]

def codes? : Plan → Option (List (Nat × Nat))
  | .text [code] => some [(code, code)]
  | .oneOf ranges => some ranges
  | _ => none

/-- The number of parts that two rows have in common at the front. -/
def commonLength : List Plan → List Plan → Nat
  | a :: as, b :: bs => if same a b then commonLength as bs + 1 else 0
  | _, _ => 0

def partsOf : Plan → List Plan
  | .sequence parts => parts
  | _ => []

def commonFront : List Plan → Nat
  | [] => 0
  | p :: rest => rest.foldl (fun n q => min n (commonLength (partsOf p) (partsOf q))) (partsOf p).length

/-- One of several plans; all characters are one set. -/
def anyOf (plans : List Plan) : Plan :=
  match plans.flatMap branches with
  | [p] => p
  | parts =>
    match parts.mapM codes? with
    | some sets => ofCodes ⟨sets.flatten⟩
    | none => .choice parts

/-- One of several plans. What sequences have in common at the front stands before the choice. -/
def select (plans : List Plan) : Plan :=
  match anyOf plans with
  | .choice parts =>
    match commonFront parts with
    | 0 => .choice parts
    | n =>
      let front := (parts.head?.map partsOf).getD []
      inOrder (front.take n ++ [anyOf (parts.map fun p => inOrder ((partsOf p).drop n))])
  | p => p

mutual

def ofPattern : Pattern → Plan
  | .empty => .nothing
  | .options => .nothing
  | .one set => ofCodes set.codes
  | .edge e => .edge e
  | .repeated inner least most => times (ofPattern inner) least most
  | .group true inner => .kept (ofPattern inner)
  | .group false inner => ofPattern inner
  | .sequence parts => inOrder (ofPatterns parts)
  | .choice parts => select (ofPatterns parts)

def ofPatterns : List Pattern → List Plan
  | [] => []
  | p :: rest => ofPattern p :: ofPatterns rest

end

end Plan

end Assay.Pattern

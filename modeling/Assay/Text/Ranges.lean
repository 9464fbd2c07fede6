/- digest: Sets of characters as code ranges, what can be made of them, and their compact written
   form. -/

import Assay.Text.Search

set_option autoImplicit false
set_option relaxedAutoImplicit false

namespace Assay.Text

/-- The value of a hexadecimal digit, lower case. -/
def hexValue? (c : Char) : Option Nat :=
  if '0' ≤ c ∧ c ≤ '9' then some (c.toNat - '0'.toNat)
  else if 'a' ≤ c ∧ c ≤ 'f' then some (c.toNat - 'a'.toNat + 10)
  else none

/-- Digits are read as long as they last; anything else ends the number. -/
def hexNumber (cs : List Char) : Nat :=
  cs.foldl (fun n c => match hexValue? c with | some d => n * 16 + d | none => n) 0

def words (line : String) : List (List Char) :=
  (splitChars ' ' line.toList).filter (· ≠ [])

/-- Closed code ranges. -/
structure CodeRanges where
  ranges : List (Nat × Nat)

namespace CodeRanges

/-- A character belongs to the set when one range holds its code. -/
def contains (s : CodeRanges) (c : Char) : Bool :=
  s.ranges.any fun r => r.1 ≤ c.toNat && c.toNat ≤ r.2

def empty : CodeRanges := ⟨[]⟩

def top : Nat := 0x10ffff

def all : CodeRanges := ⟨[(0, top)]⟩

/-- Pairs of a gap from the last range's end and a length less one, summed up from the left. -/
def ofGaps (base : Nat) : List Nat → List (Nat × Nat)
  | gap :: extra :: rest => (base + gap, base + gap + extra) :: ofGaps (base + gap + extra) rest
  | _ => []

/-- The ranges that gap and length pairs describe. -/
def ofSteps (steps : List Nat) : CodeRanges := ⟨ofGaps 0 steps⟩

/-- Reads the written form: hexadecimal gap and length pairs. -/
def ofLines (lines : List String) : CodeRanges := ofSteps ((lines.flatMap words).map hexNumber)

/-- Joins a range with those after it, which begin in ascending order, where they overlap or touch.
-/
def joinFrom (current : Nat × Nat) : List (Nat × Nat) → List (Nat × Nat)
  | [] => [current]
  | r :: rest =>
    if r.1 ≤ current.2 + 1 then joinFrom (current.1, max current.2 r.2) rest
    else current :: joinFrom r rest

/-- The same set with its ranges in ascending order and apart. -/
def normal (s : CodeRanges) : CodeRanges :=
  match s.ranges.mergeSort fun a b => a.1 ≤ b.1 with
  | [] => ⟨[]⟩
  | r :: rest => ⟨joinFrom r rest⟩

def union (sets : List CodeRanges) : CodeRanges := normal ⟨sets.flatMap (·.ranges)⟩

def gapsFrom (first : Nat) : List (Nat × Nat) → List (Nat × Nat)
  | [] => if first ≤ top then [(first, top)] else []
  | (a, b) :: rest => (if first < a then [(first, a - 1)] else []) ++ gapsFrom (b + 1) rest

def complement (s : CodeRanges) : CodeRanges := ⟨gapsFrom 0 s.normal.ranges⟩

def both (s t : CodeRanges) : CodeRanges := complement (union [s.complement, t.complement])

def minus (s t : CodeRanges) : CodeRanges := complement (union [s.complement, t])

end CodeRanges

end Assay.Text

/- digest: Tables of the forms that single characters turn into, and their compact written form. -/

import Assay.Text.Ranges

set_option autoImplicit false
set_option relaxedAutoImplicit false

namespace Assay.Text

/-- A run of codes `first, first + step, …, last` that all move by the same distance. -/
structure ShiftRule where
  first : Nat
  last : Nat
  step : Nat
  shift : Int

namespace ShiftRule

def applies (r : ShiftRule) (code : Nat) : Bool :=
  r.first ≤ code && code ≤ r.last && (code - r.first) % r.step == 0

def move (r : ShiftRule) (code : Nat) : Nat := ((code : Int) + r.shift).toNat

/-- The rule that moves every code back. -/
def inverse (r : ShiftRule) : ShiftRule := ⟨r.move r.first, r.move r.last, r.step, -r.shift⟩

def image (r : ShiftRule) (range : Nat × Nat) : List (Nat × Nat) :=
  let a := max r.first range.1
  let b := min r.last range.2
  if b < a then []
  else if r.step = 1 then [(r.move a, r.move b)]
  else ((List.range (b - a + 1)).filter fun i => r.applies (a + i)).map fun i =>
    (r.move (a + i), r.move (a + i))

end ShiftRule

/-- Moving rules for single characters, at most one for each. -/
structure ShiftRules where
  rules : List ShiftRule

namespace ShiftRules

/-- The written distance: a sign and hexadecimal digits. -/
def distance : List Char → Int
  | '-' :: ds => -(hexNumber ds : Int)
  | '+' :: ds => (hexNumber ds : Int)
  | ds => (hexNumber ds : Int)

/-- The rules that groups of four numbers describe: gap from the last first code, length less one,
step and distance. -/
def ofGroups (base : Nat) : List (Nat × Nat × Nat × Int) → List ShiftRule
  | (gap, extra, step, shift) :: rest =>
    ⟨base + gap, base + gap + extra, step, shift⟩ :: ofGroups (base + gap) rest
  | [] => []

/-- The rules that groups describe, from the first code on. -/
def ofSteps (groups : List (Nat × Nat × Nat × Int)) : ShiftRules := ⟨ofGroups 0 groups⟩

def groups : List (List Char) → List (Nat × Nat × Nat × Int)
  | gap :: extra :: step :: shift :: rest =>
    (hexNumber gap, hexNumber extra, hexNumber step, distance shift) :: groups rest
  | _ => []

def ofLines (lines : List String) : ShiftRules := ofSteps (groups (lines.flatMap words))

/-- The character that a rule leads to, if one speaks of it. -/
def find? (s : ShiftRules) (c : Char) : Option Char :=
  (s.rules.find? (·.applies c.toNat)).map fun r => Char.ofNat (r.move c.toNat)

/-- The character that a rule leads to, or the character itself. -/
def apply (s : ShiftRules) (c : Char) : Char := (s.find? c).getD c

/-- All characters other than `c` that the rules move onto `c`. -/
def sources (s : ShiftRules) (c : Char) : List Char :=
  s.rules.filterMap fun r =>
    let source := (c.toNat : Int) - r.shift
    if 0 ≤ source ∧ r.applies source.toNat then some (Char.ofNat source.toNat) else none

def image (s : ShiftRules) (set : CodeRanges) : CodeRanges :=
  ⟨s.rules.flatMap fun r => set.ranges.flatMap r.image⟩

/-- The rules that move every code back. -/
def inverse (s : ShiftRules) : ShiftRules := ⟨s.rules.map (·.inverse)⟩

/-- A set with all codes that move to the same ones as its own. -/
def closure (s : ShiftRules) (set : CodeRanges) : CodeRanges :=
  let reached := CodeRanges.union [set, s.image set]
  CodeRanges.union [reached, s.inverse.image reached]

end ShiftRules

/-- Forms of one or more characters, by code. -/
structure LongForms where
  forms : List (Nat × List Char)

namespace LongForms

/-- Reads words such as `df:53+53`; without a code, the one after the last is meant. -/
def ofWords (last : Nat) : List (List Char) → List (Nat × List Char)
  | [] => []
  | word :: rest =>
    match splitChars ':' word with
    | [code, form] =>
      let code := if code = [] then last + 1 else hexNumber code
      (code, (splitChars '+' form).map fun h => Char.ofNat (hexNumber h)) :: ofWords code rest
    | _ => ofWords last rest

def ofLines (lines : List String) : LongForms := ⟨ofWords 0 (lines.flatMap words)⟩

def find? (s : LongForms) (c : Char) : Option (List Char) :=
  (s.forms.find? (·.1 == c.toNat)).map (·.2)

end LongForms

end Assay.Text

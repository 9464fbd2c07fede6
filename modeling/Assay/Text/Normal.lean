/- digest: Texts that look the same in one written form: characters are taken apart, their marks are
   put in order, and what can be written as one character is put together again. -/

import Assay.Text.Table.Composition

set_option autoImplicit false
set_option relaxedAutoImplicit false

namespace Assay.Text

/-- A character with its combining class; marks that do not touch each other differ in class. -/
abbrev Placed := Nat × Char

def combiningClass (c : Char) : Nat :=
  if c.toNat < 0x300 then 0
  else ((Table.combiningClasses.find? (·.2.contains c)).map (·.1)).getD 0

namespace Hangul

/-- The letters of a syllable: a leading one, a vowel, and often a trailing one. -/
def letters? (c : Char) : Option (List Char) :=
  if 0xac00 ≤ c.toNat ∧ c.toNat ≤ 0xd7a3 then
    let n := c.toNat - 0xac00
    let trailing := if n % 28 = 0 then [] else [Char.ofNat (0x11a7 + n % 28)]
    some ([Char.ofNat (0x1100 + n / 588), Char.ofNat (0x1161 + n / 28 % 21)] ++ trailing)
  else none

/-- The syllable of a leading letter and a vowel, or of those and a trailing one. -/
def join? (a b : Char) : Option Char :=
  if 0x1100 ≤ a.toNat ∧ a.toNat ≤ 0x1112 ∧ 0x1161 ≤ b.toNat ∧ b.toNat ≤ 0x1175 then
    some (Char.ofNat (0xac00 + (a.toNat - 0x1100) * 588 + (b.toNat - 0x1161) * 28))
  else if 0xac00 ≤ a.toNat ∧ a.toNat ≤ 0xd7a3 ∧ (a.toNat - 0xac00) % 28 = 0 ∧
      0x11a8 ≤ b.toNat ∧ b.toNat ≤ 0x11c2 then
    some (Char.ofNat (a.toNat + (b.toNat - 0x11a7)))
  else none

end Hangul

/-- The parts of a character; `levels` bounds how often parts have parts of their own. -/
def partsOf : Nat → Char → List Char
  | 0, c => [c]
  | levels + 1, c =>
    match (Hangul.letters? c).or (Table.compositions.find? c) with
    | some parts => parts.flatMap (partsOf levels)
    | none => [c]

def partLevels : Nat := 4

/-- Puts a mark in front of others, behind those of a lower class. -/
def placeMark (x : Placed) : List Placed → List Placed
  | [] => [x]
  | y :: rest => if y.1 ≠ 0 ∧ y.1 < x.1 then y :: placeMark x rest else x :: y :: rest

/-- Puts all marks in the order of their classes; those of one class stay in order. -/
def inMarkOrder (cs : List Placed) : List Placed := cs.foldr placeMark []

/-- The character that two others are written as. -/
def join? (a b : Char) : Option Char :=
  (Hangul.join? a b).or
    ((Table.compositions.forms.find? fun f => f.2 == [a, b]).map fun f => Char.ofNat f.1)

/-- Puts together a base and what follows it, where `kept` are the marks in between, backwards. A
mark reaches the base unless one of its class or of a higher one is kept. -/
def joinFrom (base : Char) (kept : List Placed) : List Placed → List Char
  | [] => base :: kept.reverse.map (·.2)
  | (k, c) :: rest =>
    let isHidden : Bool := match kept with
      | (last, _) :: _ => k ≤ last
      | [] => false
    match if isHidden then none else join? base c with
    | some joined => joinFrom joined kept rest
    | none =>
      if k = 0 then base :: kept.reverse.map (·.2) ++ joinFrom c [] rest
      else joinFrom base ((k, c) :: kept) rest

/-- Puts together what can be written as one character. Marks at the front have no base. -/
def joined (cs : List Placed) : List Char :=
  let front := cs.takeWhile (·.1 ≠ 0)
  match cs.dropWhile (·.1 ≠ 0) with
  | [] => front.map (·.2)
  | (_, base) :: rest => front.map (·.2) ++ joinFrom base [] rest

def normalForm (cs : List Char) : List Char :=
  if cs.all (·.toNat < 0x300) then cs
  else joined (inMarkOrder ((cs.flatMap (partsOf partLevels)).map fun c => (combiningClass c, c)))

end Assay.Text

/- digest: Names of hosts in all scripts: the one form of each name, which names are fit, and how
   they are written in plain letters. -/

import Assay.Text.Normal
import Assay.Text.Punycode
import Assay.Url.Table.Direction
import Assay.Url.Table.Form
import Assay.Url.Table.Joining

set_option autoImplicit false
set_option relaxedAutoImplicit false

namespace Assay.Url

/-- The form of a character in names, unless it has no place there. -/
def nameForm? (c : Char) : Option (List Char) :=
  if Table.vanishing.contains c then some []
  else if Table.refused.contains c then none
  else some ((Table.nameForms.find? c).getD [Table.nameShifts.apply c])

def oneForm? (name : List Char) : Option (List Char) :=
  (name.mapM nameForm?).map fun forms => Text.normalForm forms.flatten

/-- Whether letters join over a place between them: the nearest letter on either side that is not
passed over joins toward the place. The characters before it run backwards. -/
def joinsOver (before after : List Char) : Bool :=
  let nearest (cs : List Char) := (cs.dropWhile Table.joinsThrough.contains).head?
  (nearest before).any Table.joinsAfter.contains && (nearest after).any Table.joinsBefore.contains

/-- Whether signs that only join or part letters stand where they have a meaning: behind a sign that
leaves out a vowel, or, if they part letters, where these would join. -/
def hasFitJoiners (before : List Char) : List Char → Bool
  | [] => true
  | c :: rest =>
    let leaves := before.head?.any (Text.combiningClass · == 9)
    let isFit : Bool :=
      if c.toNat = 0x200c then leaves || joinsOver before rest
      else c.toNat ≠ 0x200d || leaves
    isFit && hasFitJoiners (c :: before) rest

/-- Whether a part of a name does not begin with a mark, and has no stray joiners. -/
def isFitPart (part : List Char) : Bool :=
  !part.head?.any Table.marks.contains && hasFitJoiners [] part

/-- A part of a name between points: in its own script, and in plain letters. -/
structure NamePart where
  own : List Char
  plain : List Char

def plainMark : List Char := ['x', 'n', '-', '-']

def plainLimit : Nat := 2000

def ownLimit : Nat := 1000

/-- The part that plain letters after the mark stand for. It must be in its one form. -/
def ofPlain? (letters : List Char) : Option (List Char) :=
  if plainLimit < letters.length || letters.any (128 ≤ ·.toNat) || letters.isEmpty ||
      letters.getLast? == some '-' then none
  else (Text.Punycode.decode? letters).filter fun own => oneForm? own == some own && isFitPart own

def namePart? (part : List Char) : Option NamePart :=
  if plainMark.isPrefixOf part then
    (ofPlain? (part.drop plainMark.length)).map fun own => ⟨own, part⟩
  else if part.all (·.toNat < 128) then some ⟨part, part⟩
  else if ownLimit < part.length || !isFitPart part then none
  else some ⟨part, plainMark ++ Text.Punycode.encode part⟩

def directionOf (c : Char) : Direction :=
  ((Table.directions.find? (·.2.contains c)).map (·.1)).getD .leftToRight

/-- Whether a character runs from right to left, or is a number that does so. -/
def Direction.isBackward (d : Direction) : Bool :=
  [.rightToLeft, .arabicLetter, .arabicNumber].contains d

/-- Directions of numbers and signs that stand in parts of either direction. -/
def Direction.isShared (d : Direction) : Bool :=
  [.number, .numberSign, .numberEnd, .numberGap, .mark, .unseen, .neutral].contains d

/-- Whether a part with characters of both directions can be read in one way only. -/
def isOneWay (part : List Char) : Bool :=
  let ds := part.map directionOf
  let last := (ds.reverse.dropWhile (· == .mark)).head?
  match ds with
  | [] => true
  | .leftToRight :: _ =>
    ds.all (fun d => d == .leftToRight || d.isShared) &&
      last.any fun d => d == .leftToRight || d == .number
  | first :: _ =>
    (first == .rightToLeft || first == .arabicLetter) &&
      ds.all (fun d => d.isBackward || d.isShared) &&
      (last.any fun d => d.isBackward || d == .number) &&
      !(ds.contains .number && ds.contains .arabicNumber)

def isForbidden (c : Char) : Bool :=
  c.toNat ≤ 32 || c.toNat = 127 ||
    ['%', '#', '/', ':', '<', '>', '?', '@', '[', '\\', ']', '^', '|'].contains c

def plainName? (name : List Char) : Option (List Char) := do
  let parts ← (Text.splitChars '.' (← oneForm? name)).mapM namePart?
  let plain := ((parts.map (·.plain)).intersperse ['.']).flatten
  let runsBackward := parts.any fun p => p.own.any fun c => (directionOf c).isBackward
  if plain.any isForbidden || (runsBackward && !parts.all fun p => isOneWay p.own) then none
  else some plain

end Assay.Url

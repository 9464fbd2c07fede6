/- digest: Character sets by what an expression calls them: the name of a set, the value of a
   property, the classes between `[:` and `:]`, and the short classes. -/

import Assay.Pattern.Boundary
import Assay.Pattern.Table.Age

set_option autoImplicit false
set_option relaxedAutoImplicit false

namespace Assay.Pattern

open Text (CodeRanges)

/-- Names are compared in lower case, without blanks, lines and dashes, and without a leading
`is`; a lone `c` after it belongs to the name of a comment. -/
def plainName (cs : List Char) : String :=
  let (body, cut) := match cs with
    | a :: b :: rest =>
      if Text.lowerPlain a = 'i' ∧ Text.lowerPlain b = 's' then (rest, true) else (cs, false)
    | _ => (cs, false)
  let kept := (body.filter fun c => c.toNat < 128 && c != ' ' && c != '_' && c != '-').map
    Text.lowerPlain
  if cut ∧ kept = ['c'] then "isc" else String.ofList kept

/-- Names of properties that mean a category or a script where no property is named. -/
def overshadowed : List String := ["cf", "sc", "lc"]

/-- The set of a single name: a property, a category or a script. -/
def namedSet? (name : List Char) : Option CharSet :=
  let name := plainName name
  let property := if overshadowed.contains name then none else property? name
  (property.or (category? name)).or (script? name)

/-- Whether a single name is known, but no character belongs to it. -/
def isHollow (name : List Char) : Bool :=
  (hollowCategories ++ hollowScripts).contains (plainName name)

def upToAge? (name : String) : List (List String × List String) → Option (List CodeRanges)
  | [] => none
  | (names, lines) :: later =>
    if names.contains name then some [CodeRanges.ofLines lines]
    else (upToAge? name later).map (CodeRanges.ofLines lines :: ·)

/-- The characters that a version of the standard knows. -/
def age? (name : String) : Option CharSet :=
  (upToAge? name Table.ages).map fun sets => .ranges (CodeRanges.union sets)

/-- The properties whose values name sets, by their short and long names. -/
def valuedProperties : List (List String × (String → Option CharSet)) :=
  [(["gc", "generalcategory"], category?),
    (["sc", "script"], script?),
    (["scx", "scriptextensions"], usedIn?),
    (["age"], age?),
    (["gcb", "graphemeclusterbreak"], graphemePart?),
    (["wb", "wordbreak"], wordPart?),
    (["sb", "sentencebreak"], sentencePart?)]

def valuesOf? (property : List Char) : Option (String → Option CharSet) :=
  named? (plainName property) valuedProperties

def plainRanges (pairs : List (Char × Char)) : CharSet :=
  .ranges ⟨pairs.map fun p => (p.1.toNat, p.2.toNat)⟩

def plainClasses : List (List String × CharSet) :=
  let digit := ('0', '9')
  let lower := ('a', 'z')
  let upper := ('A', 'Z')
  [(["alnum"], plainRanges [digit, upper, lower]),
    (["alpha"], plainRanges [upper, lower]),
    (["ascii"], plainRanges [(Char.ofNat 0, Char.ofNat 0x7f)]),
    (["blank"], plainRanges [('\t', '\t'), (' ', ' ')]),
    (["cntrl"], plainRanges [(Char.ofNat 0, Char.ofNat 0x1f), (Char.ofNat 0x7f, Char.ofNat 0x7f)]),
    (["digit"], plainRanges [digit]),
    (["graph"], plainRanges [('!', '~')]),
    (["lower"], plainRanges [lower]),
    (["print"], plainRanges [(' ', '~')]),
    (["punct"], plainRanges [('!', '/'), (':', '@'), ('[', '\x60'), ('{', '~')]),
    (["space"], plainRanges [('\t', '\r'), (' ', ' ')]),
    (["upper"], plainRanges [upper]),
    (["word"], plainRanges [digit, upper, ('_', '_'), lower]),
    (["xdigit"], plainRanges [digit, ('A', 'F'), ('a', 'f')])]

def plainClass? (name : List Char) : Option CharSet := named? (String.ofList name) plainClasses

def blanks : CharSet := listed "space"

/-- Letters, marks, digits, and the characters that connect them, of all scripts. -/
def wordChars : CharSet :=
  (CharSet.union [alphabetic, marks, .ranges Table.decimalNumber,
    .ranges Table.connectorPunctuation, listed "joinc"]).flat

/-- Decimal digits, of all scripts or plain. -/
def digitSet (plain : Bool) : CharSet :=
  if plain then plainRanges [('0', '9')] else .ranges Table.decimalNumber

/-- White space, of all scripts or plain. -/
def spaceSet (plain : Bool) : CharSet :=
  if plain then plainRanges [('\t', '\r'), (' ', ' ')] else blanks

/-- Characters of words, of all scripts or plain. -/
def wordSet (plain : Bool) : CharSet :=
  if plain then plainRanges [('0', '9'), ('A', 'Z'), ('_', '_'), ('a', 'z')] else wordChars

end Assay.Pattern

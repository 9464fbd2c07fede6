/- digest: Character sets by the part that characters play where graphemes, words and sentences end.
   -/

import Assay.Pattern.Property
import Assay.Pattern.Script
import Assay.Pattern.Table.Boundary

set_option autoImplicit false
set_option relaxedAutoImplicit false

namespace Assay.Pattern

def code (n : Nat) : CharSet := .ranges ⟨[(n, n)]⟩

/-- Marks that extend what stands before them, with the shades of signs. -/
def extending : CharSet := .union [graphemeExtend, listed "emod"]

/-- Syllables of Hangul, and those of them without a trailing consonant. -/
def hangulSyllables (open_ : Bool) : CharSet :=
  let all : CharSet := .ranges ⟨[(0xac00, 0xd7a3)]⟩
  let opened : CharSet :=
    .ranges ⟨(List.range 399).map fun i => (0xac00 + 28 * i, 0xac00 + 28 * i)⟩
  if open_ then opened else .without all opened

def graphemePart? : String → Option CharSet
  | "cr" => some (code 13)
  | "lf" => some (code 10)
  | "zwj" => some (code 0x200d)
  | "cn" | "control" => some (.ranges Table.clusterControl)
  | "ex" | "extend" => some extending
  | "pp" | "prepend" => some (.ranges Table.prepending)
  | "ri" | "regionalindicator" => some (listed "ri")
  | "l" => some (.ranges Table.leadingJamo)
  | "v" => some (.ranges Table.vowelJamo)
  | "t" => some (.ranges Table.trailingJamo)
  | "lv" => some (hangulSyllables true)
  | "lvt" => some (hangulSyllables false)
  | "sm" | "spacingmark" =>
    some (.union [.without (.ranges Table.spacingMark)
      (.union [extending, .ranges Table.unattachedMark]), code 0xe33, code 0xeb3])
  | _ => none

def numberSigns : CharSet := .without (listed "pcm") (code 0x70f)

def scriptChars (name : String) : CharSet := (script? name).getD .empty

/-- Scripts whose words only a dictionary tells apart. -/
def denseScripts : List String :=
  ["thai", "laoo", "mymr", "khmr", "tale", "talu", "lana", "tavt", "ahom"]

def kana : CharSet := .union [scriptChars "kana", .ranges Table.kanaSign]

def hebrewLetters : CharSet := .meet (scriptChars "hebr") (.ranges Table.otherLetter)

def wordExtending : CharSet := .union [extending, .ranges Table.spacingMark]

def wordLetters : CharSet :=
  .union [.without alphabetic (.union ([listed "ideo", kana, scriptChars "hira", wordExtending,
    hebrewLetters] ++ denseScripts.map scriptChars)), .ranges Table.wordSign]

def wordPart? : String → Option CharSet
  | "cr" => some (code 13)
  | "lf" => some (code 10)
  | "zwj" => some (code 0x200d)
  | "dq" | "doublequote" => some (code 0x22)
  | "sq" | "singlequote" => some (code 0x27)
  | "nl" | "newline" => some (.ranges Table.newline)
  | "ri" | "regionalindicator" => some (listed "ri")
  | "hl" | "hebrewletter" => some hebrewLetters
  | "ka" | "katakana" => some kana
  | "le" | "aletter" => some wordLetters
  | "extend" => some wordExtending
  | "ex" | "extendnumlet" => some (.ranges Table.wordConnector)
  | "fo" | "format" =>
    some (.without (.ranges Table.format)
      (.union [graphemeExtend, listed "pcm", .ranges ⟨[(0x200b, 0x200d)]⟩]))
  | "mb" | "midnumlet" => some (.ranges Table.midNumberLetter)
  | "ml" | "midletter" => some (.ranges Table.midLetter)
  | "mn" | "midnum" => some (.ranges Table.midNumber)
  | "nu" | "numeric" =>
    some (.union [.ranges Table.decimalNumber, code 0x66b, numberSigns])
  | "wsegspace" => some (.ranges Table.wordSpace)
  | _ => none

def sentenceLower : CharSet :=
  .without lowercase (.union [graphemeExtend, .ranges ⟨[(0x10d0, 0x10fa), (0x10fd, 0x10ff)]⟩])

def sentenceUpper : CharSet :=
  .without (.union [uppercase, .ranges Table.titlecaseLetter])
    (.ranges ⟨[(0x1c90, 0x1cba), (0x1cbd, 0x1cbf)]⟩)

def sentenceExtending : CharSet :=
  .union [graphemeExtend, .ranges Table.spacingMark, code 0x200d]

/-- Line ends of sentences but the two plain ones. -/
def sentenceBreaks : CharSet := .union [code 0x85, code 0x2028, code 0x2029]

def sentenceEnds : CharSet := .without (listed "sterm") (.ranges Table.fullStop)

def sentencePart? : String → Option CharSet
  | "cr" => some (code 13)
  | "lf" => some (code 10)
  | "at" | "aterm" => some (.ranges Table.fullStop)
  | "cl" | "close" =>
    some (.union [.without (tables [Table.openPunctuation, Table.closePunctuation,
      Table.initialPunctuation, Table.finalPunctuation]) sentenceEnds, .ranges Table.sentenceQuote])
  | "ex" | "extend" => some sentenceExtending
  | "fo" | "format" =>
    some (.without (.ranges Table.format) (.union [graphemeExtend, code 0x200d, numberSigns]))
  | "le" | "oletter" =>
    some (.union [.without alphabetic (.union [sentenceLower, sentenceUpper, sentenceExtending]),
      code 0x5f3])
  | "lo" | "lower" => some sentenceLower
  | "nu" | "numeric" =>
    some (.union [.ranges Table.decimalNumber, .ranges ⟨[(0x66b, 0x66c)]⟩, numberSigns])
  | "sc" | "scontinue" => some (.ranges Table.sentenceComma)
  | "se" | "sep" => some sentenceBreaks
  | "sp" => some (.without (listed "space") (.union [sentenceBreaks, code 10, code 13]))
  | "st" | "sterm" => some sentenceEnds
  | "up" | "upper" => some sentenceUpper
  | _ => none

end Assay.Pattern

/- digest: Character sets by the names of yes-or-no properties. Some have tables of their own, the
   others are made up of those and of general categories. -/

import Assay.Pattern.Category
import Assay.Pattern.Table.Property

set_option autoImplicit false
set_option relaxedAutoImplicit false

namespace Assay.Pattern

open Text (CodeRanges)

def listed? (name : String) : Option CharSet :=
  (named? name Table.properties).map fun lines => .ranges (CodeRanges.ofLines lines)

def listed (name : String) : CharSet := (listed? name).getD .empty

def ofTable (lines : List String) : CharSet := .ranges (CodeRanges.ofLines lines)

/-- Letters of lower case, and other characters that look like them. -/
def lowercase : CharSet := .union [.ranges Table.lowercaseLetter, listed "olower"]

/-- Letters of upper case, and other characters that look like them. -/
def uppercase : CharSet := .union [.ranges Table.uppercaseLetter, listed "oupper"]

def cased : CharSet := .union [lowercase, uppercase, .ranges Table.titlecaseLetter]

/-- Letters, and other characters that count as such. -/
def alphabetic : CharSet := .union [letters, .ranges Table.letterNumber, listed "oalpha"]

/-- Characters that the case of their neighbours is not asked of. -/
def caseIgnorable : CharSet :=
  .union [tables [Table.nonspacingMark, Table.enclosingMark, Table.format, Table.modifierLetter,
    Table.modifierSymbol], ofTable Table.midWord]

def graphemeExtend : CharSet :=
  .union [tables [Table.nonspacingMark, Table.enclosingMark], listed "ogrext"]

def graphemeBase : CharSet :=
  .complement (.union [tables [Table.control, Table.format, Table.privateUse, Table.unassigned,
    Table.lineSeparator, Table.paragraphSeparator], graphemeExtend])

def defaultIgnorable : CharSet :=
  .without (.union [.ranges Table.format, listed "vs", listed "odi"])
    (.union [listed "space", listed "pcm", .ranges ⟨[(0xfff9, 0xfffb), (0x13430, 0x13440)]⟩])

def patternChars : CharSet := .union [listed "patsyn", listed "patws"]

def idStart : CharSet :=
  .without (.union [letters, .ranges Table.letterNumber, listed "oids"]) patternChars

def idContinue : CharSet :=
  .without (.union [idStart, tables [Table.nonspacingMark, Table.spacingMark, Table.decimalNumber,
    Table.connectorPunctuation], listed "oidc"]) patternChars

def lowered : CharSet :=
  .union [.meet uppercase (listed "cwcm"), .ranges Table.titlecaseLetter]

def raisedSmall : CharSet := .meet lowercase (listed "cwcm")

/-- A yes-or-no property by its name in lower case without lines. -/
def property? (name : String) : Option CharSet :=
  match name with
  | "alpha" | "alphabetic" => some alphabetic
  | "lower" | "lowercase" => some lowercase
  | "upper" | "uppercase" => some uppercase
  | "cased" => some cased
  | "ci" | "caseignorable" => some caseIgnorable
  | "math" => some (.union [.ranges Table.mathSymbol, listed "omath"])
  | "grext" | "graphemeextend" => some graphemeExtend
  | "grbase" | "graphemebase" => some graphemeBase
  | "di" | "defaultignorablecodepoint" => some defaultIgnorable
  | "ids" | "idstart" => some idStart
  | "idc" | "idcontinue" => some idContinue
  | "xids" | "xidstart" => some (.without idStart (ofTable Table.notIdStart))
  | "xidc" | "xidcontinue" => some (.without idContinue (ofTable Table.notIdContinue))
  | "cwl" | "changeswhenlowercased" => some lowered
  | "cwu" | "changeswhenuppercased" => some (.union [raisedSmall, ofTable Table.upperTitles])
  | "cwt" | "changeswhentitlecased" =>
    some (.union [.without raisedSmall (ofTable Table.untitledSmall), ofTable Table.titledLarge])
  | "cwcf" | "changeswhencasefolded" =>
    some (.union [.without lowered (ofTable Table.unfoldedLarge), ofTable Table.foldedSmall])
  | _ => listed? name

end Assay.Pattern

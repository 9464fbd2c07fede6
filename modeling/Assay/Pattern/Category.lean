/- digest: Character sets by the names of general categories. -/

import Assay.Pattern.CharSet
import Assay.Pattern.Table.Category

set_option autoImplicit false
set_option relaxedAutoImplicit false

namespace Assay.Pattern

open Text (CodeRanges)

def named? {α : Type} (name : String) (table : List (List String × α)) : Option α :=
  (table.find? fun e => e.1.contains name).map (·.2)

def tables (sets : List CodeRanges) : CharSet := .union (sets.map .ranges)

def casedLetters : CharSet :=
  tables [Table.uppercaseLetter, Table.lowercaseLetter, Table.titlecaseLetter]

def letters : CharSet :=
  .union [casedLetters, tables [Table.modifierLetter, Table.otherLetter]]

def marks : CharSet := tables [Table.nonspacingMark, Table.spacingMark, Table.enclosingMark]

/-- The general categories with their short and long names; some stand for several. -/
def categories : List (List String × CharSet) :=
  let numbers := [Table.decimalNumber, Table.letterNumber, Table.otherNumber]
  let punctuation := [Table.connectorPunctuation, Table.dashPunctuation, Table.openPunctuation,
    Table.closePunctuation, Table.initialPunctuation, Table.finalPunctuation, Table.otherPunctuation]
  let symbols := [Table.mathSymbol, Table.currencySymbol, Table.modifierSymbol, Table.otherSymbol]
  let separators := [Table.spaceSeparator, Table.lineSeparator, Table.paragraphSeparator]
  let others := [Table.control, Table.format, Table.privateUse, Table.unassigned]
  [(["l", "letter"], letters),
    (["lc", "casedletter"], casedLetters),
    (["lu", "uppercaseletter"], .ranges Table.uppercaseLetter),
    (["ll", "lowercaseletter"], .ranges Table.lowercaseLetter),
    (["lt", "titlecaseletter"], .ranges Table.titlecaseLetter),
    (["lm", "modifierletter"], .ranges Table.modifierLetter),
    (["lo", "otherletter"], .ranges Table.otherLetter),
    (["m", "mark", "combiningmark"], marks),
    (["mn", "nonspacingmark"], .ranges Table.nonspacingMark),
    (["mc", "spacingmark"], .ranges Table.spacingMark),
    (["me", "enclosingmark"], .ranges Table.enclosingMark),
    (["n", "number"], tables numbers),
    (["nd", "decimalnumber", "digit"], .ranges Table.decimalNumber),
    (["nl", "letternumber"], .ranges Table.letterNumber),
    (["no", "othernumber"], .ranges Table.otherNumber),
    (["p", "punctuation", "punct"], tables punctuation),
    (["pc", "connectorpunctuation"], .ranges Table.connectorPunctuation),
    (["pd", "dashpunctuation"], .ranges Table.dashPunctuation),
    (["ps", "openpunctuation"], .ranges Table.openPunctuation),
    (["pe", "closepunctuation"], .ranges Table.closePunctuation),
    (["pi", "initialpunctuation"], .ranges Table.initialPunctuation),
    (["pf", "finalpunctuation"], .ranges Table.finalPunctuation),
    (["po", "otherpunctuation"], .ranges Table.otherPunctuation),
    (["s", "symbol"], tables symbols),
    (["sm", "mathsymbol"], .ranges Table.mathSymbol),
    (["sc", "currencysymbol"], .ranges Table.currencySymbol),
    (["sk", "modifiersymbol"], .ranges Table.modifierSymbol),
    (["so", "othersymbol"], .ranges Table.otherSymbol),
    (["z", "separator"], tables separators),
    (["zs", "spaceseparator"], .ranges Table.spaceSeparator),
    (["zl", "lineseparator"], .ranges Table.lineSeparator),
    (["zp", "paragraphseparator"], .ranges Table.paragraphSeparator),
    (["c", "other"], tables others),
    (["cc", "control", "cntrl"], .ranges Table.control),
    (["cf", "format"], .ranges Table.format),
    (["co", "privateuse"], .ranges Table.privateUse),
    (["cn", "unassigned"], .ranges Table.unassigned),
    (["assigned"], .complement (.ranges Table.unassigned)),
    (["any"], .all),
    (["ascii"], .ranges ⟨[(0, 0x7f)]⟩)]

/-- Names of categories that no character belongs to; they name no set. -/
def hollowCategories : List String := ["cs", "surrogate"]

def category? (name : String) : Option CharSet := named? name categories

end Assay.Pattern

/- digest: Character sets by the names of scripts: the characters of a script, and those that it
   shares with others. -/

import Assay.Pattern.Category
import Assay.Pattern.Table.Script

set_option autoImplicit false
set_option relaxedAutoImplicit false

namespace Assay.Pattern

open Text (CodeRanges)

/-- Names of scripts that no character belongs to; they name no set. -/
def hollowScripts : List String := ["zzzz", "unknown", "hrkt", "katakanaorhiragana"]

def script? (name : String) : Option CharSet :=
  (named? name Table.scripts).map fun lines => .ranges (CodeRanges.ofLines lines)

/-- The characters that a script shares with others, by the short name of the script. -/
def sharedBy (name : String) : CodeRanges :=
  match Table.shared.lookup name with
  | some lines => CodeRanges.ofLines lines
  | none => .empty

def allShared : CodeRanges := .union (Table.shared.map fun e => CodeRanges.ofLines e.2)

/-- The scripts of characters that belong to all or to none; what some scripts share is not counted
among those. -/
def generalScripts : List String := ["zyyy", "zinh"]

def usedIn? (name : String) : Option CharSet :=
  (Table.scripts.find? fun e => e.1.contains name).map fun e =>
    let own := CodeRanges.ofLines e.2
    let short := e.1.head?.getD name
    if generalScripts.contains short then .ranges (own.minus allShared)
    else .ranges (.union [own, sharedBy short])

end Assay.Pattern

/- digest: Letters and digits of all scripts, and the characters of plain names. -/

import Assay.Text.Table.Letter

set_option autoImplicit false
set_option relaxedAutoImplicit false

namespace Assay.Text

def isDigit (c : Char) : Bool :=
  '0' ≤ c && c ≤ '9'

def isPlainAlphabetic (c : Char) : Bool :=
  ('a' ≤ c && c ≤ 'z') || ('A' ≤ c && c ≤ 'Z')

def isPlainAlphanumeric (c : Char) : Bool :=
  isDigit c || isPlainAlphabetic c

def isAlphabetic (c : Char) : Bool :=
  if c.toNat < 128 then isPlainAlphabetic c else Table.alphabetic.contains c

def isAlphanumeric (c : Char) : Bool :=
  if c.toNat < 128 then isPlainAlphanumeric c
  else Table.alphabetic.contains c || Table.numeric.contains c

/-- The characters that a name may hold without quotes. -/
def isNameChar (c : Char) : Bool :=
  isAlphanumeric c || c == '_' || c == '-'

/-- A name that needs no quotes: at least one character, and name characters only. -/
def isPlainName (s : String) : Bool :=
  !s.isEmpty && s.toList.all isNameChar

def digitsValue (cs : List Char) : Nat :=
  cs.foldl (fun n c => n * 10 + (c.toNat - '0'.toNat)) 0

end Assay.Text

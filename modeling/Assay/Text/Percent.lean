/- digest: Characters written as the bytes that stand for them, each after a percent sign. -/

import Assay.Text.Letter

set_option autoImplicit false
set_option relaxedAutoImplicit false

namespace Assay.Text

/-- A hexadecimal digit below sixteen, upper case. -/
def upperHexDigit (n : Nat) : Char :=
  if n < 10 then Char.ofNat (48 + n) else Char.ofNat (55 + n)

def percentByte (b : UInt8) : List Char :=
  ['%', upperHexDigit (b.toNat / 16), upperHexDigit (b.toNat % 16)]

def bytesOf (c : Char) : List UInt8 := (String.singleton c).toUTF8.toList

def percentChar (c : Char) : List Char := (bytesOf c).flatMap percentByte

/-- Control characters and all beyond the plain ones. -/
def isControlOrWide (c : Char) : Bool := c.toNat < 32 || 127 ≤ c.toNat

/-- Writes the characters that pass a test as their bytes. -/
def percentWhere (test : Char → Bool) (cs : List Char) : List Char :=
  cs.flatMap fun c => if test c then percentChar c else [c]

/-- A character of a form field: letters, digits and a few signs stand for themselves, and a blank
is a plus sign. -/
def formChar (c : Char) : List Char :=
  if isPlainAlphanumeric c || c == '*' || c == '-' || c == '.' || c == '_' then [c]
  else if c == ' ' then ['+']
  else percentChar c

def formText (s : String) : String := String.ofList (s.toList.flatMap formChar)

/-- The value of a hexadecimal digit in either case. -/
def anyHexValue? (c : Char) : Option Nat :=
  if 'A' ≤ c ∧ c ≤ 'F' then some (c.toNat - 'A'.toNat + 10)
  else if 'a' ≤ c ∧ c ≤ 'f' then some (c.toNat - 'a'.toNat + 10)
  else if isDigit c then some (c.toNat - '0'.toNat)
  else none

def byteOf? (a b : Char) : Option UInt8 :=
  match anyHexValue? a, anyHexValue? b with
  | some x, some y => some (UInt8.ofNat (16 * x + y))
  | _, _ => none

def escapedByte? (c : Char) (rest : List Char) : Option UInt8 :=
  match rest with
  | a :: b :: _ => if c = '%' then byteOf? a b else none
  | _ => none

/-- The bytes of a text in which bytes may stand after percent signs; `wait` counts the characters
that have been used already. -/
def unpercent (wait : Nat) : List Char → List UInt8
  | [] => []
  | c :: rest =>
    match wait with
    | n + 1 => unpercent n rest
    | 0 =>
      match escapedByte? c rest with
      | some byte => byte :: unpercent 2 rest
      | none => bytesOf c ++ unpercent 0 rest

/-- The text that bytes spell, if they spell one. -/
def ofBytes? (bytes : List UInt8) : Option String := String.fromUTF8? (ByteArray.mk bytes.toArray)

end Assay.Text

/- digest: Texts in quotes: the JSON form, and the form used in messages. -/

import Assay.Text.Table.Unseen

set_option autoImplicit false
set_option relaxedAutoImplicit false

namespace Assay.Text

/-- A digit below sixteen, lower case. -/
def hexDigit (n : Nat) : Char :=
  if n < 10 then Char.ofNat (48 + n) else Char.ofNat (87 + n)

/-- Hexadecimal digits without leading zeros. -/
def hexText (n : Nat) : List Char := Nat.toDigits 16 n

def jsonChar (c : Char) : List Char :=
  if c = '"' then ['\\', '"']
  else if c = '\\' then ['\\', '\\']
  else if c = '\n' then ['\\', 'n']
  else if c = '\r' then ['\\', 'r']
  else if c = '\t' then ['\\', 't']
  else if c.toNat = 8 then ['\\', 'b']
  else if c.toNat = 12 then ['\\', 'f']
  else if c.toNat < 32 then ['\\', 'u', '0', '0', hexDigit (c.toNat / 16), hexDigit (c.toNat % 16)]
  else [c]

def quoteJson (s : String) : String :=
  String.ofList ('"' :: s.toList.flatMap jsonChar ++ ['"'])

/-- Characters that a message shows by their code. -/
def isUnseen (c : Char) : Bool :=
  if c.toNat < 127 then c.toNat < 32 else Table.unseen.contains c

def messageChar (c : Char) : List Char :=
  if c = '"' then ['\\', '"']
  else if c = '\\' then ['\\', '\\']
  else if c = '\n' then ['\\', 'n']
  else if c = '\r' then ['\\', 'r']
  else if c = '\t' then ['\\', 't']
  else if c.toNat = 0 then ['\\', '0']
  else if isUnseen c then ['\\', 'u', '{'] ++ hexText c.toNat ++ ['}']
  else [c]

def quoteMessage (s : String) : String :=
  String.ofList ('"' :: s.toList.flatMap messageChar ++ ['"'])

end Assay.Text

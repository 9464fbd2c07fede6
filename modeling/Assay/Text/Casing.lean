/- digest: Lower and upper case of all scripts, with final sigma and forms of several characters. -/

import Assay.Text.Table.Casing

set_option autoImplicit false
set_option relaxedAutoImplicit false

namespace Assay.Text

/-- Lower case of the letters `A` to `Z`; all else is kept. -/
def lowerPlain (c : Char) : Char :=
  if 'A' ≤ c ∧ c ≤ 'Z' then Char.ofNat (c.toNat + 32) else c

/-- Upper case of the letters `a` to `z`; all else is kept. -/
def upperPlain (c : Char) : Char :=
  if 'a' ≤ c ∧ c ≤ 'z' then Char.ofNat (c.toNat - 32) else c

def isCased (c : Char) : Bool :=
  if c.toNat < 128 then ('a' ≤ c && c ≤ 'z') || ('A' ≤ c && c ≤ 'Z') else Table.cased.contains c

/-- Whether a character is passed over where the case of its neighbours is asked. -/
def isCaseIgnorable (c : Char) : Bool :=
  Table.caseIgnorable.contains c

def lowerChar (c : Char) : List Char :=
  if c.toNat < 128 then [lowerPlain c]
  else if c = 'İ' then ['i', Char.ofNat 0x307]
  else [Table.lowerShifts.apply c]

def upperChar (c : Char) : List Char :=
  if c.toNat < 128 then [upperPlain c]
  else match Table.upperLong.find? c with
    | some form => form
    | none => [Table.upperShifts.apply c]

def meetsCased (cs : List Char) : Bool :=
  match cs.dropWhile isCaseIgnorable with
  | c :: _ => isCased c
  | [] => false

/-- A sigma ends a word when a cased character stands before it and none after it; `before` runs
away from the sigma. -/
def endsWord (before after : List Char) : Bool :=
  meetsCased before && !meetsCased after

/-- Lower case of what follows the characters `before`, which run backwards. -/
def lowerAfter (before : List Char) : List Char → List Char
  | [] => []
  | c :: rest =>
    (if c = 'Σ' then [if endsWord before rest then 'ς' else 'σ'] else lowerChar c) ++
      lowerAfter (c :: before) rest

def lower (s : String) : String :=
  String.ofList (lowerAfter [] s.toList)

def upper (s : String) : String :=
  String.ofList (s.toList.flatMap upperChar)

/-- Equality where the letters `a` to `z` stand for `A` to `Z`. -/
def sameIgnoringPlainCase (s t : String) : Bool :=
  s.toList.map lowerPlain == t.toList.map lowerPlain

end Assay.Text

/- digest: Reading instants from text: the complete form with an offset, and shorter forms, which
   are taken at offset zero. -/

import Assay.Instant.Basic
import Assay.Text.Blank
import Assay.Text.Letter

set_option autoImplicit false
set_option relaxedAutoImplicit false

namespace Assay.Instant

def readDigits (least most : Nat) (cs : List Char) : Option (Nat × List Char) :=
  let digits := (cs.take most).takeWhile Text.isDigit
  if digits.length < least then none
  else some (Text.digitsValue digits, cs.drop digits.length)

def readMark (mark : Char) : List Char → Option (List Char)
  | c :: rest => if c = mark then some rest else none
  | [] => none

/-- The fraction of a second after its point, in nanoseconds; digits after the ninth are passed
over. -/
def readFraction (cs : List Char) : Option (Nat × List Char) :=
  (readDigits 1 9 cs).map fun (value, rest) =>
    (value * Nat.pow 10 (9 - (cs.length - rest.length)), rest.dropWhile Text.isDigit)

def readOptionalFraction : List Char → Option (Nat × List Char)
  | '.' :: rest => readFraction rest
  | cs => some (0, cs)

/-- An offset from universal time in seconds: `Z`, or a sign, hours and minutes. -/
def readOffset : List Char → Option (Int × List Char)
  | 'Z' :: rest => some (0, rest)
  | 'z' :: rest => some (0, rest)
  | '+' :: rest => readHours rest
  | '-' :: rest => (readHours rest).map fun r => (-r.1, r.2)
  | '−' :: rest => (readHours rest).map fun r => (-r.1, r.2)
  | _ => none
where
  readHours (cs : List Char) : Option (Int × List Char) := do
    let (hours, cs) ← readDigits 2 2 cs
    let cs ← readMark ':' cs
    let (minutes, cs) ← readDigits 2 2 cs
    if minutes < 60 ∧ hours < 24 then some ((hours * 3600 + minutes * 60 : Nat), cs) else none

def readSeparator : List Char → Option (List Char)
  | c :: rest => if c = 'T' ∨ c = 't' ∨ c = ' ' then some rest else none
  | [] => none

/-- The complete form, in which every field has its full width. -/
def readComplete (cs : List Char) : Option (Instant × List Char) := do
  let (year, cs) ← readDigits 4 4 cs
  let cs ← readMark '-' cs
  let (month, cs) ← readDigits 2 2 cs
  let cs ← readMark '-' cs
  let (day, cs) ← readDigits 2 2 cs
  let cs ← readSeparator cs
  let (hour, cs) ← readDigits 2 2 cs
  let cs ← readMark ':' cs
  let (minute, cs) ← readDigits 2 2 cs
  let cs ← readMark ':' cs
  let (second, cs) ← readDigits 2 2 cs
  let (nanos, cs) ← readOptionalFraction cs
  let (offset, cs) ← readOffset cs
  let date ← Date.ofNumbers? year month day
  let clock ← Clock.ofNumbers? hour minute second nanos
  some (ofLocal date clock offset, cs)

/-- A field of a shorter form: blanks before it, then one or two digits. -/
def readField (cs : List Char) : Option (Nat × List Char) := readDigits 1 2 (Text.trimStartChars cs)

/-- The year of a shorter form: up to four digits, or any number of them after a sign. -/
def readYear (cs : List Char) : Option (Int × List Char) :=
  match Text.trimStartChars cs with
  | '-' :: rest => (readDigits 1 rest.length rest).map fun r => (-(r.1 : Int), r.2)
  | '+' :: rest => (readDigits 1 rest.length rest).map fun r => ((r.1 : Int), r.2)
  | rest => (readDigits 1 4 rest).map fun r => ((r.1 : Int), r.2)

def readDate (cs : List Char) : Option (Date × List Char) := do
  let (year, cs) ← readYear cs
  let cs ← readMark '-' cs
  let (month, cs) ← readField cs
  let cs ← readMark '-' cs
  let (day, cs) ← readField cs
  let date ← Date.ofNumbers? year month day
  some (date, cs)

/-- The time of day of a shorter form. -/
def readClock (cs : List Char) : Option (Clock × List Char) := do
  let (hour, cs) ← readField cs
  let cs ← readMark ':' cs
  let (minute, cs) ← readField cs
  let cs ← readMark ':' cs
  let (second, cs) ← readField cs
  let (nanos, cs) ← readOptionalFraction cs
  let clock ← Clock.ofNumbers? hour minute second nanos
  some (clock, cs)

/-- A date and a time of day; between them stands a `T` or any blanks. -/
def readShort (separator : List Char → Option (List Char)) (cs : List Char) :
    Option (Instant × List Char) := do
  let (date, cs) ← readDate cs
  let cs ← separator cs
  let (clock, cs) ← readClock cs
  some (ofLocal date clock 0, cs)

def readDay (cs : List Char) : Option (Instant × List Char) :=
  (readDate cs).map fun (date, cs) => (ofLocal date ⟨0, 0, 0, 0⟩ 0, cs)

def whole? (r : Option (Instant × List Char)) : Option Instant :=
  match r with
  | some (i, []) => some i
  | _ => none

/-- The instant that a text names in the complete form. -/
def readComplete? (text : String) : Option Instant := whole? (readComplete text.toList)

/-- The instant that a text names in any form, with blanks around it. -/
def read? (text : String) : Option Instant :=
  let cs := Text.trimChars text.toList
  (whole? (readComplete cs)).or <|
    (whole? (readShort (readMark 'T') cs)).or <|
      (whole? (readShort (fun cs => some (Text.trimStartChars cs)) cs)).or <|
        whole? (readDay cs)

end Assay.Instant

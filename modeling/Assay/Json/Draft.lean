/- digest: A document as far as its text can be read: values in the order of the text, with the
   first fault at the place where reading it stops. -/

import Assay.Json.Basic
import Assay.Json.Flaw
import Assay.Text.Letter
import Assay.Text.Ranges

set_option autoImplicit false
set_option relaxedAutoImplicit false

namespace Assay.Json

/-- A value as the text gives it. A member name may come twice, and a container may end in a
fault. -/
inductive Draft
  | null
  | bool (value : Bool)
  | number (value : Number)
  | string (value : String)
  /-- Complete in the text, but without a value. -/
  | invalid (flaw : Flaw)
  /-- The text goes wrong here. -/
  | broken (flaw : Flaw)
  | array (items : List Draft) (flaw : Option Flaw)
  | object (members : List (String × Draft)) (flaw : Option Flaw)
  deriving Inhabited

namespace Draft

def isGap (c : Char) : Bool := c == ' ' || c == '\n' || c == '\t' || c == '\r'

def skipGap (cs : List Char) : List Char := cs.dropWhile isGap

def significandLimit : Nat := Nat.pow 2 64

/-- Appends digits as long as the significand stays within its limit; counts what was appended. -/
def takeDigits (significand taken : Nat) : List Char → Nat × Nat × List Char
  | [] => (significand, taken, [])
  | c :: rest =>
    if Text.isDigit c then
      let next := significand * 10 + (c.toNat - '0'.toNat)
      if next < significandLimit then takeDigits next (taken + 1) rest
      else (significand, taken, c :: rest)
    else (significand, taken, c :: rest)

/-- A power of ten as a floating-point number. -/
def tenTo (n : Nat) : Double := (Double.ofQuotient false (Nat.pow 10 n) 1).getD Double.zero

/-- Scales by a power of ten with one rounding for each factor; far below the range the value
becomes zero after a few steps. -/
def scale (f : Double) (exponent : Int) : Nat → Option Double
  | 0 => some f
  | fuel + 1 =>
    if exponent.natAbs < 309 then
      if 0 ≤ exponent then f.mul? (tenTo exponent.toNat) else f.div? (tenTo exponent.natAbs)
    else if f.isZero then some f
    else if 0 ≤ exponent then none
    else (f.div? (tenTo 308)).bind fun g => scale g (exponent + 308) fuel

/-- The number of a significand and an exponent, with its sign. -/
def numberOf (negative : Bool) (significand : Nat) (exponent : Int) : Draft :=
  let start := (Double.ofInt? significand).getD Double.zero
  match scale start exponent 5 with
  | some f => .number (.float (if negative then f.negate else f))
  | none => .invalid .numberTooLarge

/-- Exponents are read up to this size; beyond it only zero has a value. -/
def exponentLimit : Nat := Nat.pow 2 31

def readExponent (negative : Bool) (significand : Nat) (exponent : Int) (cs : List Char) :
    Draft × List Char :=
  let (down, ds) := match cs with
    | '+' :: r => (false, r)
    | '-' :: r => (true, r)
    | r => (false, r)
  match ds with
  | [] => (.broken .endInValue, [])
  | c :: _ =>
    if Text.isDigit c then
      let size := Text.digitsValue (ds.takeWhile Text.isDigit)
      let rest := ds.dropWhile Text.isDigit
      if size < exponentLimit then
        (numberOf negative significand (if down then exponent - size else exponent + size), rest)
      else if significand ≠ 0 ∧ !down then (.invalid .numberTooLarge, rest)
      else (.number (.float (Double.signedZero negative)), rest)
    else (.broken .badNumber, ds)

def readAfterFraction (negative : Bool) (significand : Nat) (exponent : Int) :
    List Char → Draft × List Char
  | 'e' :: r => readExponent negative significand exponent r
  | 'E' :: r => readExponent negative significand exponent r
  | r => (numberOf negative significand exponent, r)

/-- The fraction, after its point: at least one digit. -/
def readFraction (negative : Bool) (significand : Nat) (exponent : Int) (cs : List Char) :
    Draft × List Char :=
  match cs with
  | [] => (.broken .endInValue, [])
  | c :: _ =>
    if Text.isDigit c then
      let (s, taken, rest) := takeDigits significand 0 cs
      readAfterFraction negative s (exponent - taken) (rest.dropWhile Text.isDigit)
    else (.broken .badNumber, cs)

/-- What may follow the whole part; `dropped` of its digits did not fit into the significand. -/
def readAfterWhole (negative : Bool) (significand dropped : Nat) :
    List Char → Draft × List Char
  | '.' :: r => readFraction negative significand dropped r
  | 'e' :: r => readExponent negative significand dropped r
  | 'E' :: r => readExponent negative significand dropped r
  | r =>
    if dropped ≠ 0 then (numberOf negative significand dropped, r)
    else if !negative then (.number (.int significand), r)
    else if significand ≠ 0 ∧ significand ≤ Nat.pow 2 63 then
      (.number (.int (-(significand : Int))), r)
    else (numberOf true significand 0, r)

def readNumber (negative : Bool) (cs : List Char) : Draft × List Char :=
  match cs with
  | [] => (.broken .endInValue, [])
  | '0' :: r =>
    match r with
    | c :: _ => if Text.isDigit c then (.broken .badNumber, r) else readAfterWhole negative 0 0 r
    | [] => readAfterWhole negative 0 0 r
  | c :: _ =>
    if Text.isDigit c then
      let (s, _, rest) := takeDigits 0 0 cs
      readAfterWhole negative s (rest.takeWhile Text.isDigit).length (rest.dropWhile Text.isDigit)
    else (.broken .badNumber, cs)

/-- A hexadecimal digit in either case. -/
def hexValue? (c : Char) : Option Nat :=
  if 'A' ≤ c ∧ c ≤ 'F' then some (c.toNat - 'A'.toNat + 10) else Text.hexValue? c

def readHex (cs : List Char) : Except Flaw (Nat × List Char) :=
  match cs with
  | a :: b :: c :: d :: rest =>
    match hexValue? a, hexValue? b, hexValue? c, hexValue? d with
    | some w, some x, some y, some z => .ok (((w * 16 + x) * 16 + y) * 16 + z, rest)
    | _, _, _, _ => .error .badEscape
  | _ =>
    if 4 ≤ cs.foldl (fun size c => size + c.utf8Size) 0 then .error .badEscape
    else .error .endInString

/-- A string as far as read: its characters backwards and the first fault of its escapes. -/
structure Spelling where
  chars : List Char
  flaw : Option Flaw

/-- Adds a character, or nothing after a fault. -/
def Spelling.push (s : Spelling) (c : Char) : Spelling := { s with chars := c :: s.chars }

def Spelling.mark (s : Spelling) (f : Flaw) : Spelling := { s with flaw := s.flaw.or (some f) }

def shortEscape? (c : Char) : Option Char :=
  if c = '"' ∨ c = '\\' ∨ c = '/' then some c
  else if c = 'b' then some (Char.ofNat 8)
  else if c = 'f' then some (Char.ofNat 12)
  else if c = 'n' then some '\n'
  else if c = 'r' then some '\r'
  else if c = 't' then some '\t'
  else none

/-- What a four-digit escape stands for: a character, half of a pair, or a fault. A leading half
needs a second escape with a trailing half right behind it. -/
def afterUnit (unit : Nat) (rest : List Char) : Except Flaw (Char × List Char) :=
  if 0xdc00 ≤ unit ∧ unit ≤ 0xdfff then .error .loneSurrogate
  else if unit < 0xd800 ∨ 0xdbff < unit then .ok (Char.ofNat unit, rest)
  else
    match rest with
    | '\\' :: 'u' :: more =>
      match readHex more with
      | .ok (second, rest) =>
        if 0xdc00 ≤ second ∧ second ≤ 0xdfff then
          .ok (Char.ofNat ((unit - 0xd800) * 0x400 + (second - 0xdc00) + 0x10000), rest)
        else .error .loneSurrogate
      | .error f => .error f
    | [] => .error .endInString
    | ['\\'] => .error .endInString
    | _ => .error .escapeCutShort

/-- The characters of a string up to its closing quote. -/
def readChars (s : Spelling) : Nat → List Char → Except Flaw (Spelling × List Char)
  | 0, _ => .error (s.flaw.getD .endInString)
  | fuel + 1, cs =>
    match cs with
    | [] => .error (s.flaw.getD .endInString)
    | '"' :: rest => .ok (s, rest)
    | '\\' :: rest =>
      match rest with
      | [] => .error (s.flaw.getD .endInString)
      | 'u' :: more =>
        match readHex more with
        | .error f => .error (s.flaw.getD f)
        | .ok (unit, rest) =>
          match afterUnit unit rest with
          | .ok (c, rest) => readChars (s.push c) fuel rest
          | .error f => readChars (s.mark f) fuel rest
      | c :: rest =>
        match shortEscape? c with
        | some e => readChars (s.push e) fuel rest
        | none => .error (s.flaw.getD .badEscape)
    | c :: rest =>
      if c.toNat < 32 then .error (s.flaw.getD .controlCharacter)
      else readChars (s.push c) fuel rest

/-- The characters of a string after its opening quote. -/
def readSpelling (cs : List Char) : Except Flaw (Spelling × List Char) :=
  readChars ⟨[], none⟩ (cs.length + 1) cs

def readString (cs : List Char) : Draft × List Char :=
  match readSpelling cs with
  | .error f => (.broken f, [])
  | .ok (s, rest) =>
    match s.flaw with
    | some f => (.invalid f, rest)
    | none => (.string (String.ofList s.chars.reverse), rest)

def readWord (value : Draft) : List Char → List Char → Draft × List Char
  | [], rest => (value, rest)
  | _ :: _, [] => (.broken .endInValue, [])
  | w :: ws, c :: rest => if w = c then readWord value ws rest else (.broken .wordExpected, rest)

def isBroken : Draft → Bool
  | .broken _ => true
  | .array _ (some _) => true
  | .object _ (some _) => true
  | _ => false

mutual

def readValue : Nat → List Char → Draft × List Char
  | 0, _ => (.broken .endInValue, [])
  | fuel + 1, cs =>
    match skipGap cs with
    | [] => (.broken .endInValue, [])
    | '[' :: rest => readItems fuel [] rest
    | '{' :: rest => readMembers fuel [] rest
    | '"' :: rest => readString rest
    | '-' :: rest => readNumber true rest
    | 'n' :: rest => readWord .null ['u', 'l', 'l'] rest
    | 't' :: rest => readWord (.bool true) ['r', 'u', 'e'] rest
    | 'f' :: rest => readWord (.bool false) ['a', 'l', 's', 'e'] rest
    | c :: rest =>
      if Text.isDigit c then readNumber false (c :: rest) else (.broken .valueExpected, c :: rest)

/-- The items of an array after its bracket or after an item; `done` runs backwards. -/
def readItems : Nat → List Draft → List Char → Draft × List Char
  | 0, done, _ => (.array done.reverse (some .endInList), [])
  | fuel + 1, done, cs =>
    let stop (f : Flaw) : Draft × List Char := (.array done.reverse (some f), [])
    match skipGap cs with
    | [] => stop .endInList
    | ']' :: rest => (.array done.reverse none, rest)
    | c :: rest =>
      if done.isEmpty then readItem fuel done (c :: rest)
      else if c = ',' then
        match skipGap rest with
        | [] => stop .endInValue
        | ']' :: _ => stop .trailingComma
        | next => readItem fuel done next
      else stop .listEndExpected

def readItem : Nat → List Draft → List Char → Draft × List Char
  | 0, done, _ => (.array done.reverse (some .endInList), [])
  | fuel + 1, done, cs =>
    let (item, rest) := readValue fuel cs
    if item.isBroken then (.array (item :: done).reverse (some .endInList), [])
    else readItems fuel (item :: done) rest

/-- The members of an object after its brace or after a member; `done` runs backwards. -/
def readMembers : Nat → List (String × Draft) → List Char → Draft × List Char
  | 0, done, _ => (.object done.reverse (some .endInObject), [])
  | fuel + 1, done, cs =>
    let stop (f : Flaw) : Draft × List Char := (.object done.reverse (some f), [])
    match skipGap cs with
    | [] => stop .endInObject
    | '}' :: rest => (.object done.reverse none, rest)
    | c :: rest =>
      if done.isEmpty then
        if c = '"' then readMember fuel done rest else stop .keyNotText
      else if c = ',' then
        match skipGap rest with
        | [] => stop .endInValue
        | '"' :: more => readMember fuel done more
        | '}' :: _ => stop .trailingComma
        | _ => stop .keyNotText
      else stop .objectEndExpected

/-- One member, after the opening quote of its name, and those after it. -/
def readMember : Nat → List (String × Draft) → List Char → Draft × List Char
  | 0, done, _ => (.object done.reverse (some .endInObject), [])
  | fuel + 1, done, cs =>
    let stop (f : Flaw) : Draft × List Char := (.object done.reverse (some f), [])
    match readSpelling cs with
    | .error f => stop f
    | .ok (s, rest) =>
      match s.flaw with
      | some f => stop f
      | none =>
        let name := String.ofList s.chars.reverse
        match skipGap rest with
        | [] => stop .endInObject
        | ':' :: rest =>
          let (value, rest) := readValue fuel rest
          if value.isBroken then (.object ((name, value) :: done).reverse (some .endInObject), [])
          else readMembers fuel ((name, value) :: done) rest
        | _ => stop .colonExpected

end

/-- A document and, where its text goes on after the value, the fault of that. -/
def ofText (text : String) : Draft × Option Flaw :=
  let cs := text.toList
  let (value, rest) := readValue (3 * cs.length + 3) cs
  (value, if (skipGap rest).isEmpty then none else some .trailingText)

mutual

def ofJson : Json → Draft
  | .null => .null
  | .bool b => .bool b
  | .number n => .number n
  | .string s => .string s
  | .array items => .array (ofItems items) none
  | .object members => .object (ofMembers members) none

def ofItems : List Json → List Draft
  | [] => []
  | v :: rest => ofJson v :: ofItems rest

def ofMembers : List (String × Json) → List (String × Draft)
  | [] => []
  | (k, v) :: rest => (k, ofJson v) :: ofMembers rest

end

/-- Levels of nesting that are still allowed; none means that there is no limit. -/
abbrev Room := Option Nat

/-- Containers may be nested this deep in a text. -/
def depthLimit : Room := some 127

def Room.inner : Room → Except Flaw Room
  | none => .ok none
  | some 0 => .error .tooDeep
  | some (n + 1) => .ok (some n)

mutual

/-- The value of a draft, or its first fault. -/
def toJson (room : Room) : Draft → Except Flaw Json
  | .null => .ok .null
  | .bool b => .ok (.bool b)
  | .number n => .ok (.number n)
  | .string s => .ok (.string s)
  | .invalid f => .error f
  | .broken f => .error f
  | .array items flaw => do
    let inner ← Room.inner room
    let items ← toItems inner items
    match flaw with
    | some f => .error f
    | none => .ok (.array items)
  | .object members flaw => do
    let inner ← Room.inner room
    let members ← toMembers inner [] members
    match flaw with
    | some f => .error f
    | none => .ok (.object members)

def toItems (room : Room) : List Draft → Except Flaw (List Json)
  | [] => .ok []
  | v :: rest => do
    let value ← toJson room v
    let values ← toItems room rest
    .ok (value :: values)

/-- The values of members; a later one of the same name replaces an earlier one in its place. -/
def toMembers (room : Room) (done : Members Json) :
    List (String × Draft) → Except Flaw (Members Json)
  | [] => .ok done
  | (k, v) :: rest => do
    let value ← toJson room v
    toMembers room (Members.put k value done) rest

end

mutual

/-- The place where a text goes wrong inside a draft, whatever its values are. -/
def firstBreak? : Draft → Option Flaw
  | .broken f => some f
  | .array items flaw => (firstBreakOfItems? items).or flaw
  | .object members flaw => (firstBreakOfMembers? members).or flaw
  | _ => none

def firstBreakOfItems? : List Draft → Option Flaw
  | [] => none
  | v :: rest => (firstBreak? v).or (firstBreakOfItems? rest)

def firstBreakOfMembers? : List (String × Draft) → Option Flaw
  | [] => none
  | (_, v) :: rest => (firstBreak? v).or (firstBreakOfMembers? rest)

end

end Draft

def read (text : String) : Except Flaw Json := do
  let (draft, trailing) := Draft.ofText text
  let value ← draft.toJson Draft.depthLimit
  match trailing with
  | some f => .error f
  | none => .ok value

/-- The value of a text that is a document, and otherwise the text itself. -/
def readOrText (text : String) : Json :=
  match read text with
  | .ok value => value
  | .error _ => .string text

end Assay.Json

/- digest: Hosts of addresses: names, four numbers, or eight groups in brackets. -/

import Assay.Text.Percent
import Assay.Url.Name

set_option autoImplicit false
set_option relaxedAutoImplicit false

namespace Assay

/-- Why a text is no address. -/
inductive UrlError
  | noScheme | emptyHost | badName | badPort | badNumbers | badGroups | badHostCharacter
  deriving DecidableEq

def UrlError.message : UrlError → String
  | .noScheme => "relative URL without a base"
  | .emptyHost => "empty host"
  | .badName => "invalid international domain name"
  | .badPort => "invalid port number"
  | .badNumbers => "invalid IPv4 address"
  | .badGroups => "invalid IPv6 address"
  | .badHostCharacter => "invalid domain character"

namespace Url

/-- A number of an address: decimal, octal after a zero, hexadecimal after `0x`. -/
def readNumber? (cs : List Char) : Option Nat :=
  let value (base : Nat) (digits : List Char) : Option Nat :=
    digits.foldlM (fun n c => (Text.anyHexValue? c).bind fun d =>
      if d < base then some (n * base + d) else none) 0
  match cs with
  | [] => none
  | '0' :: 'x' :: rest => value 16 rest
  | '0' :: 'X' :: rest => value 16 rest
  | '0' :: c :: rest => value 8 (c :: rest)
  | cs => value 10 cs

/-- Whether the last part of a name is a number, which makes the whole name four numbers. -/
def endsInNumber (name : List Char) : Bool :=
  let parts := (Text.splitChars '.' name).reverse
  let last := match parts with
    | [] :: more => more.head?.getD []
    | p :: _ => p
    | [] => []
  (last ≠ [] && last.all Text.isDigit) || (readNumber? last).isSome

/-- The numbers of an address without an empty last part. -/
def numberParts (name : List Char) : List (List Char) :=
  let parts := Text.splitChars '.' name
  match parts.reverse with
  | [] :: more => more.reverse
  | _ => parts

/-- Up to four numbers as one: each but the last fills one byte. -/
def readNumbers? (name : List Char) : Option Nat := do
  let numbers ← (numberParts name).mapM readNumber?
  let last ← numbers.getLast?
  let firsts := numbers.dropLast
  if numbers.length ≤ 4 ∧ firsts.all (· < 256) ∧ last < Nat.pow 256 (4 - firsts.length) then
    some (firsts.foldl (fun acc n => acc * 256 + n) 0 * Nat.pow 256 (4 - firsts.length) + last)
  else none

def renderNumbers (n : Nat) : String :=
  Text.join "." ([n / 16777216 % 256, n / 65536 % 256, n / 256 % 256, n % 256].map toString)

/-- A number of the plain form of four: no leading zero and at most 255. -/
def plainNumber? (cs : List Char) : Option Nat :=
  if cs = [] ∨ !cs.all Text.isDigit then none
  else if cs.head? = some '0' ∧ 1 < cs.length then none
  else
    let n := Text.digitsValue cs
    if n < 256 then some n else none

/-- The last two groups, written as four plain numbers. -/
def embedded? (cs : List Char) : Option (List Nat) := do
  let numbers ← (Text.splitChars '.' cs).mapM plainNumber?
  match numbers with
  | [a, b, c, d] => some [a * 256 + b, c * 256 + d]
  | _ => none

def group? (cs : List Char) : Option Nat :=
  if cs = [] ∨ 4 < cs.length then none
  else cs.foldlM (fun n c => (Text.anyHexValue? c).map fun d => n * 16 + d) 0

/-- Groups between colons; the last may be four plain numbers where that is allowed. -/
def groups? (mayEmbed : Bool) : List (List Char) → Option (List Nat)
  | [] => some []
  | [last] =>
    if last.contains '.' then (if mayEmbed then embedded? last else none)
    else (group? last).map ([·])
  | g :: rest => do
    let n ← group? g
    let others ← groups? mayEmbed rest
    some (n :: others)

/-- Groups of a part of the text, which may be empty. -/
def groupsOf? (mayEmbed : Bool) (cs : List Char) : Option (List Nat) :=
  if cs = [] then some [] else groups? mayEmbed (Text.splitChars ':' cs)

/-- The parts around the first double colon. -/
def cutDouble? : List Char → Option (List Char × List Char)
  | ':' :: ':' :: rest => some ([], rest)
  | c :: rest => (cutDouble? rest).map fun r => (c :: r.1, r.2)
  | [] => none

/-- Eight groups; a double colon stands for at least one group of zeros. -/
def readGroups? (cs : List Char) : Option (List Nat) :=
  match cutDouble? cs with
  | none => do
    let groups ← groupsOf? true cs
    if groups.length = 8 then some groups else none
  | some (left, right) => do
    let before ← groupsOf? false left
    let after ← groupsOf? true right
    if before.length + after.length ≤ 7 then
      some (before ++ List.replicate (8 - before.length - after.length) 0 ++ after)
    else none

/-- The place and length of the first of the longest runs of zeros. -/
def longestRun (at_ start length : Nat) (best : Nat × Nat) : List Nat → Nat × Nat
  | [] => if best.2 < length then (start, length) else best
  | g :: rest =>
    if g = 0 then longestRun (at_ + 1) (if length = 0 then at_ else start) (length + 1) best rest
    else longestRun (at_ + 1) 0 0 (if best.2 < length then (start, length) else best) rest

def groupText (groups : List Nat) : String :=
  Text.join ":" (groups.map fun g => String.ofList (Nat.toDigits 16 g))

/-- Eight groups in brackets, the longest run of two or more zeros as a double colon. -/
def renderGroups (groups : List Nat) : String :=
  let (start, length) := longestRun 0 0 0 (0, 0) groups
  if length < 2 then "[" ++ groupText groups ++ "]"
  else "[" ++ groupText (groups.take start) ++ "::" ++ groupText (groups.drop (start + length)) ++ "]"

def insideBrackets (cs : List Char) : Except UrlError (List Char) :=
  match cs.reverse with
  | ']' :: inner => .ok inner.reverse
  | _ => .error .badGroups

def readBracketed (rest : List Char) : Except UrlError String := do
  let inner ← insideBrackets rest
  match readGroups? inner with
  | some groups => .ok (renderGroups groups)
  | none => .error .badGroups

def readKnownHost (cs : List Char) : Except UrlError String :=
  match cs with
  | '[' :: rest => readBracketed rest
  | cs =>
    match (Text.ofBytes? (Text.unpercent 0 cs)).bind fun s => plainName? s.toList with
    | none => .error .badName
    | some [] => .error .emptyHost
    | some name =>
      if endsInNumber name then
        match readNumbers? name with
        | some n => .ok (renderNumbers n)
        | none => .error .badNumbers
      else .ok (String.ofList name)

def isForbiddenElsewhere (c : Char) : Bool :=
  [Char.ofNat 0, '\t', '\n', '\r', ' ', '#', '/', ':', '<', '>', '?', '@', '[', '\\', ']', '^',
    '|'].contains c

def readOtherHost (cs : List Char) : Except UrlError String :=
  match cs with
  | '[' :: rest => readBracketed rest
  | cs =>
    if cs.any isForbiddenElsewhere then .error .badHostCharacter
    else .ok (String.ofList (Text.percentWhere Text.isControlOrWide cs))

end Url

end Assay

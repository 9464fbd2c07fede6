/- digest: The values that parts of a document stand for: plain scalars are read by their spelling,
   all others are text. -/

import Assay.Json.Basic
import Assay.Number.Decimal
import Assay.Text.Search
import Assay.Yaml.Node

set_option autoImplicit false
set_option relaxedAutoImplicit false

namespace Assay.Yaml

def digits? (base : Nat) (cs : List Char) : Option Nat :=
  if cs.isEmpty then none
  else cs.foldl (fun n c => match n, hexValue? c with
    | some n, some d => if d < base then some (base * n + d) else none
    | _, _ => none) (some 0)

/-- Digits with a zero before others are text. -/
def isPadded (cs : List Char) : Bool :=
  let digits := match cs with
    | '-' :: r => r
    | '+' :: r => r
    | r => r
  1 < digits.length && digits.head? == some '0' && digits.all fun c => '0' ≤ c && c ≤ '9'

/-- The whole number that digits spell, with the sign of their base. -/
def magnitude? : List Char → Option Nat
  | '0' :: 'x' :: r => digits? 16 r
  | '0' :: 'o' :: r => digits? 8 r
  | '0' :: 'b' :: r => digits? 2 r
  | cs => if isPadded cs then none else digits? 10 cs

/-- The whole number that a plain scalar spells. -/
def integer? (text : String) : Option Int :=
  match text.toList with
  | '+' :: r => (magnitude? r).map fun n => (n : Int)
  | '-' :: r => (magnitude? r).map fun n => -(n : Int)
  | r => (magnitude? r).map fun n => (n : Int)

/-- The count that a plain scalar spells, below the largest. -/
def count? (text : String) : Option Nat :=
  match text.toList with
  | '-' :: _ => none
  | _ =>
    match integer? text with
    | some (.ofNat n) => if n < Nat.pow 2 64 then some n else none
    | _ => none

def withoutPlus (text : String) : String :=
  match text.toList with
  | '+' :: r => String.ofList r
  | _ => text

/-- Whether a plain scalar is the word for infinity or for no number. -/
def isBeyond (text : String) : Bool :=
  [".inf", ".Inf", ".INF"].contains (withoutPlus text) ||
    ["-.inf", "-.Inf", "-.INF", ".nan", ".NaN", ".NAN"].contains text

/-- The number with a point or an exponent that a plain scalar spells; null stands for those beyond
all numbers. -/
def float? (text : String) : Option Json :=
  if isBeyond text then some .null
  else match text.toList with
    | '+' :: '+' :: _ => none
    | '+' :: '-' :: _ => none
    | _ => (Decimal.read? (withoutPlus text)).map fun d => .number (.float d)

def isNull (text : String) : Bool := ["", "null", "Null", "NULL", "~"].contains text

def bool? (text : String) : Option Bool :=
  if ["true", "True", "TRUE"].contains text then some true
  else if ["false", "False", "FALSE"].contains text then some false
  else none

/-- A whole number that fits into 64 bits; one that fits only into 128 is refused. -/
def intValue? (text : String) : Except YamlError (Option Json) :=
  match integer? text with
  | none => .ok none
  | some i =>
    if -(Nat.pow 2 63 : Int) ≤ i ∧ i < (Nat.pow 2 64 : Int) then .ok (some (.int i))
    else if -(Nat.pow 2 127 : Int) ≤ i ∧ i < (Nat.pow 2 128 : Int) then .error .wrongShape
    else .ok none

def plainValue (text : String) : Except YamlError Json :=
  if isNull text then .ok .null
  else match bool? text with
    | some b => .ok (.bool b)
    | none =>
      match intValue? text with
      | .error e => .error e
      | .ok (some v) => .ok v
      | .ok none =>
        if isPadded text.toList then .ok (.string text)
        else .ok ((float? text).getD (.string text))

def commonTag (name : String) : String := "tag:yaml.org,2002:" ++ name

/-- Whether a tag is one of the document's own; a mark alone is one too. -/
def isOwnTag : Option String → Bool
  | some t => Text.startsWith t "!"
  | none => false

def require : Option Json → Except YamlError Json
  | some v => .ok v
  | none => .error .wrongShape

def scalarValue (tag : Option String) (text : String) (style : Style) : Except YamlError Json :=
  match tag with
  | none => if style = .plain then plainValue text else .ok (.string text)
  | some t =>
    if isOwnTag tag then .error .wrongShape
    else if t = commonTag "bool" then require ((bool? text).map .bool)
    else if t = commonTag "int" then
      match intValue? text with
      | .error e => .error e
      | .ok v => require v
    else if t = commonTag "float" then require (float? text)
    else if t = commonTag "null" then
      if isNull text && !text.isEmpty then .ok .null else .error .wrongShape
    else .ok (.string text)

namespace Node

/-- Reading values: it counts the aliases followed so far. -/
abbrev Reading (α : Type) := StateT Nat (Except YamlError) α

/-- Follows an alias, at most so many times. -/
def follow (limit : Nat) : Reading Unit := do
  if limit ≤ (← get) then throw .tooManyAliases
  modify (· + 1)

def text (limit : Nat) : Node → Reading String
  | .scalar _ s _ => return s
  | .alias target => do
    follow limit
    text limit target
  | _ => throw .wrongShape

/-- The number of levels that may still follow. -/
def inner : Nat → Reading Nat
  | 0 => throw .tooDeep
  | depth + 1 => return depth

mutual

def value (limit depth : Nat) : Node → Reading Json
  | .scalar tag text style => scalarValue tag text style
  | .sequence tag items => do
    if isOwnTag tag then throw .wrongShape
    let depth ← inner depth
    return .array (← values limit depth items)
  | .mapping tag entries => do
    if isOwnTag tag then throw .wrongShape
    let depth ← inner depth
    return .object (← members limit depth [] entries)
  | .alias target => do
    follow limit
    value limit depth target
  | .cycle => throw .tooDeep

def values (limit depth : Nat) : List Node → Reading (List Json)
  | [] => return []
  | n :: rest => do
    let v ← value limit depth n
    return v :: (← values limit depth rest)

/-- The members of entries; a later one of the same name replaces an earlier one in its place. -/
def members (limit depth : Nat) (done : Members Json) : List (Node × Node) → Reading (Members Json)
  | [] => return done
  | (k, n) :: rest => do
    let name ← k.text limit
    let v ← value limit depth n
    members limit depth (Members.put name v done) rest

end

/-- The entries of a mapping; nothing has none. -/
def entries (limit : Nat) : Node → Reading (List (Node × Node))
  | .mapping _ es => return es
  | .scalar _ s style => if s.isEmpty && style = .plain then return [] else throw .wrongShape
  | .alias target => do
    follow limit
    entries limit target
  | _ => throw .wrongShape

/-- The items of a sequence; nothing has none. -/
def items (limit : Nat) : Node → Reading (List Node)
  | .sequence _ ns => return ns
  | .scalar _ s style => if s.isEmpty && style = .plain then return [] else throw .wrongShape
  | .alias target => do
    follow limit
    items limit target
  | _ => throw .wrongShape

def count (limit : Nat) : Node → Reading Nat
  | .scalar tag s style => do
    if style = .plain ∨ (style = .literal ∧ tag = some (commonTag "int")) then
      match count? s with
      | some n => return n
      | none => throw .wrongShape
    else throw .wrongShape
  | .alias target => do
    follow limit
    count limit target
  | _ => throw .wrongShape

def texts (limit : Nat) : List Node → Reading (List String)
  | [] => return []
  | n :: rest => do
    let s ← n.text limit
    return s :: (← texts limit rest)

end Node

end Assay.Yaml

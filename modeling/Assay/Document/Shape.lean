/- digest: Reading documents of a fixed shape from drafts. Each reader stops at the first fault in
   the order of the text. -/

import Assay.Document.Error
import Assay.Json.Draft

set_option autoImplicit false
set_option relaxedAutoImplicit false

namespace Assay.Document

open Json (Draft Flaw)
open Json.Draft (Room)

/-- A reader of drafts. A draft of a text has a limit of nesting, a draft of a value has none. -/
abbrev Reader (α : Type) := Room → Draft → Except DocumentError α

def refuse (expected : String) : Draft → DocumentError
  | .null => .misshapen (.wrongType .null expected)
  | .bool b => .misshapen (.wrongType (.bool b) expected)
  | .number n => .misshapen (.wrongType (.number n) expected)
  | .string s => .misshapen (.wrongType (.text s) expected)
  | .invalid f => .malformed f
  | .broken f => .malformed f
  | .array _ _ => .misshapen (.wrongType .list expected)
  | .object _ _ => .misshapen (.wrongType .map expected)

/-- Turns a fault of the text into an error of the document. -/
def ofFlaw {α : Type} : Except Flaw α → Except DocumentError α
  | .ok a => .ok a
  | .error f => .error (.malformed f)

/-- A container is whole if its text did not go wrong. -/
def checkEnd : Option Flaw → Except DocumentError Unit
  | none => .ok ()
  | some f => .error (.malformed f)

def readJson : Reader Json := fun room d => ofFlaw (d.toJson room)

def readText : Reader String := fun _ d =>
  match d with
  | .string s => .ok s
  | d => .error (refuse "a string" d)

def readBool : Reader Bool := fun _ d =>
  match d with
  | .bool b => .ok b
  | d => .error (refuse "a boolean" d)

def readOptional {α : Type} (read : Reader α) : Reader (Option α) := fun room d =>
  match d with
  | .null => .ok none
  | d => (read room d).map some

def readItems {α : Type} (read : Reader α) (room : Room) :
    List Draft → Except DocumentError (List α)
  | [] => .ok []
  | d :: rest => do
    let a ← read room d
    let others ← readItems read room rest
    .ok (a :: others)

def readList {α : Type} (read : Reader α) : Reader (List α) := fun room d =>
  match d with
  | .array items flaw => do
    let inner ← ofFlaw (Room.inner room)
    let values ← readItems read inner items
    checkEnd flaw
    .ok values
  | d => .error (refuse "a sequence" d)

/-- The entries of a map; a later one of the same name replaces an earlier one in its place. -/
def readEntries {α : Type} (read : Reader α) (room : Room) (done : Members α) :
    List (String × Draft) → Except DocumentError (Members α)
  | [] => .ok done
  | (k, d) :: rest => do
    let a ← read room d
    readEntries read room (Members.put k a done) rest

def readMap {α : Type} (read : Reader α) : Reader (Members α) := fun room d =>
  match d with
  | .object members flaw => do
    let inner ← ofFlaw (Room.inner room)
    let values ← readEntries read inner [] members
    checkEnd flaw
    .ok values
  | d => .error (refuse "a map" d)

/-- A field of a record: its names, the first of which is used in messages, whether it must be
given, and how it is read into the record. -/
structure Field (α : Type) where
  name : String
  others : List String
  required : Bool
  read : Room → Draft → α → Except DocumentError α

namespace Field

def needed {α β : Type} (name : String) (read : Reader β) (put : β → α → α) : Field α :=
  ⟨name, [], true, fun room d a => (read room d).map fun b => put b a⟩

def free {α β : Type} (name : String) (read : Reader β) (put : β → α → α) : Field α :=
  ⟨name, [], false, fun room d a => (read room d).map fun b => put b a⟩

def withAlias {α : Type} (f : Field α) (name : String) : Field α :=
  { f with others := name :: f.others }

def answers {α : Type} (f : Field α) (name : String) : Bool :=
  f.name == name || f.others.contains name

end Field

/-- A record: its name in messages, its value before any field is read, and its fields. -/
structure Shape (α : Type) where
  name : String
  start : α
  fields : List (Field α)

namespace Shape

variable {α : Type}

/-- Fields by name, in the order of the text; members without a field are passed over. -/
def readMembers (s : Shape α) (room : Room) (seen : List String) (a : α) :
    List (String × Draft) → Except DocumentError (List String × α)
  | [] => .ok (seen, a)
  | (k, d) :: rest =>
    match s.fields.find? (·.answers k) with
    | none =>
      match d.firstBreak? with
      | some f => .error (.malformed f)
      | none => readMembers s room seen a rest
    | some f =>
      if seen.contains f.name then .error (.misshapen (.duplicateField f.name))
      else do
        let a ← f.read room d a
        readMembers s room (f.name :: seen) a rest

def missing? (s : Shape α) (seen : List String) : Option String :=
  (s.fields.find? fun f => f.required && !seen.contains f.name).map (·.name)

/-- The length that a list of fields should have, in words. -/
def lengthText (s : Shape α) : String :=
  s.name ++ " with " ++ toString s.fields.length ++
    (if s.fields.length = 1 then " element" else " elements")

/-- Fields in their order; `place` counts those read, and the rest of the items is given back. -/
def readPlaces (s : Shape α) (room : Room) (flaw : Option Flaw) (a : α) (place : Nat) :
    List (Field α) → List Draft → Except DocumentError (α × List Draft)
  | [], items => .ok (a, items)
  | f :: fields, [] =>
    match flaw with
    | some w => .error (.malformed w)
    | none =>
      if f.required then .error (.misshapen (.wrongLength place s.lengthText))
      else readPlaces s room flaw a (place + 1) fields []
  | f :: fields, d :: items => do
    let a ← f.read room d a
    readPlaces s room flaw a (place + 1) fields items

/-- Nothing may follow the last field of a list: in a text this is a fault of the text. -/
def checkRest (room : Room) (flaw : Option Flaw) (length : Nat) (rest : List Draft) :
    Except DocumentError Unit :=
  if room.isNone then
    if rest.isEmpty then .ok ()
    else .error (.misshapen (.wrongLength length "fewer elements in array"))
  else if !rest.isEmpty || flaw == some .endInValue || flaw == some .listEndExpected then
    .error (.malformed .trailingText)
  else checkEnd flaw

/-- A record, as a map of its fields by name or as a list of its fields in order. -/
def read (s : Shape α) : Reader α := fun room d =>
  match d with
  | .object members flaw => do
    let inner ← ofFlaw (Room.inner room)
    let (seen, a) ← s.readMembers inner [] s.start members
    checkEnd flaw
    match s.missing? seen with
    | some n => .error (.misshapen (.missingField n))
    | none => .ok a
  | .array items flaw => do
    let inner ← ofFlaw (Room.inner room)
    let (a, rest) ← s.readPlaces inner flaw s.start 0 s.fields items
    checkRest room flaw items.length rest
    .ok a
  | d => .error (refuse s.name d)

end Shape

def ofValue {α : Type} (read : Reader α) (v : Json) : Except DocumentError α :=
  read none (Draft.ofJson v)

def ofText {α : Type} (read : Reader α) (text : String) : Except DocumentError α := do
  let (draft, trailing) := Draft.ofText text
  let a ← read Draft.depthLimit draft
  checkEnd trailing
  .ok a

end Assay.Document

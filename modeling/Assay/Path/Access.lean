/- digest: Reading, writing and removing the part of a value that lies at given steps. -/

import Assay.Json.Basic
import Assay.Path.Basic

set_option autoImplicit false
set_option relaxedAutoImplicit false

namespace Assay.Json

def child? : Segment → Json → Option Json
  | .key name, .object members => Members.get? name members
  | .index position, .array items => items[position]?
  | _, _ => none

/-- The part below several steps. -/
def get? : List Segment → Json → Option Json
  | [], v => some v
  | s :: rest, v => (child? s v).bind (get? rest)

/-- The members of an object; a value of another kind gives way to an empty object. -/
def membersOrNone : Json → Members Json
  | .object members => members
  | _ => []

/-- The items of an array; a value of another kind gives way to an empty array. -/
def itemsOrNone : Json → List Json
  | .array items => items
  | _ => []

/-- Items filled up with nulls so that there are at least `count`. -/
def padTo (count : Nat) (items : List Json) : List Json :=
  items ++ List.replicate (count - items.length) .null

/-- An empty container of the kind that the next step needs. -/
def emptyFor : List Segment → Json
  | .index _ :: _ => .array []
  | _ => .object []

/-- What stands at a step before the write goes on below it: nothing and null give way to an empty
container. -/
def containerFor (next : List Segment) : Option Json → Json
  | none => emptyFor next
  | some .null => emptyFor next
  | some v => v

/-- Writes below several steps. Missing containers are made, values of the wrong kind in the way are
replaced, and arrays are filled up with nulls. -/
def set (value : Json) : List Segment → Json → Json
  | [], _ => value
  | .key name :: rest, v =>
    let members := membersOrNone v
    let part := match rest with
      | [] => value
      | _ => set value rest (containerFor rest (Members.get? name members))
    .object (Members.put name part members)
  | .index position :: rest, v =>
    let items := padTo (position + 1) (itemsOrNone v)
    let part := match rest with
      | [] => value
      | _ => set value rest (containerFor rest items[position]?)
    .array (items.set position part)

/-- Removes what lies at the last of several steps and closes the gap. -/
def erase? : List Segment → Json → Option (Json × Json)
  | [], _ => none
  | [.key name], .object members =>
    (Members.get? name members).map fun old => (old, .object (Members.erase name members))
  | [.index position], .array items =>
    items[position]?.map fun old => (old, .array (items.eraseIdx position))
  | .key name :: rest, .object members =>
    ((Members.get? name members).bind (erase? rest)).map fun r =>
      (r.1, .object (Members.put name r.2 members))
  | .index position :: rest, .array items =>
    (items[position]?.bind (erase? rest)).map fun r => (r.1, .array (items.set position r.2))
  | _, _ => none

end Assay.Json

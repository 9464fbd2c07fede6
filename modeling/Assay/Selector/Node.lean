/- digest: Places found inside a document, with the walks that list what lies one level or all
   levels below them. -/

import Assay.Json.Basic

set_option autoImplicit false
set_option relaxedAutoImplicit false

namespace Assay.Selector

/-- A part of a document and where it lies: child numbers, innermost first. -/
structure Node where
  address : List Nat
  value : Json
  deriving Inhabited

namespace Node

def whole (v : Json) : Node := ⟨[], v⟩

def number (address : List Nat) (start : Nat) : List Json → List Node
  | [] => []
  | v :: rest => ⟨start :: address, v⟩ :: number address (start + 1) rest

def children (n : Node) : List Node :=
  match n.value with
  | .array items => number n.address 0 items
  | .object members => number n.address 0 (members.map (·.2))
  | _ => []

def findMember (name : String) (i : Nat) : List (String × Json) → Option (Nat × Json)
  | [] => none
  | (k, v) :: rest => if k = name then some (i, v) else findMember name (i + 1) rest

def member? (name : String) (n : Node) : Option Node :=
  match n.value with
  | .object members => (findMember name 0 members).map fun (i, v) => ⟨i :: n.address, v⟩
  | _ => none

def hasMember (name : String) (n : Node) : Bool := (n.member? name).isSome

def item? (position : Nat) (n : Node) : Option Node :=
  match n.value with
  | .array items => items[position]?.map fun v => ⟨position :: n.address, v⟩
  | _ => none

/-- Positions below zero count from the end; both ends are held fast. -/
def absolute (position : Int) (size : Nat) : Nat :=
  if position < 0 then (position + size).toNat else min position.toNat size

mutual

/-- Applies `pick` to a value and then to all below it, parents first. -/
def walk (pick : Node → List Node) (address : List Nat) : Json → List Node
  | .array items => pick ⟨address, .array items⟩ ++ walkItems pick address 0 items
  | .object members => pick ⟨address, .object members⟩ ++ walkMembers pick address 0 members
  | v => pick ⟨address, v⟩

def walkItems (pick : Node → List Node) (address : List Nat) (i : Nat) : List Json → List Node
  | [] => []
  | v :: rest => walk pick (i :: address) v ++ walkItems pick address (i + 1) rest

def walkMembers (pick : Node → List Node) (address : List Nat) (i : Nat) :
    List (String × Json) → List Node
  | [] => []
  | (_, v) :: rest => walk pick (i :: address) v ++ walkMembers pick address (i + 1) rest

end

/-- All that `pick` finds at nodes and below them. -/
def everywhere (pick : Node → List Node) (nodes : List Node) : List Node :=
  nodes.flatMap fun n => walk pick n.address n.value

mutual

/-- The objects that have a member of a name: the value itself, or those in an array at any depth.
-/
def holders (name : String) (address : List Nat) : Json → List Node
  | .object members =>
    if Members.has name members then [⟨address, .object members⟩] else []
  | .array items => itemHolders name address 0 items
  | _ => []

def itemHolders (name : String) (address : List Nat) (i : Nat) : List Json → List Node
  | [] => []
  | v :: rest => holders name (i :: address) v ++ itemHolders name address (i + 1) rest

end

/-- Keeps the first of several nodes at one address. -/
def distinct (nodes : List Node) : List Node :=
  (nodes.foldl (fun seen n => if seen.any (·.address == n.address) then seen else n :: seen)
    []).reverse

/-- The objects that have a member of a name, among nodes and in the arrays among them; each once.
-/
def holdersAmong (name : String) (nodes : List Node) : List Node :=
  distinct (nodes.flatMap fun n => holders name n.address n.value)

/-- Keeps the first of several nodes with one value. -/
def unlike (nodes : List Node) : List Node :=
  (nodes.foldl (fun seen n => if seen.any (·.value.same n.value) then seen else n :: seen)
    []).reverse

end Node

end Assay.Selector

/- digest: JSON values with ordered object members, and the operations on ordered members. -/

import Assay.Number.Double

set_option autoImplicit false
set_option relaxedAutoImplicit false

namespace Assay

/-- A number is kept as a whole number or as a floating-point number; the two never mix. -/
inductive Number
  | int (value : Int)
  | float (value : Double)
  deriving DecidableEq, Inhabited

/-- The floating-point value of a number; none for whole numbers beyond the largest. -/
def Number.toDouble? : Number → Option Double
  | .int i => Double.ofInt? i
  | .float d => some d

/-- A JSON value. An object keeps its members in the order of their insertion. -/
inductive Json
  | null
  | bool (value : Bool)
  | number (value : Number)
  | string (value : String)
  | array (items : List Json)
  | object (members : List (String × Json))
  deriving Inhabited

/-- Named things in the order of their insertion. -/
abbrev Members (α : Type) := List (String × α)

namespace Members

variable {α : Type}

def get? (name : String) : Members α → Option α
  | [] => none
  | (k, v) :: rest => if k = name then some v else get? name rest

def has (name : String) (m : Members α) : Bool := (get? name m).isSome

def names (m : Members α) : List String := m.map (·.1)

/-- Writes in place where the name is taken and at the end where it is not. -/
def put (name : String) (value : α) : Members α → Members α
  | [] => [(name, value)]
  | (k, v) :: rest => if k = name then (k, value) :: rest else (k, v) :: put name value rest

/-- Removes a name and keeps the order of the others. -/
def erase (name : String) : Members α → Members α
  | [] => []
  | (k, v) :: rest => if k = name then rest else (k, v) :: erase name rest

/-- Writes all members of another list, from its first. -/
def putAll (m : Members α) (more : Members α) : Members α :=
  more.foldl (fun acc e => put e.1 e.2 acc) m

end Members

namespace Json

def int (i : Int) : Json := .number (.int i)

def nat (n : Nat) : Json := .number (.int n)

def ofText? : Option String → Json
  | some s => .string s
  | none => .null

def ofTexts (texts : List String) : Json := .array (texts.map .string)

def text? : Json → Option String
  | .string s => some s
  | _ => none

def isNull : Json → Bool
  | .null => true
  | _ => false

def isArray : Json → Bool
  | .array _ => true
  | _ => false

/-- The name of a value's type; whole numbers have one of their own. -/
def typeName : Json → String
  | .null => "null"
  | .bool _ => "boolean"
  | .number (.int _) => "integer"
  | .number (.float _) => "number"
  | .string _ => "string"
  | .array _ => "array"
  | .object _ => "object"

end Json

/-- Identity of numbers: of one kind, and of one value. -/
def Number.same : Number → Number → Bool
  | .int i, .int j => i == j
  | .float a, .float b => a.same b
  | _, _ => false

namespace Json

/-- Whether `key` is a member whose value passes a test. -/
def memberPasses (test : Json → Bool) (key : String) (members : Members Json) : Bool :=
  match Members.get? key members with
  | some v => test v
  | none => false

mutual

/-- Identity of values; the order of object members does not count. -/
def same : Json → Json → Bool
  | .null, .null => true
  | .bool a, .bool b => a == b
  | .number a, .number b => a.same b
  | .string a, .string b => a == b
  | .array a, .array b => sameItems a b
  | .object a, .object b => a.length == b.length && sameMembers a b
  | _, _ => false

def sameItems : List Json → List Json → Bool
  | [], [] => true
  | a :: as, b :: bs => same a b && sameItems as bs
  | _, _ => false

/-- Every member on the left has an identical one on the right. -/
def sameMembers : List (String × Json) → List (String × Json) → Bool
  | [], _ => true
  | (k, v) :: rest, other => memberPasses (same v) k other && sameMembers rest other

end

end Json

end Assay

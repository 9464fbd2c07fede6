/- digest: The terms of filters and their relations. A relation of plain values is a truth value;
   one that a side of nodes takes part in is the list of nodes for which it holds, or false if there
   is none. -/

import Assay.Selector.Node
import Assay.Selector.Route
import Assay.Text.Quoted

set_option autoImplicit false
set_option relaxedAutoImplicit false

namespace Assay.Selector

/-- What a candidate's term was last narrowed by. -/
inductive Narrowing
  | name (key : String)
  | anywhere
  deriving DecidableEq

/-- One side of a relation. Nodes may carry the candidates that they were found below. -/
inductive Term
  | text (value : String)
  | number (value : Number)
  | truth (value : Bool)
  | nodes (candidates : Option (List Node)) (narrowing : Option Narrowing) (found : List Node)

namespace Term

/-- A term for nodes reached on a route of its own: a single plain value stands for itself. -/
def ofNodes (nodes : List Node) : Term :=
  match nodes with
  | [n] =>
    match n.value with
    | .number m => .number m
    | .string s => .text s
    | .bool b => .truth b
    | _ => .nodes none none nodes
  | _ => .nodes none none nodes

end Term

namespace Relation

def texts : Relation → String → String → Bool
  | .equal, a, b => a == b
  | .notEqual, a, b => a != b
  | .less, a, b => a < b
  | .atMost, a, b => !(b < a)
  | .greater, a, b => b < a
  | .atLeast, a, b => !(a < b)
  | .and, a, b => !a.isEmpty && !b.isEmpty
  | .or, a, b => !a.isEmpty || !b.isEmpty

def doubles : Relation → Double → Double → Bool
  | .equal, a, b => a.same b
  | .notEqual, a, b => !a.same b
  | .less, a, b => a.less b
  | .atMost, a, b => a.atMost b
  | .greater, a, b => b.less a
  | .atLeast, a, b => b.atMost a
  | .and, a, b => Double.zero.less a && Double.zero.less b
  | .or, a, b => Double.zero.less a || Double.zero.less b

/-- Whether two numbers of a document are related, each rounded first. -/
def numbers (r : Relation) (m n : Number) : Bool :=
  match m.toDouble?, n.toDouble? with
  | some a, some b => r.doubles a b
  | _, _ => false

def truths : Relation → Bool → Bool → Bool
  | .equal, a, b => a == b
  | .notEqual, a, b => a != b
  | .less, a, b => !a && b
  | .atMost, a, b => !a || b
  | .greater, a, b => a && !b
  | .atLeast, a, b => a || !b
  | .and, a, b => a && b
  | .or, a, b => a || b

/-- The nodes that remain of two lists, with one node for each value. -/
def lists (r : Relation) (left right : List Node) : List Node :=
  match r with
  | .equal | .and => (Node.unlike left).filter fun a => right.any fun b => a.value.same b.value
  | .notEqual => (Node.unlike left).filter fun a => right.any fun b => !a.value.same b.value
  | .or => Node.unlike (left ++ right)
  | _ => []

def flip : Relation → Relation
  | .less => .greater
  | .atMost => .atLeast
  | .greater => .less
  | .atLeast => .atMost
  | r => r

end Relation

/-- Tests a node, or the member that its term was narrowed by. -/
def Node.passes (test : Json → Bool) (narrowing : Option Narrowing) (n : Node) : Bool :=
  match n.value with
  | .object members =>
    match narrowing with
    | some (.name k) => (Members.get? k members).any test
    | _ => false
  | v => test v

/-- The candidates that have a member identical to one of the results. -/
def ownersOf (results candidates : List Node) : List Node :=
  candidates.flatMap fun c =>
    match c.value with
    | .object members => members.flatMap fun (_, v) =>
      results.filterMap fun r => if v.same r.value then some c else none
    | _ => []

namespace Relation

def narrow (r : Relation) (narrowing : Option Narrowing) (found : List Node) (other : Term)
    (candidates : Option (List Node)) : List Node :=
  match other with
  | .text s => found.filter (·.passes (fun v => match v with
    | .string t => r.texts t s
    | _ => false) narrowing)
  | .number m => found.filter (·.passes (fun v => match v with
    | .number n => r.numbers n m
    | _ => false) narrowing)
  | .truth b => found.filter (·.passes (fun v => match v with
    | .bool c => r.truths c b
    | _ => false) narrowing)
  | .nodes others _ more => r.lists (candidates.getD found) (others.getD more)

def applyNodes (r : Relation) (candidates : Option (List Node)) (narrowing : Option Narrowing)
    (found : List Node) (other : Term) : Term :=
  match r.narrow narrowing found other candidates with
  | [] => .truth false
  | result =>
    match candidates with
    | none => .nodes none none result
    | some cs =>
      match other with
      | .nodes _ _ _ => .nodes (some cs) none result
      | _ => .nodes (some (ownersOf result cs)) none result

def apply (r : Relation) (left right : Term) : Term :=
  match left, right with
  | .nodes cs narrowing found, _ => r.applyNodes cs narrowing found right
  | _, .nodes cs narrowing found => r.flip.applyNodes cs narrowing found left
  | .text a, .text b => .truth (r.texts a b)
  | .number a, .number b => .truth (r.numbers a b)
  | .truth a, .truth b => .truth (r.truths a b)
  | _, _ => .truth false

end Relation

end Assay.Selector

/- digest: Following a route through a document, with the routes from the root that stand in its
   filters. Main function: the values that an expression selects. -/

import Assay.Selector.Walk

set_option autoImplicit false
set_option relaxedAutoImplicit false

namespace Assay.Selector

/-- A walk and, inside a filter, the route from the root that is under way beside it. -/
structure Cursor where
  document : Json
  main : Option Walk
  aside : Option Walk

namespace Cursor

def ofDocument (v : Json) : Cursor := ⟨v, none, none⟩

/-- The walk that gets the next move: the route beside it ends where another term begins or a
relation closes, and becomes a term. -/
def settle (c : Cursor) (m : Move) : Cursor :=
  match c.aside with
  | none => c
  | some a =>
    match m with
    | .root | .here | .relate _ =>
      { c with aside := none, main := c.main.map (·.push (Term.ofNodes a.current)) }
    | _ => c

def step (c : Cursor) (m : Move) : Except Refusal Cursor :=
  let c := c.settle m
  match c.aside with
  | some a => (a.step m).map fun a => { c with aside := some a }
  | none =>
    match m, c.main with
    | .root, none => .ok { c with main := some (.start [.whole c.document]) }
    | .root, some _ => .ok { c with aside := some (.start [.whole c.document]) }
    | _, none => .error .misplaced
    | _, some w => (w.step m).map fun w => { c with main := some w }

def follow (c : Cursor) (route : List Move) : Except Refusal Cursor :=
  route.foldlM step c

def values (c : Cursor) : List Json :=
  match c.main with
  | some w => w.current.map (·.value)
  | none => []

end Cursor

/-- Why an expression selects nothing at all. -/
inductive SelectError
  | malformed (expression : String) (place : Nat)
  | refused (why : Refusal)
  deriving DecidableEq, Repr

/-- The wording of an expression that selects nothing: a malformed one stands over as many marks as
there are bytes before its fault. -/
def SelectError.message : SelectError → String
  | .malformed expression place =>
    "path error: \n" ++ expression ++ "\n" ++ String.ofList (List.replicate place '^') ++ "\n"
  | .refused why => why.message

/-- The values that an expression selects in a document, in the order of the walk. -/
def select (document : Json) (expression : String) : Except SelectError (List Json) :=
  match Move.ofText expression with
  | .error place => .error (.malformed expression place)
  | .ok route =>
    match (Cursor.ofDocument document).follow route with
    | .ok c => .ok c.values
    | .error r => .error (.refused r)

end Assay.Selector

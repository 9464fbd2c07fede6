/- digest: Walking a route: the nodes reached so far, the marks that say how the next name is meant,
   and the terms of the filter under way. Some moves are refused inside filters. -/

import Assay.Json.Render
import Assay.Selector.Term

set_option autoImplicit false
set_option relaxedAutoImplicit false

namespace Assay.Selector

/-- How the next part of a route is meant. -/
inductive Mark
  | child | descend | bracket
  deriving DecidableEq

/-- Moves that cannot be made where they stand. -/
inductive Refusal
  | keysInFilter | rangeInFilter | unionInFilter | leftMissing | rightMissing | zeroStep | misplaced
  /-- A name after a term that is no list of nodes. -/
  | notNodes (shown : String)
  /-- A number beyond the largest. -/
  | boundless
  deriving DecidableEq, Repr

def Refusal.message : Refusal → String
  | .keysInFilter => "not implemented: keys in filter"
  | .rangeInFilter => "not implemented: range syntax in filter"
  | .unionInFilter => "not implemented: union syntax in filter"
  | .leftMissing => "empty term left"
  | .rightMissing => "empty term right"
  | .zeroStep => "assertion failed: step != 0"
  | .misplaced => "internal error: entered unreachable code"
  | .notNodes shown => "internal error: entered unreachable code: unexpected: ExprTerm: " ++ shown
  | .boundless => "called `Option::unwrap()` on a `None` value"

/-- The state of a walk: nodes reached, marks and terms, the latest first. A term that is none
stands for the candidates of the filter. -/
structure Walk where
  current : List Node
  marks : List Mark
  terms : List (Option Term)

namespace Walk

def start (nodes : List Node) : Walk := ⟨nodes, [], []⟩

def goto (w : Walk) (nodes : List Node) : Walk := { w with current := nodes }

/-- Goes on at nodes that were looked for; where there are none, the latest term goes too. -/
def arrive (w : Walk) (nodes : List Node) : Walk :=
  match nodes with
  | [] => { w with current := [], terms := w.terms.tail }
  | found => w.goto found

def dropMark (w : Walk) : Walk := { w with marks := w.marks.tail }

def dropTerm (w : Walk) : Walk := { w with terms := w.terms.tail }

def push (t : Term) (w : Walk) : Walk := { w with terms := some t :: w.terms }

/-- Members of objects under any of several names, object by object. -/
def membersOf (names : List String) (nodes : List Node) : List Node :=
  nodes.flatMap fun n => names.filterMap fun k => n.member? k

def toMembers (names : List String) (w : Walk) : Walk := w.arrive (membersOf names w.current)

/-- Goes to all members under a name, at the nodes and at all levels below. -/
def descendTo (name : String) (w : Walk) : Walk :=
  w.arrive (Node.everywhere (fun n => (n.member? name).toList) w.current)

def narrowingBase (narrowing : Option Narrowing) (found : List Node) : List Node :=
  match narrowing with
  | some (.name k) => membersOf [k] found
  | _ => found

/-- Narrows a term by a name one level down. The nodes that turn out to have the name under them
become the candidates, if there are none yet. -/
def narrowByName (candidates : Option (List Node)) (narrowing : Option Narrowing)
    (found : List Node) (name : String) : Term :=
  let base := narrowingBase narrowing found
  let kept := found.zipIdx.filterMap fun (n, i) =>
    if base[i]?.all (·.hasMember name) then some n else none
  .nodes (some (candidates.getD kept)) (some (.name name)) (Node.holdersAmong name base)

/-- Narrows a term by a name at any level below. -/
def narrowAnywhere (candidates : Option (List Node)) (narrowing : Option Narrowing)
    (found : List Node) (name : String) : Term :=
  let owners := Node.everywhere (fun n => if n.hasMember name then [n] else [])
    (narrowingBase narrowing found)
  .nodes (some (candidates.getD found)) (some .anywhere) owners

/-- A term as a refusal shows it; lists of nodes are never refused. -/
def shown : Term → String
  | .text s => "String(" ++ Text.quoteMessage s ++ ")"
  | .number n => "Number(Number(" ++ n.render ++ "))"
  | .truth b => "Bool(" ++ (if b then "true" else "false") ++ ")"
  | .nodes _ _ _ => "Json"

/-- Narrows the latest term by a name one level down. -/
def filterChild (name : String) (w : Walk) : Except Refusal Walk :=
  match w.terms with
  | [] => .ok w
  | none :: rest =>
    .ok ({ w with terms := rest }.push
      (.nodes none (some (.name name)) (Node.holdersAmong name w.current)))
  | some (.nodes cs narrowing found) :: rest =>
    .ok ({ w with terms := rest }.push (narrowByName cs narrowing found name))
  | some t :: _ => .error (.notNodes (shown t))

/-- Narrows the latest term by a name at any level below. -/
def filterDescend (name : String) (w : Walk) : Except Refusal Walk :=
  match w.terms with
  | [] => .ok w
  | none :: rest =>
    let owners := Node.everywhere (fun n => if n.hasMember name then [n] else []) w.current
    .ok ({ w with terms := rest }.push (.nodes none (some .anywhere) owners))
  | some (.nodes cs narrowing found) :: rest =>
    .ok ({ w with terms := rest }.push (narrowAnywhere cs narrowing found name))
  | some t :: _ => .error (.notNodes (shown t))

/-- A name outside and inside filters. -/
def key (name : String) (w : Walk) : Except Refusal Walk :=
  match w.marks with
  | .bracket :: _ => .ok (w.push (.text name))
  | [] => .ok w
  | m :: _ =>
    let w := w.dropMark
    if w.terms.isEmpty then
      match m with
      | .descend => .ok (w.descendTo name)
      | _ => .ok (w.toMembers [name])
    else
      match m with
      | .descend => w.filterDescend name
      | _ => w.filterChild name

/-- All parts one level down, or at all levels. -/
def all (w : Walk) : Walk :=
  let w := if w.marks.head? = some .bracket then w.dropMark else w
  match w.marks with
  | .descend :: _ => w.dropMark.goto (Node.everywhere Node.children w.current)
  | .child :: _ => w.dropMark.goto (w.current.flatMap Node.children)
  | _ => w.goto (w.current.flatMap Node.children)

/-- The whole part of a number, without its sign if it is negative and must not be. -/
def toPosition (d : Double) : Int :=
  let size : Int := (d.units / Nat.pow 2 1074 : Nat)
  if d.negative then -size else size

/-- Items at a position: of arrays, and of the arrays among the members of objects. -/
def itemsAt (position : Int) (nodes : List Node) : List Node :=
  let item? (n : Node) : Option Node :=
    match n.value with
    | .array items => n.item? (Node.absolute position items.length)
    | _ => none
  nodes.flatMap fun n =>
    match n.value with
    | .object _ => n.children.filterMap item?
    | _ => (item? n).toList

/-- A position as a whole number; numbers in brackets are never beyond the largest. -/
def positionOf (n : Number) : Int := (n.toDouble?.map toPosition).getD 0

/-- The end of a bracket in which a filter or an index has left its term. -/
def finish (w : Walk) : Walk :=
  match w.terms with
  | some t :: rest =>
    let w := { w with terms := rest }
    match t with
    | .number n => (w.arrive (itemsAt (positionOf n) w.current)).dropMark
    | .text k => (w.toMembers [k]).dropMark
    | .nodes cs _ found =>
      (w.goto (if found.isEmpty then [] else cs.getD found)).dropMark
    | .truth false => (w.goto []).dropMark
    | .truth true => w.dropMark
  | none :: rest => { w with terms := rest }.dropMark
  | [] => w.dropMark

def close (w : Walk) : Except Refusal Walk :=
  match w.marks, w.terms with
  | _ :: .bracket :: _, some (.text k) :: rest =>
    ({ w with terms := rest }.filterChild k).map dropMark
  | _ :: .bracket :: _, none :: rest => .ok { w with terms := rest }.finish
  | _ :: .descend :: marks, terms =>
    let w := { w with marks := marks }
    match terms with
    | some (.number n) :: rest =>
      let position := (positionOf n).toNat
      .ok ({ w with terms := rest }.arrive
        (Node.everywhere (fun n => (n.item? position).toList) w.current)).dropTerm
    | some (.text k) :: rest => .ok ({ w with terms := rest }.descendTo k).dropTerm
    | none :: rest => .ok { w with terms := rest }.finish
    | _ => .ok w.finish
  | _, _ => .ok w.finish

def positions (start stop step : Nat) : List Nat :=
  (List.range ((stop - start + step - 1) / step)).map fun i => start + i * step

def inRange (start stop : Option Int) (step : Nat) (nodes : List Node) : List Node :=
  nodes.flatMap fun n =>
    match n.value with
    | .array items =>
      let size := items.length
      let first := (start.map (Node.absolute · size)).getD 0
      let last := (stop.map (Node.absolute · size)).getD size
      (positions first last step).filterMap fun i => n.item? i
    | _ => []

/-- Items of arrays at several positions, array by array. -/
def atPositions (positions : List Int) (nodes : List Node) : List Node :=
  nodes.flatMap fun n =>
    match n.value with
    | .array items => positions.filterMap fun i => n.item? (Node.absolute i items.length)
    | _ => []

/-- Takes the mark of the bracket in which a move stands that filters do not know. -/
def inBracket (refusal : Refusal) (w : Walk) (go : Walk → Except Refusal Walk) :
    Except Refusal Walk :=
  if !w.terms.isEmpty then .error refusal
  else
    match w.marks with
    | .bracket :: _ => go w.dropMark
    | _ => .error .misplaced

/-- Goes to a range of items. A step of nothing is refused where there is an array to step through.
-/
def toRange (start stop : Option Int) (step : Option Nat) (w : Walk) : Except Refusal Walk :=
  if step = some 0 ∧ w.current.any (·.value.isArray) then .error .zeroStep
  else .ok (w.goto (inRange start stop (step.getD 1) w.current))

/-- The candidates of a filter: after a descent into all levels, all parts below. -/
def here (w : Walk) : Walk :=
  let w := match w.marks with
    | .bracket :: .descend :: rest =>
      { w with marks := .bracket :: rest, current := Node.everywhere Node.children w.current }
    | _ => w
  { w with terms := none :: w.terms }

/-- The term for candidates that nothing has narrowed. -/
def side (w : Walk) : Option Term → Term
  | some t => t
  | none => .nodes none none w.current

/-- Replaces the two latest terms by their relation. -/
def relate (r : Relation) (w : Walk) : Except Refusal Walk :=
  match w.terms with
  | right :: left :: rest =>
    .ok ({ w with terms := rest }.push (r.apply (w.side left) (w.side right)))
  | [_] => .error .leftMissing
  | [] => .error .rightMissing

def step (w : Walk) : Move → Except Refusal Walk
  | .root => .ok w
  | .here => .ok w.here
  | .child => .ok { w with marks := .child :: w.marks }
  | .descend => .ok { w with marks := .descend :: w.marks }
  | .bracket => .ok { w with marks := .bracket :: w.marks }
  | .close => w.close
  | .all => .ok w.all
  | .key name => w.key name
  | .keys names => w.inBracket .keysInFilter fun w => .ok (w.toMembers names)
  | .number d => .ok (w.push (.number (.float d)))
  | .boundless => .error .boundless
  | .truth b => .ok (w.push (.truth b))
  | .range start stop size => w.inBracket .rangeInFilter (toRange start stop size)
  | .union is => w.inBracket .unionInFilter fun w => .ok (w.goto (atPositions is w.current))
  | .relate r => w.relate r

end Walk

end Assay.Selector

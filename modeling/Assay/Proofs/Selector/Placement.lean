/- digest: A walk through a part of a document takes the same course wherever the part lies:
   addresses are told apart and nothing else is done with them. -/

import Assay.Proofs.Selector.Course

set_option autoImplicit false
set_option relaxedAutoImplicit false

namespace Assay.Selector

/-- A node of a part, in the document that has the part at an address. -/
private def Node.under (base : List Nat) (n : Node) : Node := ⟨n.address ++ base, n.value⟩

namespace Node

variable (base : List Nat)

@[simp] theorem under_value (n : Node) : (n.under base).value = n.value := rfl

@[simp] theorem under_address (n : Node) : (n.under base).address = n.address ++ base := rfl

private theorem number_append (address : List Nat) (start : Nat) (vs : List Json) :
    number (address ++ base) start vs = (number address start vs).map (under base) := by
  induction vs generalizing start with
  | nil => rfl
  | cons v vs ih => simp [number, under, ih]

@[simp] theorem children_under (n : Node) :
    (n.under base).children = n.children.map (under base) := by
  unfold children
  rw [under_value, under_address]
  split
  · exact number_append base _ _ _
  · exact number_append base _ _ _
  · rfl

@[simp] theorem member?_under (name : String) (n : Node) :
    (n.under base).member? name = (n.member? name).map (under base) := by
  unfold member?
  rw [under_value]
  split
  · simp [Function.comp_def, under]
  · rfl

@[simp] theorem hasMember_under (name : String) (n : Node) :
    (n.under base).hasMember name = n.hasMember name := by
  simp [hasMember]

@[simp] theorem item?_under (position : Nat) (n : Node) :
    (n.under base).item? position = (n.item? position).map (under base) := by
  unfold item?
  rw [under_value]
  split
  · simp [Function.comp_def, under]
  · rfl

/-- A choice of nodes that does not depend on where they lie. -/
private def Even (pick : Node → List Node) : Prop :=
  ∀ n, pick (n.under base) = (pick n).map (under base)

section Walk

variable {base} {pick : Node → List Node}

mutual

private theorem walk_append (h : Even base pick) (address : List Nat) :
    ∀ v, walk pick (address ++ base) v = (walk pick address v).map (under base)
  | .array items => by
    have top : pick ⟨address ++ base, .array items⟩ = _ := h ⟨address, .array items⟩
    simp only [walk, top, walkItems_append h address 0 items, List.map_append]
  | .object members => by
    have top : pick ⟨address ++ base, .object members⟩ = _ := h ⟨address, .object members⟩
    simp only [walk, top, walkMembers_append h address 0 members, List.map_append]
  | .null => h ⟨address, .null⟩
  | .bool b => h ⟨address, .bool b⟩
  | .number n => h ⟨address, .number n⟩
  | .string s => h ⟨address, .string s⟩

theorem walkItems_append (h : Even base pick) (address : List Nat) (i : Nat) :
    ∀ items, walkItems pick (address ++ base) i items =
      (walkItems pick address i items).map (under base)
  | [] => rfl
  | v :: rest => by
    have first := walk_append h (i :: address) v
    have others := walkItems_append h address (i + 1) rest
    rw [List.cons_append] at first
    simp only [walkItems, first, others, List.map_append]

theorem walkMembers_append (h : Even base pick) (address : List Nat) (i : Nat) :
    ∀ members, walkMembers pick (address ++ base) i members =
      (walkMembers pick address i members).map (under base)
  | [] => rfl
  | (_, v) :: rest => by
    have first := walk_append h (i :: address) v
    have others := walkMembers_append h address (i + 1) rest
    rw [List.cons_append] at first
    simp only [walkMembers, first, others, List.map_append]

end

private theorem everywhere_under (h : Even base pick) (nodes : List Node) :
    everywhere pick (nodes.map (under base)) = (everywhere pick nodes).map (under base) := by
  simp only [everywhere, List.flatMap_map, List.map_flatMap, under_value, under_address,
    walk_append h]

end Walk

private theorem even_children : Even base children := children_under base

private theorem even_member (name : String) : Even base fun n => (n.member? name).toList := by
  intro n
  simp only [member?_under, Option.toList_map]

private theorem even_item (position : Nat) : Even base fun n => (n.item? position).toList := by
  intro n
  simp only [item?_under, Option.toList_map]

private theorem even_owner (name : String) :
    Even base fun n => if n.hasMember name then [n] else [] := by
  intro n
  simp only [hasMember_under]
  split <;> rfl

mutual

private theorem holders_append (name : String) (address : List Nat) :
    ∀ v, holders name (address ++ base) v = (holders name address v).map (under base)
  | .object members => by
    unfold holders
    split <;> rfl
  | .array items => itemHolders_append name address 0 items
  | .null => rfl
  | .bool _ => rfl
  | .number _ => rfl
  | .string _ => rfl

theorem itemHolders_append (name : String) (address : List Nat) (i : Nat) :
    ∀ items, itemHolders name (address ++ base) i items =
      (itemHolders name address i items).map (under base)
  | [] => rfl
  | v :: rest => by
    have first := holders_append name (i :: address) v
    have others := itemHolders_append name address (i + 1) rest
    rw [List.cons_append] at first
    simp only [itemHolders, first, others, List.map_append]

end

private theorem foldl_keep_under (alike : Node → Node → Bool)
    (h : ∀ m n, alike (m.under base) (n.under base) = alike m n) (nodes seen : List Node) :
    (nodes.map (under base)).foldl (fun seen n => if seen.any (alike · n) then seen else n :: seen)
        (seen.map (under base)) =
      (nodes.foldl (fun seen n => if seen.any (alike · n) then seen else n :: seen) seen).map
        (under base) := by
  induction nodes generalizing seen with
  | nil => rfl
  | cons n nodes ih =>
    simp only [List.map_cons, List.foldl_cons, List.any_map, Function.comp_def, h]
    split
    · exact ih seen
    · exact ih (n :: seen)

private theorem distinct_under (nodes : List Node) :
    distinct (nodes.map (under base)) = (distinct nodes).map (under base) := by
  have kept := foldl_keep_under base (fun m n => m.address == n.address)
    (fun m n => by rw [Bool.eq_iff_iff]; simp) nodes []
  simp only [distinct, List.map_reverse]
  exact congrArg List.reverse kept

private theorem unlike_under (nodes : List Node) :
    unlike (nodes.map (under base)) = (unlike nodes).map (under base) := by
  have kept := foldl_keep_under base (fun m n => m.value.same n.value)
    (fun m n => rfl) nodes []
  simp only [unlike, List.map_reverse]
  exact congrArg List.reverse kept

private theorem holdersAmong_under (name : String) (nodes : List Node) :
    holdersAmong name (nodes.map (under base)) = (holdersAmong name nodes).map (under base) := by
  rw [holdersAmong, holdersAmong, ← distinct_under]
  simp only [List.flatMap_map, List.map_flatMap, under_value, under_address, holders_append]

end Node

private def Term.under (base : List Nat) : Term → Term
  | .nodes candidates narrowing found =>
    .nodes (candidates.map (·.map (Node.under base))) narrowing (found.map (Node.under base))
  | t => t

section Relation

variable (base : List Nat)

private theorem filter_under {test : Node → Bool} (h : ∀ n, test (n.under base) = test n)
    (nodes : List Node) :
    (nodes.map (Node.under base)).filter test = (nodes.filter test).map (Node.under base) := by
  rw [List.filter_map]
  congr 2
  exact funext h

private theorem ownersOf_under (results candidates : List Node) :
    ownersOf (results.map (Node.under base)) (candidates.map (Node.under base)) =
      (ownersOf results candidates).map (Node.under base) := by
  simp only [ownersOf, List.flatMap_map, List.map_flatMap]
  congr 1
  funext c
  rw [Node.under_value]
  split
  · simp only [List.map_flatMap, List.filterMap_map, List.map_filterMap, Function.comp_def,
      Node.under_value, Option.map_if]
    rfl
  · rfl

namespace Relation

variable (r : Relation)

private theorem lists_under (left right : List Node) :
    r.lists (left.map (Node.under base)) (right.map (Node.under base)) =
      (r.lists left right).map (Node.under base) := by
  cases r <;> simp only [lists, ← List.map_append, Node.unlike_under, List.any_map,
    Function.comp_def, Node.under_value, List.map_nil]
  all_goals exact filter_under base (fun n => rfl) _

private theorem narrow_under (narrowing : Option Narrowing) (found : List Node) (other : Term)
    (candidates : Option (List Node)) :
    r.narrow narrowing (found.map (Node.under base)) (other.under base)
        (candidates.map (·.map (Node.under base))) =
      (r.narrow narrowing found other candidates).map (Node.under base) := by
  cases other with
  | text s => exact filter_under base (fun n => rfl) _
  | number m => exact filter_under base (fun n => rfl) _
  | truth b => exact filter_under base (fun n => rfl) _
  | nodes others _ more =>
    simp only [narrow, Term.under, Option.getD_map]
    exact lists_under base r _ _

private theorem applyNodes_under (candidates : Option (List Node)) (narrowing : Option Narrowing)
    (found : List Node) (other : Term) :
    r.applyNodes (candidates.map (·.map (Node.under base))) narrowing
        (found.map (Node.under base)) (other.under base) =
      (r.applyNodes candidates narrowing found other).under base := by
  unfold applyNodes
  rw [narrow_under]
  generalize r.narrow narrowing found other candidates = result
  cases result with
  | nil => rfl
  | cons n result =>
    cases candidates with
    | none => rfl
    | some cs =>
      have owners := ownersOf_under base (n :: result) cs
      cases other with
      | nodes _ _ _ => rfl
      | _ => 
        simp only [Term.under, Option.map_some, List.map_cons] at owners ⊢
        rw [owners]

private theorem apply_under (left right : Term) :
    r.apply (left.under base) (right.under base) = (r.apply left right).under base := by
  cases left with
  | nodes cs narrowing found => exact applyNodes_under base r cs narrowing found right
  | _ =>
    cases right with
    | nodes cs narrowing found => exact applyNodes_under base r.flip cs narrowing found _
    | _ => rfl

end Relation

end Relation

def Walk.under (base : List Nat) (w : Walk) : Walk :=
  ⟨w.current.map (Node.under base), w.marks, w.terms.map (·.map (Term.under base))⟩

namespace Walk

variable (base : List Nat) (w : Walk)

@[simp] theorem under_current : (w.under base).current = w.current.map (Node.under base) := rfl

@[simp] theorem under_marks : (w.under base).marks = w.marks := rfl

@[simp] theorem under_terms : (w.under base).terms = w.terms.map (·.map (Term.under base)) := rfl

private theorem under_start (nodes : List Node) :
    (start nodes).under base = start (nodes.map (Node.under base)) := rfl

private theorem goto_under (nodes : List Node) :
    (w.under base).goto (nodes.map (Node.under base)) = (w.goto nodes).under base := rfl

private theorem arrive_under (nodes : List Node) :
    (w.under base).arrive (nodes.map (Node.under base)) = (w.arrive nodes).under base := by
  cases nodes with
  | nil => simp [arrive, under]
  | cons n nodes => rfl

theorem dropMark_under : (w.under base).dropMark = w.dropMark.under base := rfl

private theorem dropTerm_under : (w.under base).dropTerm = w.dropTerm.under base := by
  simp [dropTerm, under]

private theorem membersOf_under (names : List String) (nodes : List Node) :
    membersOf names (nodes.map (Node.under base)) =
      (membersOf names nodes).map (Node.under base) := by
  simp only [membersOf, List.flatMap_map, List.map_flatMap, List.map_filterMap, Node.member?_under]

private theorem toMembers_under (names : List String) :
    (w.under base).toMembers names = (w.toMembers names).under base := by
  rw [toMembers, under_current, membersOf_under, arrive_under, toMembers]

private theorem descendTo_under (name : String) :
    (w.under base).descendTo name = (w.descendTo name).under base := by
  rw [descendTo, under_current, Node.everywhere_under (Node.even_member base name), arrive_under,
    descendTo]

private theorem narrowingBase_under (narrowing : Option Narrowing) (found : List Node) :
    narrowingBase narrowing (found.map (Node.under base)) =
      (narrowingBase narrowing found).map (Node.under base) := by
  unfold narrowingBase
  split
  · exact membersOf_under base _ _
  · rfl

private theorem kept_under (narrowed found : List Node) (name : String) :
    (found.map (Node.under base)).zipIdx.filterMap (fun (n, i) =>
        if (narrowed.map (Node.under base))[i]?.all (·.hasMember name) then some n else none) =
      (found.zipIdx.filterMap fun (n, i) =>
        if narrowed[i]?.all (·.hasMember name) then some n else none).map (Node.under base) := by
  simp only [List.zipIdx_map, List.filterMap_map, List.map_filterMap, Function.comp_def, Prod.map,
    List.getElem?_map, Option.all_map, Node.hasMember_under, Option.map_if, id_eq]

private theorem narrowByName_under (candidates : Option (List Node)) (narrowing : Option Narrowing)
    (found : List Node) (name : String) :
    narrowByName (candidates.map (·.map (Node.under base))) narrowing
        (found.map (Node.under base)) name =
      (narrowByName candidates narrowing found name).under base := by
  simp only [narrowByName, narrowingBase_under, kept_under, Node.holdersAmong_under, Term.under,
    Option.getD_map, Option.map_some]

private theorem narrowAnywhere_under (candidates : Option (List Node))
    (narrowing : Option Narrowing)
    (found : List Node) (name : String) :
    narrowAnywhere (candidates.map (·.map (Node.under base))) narrowing
        (found.map (Node.under base)) name =
      (narrowAnywhere candidates narrowing found name).under base := by
  simp only [narrowAnywhere, narrowingBase_under, Node.everywhere_under (Node.even_owner base name),
    Term.under, Option.getD_map, Option.map_some]

private theorem filterChild_under (name : String) :
    (w.under base).filterChild name = (w.filterChild name).map (·.under base) := by
  obtain ⟨current, marks, terms⟩ := w
  cases terms with
  | nil => rfl
  | cons t rest =>
    cases t with
    | none =>
      simp only [filterChild, under_terms, under_current, List.map_cons, Option.map_none,
        Node.holdersAmong_under]
      rfl
    | some t =>
      cases t with
      | nodes cs narrowing found =>
        have narrowed := narrowByName_under base cs narrowing found name
        simp only [filterChild, under_terms, List.map_cons, Option.map_some, Term.under, narrowed]
        rfl
      | _ => rfl

private theorem filterDescend_under (name : String) :
    (w.under base).filterDescend name = (w.filterDescend name).map (·.under base) := by
  obtain ⟨current, marks, terms⟩ := w
  cases terms with
  | nil => rfl
  | cons t rest =>
    cases t with
    | none =>
      simp only [filterDescend, under_terms, under_current, List.map_cons, Option.map_none,
        Node.everywhere_under (Node.even_owner base name)]
      rfl
    | some t =>
      cases t with
      | nodes cs narrowing found =>
        have narrowed := narrowAnywhere_under base cs narrowing found name
        simp only [filterDescend, under_terms, List.map_cons, Option.map_some, Term.under, narrowed]
        rfl
      | _ => rfl

private theorem key_under (name : String) :
    (w.under base).key name = (w.key name).map (·.under base) := by
  unfold key
  simp only [under_marks, under_terms, List.isEmpty_map, dropMark_under]
  split
  · rfl
  · rfl
  · split
    · split
      · simp only [descendTo_under, Except.map]
      · simp only [toMembers_under, Except.map]
    · split
      · exact filterDescend_under base _ name
      · exact filterChild_under base _ name

private theorem everywhere_children_under (nodes : List Node) :
    Node.everywhere Node.children (nodes.map (Node.under base)) =
      (Node.everywhere Node.children nodes).map (Node.under base) :=
  Node.everywhere_under (Node.even_children base) nodes

private theorem flatMap_children_under (nodes : List Node) :
    (nodes.map (Node.under base)).flatMap Node.children =
      (nodes.flatMap Node.children).map (Node.under base) := by
  simp only [List.flatMap_map, List.map_flatMap, Node.children_under]

private theorem all_under : (w.under base).all = w.all.under base := by
  have top : (if (w.under base).marks.head? = some .bracket then (w.under base).dropMark
      else w.under base) =
      (if w.marks.head? = some .bracket then w.dropMark else w).under base := by
    rw [under_marks]
    split <;> rfl
  unfold all
  rw [top]
  generalize (if w.marks.head? = some .bracket then w.dropMark else w) = v
  simp only [under_marks, under_current, everywhere_children_under, flatMap_children_under]
  split <;> rfl

/-- The item at a position, if the node is an array. -/
def itemAt (position : Int) (n : Node) : Option Node :=
  match n.value with
  | .array items => n.item? (Node.absolute position items.length)
  | _ => none

theorem itemsAt_eq (position : Int) (nodes : List Node) :
    itemsAt position nodes = nodes.flatMap fun n =>
      match n.value with
      | .object _ => n.children.filterMap (itemAt position)
      | _ => (itemAt position n).toList := rfl

private theorem itemAt_under (position : Int) (n : Node) :
    itemAt position (n.under base) = (itemAt position n).map (Node.under base) := by
  unfold itemAt
  rw [Node.under_value]
  split
  · exact Node.item?_under base _ n
  · rfl

private theorem itemsAt_under (position : Int) (nodes : List Node) :
    itemsAt position (nodes.map (Node.under base)) =
      (itemsAt position nodes).map (Node.under base) := by
  simp only [itemsAt_eq, List.flatMap_map, List.map_flatMap]
  congr 1
  funext n
  rw [Node.under_value]
  split
  · simp only [Node.children_under, List.filterMap_map, List.map_filterMap, Function.comp_def,
      itemAt_under]
  · rw [itemAt_under, Option.toList_map]

private theorem finish_under : (w.under base).finish = w.finish.under base := by
  obtain ⟨current, marks, terms⟩ := w
  cases terms with
  | nil => rfl
  | cons t rest =>
    cases t with
    | none => rfl
    | some t =>
      cases t with
      | text k =>
        exact congrArg dropMark (toMembers_under base ⟨current, marks, rest⟩ [k])
      | number n =>
        have arrived := arrive_under base ⟨current, marks, rest⟩ (itemsAt (positionOf n) current)
        rw [← itemsAt_under] at arrived
        exact congrArg dropMark arrived
      | truth b => cases b <;> rfl
      | nodes cs narrowing found =>
        simp only [finish, under_terms, List.map_cons, Option.map_some, Term.under,
          List.isEmpty_map, Option.getD_map]
        split <;> rfl

private theorem close_under : (w.under base).close = w.close.map (·.under base) := by
  obtain ⟨current, marks, terms⟩ := w
  -- A bracket ends in its own way only inside another one or after a descent.
  have finished (v : Walk) :
      (Except.ok (v.under base).finish : Except Refusal Walk) = .ok (v.finish.under base) := by
    rw [finish_under]
  match marks with
  | [] | [_] | _ :: .child :: _ => exact finished _
  | m :: .bracket :: marks =>
    match terms with
    | some (.text k) :: rest =>
      have child := filterChild_under base ⟨current, m :: .bracket :: marks, rest⟩ k
      have closed : (Walk.under base ⟨current, m :: .bracket :: marks, some (.text k) :: rest⟩).close =
          ((Walk.under base ⟨current, m :: .bracket :: marks, rest⟩).filterChild k).map dropMark := rfl
      rw [closed, child]
      simp only [close]
      generalize Walk.filterChild k _ = r
      cases r <;> rfl
    | none :: rest => exact finished ⟨current, m :: .bracket :: marks, rest⟩
    | [] | some (.number _) :: _ | some (.truth _) :: _ | some (.nodes _ _ _) :: _ =>
      exact finished _
  | m :: .descend :: marks =>
    match terms with
    | some (.number n) :: rest =>
      have items := Node.everywhere_under (Node.even_item base (positionOf n).toNat) current
      have arrived := arrive_under base ⟨current, marks, rest⟩
        (Node.everywhere (fun v => (v.item? (positionOf n).toNat).toList) current)
      rw [← items] at arrived
      exact congrArg Except.ok ((congrArg dropTerm arrived).trans (dropTerm_under base _))
    | some (.text k) :: rest =>
      have found := descendTo_under base ⟨current, marks, rest⟩ k
      exact congrArg Except.ok ((congrArg dropTerm found).trans (dropTerm_under base _))
    | none :: rest => exact finished ⟨current, marks, rest⟩
    | [] => exact finished ⟨current, marks, []⟩
    | some (.truth b) :: rest => exact finished ⟨current, marks, some (.truth b) :: rest⟩
    | some (.nodes cs narrowing found) :: rest =>
      exact finished ⟨current, marks, some (.nodes cs narrowing found) :: rest⟩

private theorem inRange_under (start stop : Option Int) (step : Nat) (nodes : List Node) :
    inRange start stop step (nodes.map (Node.under base)) =
      (inRange start stop step nodes).map (Node.under base) := by
  simp only [inRange, List.flatMap_map, List.map_flatMap]
  congr 1
  funext n
  rw [Node.under_value]
  split
  · simp only [List.map_filterMap, Node.item?_under]
  · rfl

private theorem atPositions_under (positions : List Int) (nodes : List Node) :
    atPositions positions (nodes.map (Node.under base)) =
      (atPositions positions nodes).map (Node.under base) := by
  simp only [atPositions, List.flatMap_map, List.map_flatMap]
  congr 1
  funext n
  rw [Node.under_value]
  split
  · simp only [List.map_filterMap, Node.item?_under]
  · rfl

private theorem inBracket_under {refusal : Refusal} (go : Walk → Except Refusal Walk)
    (h : ∀ w : Walk, go (w.under base) = (go w).map (·.under base)) :
    (w.under base).inBracket refusal go = (w.inBracket refusal go).map (·.under base) := by
  unfold inBracket
  simp only [under_marks, under_terms, List.isEmpty_map]
  split
  · rfl
  · split
    · exact h w.dropMark
    · rfl

private theorem toRange_under (start stop : Option Int) (step : Option Nat) :
    toRange start stop step (w.under base) = (toRange start stop step w).map (·.under base) := by
  unfold toRange
  simp only [under_current, List.any_map, Function.comp_def, Node.under_value, inRange_under]
  split <;> rfl

private theorem here_under : (w.under base).here = w.here.under base := by
  unfold here
  simp only [under_marks, under_current, everywhere_children_under]
  split <;> rfl

private theorem side_under (t : Option Term) :
    (w.under base).side (t.map (Term.under base)) = (w.side t).under base := by
  cases t <;> rfl

private theorem relate_under (r : Relation) :
    (w.under base).relate r = (w.relate r).map (·.under base) := by
  obtain ⟨current, marks, terms⟩ := w
  match terms with
  | [] => rfl
  | [_] => rfl
  | right :: left :: rest =>
    simp only [relate, under_terms, List.map_cons, side_under, Relation.apply_under]
    rfl

private theorem step_under (m : Move) : (w.under base).step m = (w.step m).map (·.under base) := by
  cases m with
  | close => exact close_under base w
  | key name => exact key_under base w name
  | relate r => exact relate_under base w r
  | here => exact congrArg _ (here_under base w)
  | all => exact congrArg _ (all_under base w)
  | keys names =>
    refine inBracket_under base w (fun v => .ok (v.toMembers names)) fun v => ?_
    exact congrArg Except.ok (toMembers_under base v names)
  | range start stop size => exact inBracket_under base w _ fun v => toRange_under base v start stop size
  | union is =>
    refine inBracket_under base w (fun v => .ok (v.goto (atPositions is v.current))) fun v => ?_
    rw [under_current, atPositions_under, goto_under]
    rfl
  | _ => rfl

theorem run_under (route : List Move) :
    (w.under base).run route = (w.run route).map (·.under base) := by
  induction route generalizing w with
  | nil => rfl
  | cons m route ih =>
    rw [run_cons, run_cons, step_under]
    cases w.step m with
    | error e => rfl
    | ok v => exact ih v

theorem run_of_nothing {route : List Move} {v : Walk} (h : (start []).run route = .ok v) :
    v.current = [] := by
  -- The walk is the same when all addresses are made longer, so it cannot have any.
  have moved := run_under [0] (start []) route
  rw [under_start, List.map_nil, h] at moved
  have same : v = v.under [0] := Except.ok.inj moved
  have nodes : v.current = v.current.map (Node.under [0]) := congrArg Walk.current same
  cases hv : v.current with
  | nil => rfl
  | cons n rest =>
    rw [hv] at nodes
    have longer : n.address = n.address ++ [0] := congrArg Node.address (List.cons.inj nodes).1
    simp at longer

end Walk

theorem outcome_under (base : List Nat) (r : Except Refusal Walk) :
    outcome (r.map (·.under base)) = outcome r := by
  cases r with
  | error e => rfl
  | ok w =>
    simp only [outcome, Except.map, Walk.under_current, List.map_map]
    rfl

end Assay.Selector

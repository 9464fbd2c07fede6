/- digest: A query that begins with the name of a root finds in the tree of that root what its
   expression selects in the whole namespace, as long as the expression names the root sign once. -/

import Assay.Context.Query
import Assay.Proofs.Context
import Assay.Proofs.Selector.Placement
import Assay.Proofs.Selector.Reading
import Assay.Proofs.Selector.Word

set_option autoImplicit false
set_option relaxedAutoImplicit false

namespace Assay.Context

open Selector (Lexeme Move Node Walk)

private theorem splitRoot?_eq_some {expression root tail : String}
    (h : splitRoot? expression = some (root, tail)) :
    expression.toList = '$' :: '.' :: (root.toList ++ tail.toList) ∧ root.toList ≠ [] ∧
      ∀ c ∈ root.toList, Text.isNameChar c = true := by
  unfold splitRoot? at h
  split at h
  · rename_i body hbody
    split at h
    · cases h
    · rename_i hname
      cases h
      rw [String.toList_ofList, String.toList_ofList, List.takeWhile_append_dropWhile]
      exact ⟨hbody, hname, fun c hc => List.all_eq_true.mp List.all_takeWhile c hc⟩
  · cases h

variable {expression root tail : String}

private theorem ofText_whole (h : splitRoot? expression = some (root, tail))
    (ends : Lexeme.EndsName tail.toList) :
    Lexeme.ofText expression.toList =
      .root :: .dot :: .name root :: Lexeme.ofText tail.toList := by
  obtain ⟨hchars, hne, hname⟩ := splitRoot?_eq_some h
  have dot : Lexeme.EndsName ('.' :: (root.toList ++ tail.toList)) := rfl
  rw [hchars, Lexeme.ofText_root dot, Lexeme.ofText_member hne hname ends, String.ofList_toList]

theorem ofText_below (ends : Lexeme.EndsName tail.toList) :
    Lexeme.ofText ("$" ++ tail).toList = .root :: Lexeme.ofText tail.toList := by
  rw [String.toList_append]
  exact Lexeme.ofText_root ends

/-- An expression whose first name ends where a plain name does, and which comes back to the root
nowhere, such as in a filter. -/
structure Rooted (expression : String) : Prop where
  parted : ∀ root tail, splitRoot? expression = some (root, tail) → Lexeme.EndsName tail.toList
  once : ∀ route, Move.ofText expression = .ok route → Move.root ∉ route.tail

private theorem get?_snapshot (c : Context) (name : String) :
    Members.get? name ((envRoot, c.env) :: c.roots) = c.root? name := by
  simp only [Members.get?, root?, eq_comm]

private theorem outcome_snapshot {c : Context} (hc : c.WellFormed) (root : String)
    (moves : List Move) :
    Selector.outcome ((Walk.start [.whole c.snapshot]).run (.child :: .key root :: moves)) =
      Selector.outcome ((Walk.start ((c.root? root).map Node.whole).toList).run moves) := by
  have member := Node.member?_whole root ((envRoot, c.env) :: c.roots)
  rw [get?_snapshot] at member
  rw [Walk.run_key, hc.snapshot_eq, List.flatMap_singleton]
  cases hroot : c.root? root with
  | none =>
    rw [hroot] at member
    rw [show Node.member? root _ = none from member]
    rfl
  | some tree =>
    rw [hroot] at member
    obtain ⟨i, hi⟩ := member
    have placed : Walk.start [⟨[i], tree⟩] = (Walk.start [.whole tree]).under [i] := rfl
    rw [hi, Option.toList_some, placed, Walk.run_under, Selector.outcome_under]
    rfl

private theorem route_cases (h : Rooted expression)
    (hsplit : splitRoot? expression = some (root, tail)) :
    (∃ moves, .root ∉ moves ∧
      Move.ofText expression = .ok (.root :: .child :: .key root :: moves) ∧
      Move.ofText ("$" ++ tail) = .ok (.root :: moves)) ∨
    ∃ place place', Move.ofText expression = .error place ∧
      Move.ofText ("$" ++ tail) = .error place' := by
  have ends := h.parted root tail hsplit
  have whole := ofText_whole hsplit ends
  have below := ofText_below ends
  have named := Move.steps_name root (Lexeme.ofText tail.toList)
  cases hsteps : Move.steps (Lexeme.ofText tail.toList) with
  | error left =>
    rw [hsteps] at named
    obtain ⟨place, hwhole⟩ := Move.ofText_of_steps_error whole named
    obtain ⟨place', hbelow⟩ := Move.ofText_of_steps_error below hsteps
    exact .inr ⟨place, place', hwhole, hbelow⟩
  | ok r =>
    obtain ⟨moves, rest⟩ := r
    rw [hsteps] at named
    have hwhole := Move.ofText_of_steps_ok whole named
    have once := h.once _ hwhole
    exact .inl ⟨moves, fun inside => once (by simp [inside]), hwhole,
      Move.ofText_of_steps_ok below hsteps⟩

private theorem select_snapshot_of_root {c : Context} (hc : c.WellFormed) (h : Rooted expression)
    (hsplit : splitRoot? expression = some (root, tail)) {tree : Json}
    (hroot : c.root? root = some tree) :
    (Selector.select c.snapshot expression).toOption =
      (Selector.select tree ("$" ++ tail)).toOption := by
  rcases route_cases h hsplit with ⟨moves, once, whole, below⟩ | ⟨place, place', whole, below⟩
  · rw [Selector.select_of_route whole (by simpa using once), Selector.select_of_route below once,
      outcome_snapshot hc, hroot]
    rfl
  · rw [Selector.select_of_malformed whole, Selector.select_of_malformed below]
    rfl

private theorem select_snapshot_of_no_root {c : Context} (hc : c.WellFormed) (h : Rooted expression)
    (hsplit : splitRoot? expression = some (root, tail)) (hroot : c.root? root = none)
    {found : List Json} (hfound : Selector.select c.snapshot expression = .ok found) : found = [] := by
  rcases route_cases h hsplit with ⟨moves, once, whole, -⟩ | ⟨place, -, whole, -⟩
  · rw [Selector.select_of_route whole (by simpa using once), outcome_snapshot hc, hroot] at hfound
    change Selector.outcome ((Walk.start []).run moves) = .ok found at hfound
    cases hrun : (Walk.start []).run moves with
    | error why =>
      rw [hrun] at hfound
      cases hfound
    | ok w =>
      rw [hrun] at hfound
      cases hfound
      rw [Walk.run_of_nothing hrun]
      rfl
  · rw [Selector.select_of_malformed whole] at hfound
    cases hfound

variable {c : Context} {text : String}

theorem query_of_root (hsign : Text.startsWith (Text.trim text) "$" = true)
    (hsplit : splitRoot? (Text.trim text) = some (root, tail)) {tree : Json}
    (hroot : c.root? root = some tree) :
    c.query text = (Selector.select tree ("$" ++ tail)).mapError (.selection (Text.trim text)) := by
  simp only [query, hsign, hsplit, hroot]
  rfl

theorem query_of_no_root (hsign : Text.startsWith (Text.trim text) "$" = true)
    (hsplit : splitRoot? (Text.trim text) = some (root, tail)) (hroot : c.root? root = none) :
    c.query text = .ok [] := by
  simp only [query, hsign, hsplit, hroot]
  rfl

private theorem query_of_no_split (hsign : Text.startsWith (Text.trim text) "$" = true)
    (hsplit : splitRoot? (Text.trim text) = none) :
    c.query text =
      (Selector.select c.snapshot (Text.trim text)).mapError (.selection (Text.trim text)) := by
  simp only [query, hsign, hsplit]
  rfl

private theorem ok_of_toOption_eq {ε ε' α : Type} {x : Except ε α} {y : Except ε' α} {a : α}
    (h : x.toOption = y.toOption) (hx : x = .ok a) : y = .ok a := by
  subst hx
  cases y with
  | error e => cases h
  | ok b =>
    cases h
    rfl

private theorem error_of_toOption_eq {ε ε' α : Type} {x : Except ε α} {y : Except ε' α} {e : ε}
    (h : x.toOption = y.toOption) (hx : x = .error e) : ∃ e', y = .error e' := by
  subst hx
  cases y with
  | error e' => exact ⟨e', rfl⟩
  | ok b => cases h

/-- Whatever a rooted expression selects in the whole namespace is the answer to its query. Where it
selects nothing for an error, the query is an error too, unless the expression names a root that is
not there: the rest of it is then not looked at. -/
theorem query_eq_select_snapshot (hc : c.WellFormed)
    (hsign : Text.startsWith (Text.trim text) "$" = true) (h : Rooted (Text.trim text)) :
    (∀ found, Selector.select c.snapshot (Text.trim text) = .ok found → c.query text = .ok found) ∧
      ∀ why, Selector.select c.snapshot (Text.trim text) = .error why →
        (∃ e, c.query text = .error e) ∨
          (c.query text = .ok [] ∧
            ∃ root tail, splitRoot? (Text.trim text) = some (root, tail) ∧ c.root? root = none) := by
  cases hsplit : splitRoot? (Text.trim text) with
  | none =>
    have whole := query_of_no_split (c := c) hsign hsplit
    constructor
    · intro found hfound
      rw [whole, hfound]
      rfl
    · intro why hwhy
      rw [whole, hwhy]
      exact .inl ⟨_, rfl⟩
  | some split =>
    obtain ⟨root, tail⟩ := split
    cases hroot : c.root? root with
    | none =>
      have nothing := query_of_no_root hsign hsplit hroot
      constructor
      · intro found hfound
        rw [nothing, select_snapshot_of_no_root hc h hsplit hroot hfound]
      · exact fun _ _ => .inr ⟨nothing, root, tail, rfl, hroot⟩
    | some tree =>
      have below := query_of_root hsign hsplit hroot
      have same := select_snapshot_of_root hc h hsplit hroot
      constructor
      · intro found hfound
        rw [below, ok_of_toOption_eq same hfound]
        rfl
      · intro why hwhy
        obtain ⟨why', hwhy'⟩ := error_of_toOption_eq same hwhy
        rw [below, hwhy']
        exact .inl ⟨_, rfl⟩

/-- Items to choose from, and the name of one of them. -/
def stock : Json :=
  .object [("want", .string "b"),
    ("items", .array [.object [("id", .string "a")], .object [("id", .string "b")]])]

def shop : Context := empty.putRoot ctxRoot stock

private theorem wellFormed_shop : shop.WellFormed :=
  (wellFormed_withEnv _).putRoot (.inl ctxRoot_ne_envRoot) _

/-- The first item that is asked for by its own name is found in both ways. -/
theorem shop_query_eq_select_snapshot :
    shop.query " $.ctx.items[?(@.id == 'b')].id" = .ok [.string "b"] := by
  have trimmed : Text.trim " $.ctx.items[?(@.id == 'b')].id" = "$.ctx.items[?(@.id == 'b')].id" := by
    decide +kernel
  have route : Move.ofText "$.ctx.items[?(@.id == 'b')].id" = .ok [.root, .child, .key "ctx", .child,
      .key "items", .bracket, .here, .child, .key "id", .key "b", .relate .equal, .close, .child,
      .key "id"] := by
    decide +kernel
  have split : splitRoot? "$.ctx.items[?(@.id == 'b')].id" =
      some ("ctx", ".items[?(@.id == 'b')].id") := by
    decide +kernel
  have rooted : Rooted "$.ctx.items[?(@.id == 'b')].id" := by
    constructor
    · intro root tail hsplit
      rw [split] at hsplit
      cases hsplit
      decide +kernel
    · intro moves hmoves
      rw [route] at hmoves
      cases hmoves
      decide
  have selected : Selector.select shop.snapshot "$.ctx.items[?(@.id == 'b')].id" =
      .ok [.string "b"] := by
    rw [Selector.select, route]
    rfl
  rw [← trimmed] at rooted selected
  exact (query_eq_select_snapshot wellFormed_shop (by decide +kernel) rooted).1 _ selected

/-- In a filter that goes back to the root, a query looks for the whole namespace in the tree of the
root alone, so it does not find the item that the namespace selects. -/
theorem query_absolute_filter :
    shop.query "$.ctx.items[?(@.id == $.ctx.want)]" = .ok [] ∧
      Selector.select shop.snapshot "$.ctx.items[?(@.id == $.ctx.want)]" =
        .ok [.object [("id", .string "b")]] := by
  have split : splitRoot? (Text.trim "$.ctx.items[?(@.id == $.ctx.want)]") =
      some ("ctx", ".items[?(@.id == $.ctx.want)]") := by
    decide +kernel
  have whole : Move.ofText "$.ctx.items[?(@.id == $.ctx.want)]" = .ok [.root, .child, .key "ctx",
      .child, .key "items", .bracket, .here, .child, .key "id", .root, .child, .key "ctx", .child,
      .key "want", .relate .equal, .close] := by
    decide +kernel
  have below : Move.ofText ("$" ++ ".items[?(@.id == $.ctx.want)]") = .ok [.root, .child,
      .key "items", .bracket, .here, .child, .key "id", .root, .child, .key "ctx", .child,
      .key "want", .relate .equal, .close] := by
    decide +kernel
  constructor
  · have found : shop.root? "ctx" = some stock := root?_putRoot_self ctxRoot_ne_envRoot
    rw [query_of_root (by decide +kernel) split found, Selector.select, below]
    rfl
  · rw [Selector.select, whole]
    rfl

end Assay.Context

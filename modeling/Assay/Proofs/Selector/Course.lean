/- digest: The course of a walk along a route that comes back to the root nowhere: no other walk is
   under way beside it, and what an expression selects is what the walk comes to. -/

import Assay.Selector.Cursor

set_option autoImplicit false
set_option relaxedAutoImplicit false

namespace Assay.Selector

namespace Walk

def run (w : Walk) (route : List Move) : Except Refusal Walk := route.foldlM step w

theorem run_cons (w : Walk) (m : Move) (route : List Move) :
    w.run (m :: route) = (w.step m).bind (·.run route) := rfl

end Walk

namespace Cursor

private theorem step_main {m : Move} (h : m ≠ .root) (document : Json) (w : Walk) :
    step ⟨document, some w, none⟩ m = (w.step m).map fun v => ⟨document, some v, none⟩ := by
  cases m with
  | root => exact absurd rfl h
  | _ => rfl

private theorem follow_main {route : List Move} (h : .root ∉ route) (document : Json) (w : Walk) :
    follow ⟨document, some w, none⟩ route =
      (w.run route).map fun v => ⟨document, some v, none⟩ := by
  induction route generalizing w with
  | nil => rfl
  | cons m route ih =>
    obtain ⟨hm, hroute⟩ : .root ≠ m ∧ .root ∉ route := by simpa using h
    rw [follow, List.foldlM_cons, step_main hm.symm, Walk.run_cons]
    cases w.step m with
    | error e => rfl
    | ok v => exact ih hroute v

end Cursor

def outcome (r : Except Refusal Walk) : Except SelectError (List Json) :=
  match r with
  | .ok w => .ok (w.current.map (·.value))
  | .error why => .error (.refused why)

/-- An expression selects what a single walk from the root comes to, if it names the root once. -/
theorem select_of_route {expression : String} {moves : List Move}
    (h : Move.ofText expression = .ok (.root :: moves)) (hroot : .root ∉ moves) (document : Json) :
    select document expression = outcome ((Walk.start [.whole document]).run moves) := by
  have first : (Cursor.ofDocument document).follow (.root :: moves) =
      Cursor.follow ⟨document, some (.start [.whole document]), none⟩ moves := rfl
  simp only [select, h, first, Cursor.follow_main hroot]
  cases (Walk.start [.whole document]).run moves with
  | error e => rfl
  | ok w => rfl

theorem select_of_malformed {expression : String} {place : Nat}
    (h : Move.ofText expression = .error place) (document : Json) :
    select document expression = .error (.malformed expression place) := by
  rw [select, h]

namespace Node

theorem findMember_map (name : String) (i : Nat) (members : List (String × Json)) :
    (findMember name i members).map (·.2) = Members.get? name members := by
  induction members generalizing i with
  | nil => rfl
  | cons kv members ih =>
    obtain ⟨k, v⟩ := kv
    simp only [findMember, Members.get?]
    split
    · rfl
    · exact ih (i + 1)

theorem member?_whole (name : String) (members : List (String × Json)) :
    match Members.get? name members with
    | some v => ∃ i, (whole (.object members)).member? name = some ⟨[i], v⟩
    | none => (whole (.object members)).member? name = none := by
  have found := findMember_map name 0 members
  have member : (whole (.object members)).member? name =
      (findMember name 0 members).map fun iv => ⟨[iv.1], iv.2⟩ := rfl
  rw [member, ← found]
  cases findMember name 0 members with
  | none => rfl
  | some iv => exact ⟨iv.1, rfl⟩

end Node

namespace Walk

private theorem arrive_start (old nodes : List Node) : (start old).arrive nodes = start nodes := by
  cases nodes <;> rfl

private theorem membersOf_one (name : String) (nodes : List Node) :
    membersOf [name] nodes = nodes.flatMap fun n => (n.member? name).toList := rfl

theorem run_key (nodes : List Node) (name : String) (route : List Move) :
    (start nodes).run (.child :: .key name :: route) =
      (start (nodes.flatMap fun n => (n.member? name).toList)).run route := by
  have moved : (start nodes).run (.child :: .key name :: route) =
      ((start nodes).arrive (membersOf [name] nodes)).run route := rfl
  rw [moved, arrive_start, membersOf_one]

theorem run_all (nodes : List Node) (route : List Move) :
    (start nodes).run (.bracket :: .all :: .close :: route) =
      (start (nodes.flatMap Node.children)).run route := rfl

end Walk

end Assay.Selector

/- digest: A removal undoes a write that added something: where an object lacks a name, or the next
   item goes behind the last one of an array, the write and the removal leave everything as it was.
   -/

import Assay.Proofs.Path.Removal

set_option autoImplicit false
set_option relaxedAutoImplicit false

namespace Assay

namespace Json

variable {p above : List Segment} {s : Segment} {part tree v : Json}

/-- A step goes to a name that an object lacks, or right behind the last item of an array. -/
def HasRoom : Segment → Json → Prop
  | .key name, .object members => Members.get? name members = none
  | .index position, .array items => position = items.length
  | _, _ => False

private theorem set_set_singleton (s : Segment) (u w tree : Json) : set u [s]
    (set w [s] tree) = set u [s] tree := by
  cases s with
  | key name => rw [set_key, set_key, set_key, membersOrNone, Members.put_put]
  | index position =>
    have inside : position < ((padTo (position + 1) (itemsOrNone tree)).set position w).length := by
      rw [List.length_set, length_padTo]
      omega
    rw [set_index, set_index, set_index, itemsOrNone, padTo_of_lt inside, List.set_set]

private theorem set_set (p : List Segment) (u w tree : Json) :
    set u p (set w p tree) = set u p tree := by
  induction p generalizing tree with
  | nil => rfl
  | cons s p ih =>
    by_cases hp : p = []
    · subst hp
      exact set_set_singleton s u w tree
    · have below (x : Json) : child? s (set x [s] tree) = some x := by
        rw [← get?_singleton, get?_set_self]
      rw [set_cons hp s w, set_cons hp s u, below, containerFor_of_get? hp (get?_set_self p w _), ih,
        set_set_singleton, ← set_cons hp]

private theorem child?_of_hasRoom (h : HasRoom s part) : child? s part = none := by
  cases s with
  | key name =>
    cases part with
    | object members => exact h
    | _ => rfl
  | index position =>
    cases part with
    | array items =>
      obtain rfl : position = items.length := h
      exact List.getElem?_eq_none (Nat.le_refl _)
    | _ => rfl

private theorem containerFor_of_hasRoom (h : HasRoom s part) (next : List Segment) :
    containerFor next (some part) = part := by
  cases part with
  | null => cases s <;> exact h.elim
  | _ => rfl

private theorem erase?_set_singleton (h : HasRoom s part) (v : Json) :
    erase? [s] (set v [s] part) = some (v, part) := by
  cases s with
  | key name =>
    cases part with
    | object members =>
      rw [erase?_key, ← get?_singleton, get?_set_self, Option.map_some, set_key, membersOrNone, membersOrNone,
        Members.erase_put_self, Members.erase_of_get?_none h]
    | _ => exact h.elim
  | index position =>
    cases part with
    | array items =>
      obtain rfl : position = items.length := h
      have grown : (padTo (items.length + 1) items).set items.length v = items ++ [v] := by
        simp [padTo]
      rw [erase?_index, ← get?_singleton, get?_set_self, Option.map_some, set_index, itemsOrNone, itemsOrNone,
        grown]
      simp [List.eraseIdx_append_of_length_le]
    | _ => exact h.elim

private theorem erase?_set_of_hasRoom (held : get? above tree = some part) (room : HasRoom s part)
    (v : Json) :
    erase? (above ++ [s]) (set v (above ++ [s]) tree) = some (v, tree) := by
  have found : standing above [s] tree = part := by
    cases above with
    | nil => exact Option.some.inj held
    | cons a above => rw [standing, held, containerFor_of_hasRoom room]
  have back : set part above (set v (above ++ [s]) tree) = tree := by
    by_cases top : above = []
    · subst top
      exact (Option.some.inj held).symm
    · rw [set_append top (by simp), set_set, set_of_get? held]
  rw [erase?_append (by simp), get?_set_append (by simp), Option.bind_some, found, erase?_set_singleton room,
    Option.map_some, back]

end Json

namespace Context

/-- What a place lies in is there and has room for it: an object without its name, or an array with
as many items as its index says. -/
def HasRoom (c : Context) (p : Path) : Prop :=
  ∃ above last part, p.segments = above ++ [last] ∧ c.get? ⟨p.root, above⟩ = some part ∧
    Json.HasRoom last part

/-- A write to a place that there is room for adds it, and its removal gives the value back and the
very namespace before the write, with all names and items in their order. -/
theorem remove?_of_set_added (c : Context) (p : Path) (v : Json) (writable : p.Writable)
    (room : c.HasRoom p) :
    ∃ d, c.set p v = .ok (.added, d) ∧ d.remove? p = some (v, c) := by
  obtain ⟨above, last, part, hp, held, room⟩ := room
  obtain ⟨tree, hroot, hpart⟩ := Option.bind_eq_some_iff.mp held
  have absent : c.get? p = none := by
    rw [get?, hroot, Option.bind_some, hp, Json.get?_append, hpart, Option.bind_some, Json.get?_singleton,
      Json.child?_of_hasRoom room]
  have there : Members.get? p.root c.roots = some tree := by
    rw [← root?_of_ne writable.root]
    exact hroot
  refine ⟨c.putRoot p.root (Json.set v p.segments tree), ?_, ?_⟩
  · rw [set_of_writable writable, absent, there]
    rfl
  · have grown : Members.get? p.root (c.putRoot p.root (Json.set v p.segments tree)).roots =
        some (Json.set v p.segments tree) := Members.get?_put_self _ _ _
    rw [remove?, grown, Option.bind_some, hp, Json.erase?_set_of_hasRoom hpart room, Option.map_some]
    change some (v, (c.putRoot p.root _).putRoot p.root tree) = _
    rw [putRoot_putRoot, putRoot_of_root? writable.root hroot]

def stocked : Context :=
  empty.putRoot "ctx"
    (.object [("rows", .array [.object [("b", .nat 2), ("a", .nat 1)], .null]), ("n", .null)])

/-- A third item, and a third member of the first item. -/
theorem stocked_after_removal :
    Path.Writable ⟨"ctx", [.key "rows", .index 2]⟩ ∧ stocked.HasRoom ⟨"ctx", [.key "rows", .index 2]⟩ ∧
    Path.Writable ⟨"ctx", [.key "rows", .index 0, .key "c"]⟩ ∧
    stocked.HasRoom ⟨"ctx", [.key "rows", .index 0, .key "c"]⟩ ∧
    (∃ d, stocked.set ⟨"ctx", [.key "rows", .index 2]⟩ (.nat 3) = .ok (.added, d) ∧
      d.remove? ⟨"ctx", [.key "rows", .index 2]⟩ = some (.nat 3, stocked)) ∧
    ∃ d, stocked.set ⟨"ctx", [.key "rows", .index 0, .key "c"]⟩ (.nat 3) = .ok (.added, d) ∧
      d.remove? ⟨"ctx", [.key "rows", .index 0, .key "c"]⟩ = some (.nat 3, stocked) := by
  have item : Path.Writable ⟨"ctx", [.key "rows", .index 2]⟩ := by decide
  have behind : stocked.HasRoom ⟨"ctx", [.key "rows", .index 2]⟩ :=
    ⟨[.key "rows"], .index 2, _, rfl, rfl, rfl⟩
  have member : Path.Writable ⟨"ctx", [.key "rows", .index 0, .key "c"]⟩ := by decide
  have lacking : stocked.HasRoom ⟨"ctx", [.key "rows", .index 0, .key "c"]⟩ :=
    ⟨[.key "rows", .index 0], .key "c", _, rfl, rfl, rfl⟩
  exact ⟨item, behind, member, lacking, remove?_of_set_added stocked _ _ item behind,
    remove?_of_set_added stocked _ _ member lacking⟩

end Context

end Assay

/- digest: A write to a place leaves alone every place that parts from it at a name: the write goes
   to one member of an object, the other place to another. -/

import Assay.Path.Access
import Assay.Proofs.Context

set_option autoImplicit false
set_option relaxedAutoImplicit false

namespace Assay

/-- Two places below a root part at a name: they agree up to a step at which both go to a member of
an object, and not to the same. -/
def Segment.PartAtName (p q : List Segment) : Prop :=
  ∃ common a b p' q', a ≠ b ∧ p = common ++ .key a :: p' ∧ q = common ++ .key b :: q'

/-- Two places part at a name, which may be that of their roots. -/
def Path.PartAtName (p q : Path) : Prop :=
  p.root ≠ q.root ∨ Segment.PartAtName p.segments q.segments

namespace Json

variable {v tree : Json} {p q : List Segment}

theorem child?_key (name : String) (tree : Json) :
    child? (.key name) tree = Members.get? name (membersOrNone tree) := by
  cases tree <;> rfl

theorem child?_index (position : Nat) (tree : Json) :
    child? (.index position) tree = (itemsOrNone tree)[position]? := by
  cases tree <;> simp [child?, itemsOrNone]

theorem get?_null (hq : q ≠ []) : get? q .null = none := by
  cases q with
  | nil => exact absurd rfl hq
  | cons s rest => cases s <;> rfl

theorem get?_emptyFor (hq : q ≠ []) (next : List Segment) : get? q (emptyFor next) = none := by
  cases q with
  | nil => exact absurd rfl hq
  | cons s rest =>
    unfold emptyFor
    split <;> cases s <;> simp [get?, child?, Members.get?]

theorem get?_containerFor (hq : q ≠ []) (next : List Segment) (old : Option Json) :
    get? q (containerFor next old) = old.bind (get? q) := by
  cases old with
  | none => simpa [containerFor] using get?_emptyFor hq next
  | some v =>
    cases v with
    | null => simpa [containerFor, get?_null hq] using get?_emptyFor hq next
    | _ => rfl

theorem getElem?_padTo (count position : Nat) (items : List Json) :
    (padTo count items)[position]? =
      if position < items.length then items[position]?
      else if position < count then some .null else none := by
  unfold padTo
  split
  · rename_i h
    exact List.getElem?_append_left h
  · rename_i h
    have reached : position - items.length < count - items.length ↔ position < count := by omega
    rw [List.getElem?_append_right (by omega), List.getElem?_replicate]
    simp only [reached]

theorem bind_get?_padTo (hq : q ≠ []) (count position : Nat) (items : List Json) :
    ((padTo count items)[position]?).bind (get? q) = (items[position]?).bind (get? q) := by
  rw [getElem?_padTo]
  split
  · rfl
  · rename_i h
    rw [List.getElem?_eq_none (by omega)]
    split
    · simpa using get?_null hq
    · rfl

theorem get?_set_of_ne {a b : String} (h : a ≠ b) (p q : List Segment) (v tree : Json) :
    get? (.key b :: q) (set v (.key a :: p) tree) = get? (.key b :: q) tree := by
  cases p with
  | nil | cons _ _ =>
    simp only [set, get?, child?_key, membersOrNone, Members.get?_put_of_ne h.symm]

private theorem get?_set_cons (hp : p ≠ []) (s : Segment) (v tree : Json) :
    ∃ old : Option Json,
      get? (s :: q) (set v (s :: p) tree) = get? q (set v p (containerFor p old)) ∧
        (q ≠ [] → get? (s :: q) tree = old.bind (get? q)) := by
  obtain ⟨s', p', rfl⟩ := List.exists_cons_of_ne_nil hp
  cases s with
  | key name =>
    refine ⟨Members.get? name (membersOrNone tree), ?_, ?_⟩
    · simp only [set, get?, child?, Members.get?_put_self, Option.bind_some]
    · intro _
      simp only [get?, child?_key]
  | index position =>
    refine ⟨(padTo (position + 1) (itemsOrNone tree))[position]?, ?_, ?_⟩
    · have inside : position < (padTo (position + 1) (itemsOrNone tree)).length := by
        simp only [padTo, List.length_append, List.length_replicate]
        omega
      simp only [set, get?, child?, List.getElem?_set_self inside, Option.bind_some]
    · intro hq
      rw [bind_get?_padTo hq]
      simp only [get?, child?_index]

theorem get?_set_self (p : List Segment) (v tree : Json) : get? p (set v p tree) = some v := by
  induction p generalizing tree with
  | nil => rfl
  | cons s p ih =>
    by_cases hp : p = []
    · subst hp
      cases s with
      | key name => simp [set, get?, child?, Members.get?_put_self]
      | index position =>
        have inside : position < (padTo (position + 1) (itemsOrNone tree)).length := by
          simp only [padTo, List.length_append, List.length_replicate]
          omega
        simp [set, get?, child?, List.getElem?_set_self inside]
    · obtain ⟨old, after, -⟩ := get?_set_cons (q := p) hp s v tree
      rw [after, ih]

private theorem get?_set_of_partAtName (h : Segment.PartAtName p q) (v tree : Json) :
    get? q (set v p tree) = get? q tree := by
  obtain ⟨common, a, b, p', q', hab, rfl, rfl⟩ := h
  induction common generalizing tree with
  | nil => exact get?_set_of_ne hab p' q' v tree
  | cons s common ih =>
    have hq : common ++ .key b :: q' ≠ [] := by simp
    obtain ⟨old, after, before⟩ :=
      get?_set_cons (q := common ++ .key b :: q') (p := common ++ .key a :: p') (by simp) s v tree
    simp only [List.cons_append]
    rw [after, ih, get?_containerFor hq, before hq]

end Json

namespace Context

theorem get?_self_of_set {c d : Context} {p : Path} {v : Json} {change : Change}
    (hset : c.set p v = .ok (change, d)) : d.get? p = some v := by
  obtain ⟨hroot, -, rfl⟩ := set_eq_ok hset
  rw [get?, root?_putRoot_self hroot, Option.bind_some, Json.get?_set_self]

theorem get?_of_set {c d : Context} {p q : Path} {v : Json} {change : Change}
    (hset : c.set p v = .ok (change, d)) (h : p.PartAtName q) : d.get? q = c.get? q := by
  obtain ⟨hroot, -, rfl⟩ := set_eq_ok hset
  rcases h with differ | part
  · exact get?_congr (root?_putRoot_of_ne differ.symm)
  · by_cases same : q.root = p.root
    · have hq : q.segments ≠ [] := by
        obtain ⟨common, a, b, p', q', -, -, hq⟩ := part
        rw [hq]
        simp
      simp only [get?, same, root?_putRoot_self hroot, root?_of_ne hroot, Option.bind_some]
      rw [Json.get?_set_of_partAtName part]
      cases Members.get? p.root c.roots with
      | none =>
        obtain ⟨s, rest, hs⟩ := List.exists_cons_of_ne_nil hq
        rw [hs]
        cases s <;> rfl
      | some tree => rfl
    · exact get?_congr (root?_putRoot_of_ne same)

end Context

end Assay

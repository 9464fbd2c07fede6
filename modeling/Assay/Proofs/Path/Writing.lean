/- digest: What a write does to all places: to its own, to those of other roots, and to those that
   part from it at a name, at an index, or because one of them goes into an object and the other
   into an array. -/

import Assay.Proofs.Exec.Completion
import Assay.Proofs.Path.Parting

set_option autoImplicit false
set_option relaxedAutoImplicit false

namespace Assay

namespace Json

variable {p q : List Segment}

theorem get?_append (p q : List Segment) (tree : Json) :
    get? (p ++ q) tree = (get? p tree).bind (get? q) := by
  induction p generalizing tree with
  | nil => rfl
  | cons s p ih =>
    rw [List.cons_append, get?, get?]
    cases child? s tree with
    | none => rfl
    | some part => exact ih part

private theorem containerFor_append (hp : p ≠ []) (q : List Segment) (old : Option Json) :
    containerFor (p ++ q) old = containerFor p old := by
  obtain ⟨s, rest, rfl⟩ := List.exists_cons_of_ne_nil hp
  have same : emptyFor (s :: rest ++ q) = emptyFor (s :: rest) := by cases s <;> rfl
  unfold containerFor
  rw [same]

private theorem containerFor_padTo (p : List Segment) (count position : Nat) (items : List Json) :
    containerFor p (padTo count items)[position]? = containerFor p items[position]? := by
  rw [getElem?_padTo]
  split
  · rfl
  · rename_i h
    rw [List.getElem?_eq_none (by omega)]
    split <;> rfl

theorem set_containerFor (hq : q ≠ []) (v : Json) (old : Option Json) :
    set v q (containerFor q old) = set v q (old.getD (.object [])) := by
  obtain ⟨s, rest, rfl⟩ := List.exists_cons_of_ne_nil hq
  have replaced (next : List Segment) (other : Json) (hother : other = .null ∨ other = .object []) :
      set v (s :: rest) (emptyFor next) = set v (s :: rest) other := by
    have members : (emptyFor next).membersOrNone = other.membersOrNone := by
      unfold emptyFor
      rcases hother with rfl | rfl <;> split <;> rfl
    have items : (emptyFor next).itemsOrNone = other.itemsOrNone := by
      unfold emptyFor
      rcases hother with rfl | rfl <;> split <;> rfl
    cases s <;> cases rest <;> simp only [set, members, items]
  cases old with
  | none => exact replaced _ _ (Or.inr rfl)
  | some tree =>
    cases tree with
    | null => exact replaced _ _ (Or.inl rfl)
    | _ => rfl

theorem set_key (name : String) (v tree : Json) :
    set v [.key name] tree = .object (Members.put name v (membersOrNone tree)) := rfl

theorem set_index (position : Nat) (v tree : Json) :
    set v [.index position] tree =
      .array ((padTo (position + 1) (itemsOrNone tree)).set position v) := rfl

private theorem set_key_cons (hp : p ≠ []) (name : String) (v tree : Json) :
    set v (.key name :: p) tree =
      .object (Members.put name (set v p (containerFor p (child? (.key name) tree)))
        (membersOrNone tree)) := by
  rw [child?_key, set]
  exact hp

private theorem set_index_cons (hp : p ≠ []) (position : Nat) (v tree : Json) :
    set v (.index position :: p) tree =
      .array ((padTo (position + 1) (itemsOrNone tree)).set position
        (set v p (containerFor p (child? (.index position) tree)))) := by
  rw [child?_index, ← containerFor_padTo _ (position + 1), set]
  exact hp

theorem set_cons (hp : p ≠ []) (s : Segment) (v tree : Json) :
    set v (s :: p) tree = set (set v p (containerFor p (child? s tree))) [s] tree := by
  cases s with
  | key name => rw [set_key_cons hp, set_key]
  | index position => rw [set_index_cons hp, set_index]

/-- A write below a place writes there what the rest of the write makes of what stood there. -/
theorem set_append (hp : p ≠ []) (hq : q ≠ []) (v tree : Json) :
    set v (p ++ q) tree = set (set v q (containerFor q (get? p tree))) p tree := by
  induction p generalizing tree with
  | nil => exact absurd rfl hp
  | cons s p ih =>
    rw [List.cons_append, set_cons (by simp [hq])]
    by_cases hrest : p = []
    · subst hrest
      rw [List.nil_append, get?]
      cases child? s tree <;> rfl
    · rw [set_cons hrest, containerFor_append hrest, ih hrest, get?_containerFor hrest, get?]

/-- What a write finds on its way: what stands at a place, or the empty container that it makes
there. -/
def standing (common next : List Segment) (tree : Json) : Json :=
  match common with
  | [] => tree
  | s :: rest => containerFor next (get? (s :: rest) tree)

theorem get?_set_append (hp : p ≠ []) (common : List Segment) (v tree : Json) :
    get? common (set v (common ++ p) tree) = some (set v p (standing common p tree)) := by
  cases common with
  | nil => rfl
  | cons s rest => rw [set_append (by simp) hp, get?_set_self, standing]

theorem get?_standing (hq : q ≠ []) (common next : List Segment) (tree : Json) :
    get? q (standing common next tree) = get? (common ++ q) tree := by
  cases common with
  | nil => rfl
  | cons s rest => rw [standing, get?_containerFor hq, get?_append]

theorem get?_append_set (hp : p ≠ []) (common q : List Segment) (v tree : Json) :
    get? (common ++ q) (set v (common ++ p) tree) = get? q (set v p (standing common p tree)) := by
  rw [get?_append, get?_set_append hp, Option.bind_some]

/-- A write to an item leaves the other items alone, but where there were too few of them: those
before it are null then. -/
theorem get?_set_of_index_ne {i j : Nat} (h : i ≠ j) (p q : List Segment) (v tree : Json) :
    get? (.index j :: q) (set v (.index i :: p) tree) =
      if q = [] ∧ j < i ∧ get? (.index j :: q) tree = none then some .null
      else get? (.index j :: q) tree := by
  have after : get? (.index j :: q) (set v (.index i :: p) tree) =
      ((padTo (i + 1) (itemsOrNone tree))[j]?).bind (get? q) := by
    cases p <;> simp only [set, get?, child?, List.getElem?_set_ne h]
  rw [after]
  by_cases hq : q = []
  · subst hq
    have before : get? [.index j] tree = (itemsOrNone tree)[j]? := by
      rw [get?, child?_index]
      cases (itemsOrNone tree)[j]? <;> rfl
    rw [before, getElem?_padTo]
    by_cases inside : j < (itemsOrNone tree).length
    · rw [if_pos inside, if_neg (by simp [inside])]
      cases (itemsOrNone tree)[j]? <;> rfl
    · rw [if_neg inside, List.getElem?_eq_none (by omega)]
      by_cases below : j < i
      · rw [if_pos (by omega), if_pos ⟨rfl, below, rfl⟩]
        rfl
      · rw [if_neg (by omega), if_neg (fun both => below both.2.1)]
        rfl
  · rw [bind_get?_padTo hq, if_neg (fun both => hq both.1), get?, child?_index]

/-- A write into an array leaves no members in its place, and one into an object no items. -/
theorem get?_set_of_kind_ne {a b : Segment} (h : a.isIndex ≠ b.isIndex) (p q : List Segment)
    (v tree : Json) : get? (b :: q) (set v (a :: p) tree) = none := by
  cases a with
  | key name =>
    cases b with
    | key other => exact absurd rfl h
    | index position => cases p <;> rfl
  | index position =>
    cases b with
    | key name => cases p <;> rfl
    | index other => exact absurd rfl h

end Json

/-- A place that takes a write: its root is not the environment, and no index lies beyond the
largest. -/
structure Path.Writable (p : Path) : Prop where
  root : p.root ≠ Context.envRoot
  indices : ∀ i, Segment.index i ∈ p.segments → i ≤ Context.maxArrayIndex

namespace Context

variable {c d : Context} {p : Path} {v : Json} {change : Change}

private theorem any_exceeds_iff {segments : List Segment} {bound : Nat} :
    segments.any (Segment.exceeds bound) = true ↔ ∃ i, Segment.index i ∈ segments ∧ bound < i := by
  rw [List.any_eq_true]
  constructor
  · rintro ⟨s, inside, large⟩
    cases s with
    | key name => cases large
    | index i => exact ⟨i, inside, by simpa [Segment.exceeds] using large⟩
  · rintro ⟨i, inside, large⟩
    exact ⟨.index i, inside, by simpa [Segment.exceeds] using large⟩

private theorem writable_iff : p.Writable ↔
    p.root ≠ envRoot ∧ p.segments.any (Segment.exceeds maxArrayIndex) = false := by
  rw [← Bool.not_eq_true, any_exceeds_iff]
  constructor
  · rintro ⟨hroot, hindices⟩
    refine ⟨hroot, ?_⟩
    rintro ⟨i, inside, large⟩
    exact absurd (hindices i inside) (by omega)
  · rintro ⟨hroot, none⟩
    refine ⟨hroot, fun i inside => ?_⟩
    by_contra large
    exact none ⟨i, inside, by omega⟩

instance (p : Path) : Decidable p.Writable := decidable_of_iff _ writable_iff.symm

theorem set_of_writable (h : p.Writable) : c.set p v =
    .ok (if (c.get? p).isSome then .modified else .added,
      c.putRoot p.root (Json.set v p.segments ((Members.get? p.root c.roots).getD (.object [])))) := by
  obtain ⟨hroot, hindices⟩ := writable_iff.mp h
  rw [set, if_neg hroot, if_neg (by simp [hindices])]
  rfl

theorem writable_of_set (h : c.set p v = .ok (change, d)) : p.Writable := by
  obtain ⟨hroot, hindices, -⟩ := set_eq_ok h
  exact writable_iff.mpr ⟨hroot, hindices⟩

/-- What a completed write to a place does to all places. Those of other roots stay as they are, and
their roots keep their positions. One below the same root that parts from the place at a name stays
as it is. One that parts from it at an index stays as it is too, unless it lies before and nothing
was there: then it is filled up with null. And if one goes into an object where the other goes into
an array, nothing is left of it. -/
structure Wrote (p : Path) (v : Json) (c : Context) (change : Change) (d : Context) : Prop where
  held : d.get? p = some v
  change : change = .added ↔ c.get? p = none
  env : d.env = c.env
  roots : ∀ name, name ≠ p.root → d.root? name = c.root? name
  positions : ∀ (i : Nat) (name : String) (tree : Json), name ≠ p.root →
    (d.roots[i]? = some (name, tree) ↔ c.roots[i]? = some (name, tree))
  names : ∀ common a b p' q', a ≠ b → p.segments = common ++ .key a :: p' →
    d.get? ⟨p.root, common ++ .key b :: q'⟩ = c.get? ⟨p.root, common ++ .key b :: q'⟩
  indices : ∀ common i j p' q', i ≠ j → p.segments = common ++ .index i :: p' →
    ¬ (c.get? ⟨p.root, common ++ .index j :: q'⟩ = none ∧ q' = [] ∧ j < i) →
    d.get? ⟨p.root, common ++ .index j :: q'⟩ = c.get? ⟨p.root, common ++ .index j :: q'⟩
  filled : ∀ common i j p', p.segments = common ++ .index i :: p' → j < i →
    c.get? ⟨p.root, common ++ [.index j]⟩ = none →
    d.get? ⟨p.root, common ++ [.index j]⟩ = some .null
  kinds : ∀ common a b p' q', a.isIndex ≠ b.isIndex → p.segments = common ++ a :: p' →
    d.get? ⟨p.root, common ++ b :: q'⟩ = none

private theorem get?_putRoot_self (hroot : p.root ≠ envRoot) (tree : Json) (q : List Segment) :
    (c.putRoot p.root tree).get? ⟨p.root, q⟩ = Json.get? q tree := by
  rw [get?, root?_putRoot_self hroot, Option.bind_some]

private theorem get?_of_getD (hroot : p.root ≠ envRoot) {q : List Segment} (hq : q ≠ []) :
    c.get? ⟨p.root, q⟩ = Json.get? q ((Members.get? p.root c.roots).getD (.object [])) := by
  rw [get?, root?_of_ne hroot]
  cases Members.get? p.root c.roots with
  | none => exact (Json.get?_emptyFor hq []).symm
  | some tree => rfl

private theorem wrote_of_set (h : c.set p v = .ok (change, d)) : Wrote p v c change d := by
  have writable := writable_of_set h
  have hroot := writable.root
  have done := (set_of_writable (c := c) (v := v) writable).symm.trans h
  obtain ⟨rfl, rfl⟩ : _ ∧ _ := by simpa only [Except.ok.injEq, Prod.mk.injEq] using done
  have below (q : List Segment) := get?_putRoot_self (c := c) hroot
    (Json.set v p.segments ((Members.get? p.root c.roots).getD (.object []))) q
  constructor
  case held => exact get?_self_of_set h
  case change => cases c.get? p <;> simp
  case env => rfl
  case roots => exact fun name hname => root?_putRoot_of_ne hname
  case positions => exact fun i name tree hname => Members.getElem?_put_of_ne hname _ _ _ _
  case names =>
    intro common a b p' q' hab hp
    refine get?_of_set h (Or.inr ⟨common, a, b, p', q', hab, hp, rfl⟩)
  case indices =>
    intro common i j p' q' hij hp kept
    rw [get?_of_getD hroot (by simp), ← Json.get?_standing (by simp) common (.index i :: p')] at kept
    rw [below, get?_of_getD hroot (by simp), hp, Json.get?_append_set (by simp),
      Json.get?_set_of_index_ne hij, if_neg, Json.get?_standing (by simp)]
    exact fun ⟨ends, lower, absent⟩ => kept ⟨absent, ends, lower⟩
  case filled =>
    intro common i j p' hp lower absent
    rw [get?_of_getD hroot (by simp), ← Json.get?_standing (by simp) common (.index i :: p')] at absent
    rw [below, hp, Json.get?_append_set (by simp), Json.get?_set_of_index_ne (by omega),
      if_pos ⟨rfl, lower, absent⟩]
  case kinds =>
    intro common a b p' q' hab hp
    rw [below, hp, Json.get?_append_set (by simp), Json.get?_set_of_kind_ne hab]

end Context

/-- A write to the environment or with an index beyond the largest is refused and changes nothing.
Any other is done. -/
theorem Exec.write_law (p : Path) (v : Json) (w : Surroundings) (s : RunState) :
    (p.root = Context.envRoot →
      write p v w s = (.error (.fault (.ofDefinition (.readOnlyRoot p.root))), s)) ∧
    (p.root ≠ Context.envRoot → (∃ i, Segment.index i ∈ p.segments ∧ Context.maxArrayIndex < i) →
      write p v w s = (.error (.fault (.ofDefinition (.invalidPath p.display))), s)) ∧
    (p.Writable → ∃ change d, write p v w s = (.ok change, { s with context := d }) ∧
      Context.Wrote p v s.context change d) := by
  refine ⟨fun hroot => ?_, fun hroot large => ?_, fun writable => ?_⟩
  · have refused : s.context.set p v = .error (.readOnlyRoot p.root) := by
      rw [Context.set, if_pos hroot]
    exact write_of_error refused
  · have refused : s.context.set p v = .error (.indexTooLarge p) := by
      rw [Context.set, if_neg hroot, if_pos (Context.any_exceeds_iff.mpr large)]
    exact write_of_error refused
  · have done := Context.set_of_writable (c := s.context) (v := v) writable
    exact ⟨_, _, write_of_ok done, Context.wrote_of_set done⟩

def shortList : RunState :=
  { RunState.initial with
    context := Context.empty.putRoot Context.ctxRoot (.object [("list", .array [.int 7])]) }

/-- A write behind the end of a list fills it up with null, and one to a name leaves nothing of the
list. -/
theorem shortList_write_law :
    (∃ d, Exec.write ⟨"ctx", [.key "list", .index 2]⟩ (.bool true) (.still .empty) shortList =
        (.ok .added, { shortList with context := d }) ∧
      d.get? ⟨"ctx", [.key "list", .index 0]⟩ = some (.int 7) ∧
      d.get? ⟨"ctx", [.key "list", .index 1]⟩ = some .null ∧
      d.get? ⟨"ctx", [.key "list", .index 2]⟩ = some (.bool true)) ∧
    ∃ d, Exec.write ⟨"ctx", [.key "list", .key "name"]⟩ (.bool true) (.still .empty) shortList =
        (.ok .added, { shortList with context := d }) ∧
      d.get? ⟨"ctx", [.key "list", .index 0]⟩ = none ∧
      d.get? ⟨"ctx", [.key "list", .key "name"]⟩ = some (.bool true) := by
  constructor
  · obtain ⟨change, d, done, wrote⟩ := (Exec.write_law ⟨"ctx", [.key "list", .index 2]⟩ (.bool true)
      (.still .empty) shortList).2.2 (by decide)
    obtain rfl : change = .added := wrote.change.mpr (by decide +kernel)
    have first := wrote.indices [.key "list"] 2 0 [] [] (by decide) rfl (by decide +kernel)
    have second := wrote.filled [.key "list"] 2 1 [] rfl (by decide) (by decide +kernel)
    exact ⟨d, done, first.trans rfl, second, wrote.held⟩
  · obtain ⟨change, d, done, wrote⟩ := (Exec.write_law ⟨"ctx", [.key "list", .key "name"]⟩ (.bool true)
      (.still .empty) shortList).2.2 (by decide)
    obtain rfl : change = .added := wrote.change.mpr (by decide +kernel)
    have replaced := wrote.kinds [.key "list"] (.key "name") (.index 0) [] [] (by decide) rfl
    exact ⟨d, done, replaced, wrote.held⟩

end Assay

/- digest: What a removal does to all places, when it leaves nothing at its own, and how two places
   get back what they held, one after the other. -/

import Assay.Proofs.Path.Writing

set_option autoImplicit false
set_option relaxedAutoImplicit false

namespace Assay

namespace Segment

variable {p q : List Segment}

/-- Neither of two places lies at, above or below the other. -/
def Apart (p q : List Segment) : Prop := ¬ p <+: q ∧ ¬ q <+: p

/-- A place lies in an item of an array, and the other is an item before it. -/
def Behind (q p : List Segment) : Prop :=
  ∃ common i j rest, i < j ∧ p = common ++ [.index i] ∧ q = common ++ .index j :: rest

/-- A place is the next item of the array in which the other is an item. -/
def IsNext (q p : List Segment) : Prop :=
  ∃ common i, p = common ++ [.index i] ∧ q = common ++ [.index (i + 1)]

/-- Two places exclude each other: one goes into an object where the other goes into an array. -/
private def Clash (p q : List Segment) : Prop :=
  ∃ common a b p' q', a.isIndex ≠ b.isIndex ∧ p = common ++ a :: p' ∧ q = common ++ b :: q'

instance (p q : List Segment) : Decidable (Apart p q) := inferInstanceAs (Decidable (_ ∧ _))

private theorem Apart.exists_fork (h : Apart p q) :
    ∃ common a b p' q', a ≠ b ∧ p = common ++ a :: p' ∧ q = common ++ b :: q' := by
  induction p generalizing q with
  | nil => exact absurd List.nil_prefix h.1
  | cons a p ih =>
    cases q with
    | nil => exact absurd List.nil_prefix h.2
    | cons b q =>
      by_cases hab : a = b
      · subst hab
        obtain ⟨hpq, hqp⟩ := h
        rw [List.cons_prefix_cons] at hpq hqp
        obtain ⟨common, c, d, p', q', hcd, rfl, rfl⟩ :=
          ih ⟨fun inside => hpq ⟨rfl, inside⟩, fun inside => hqp ⟨rfl, inside⟩⟩
        exact ⟨a :: common, c, d, p', q', hcd, rfl, rfl⟩
      · exact ⟨[], a, b, p, q, hab, rfl, rfl⟩

theorem apart_of_fork {a b : Segment} (h : a ≠ b) (common p q : List Segment) :
    Apart (common ++ a :: p) (common ++ b :: q) := by
  constructor
  · intro inside
    rw [List.prefix_append_right_inj, List.cons_prefix_cons] at inside
    exact h inside.1
  · intro inside
    rw [List.prefix_append_right_inj, List.cons_prefix_cons] at inside
    exact h inside.1.symm

theorem behind_item_iff {common : List Segment} {i j : Nat} :
    Behind (common ++ [.index j]) (common ++ [.index i]) ↔ i < j := by
  constructor
  · rintro ⟨above, i', j', rest, lower, hp, hq⟩
    obtain ⟨rfl, equal⟩ := List.append_inj' hp rfl
    cases equal
    cases List.append_cancel_left hq
    exact lower
  · exact fun lower => ⟨common, i, j, [], lower, rfl, rfl⟩

end Segment

open Segment (Apart Behind IsNext Clash)

namespace Json

variable {v tree part : Json} {p q : List Segment}

theorem get?_singleton (s : Segment) (tree : Json) : get? [s] tree = child? s tree := by
  rw [get?]
  cases child? s tree <;> rfl

theorem padTo_of_lt {i : Nat} {items : List Json} (h : i < items.length) :
    padTo (i + 1) items = items := by
  have none : i + 1 - items.length = 0 := by omega
  simp [padTo, none]

private theorem set_of_child? {s : Segment} (h : child? s tree = some part) :
    set part [s] tree = tree := by
  cases s with
  | key name =>
    cases tree with
    | object members => rw [set_key, membersOrNone, Members.put_of_get? h]
    | _ => cases h
  | index position =>
    cases tree with
    | array items =>
      obtain ⟨inside, held⟩ := List.getElem?_eq_some_iff.mp h
      rw [set_index, itemsOrNone, padTo_of_lt inside, ← held, List.set_getElem_self]
    | _ => cases h

theorem containerFor_of_get? (hp : p ≠ []) (h : get? p part = some v) (next : List Segment) :
    containerFor next (some part) = part := by
  cases part with
  | null => simp [get?_null hp] at h
  | _ => rfl

theorem set_of_get? (h : get? p tree = some v) : set v p tree = tree := by
  induction p generalizing tree with
  | nil =>
    cases h
    rfl
  | cons s p ih =>
    obtain ⟨part, hpart, hrest⟩ := Option.bind_eq_some_iff.mp h
    by_cases hp : p = []
    · subst hp
      cases hrest
      exact set_of_child? hpart
    · rw [set_cons hp, hpart, containerFor_of_get? hp hrest, ih hrest, set_of_child? hpart]

theorem erase?_key (name : String) (tree : Json) :
    erase? [.key name] tree =
      (child? (.key name) tree).map fun old => (old, .object (Members.erase name (membersOrNone tree))) := by
  cases tree <;> rfl

theorem erase?_index (position : Nat) (tree : Json) :
    erase? [.index position] tree =
      (child? (.index position) tree).map fun old =>
        (old, .array ((itemsOrNone tree).eraseIdx position)) := by
  cases tree <;> rfl

theorem erase?_cons (hp : p ≠ []) (s : Segment) (tree : Json) :
    erase? (s :: p) tree =
      ((child? s tree).bind (erase? p)).map fun r => (r.1, set r.2 [s] tree) := by
  obtain ⟨s', p, rfl⟩ := List.exists_cons_of_ne_nil hp
  cases s with
  | key name => cases tree <;> rfl
  | index position =>
    cases tree with
    | array items =>
      rw [erase?, child?]
      cases hitem : items[position]? with
      | none => rfl
      | some part =>
        obtain ⟨inside, -⟩ := List.getElem?_eq_some_iff.mp hitem
        simp only [set_index, itemsOrNone, padTo_of_lt inside]
      all_goals simp
    | _ => rfl

theorem erase?_append (hq : q ≠ []) (p : List Segment) (tree : Json) :
    erase? (p ++ q) tree =
      ((get? p tree).bind (erase? q)).map fun r => (r.1, set r.2 p tree) := by
  induction p generalizing tree with
  | nil =>
    cases h : erase? q tree <;> simp [get?, set, h]
  | cons s p ih =>
    rw [List.cons_append, erase?_cons (by simp [hq]), get?]
    cases hpart : child? s tree with
    | none => rfl
    | some part =>
      rw [Option.bind_some, Option.bind_some, ih]
      by_cases hp : p = []
      · subst hp
        cases h : erase? q part <;> simp [get?, set, h]
      · cases hrest : get? p part with
        | none => rfl
        | some below =>
          simp only [Option.bind_some, Option.map_map, Function.comp_def, set_cons hp, hpart,
            containerFor_of_get? hp hrest]

theorem map_fst_erase? (hp : p ≠ []) (tree : Json) : (erase? p tree).map (·.1) = get? p tree := by
  obtain ⟨above, s, rfl⟩ := (List.eq_nil_or_concat p).resolve_left hp
  rw [List.concat_eq_append, erase?_append (by simp), get?_append, Option.map_map]
  cases get? above tree with
  | none => rfl
  | some part =>
    rw [Option.bind_some, Option.bind_some, get?_singleton]
    cases s with
    | key name =>
      rw [erase?_key]
      cases child? (.key name) part <;> rfl
    | index position =>
      rw [erase?_index]
      cases child? (.index position) part <;> rfl

/-- What is left when a place is removed; where there is nothing to remove, all of it. -/
def without (p : List Segment) (tree : Json) : Json := ((erase? p tree).map (·.2)).getD tree

/-- The removal of a place leaves nothing there: no later item moves up. -/
def Clears (p : List Segment) (tree : Json) : Prop := get? p (without p tree) = none

private theorem without_of_get?_eq_none (hp : p ≠ []) (h : get? p tree = none) :
    without p tree = tree := by
  rw [← map_fst_erase? hp, Option.map_eq_none_iff] at h
  rw [without, h]
  rfl

private theorem without_append (hq : q ≠ []) (h : get? p tree = some part) :
    without (p ++ q) tree = set (without q part) p tree := by
  rw [without, without, erase?_append hq, h, Option.bind_some, Option.map_map]
  cases erase? q part with
  | none => exact (set_of_get? h).symm
  | some r => rfl

theorem without_key (name : String) (members : Members Json) :
    without [.key name] (.object members) = .object (Members.erase name members) := by
  rw [without, erase?_key]
  change ((Option.map _ (Members.get? name members)).map _).getD _ = _
  cases h : Members.get? name members with
  | none => simp [Members.erase_of_get?_none h]
  | some old => rfl

private theorem without_index (position : Nat) (items : List Json) :
    without [.index position] (.array items) = .array (items.eraseIdx position) := by
  rw [without, erase?_index]
  change ((Option.map _ items[position]?).map _).getD _ = _
  cases h : items[position]? with
  | none => simp [List.eraseIdx_of_length_le (List.getElem?_eq_none_iff.mp h)]
  | some old => rfl

theorem clears_of_get?_eq_none (hp : p ≠ []) (h : get? p tree = none) : Clears p tree := by
  rw [Clears, without_of_get?_eq_none hp h, h]

private theorem clears_append (hq : q ≠ []) :
    Clears (p ++ q) tree ↔ ∀ part, get? p tree = some part → Clears q part := by
  cases h : get? p tree with
  | none =>
    have absent : get? (p ++ q) tree = none := by rw [get?_append, h, Option.bind_none]
    exact iff_of_true (clears_of_get?_eq_none (by simp [hq]) absent) (by simp)
  | some part =>
    rw [Clears, without_append hq h, get?_append, get?_set_self, Option.bind_some]
    exact ⟨fun clears _ equal => Option.some.inj equal ▸ clears, fun clears => clears part rfl⟩

private theorem clears_cons (hp : p ≠ []) {s : Segment} :
    Clears (s :: p) tree ↔ ∀ part, child? s tree = some part → Clears p part := by
  rw [← get?_singleton]
  exact clears_append (p := [s]) hp

private theorem clears_key {name : String} :
    Clears [.key name] tree ↔ Members.get? name (Members.erase name (membersOrNone tree)) = none := by
  cases tree with
  | object members => rw [Clears, without_key, get?_singleton]; rfl
  | _ => exact iff_of_true (clears_of_get?_eq_none (by simp) rfl) rfl

private theorem clears_index {position : Nat} :
    Clears [.index position] tree ↔ (itemsOrNone tree).length ≤ position + 1 := by
  cases tree with
  | array items =>
    rw [Clears, without_index, get?_singleton, child?_index, itemsOrNone, itemsOrNone,
      List.getElem?_eraseIdx_of_ge (Nat.le_refl _), List.getElem?_eq_none_iff]
  | _ => exact iff_of_true (clears_of_get?_eq_none (by simp) rfl) (Nat.zero_le _)

private theorem get?_of_behind_of_clears (h : Behind q p) (hp : Clears p tree) :
    get? q tree = none := by
  obtain ⟨common, i, j, rest, lower, rfl, rfl⟩ := h
  rw [get?_append]
  cases hpart : get? common tree with
  | none => rfl
  | some part =>
    have few := clears_index.mp ((clears_append (by simp)).mp hp part hpart)
    rw [Option.bind_some, get?, child?_index, List.getElem?_eq_none (by omega)]
    rfl

private theorem get?_of_behind (h : Behind q p) (hp : get? p tree = none) : get? q tree = none := by
  refine get?_of_behind_of_clears h (clears_of_get?_eq_none ?_ hp)
  obtain ⟨common, i, _, _, _, rfl, -⟩ := h
  simp

private theorem clears_of_isNext (h : IsNext q p) (hq : get? q tree = none) : Clears p tree := by
  obtain ⟨common, i, rfl, rfl⟩ := h
  refine (clears_append (by simp)).mpr fun part hpart => clears_index.mpr ?_
  rw [get?_append, hpart, Option.bind_some, get?_singleton, child?_index] at hq
  exact List.getElem?_eq_none_iff.mp hq

/-! Two places that are apart are looked at from the step where they part. -/

private theorem clears_containerFor (hq : q ≠ []) (next : List Segment) (old : Option Json) :
    Clears q (containerFor next old) ↔ ∀ part, old = some part → Clears q part := by
  cases old with
  | none => exact iff_of_true (clears_of_get?_eq_none hq (get?_emptyFor hq next)) (by simp)
  | some part =>
    cases part with
    | null =>
      refine iff_of_true (clears_of_get?_eq_none hq (get?_emptyFor hq next)) ?_
      rintro _ ⟨⟩
      exact clears_of_get?_eq_none hq (get?_null hq)
    | _ => simp [containerFor]

private theorem clears_standing (hq : q ≠ []) (common next : List Segment) (tree : Json) :
    Clears q (standing common next tree) ↔ Clears (common ++ q) tree := by
  cases common with
  | nil => rfl
  | cons s rest => rw [standing, clears_containerFor hq, clears_append hq]

private theorem clears_append_set (hp : p ≠ []) (hq : q ≠ []) (common : List Segment)
    (v tree : Json) :
    Clears (common ++ q) (set v (common ++ p) tree) ↔ Clears q (set v p (standing common p tree)) := by
  rw [clears_append hq, get?_set_append hp]
  simp

private theorem exists_set_key (q : List Segment) (name : String) (v tree : Json) :
    ∃ part, set v (.key name :: q) tree = .object (Members.put name part (membersOrNone tree)) := by
  cases q <;> exact ⟨_, rfl⟩

private theorem exists_set_index (q : List Segment) (position : Nat) (v tree : Json) :
    ∃ part, set v (.index position :: q) tree =
      .array ((padTo (position + 1) (itemsOrNone tree)).set position part) := by
  cases q <;> exact ⟨_, rfl⟩

theorem length_padTo (count : Nat) (items : List Json) :
    (padTo count items).length = max count items.length := by
  simp only [padTo, List.length_append, List.length_replicate]
  omega

/-- A write to a place or below it brings nothing that moves up when the place is removed. -/
theorem clears_set_below (hp : p ≠ []) (h : Clears p tree) (below : List Segment) (v : Json) :
    Clears p (set v (p ++ below) tree) := by
  obtain ⟨above, s, rfl⟩ := (List.eq_nil_or_concat p).resolve_left hp
  rw [List.concat_eq_append] at h ⊢
  rw [← clears_standing (by simp) above (s :: below)] at h
  rw [List.append_assoc, List.singleton_append, clears_append_set (by simp) (by simp)]
  cases s with
  | key name =>
    obtain ⟨part, written⟩ := exists_set_key below name v (standing above (.key name :: below) tree)
    rw [clears_key] at h ⊢
    rwa [written, membersOrNone, Members.erase_put_self]
  | index position =>
    obtain ⟨part, written⟩ :=
      exists_set_index below position v (standing above (.index position :: below) tree)
    rw [clears_index] at h ⊢
    rw [written, itemsOrNone, List.length_set, length_padTo]
    omega

private theorem child?_set_of_ne {a b : Segment} (h : a ≠ b) (q : List Segment) (v tree : Json) :
    child? a (set v (b :: q) tree) = child? a tree ∨ child? a (set v (b :: q) tree) = none ∨
      child? a (set v (b :: q) tree) = some .null := by
  simp only [← get?_singleton]
  by_cases kinds : b.isIndex = a.isIndex
  · cases a with
    | key name =>
      cases b with
      | key other => exact Or.inl (get?_set_of_ne (fun equal => h (by rw [equal])) q [] v tree)
      | index position => cases kinds
    | index i =>
      cases b with
      | key other => cases kinds
      | index j =>
        rw [get?_set_of_index_ne (fun equal => h (by rw [equal]))]
        split
        · exact Or.inr (Or.inr rfl)
        · exact Or.inl rfl
  · exact Or.inr (Or.inl (get?_set_of_kind_ne kinds q [] v tree))

theorem clears_set_fork {a b : Segment} (hab : a ≠ b) (h : Clears (a :: p) tree)
    (before : p = [] → ∀ i j, a = .index i → b = .index j → j < i) (q : List Segment) (v : Json) :
    Clears (a :: p) (set v (b :: q) tree) := by
  by_cases hp : p = []
  · subst hp
    cases a with
    | key name =>
      rw [clears_key] at h ⊢
      cases b with
      | key other =>
        have ne : name ≠ other := fun equal => hab (by rw [equal])
        obtain ⟨part, written⟩ := exists_set_key q other v tree
        rw [written, membersOrNone, Members.erase_put_of_ne ne, Members.get?_put_of_ne ne, h]
      | index position =>
        obtain ⟨part, written⟩ := exists_set_index q position v tree
        rw [written]
        rfl
    | index i =>
      rw [clears_index] at h ⊢
      cases b with
      | key other =>
        obtain ⟨part, written⟩ := exists_set_key q other v tree
        rw [written]
        exact Nat.zero_le _
      | index j =>
        have lower := before rfl i j rfl rfl
        obtain ⟨part, written⟩ := exists_set_index q j v tree
        rw [written, itemsOrNone, List.length_set, length_padTo]
        omega
  · rw [clears_cons hp] at h ⊢
    intro part hpart
    rcases child?_set_of_ne hab q v tree with same | none | null
    · exact h part (same.symm.trans hpart)
    · cases none.symm.trans hpart
    · cases null.symm.trans hpart
      exact clears_of_get?_eq_none hp (get?_null hp)

private theorem child?_without_of_ne {a b : Segment} (hab : a ≠ b)
    (before : ∀ i j, a = .index i → b = .index j → i < j) (tree : Json) :
    child? a (without [b] tree) = child? a tree := by
  cases b with
  | key other =>
    cases tree with
    | object members =>
      rw [without_key]
      cases a with
      | key name => exact Members.get?_erase_of_ne (fun equal => hab (by rw [equal])) members
      | index position => rfl
    | _ => rw [without_of_get?_eq_none (by simp) rfl]
  | index j =>
    cases tree with
    | array items =>
      rw [without_index]
      cases a with
      | key name => rfl
      | index i => exact List.getElem?_eraseIdx_of_lt (before i j rfl rfl)
    | _ => rw [without_of_get?_eq_none (by simp) rfl]

theorem clears_without_fork {a b : Segment} (hab : a ≠ b)
    (before : ∀ i j, a = .index i → b = .index j → i < j) (h : Clears (a :: p) tree) :
    Clears (a :: p) (without [b] tree) := by
  by_cases hp : p = []
  · subst hp
    cases b with
    | key other =>
      cases tree with
      | object members =>
        rw [without_key]
        cases a with
        | key name =>
          have ne : other ≠ name := fun equal => hab (by rw [equal])
          rw [clears_key, membersOrNone] at h ⊢
          rw [Members.erase_comm ne, Members.get?_erase_of_ne ne.symm, h]
        | index position => exact clears_of_get?_eq_none (by simp) rfl
      | _ => rwa [without_of_get?_eq_none (by simp) rfl]
    | index j =>
      cases tree with
      | array items =>
        rw [without_index]
        cases a with
        | key name => exact clears_of_get?_eq_none (by simp) rfl
        | index i =>
          rw [clears_index, itemsOrNone] at h ⊢
          exact Nat.le_trans (List.length_eraseIdx_le items j) h
      | _ => rwa [without_of_get?_eq_none (by simp) rfl]
  · rw [clears_cons hp] at h ⊢
    rwa [child?_without_of_ne hab before]

private theorem get?_set_of_clash (h : Clash p q) (v tree : Json) :
    get? p (set v q tree) = none := by
  obtain ⟨common, a, b, p', q', kinds, rfl, rfl⟩ := h
  rw [get?_append_set (by simp), get?_set_of_kind_ne kinds.symm]

private theorem not_clash_of_get? {x y : Json} (hp : get? p tree = some x)
    (hq : get? q tree = some y) :
    ¬ Clash p q := by
  rintro ⟨common, a, b, p', q', kinds, rfl, rfl⟩
  rw [get?_append] at hp hq
  obtain ⟨part, hpart, hp⟩ := Option.bind_eq_some_iff.mp hp
  rw [hpart, Option.bind_some] at hq
  obtain ⟨_, ha, -⟩ := Option.bind_eq_some_iff.mp hp
  obtain ⟨_, hb, -⟩ := Option.bind_eq_some_iff.mp hq
  cases a <;> cases b <;> cases part <;> first | exact kinds rfl | cases ha | cases hb

private theorem get?_set_of_apart (h : Apart p q) (possible : ¬ Clash p q)
    (unfilled : get? p tree = none → ¬ Behind q p) (v : Json) :
    get? p (set v q tree) = get? p tree := by
  obtain ⟨common, a, b, p', q', hab, rfl, rfl⟩ := h.exists_fork
  have same := get?_standing (List.cons_ne_nil a p') common (b :: q') tree
  rw [← same] at unfilled
  rw [get?_append_set (by simp), ← same]
  cases a with
  | key name =>
    cases b with
    | key other => exact get?_set_of_ne (fun equal => hab (by rw [equal])) q' p' v _
    | index j => exact absurd ⟨common, _, _, p', q', by simp [Segment.isIndex], rfl, rfl⟩ possible
  | index i =>
    cases b with
    | key other => exact absurd ⟨common, _, _, p', q', by simp [Segment.isIndex], rfl, rfl⟩ possible
    | index j =>
      rw [get?_set_of_index_ne (fun equal => hab (by rw [equal])), if_neg]
      rintro ⟨rfl, lower, absent⟩
      exact unfilled absent ⟨common, i, j, q', lower, rfl, rfl⟩

private theorem get?_set_of_held {y : Json} (h : Apart p q) (hq : get? q tree = some y) (v : Json) :
    get? p (set v q tree) = get? p tree := by
  by_cases excluded : Clash p q
  · rw [get?_set_of_clash excluded]
    cases hp : get? p tree with
    | none => rfl
    | some x => exact absurd excluded (not_clash_of_get? hp hq)
  · refine get?_set_of_apart h excluded (fun hp behind => ?_) v
    cases hq.symm.trans (get?_of_behind behind hp)

theorem clears_set (h : Clears p tree) (hpq : Apart p q) (hbehind : ¬ Behind q p) (v : Json) :
    Clears p (set v q tree) := by
  obtain ⟨common, a, b, p', q', hab, rfl, rfl⟩ := hpq.exists_fork
  rw [← clears_standing (by simp) common (b :: q')] at h
  rw [clears_append_set (by simp) (by simp)]
  refine clears_set_fork hab h ?_ q' v
  rintro rfl i j rfl rfl
  by_contra later
  have ne : i ≠ j := fun equal => hab (by rw [equal])
  exact hbehind ⟨common, i, j, q', by omega, rfl, rfl⟩

theorem clears_set_of_not_above (hp : p ≠ []) (h : Clears p tree) (hqp : ¬ q <+: p)
    (hbehind : ¬ Behind q p) (v : Json) : Clears p (set v q tree) := by
  by_cases below : p <+: q
  · obtain ⟨rest, rfl⟩ := below
    exact clears_set_below hp h rest v
  · exact clears_set h ⟨below, hqp⟩ hbehind v

private theorem without_cases (h : Apart p q) (hbehind : ¬ Behind p q) (tree : Json) :
    without q tree = tree ∨
      (∃ common a b p' part, a ≠ b ∧ (∀ i j, a = .index i → b = .index j → i < j) ∧
        p = common ++ a :: p' ∧ get? common tree = some part ∧
        without q tree = set (without [b] part) common tree) ∨
      ∃ above part v, Apart p above ∧ get? above tree = some part ∧ without q tree = set v above tree := by
  obtain ⟨common, a, b, p', q', hab, rfl, rfl⟩ := h.exists_fork
  by_cases hq : q' = []
  · subst hq
    cases hpart : get? common tree with
    | none =>
      refine Or.inl (without_of_get?_eq_none (by simp) ?_)
      rw [get?_append, hpart, Option.bind_none]
    | some part =>
      refine Or.inr (Or.inl ⟨common, a, b, p', part, hab, ?_, rfl, hpart, ?_⟩)
      · rintro i j rfl rfl
        by_contra later
        have ne : i ≠ j := fun equal => hab (by rw [equal])
        exact hbehind ⟨common, j, i, p', by omega, rfl, rfl⟩
      · exact without_append (by simp) hpart
  · obtain ⟨above, s, rfl⟩ := (List.eq_nil_or_concat q').resolve_left hq
    have split : common ++ b :: above.concat s = (common ++ b :: above) ++ [s] := by simp
    rw [split]
    cases hpart : get? (common ++ b :: above) tree with
    | none =>
      refine Or.inl (without_of_get?_eq_none (by simp) ?_)
      rw [get?_append, hpart, Option.bind_none]
    | some part =>
      exact Or.inr (Or.inr ⟨common ++ b :: above, part, _, Segment.apart_of_fork hab common p' above,
        hpart, without_append (by simp) hpart⟩)

private theorem get?_without (h : Apart p q) (hbehind : ¬ Behind p q) (tree : Json) :
    get? p (without q tree) = get? p tree := by
  rcases without_cases h hbehind tree with
    same | ⟨common, a, b, p', part, hab, before, rfl, hpart, left⟩ | ⟨above, part, v, hp, hpart, left⟩
  · rw [same]
  · rw [left, get?_append, get?_append, get?_set_self, hpart, Option.bind_some, Option.bind_some, get?,
      get?, child?_without_of_ne hab before]
  · rw [left, get?_set_of_held hp hpart]

theorem clears_without (hp : Clears p tree) (h : Apart p q) (hbehind : ¬ Behind p q) :
    Clears p (without q tree) := by
  rcases without_cases h hbehind tree with
    same | ⟨common, a, b, p', part, hab, before, rfl, hpart, left⟩ | ⟨above, part, v, hpa, hpart, left⟩
  · rwa [same]
  · rw [left]
    refine (clears_append (by simp)).mpr fun part' hpart' => ?_
    obtain rfl := Option.some.inj ((get?_set_self _ _ _).symm.trans hpart')
    exact clears_without_fork hab before ((clears_append (by simp)).mp hp part hpart)
  · rw [left]
    refine clears_set hp hpa (fun behind => ?_) v
    cases hpart.symm.trans (get?_of_behind_of_clears behind hp)

private theorem clears_without_below (hp : p ≠ []) (h : Clears p tree) (hq : q ≠ []) :
    Clears p (without (p ++ q) tree) := by
  cases hpart : get? p tree with
  | none =>
    rwa [without_of_get?_eq_none (by simp [hp])]
    rw [get?_append, hpart, Option.bind_none]
  | some part =>
    rw [without_append hq hpart]
    simpa using clears_set_below hp h [] (without q part)

/-- Gives a place back what it held, which may be nothing. -/
def putBack (p : List Segment) : Option Json → Json → Json
  | some v, tree => set v p tree
  | none, tree => without p tree

private theorem get?_putBack {old : Option Json} (h : old = none → Clears p tree) :
    get? p (putBack p old tree) = old := by
  cases old with
  | some v => exact get?_set_self p v tree
  | none => exact h rfl

private theorem putBack_of_get? (hp : p ≠ []) : putBack p (get? p tree) tree = tree := by
  cases h : get? p tree with
  | some v => exact set_of_get? h
  | none => exact without_of_get?_eq_none hp h

private theorem clears_putBack {old : Option Json} (hp : p ≠ []) (h : Clears p tree)
    (hqp : ¬ q <+: p)
    (hset : ¬ Behind q p) (herase : old = none → ¬ Behind p q) : Clears p (putBack q old tree) := by
  cases old with
  | some v => exact clears_set_of_not_above hp h hqp hset v
  | none =>
    by_cases below : p <+: q
    · obtain ⟨rest, rfl⟩ := below
      refine clears_without_below hp h ?_
      rintro rfl
      exact hqp (by simp)
    · exact clears_without h ⟨below, hqp⟩ (herase rfl)

private theorem get?_putBack_of_apart {old : Json} (h : Apart p q) (hp : get? p tree = get? p old)
    (hq : get? q (putBack q (get? q old) tree) = get? q old) :
    get? p (putBack q (get? q old) tree) = get? p old := by
  cases hy : get? q old with
  | some y =>
    by_cases excluded : Clash p q
    · rw [putBack, get?_set_of_clash excluded]
      cases hx : get? p old with
      | none => rfl
      | some x => exact absurd excluded (not_clash_of_get? hx hy)
    · rw [putBack, get?_set_of_apart h excluded (fun hx behind => ?_), hp]
      cases hy.symm.trans (get?_of_behind behind (hp.symm.trans hx))
  | none =>
    by_cases behind : Behind p q
    · rw [hy] at hq
      rw [get?_of_behind behind hq, get?_of_behind behind hy]
    · rw [putBack, get?_without h behind, hp]

/-- Two places that are given back what they held in an earlier tree, one after the other, both hold
it in the end. A place that held nothing has to be clear for removal. Of two items of one array that
held nothing, the last has to be removed first, and the other one right before it next. -/
theorem get?_putBack_putBack {old : Json} (hp : p ≠ []) (hq : q ≠ [])
    (first : get? p old = none → Clears p tree)
    (second : get? q old = none → ¬ p <+: q → ¬ Behind p q → Clears q tree)
    (last : get? p old = none → ¬ Behind q p) (next : get? q old = none → Behind p q → IsNext p q) :
    get? p (putBack q (get? q old) (putBack p (get? p old) tree)) = get? p old ∧
      get? q (putBack q (get? q old) (putBack p (get? p old) tree)) = get? q old := by
  have own : get? p (putBack p (get? p old) tree) = get? p old := get?_putBack first
  by_cases below : p <+: q
  · -- What lies below a place came back with it.
    obtain ⟨rest, rfl⟩ := below
    have same : get? (p ++ rest) (putBack p (get? p old) tree) = get? (p ++ rest) old := by
      rw [get?_append, get?_append, own]
    rw [← same, putBack_of_get? hq]
    exact ⟨own, rfl⟩
  · have clear : get? q old = none → Clears q (putBack p (get? p old) tree) := by
      intro absent
      by_cases behind : Behind p q
      · refine clears_of_isNext (next absent behind) ?_
        rw [own, get?_of_behind behind absent]
      · exact clears_putBack hq (second absent below behind) below behind last
    have there := get?_putBack clear
    refine ⟨?_, there⟩
    by_cases above : q <+: p
    · obtain ⟨rest, rfl⟩ := above
      rw [get?_append, there, ← get?_append]
    · exact get?_putBack_of_apart ⟨below, above⟩ own there

end Json

end Assay

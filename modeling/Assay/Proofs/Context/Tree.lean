/- digest: The roots of a namespace as one tree: what is read, written and removed at a place of the
   namespace is so at the steps of the tree, and which operations leave a place clear for removal.
   -/

import Assay.Proofs.Context.Reachable
import Assay.Proofs.Path.Removal
import Mathlib.Data.List.Induction

set_option autoImplicit false
set_option relaxedAutoImplicit false

namespace Assay

namespace Path

variable {p q : Path}

/-- The steps to a place from the top of the namespace: the first goes to its root. -/
def steps (p : Path) : List Segment := .key p.root :: p.segments

/-- Neither of two places lies at, above or below the other. -/
def Apart (p q : Path) : Prop := Segment.Apart p.steps q.steps

/-- A place lies in an item of an array, and the other is an item before it. -/
def Behind (q p : Path) : Prop := Segment.Behind q.steps p.steps

/-- A place is the next item of the array in which the other is an item. -/
def IsNext (q p : Path) : Prop := Segment.IsNext q.steps p.steps

instance (p q : Path) : Decidable (p.Apart q) := inferInstanceAs (Decidable (Segment.Apart _ _))

@[simp] theorem steps_ne_nil (p : Path) : p.steps ≠ [] := List.cons_ne_nil _ _

theorem Behind.root (h : q.Behind p) : q.root = p.root := by
  obtain ⟨common, i, j, rest, -, hp, hq⟩ := h
  cases common with
  | nil => cases hp
  | cons s common =>
    rw [steps, List.cons_append, List.cons.injEq] at hp hq
    exact Segment.key.inj (hq.1.trans hp.1.symm)

end Path

open Json (Clears without)

namespace Context

variable {c d : Context} {p : Path} {v : Json} {change : Change}

def tree (c : Context) : Json := .object c.roots

private theorem child?_tree (c : Context) (name : String) :
    Json.child? (.key name) c.tree = Members.get? name c.roots := rfl

theorem get?_eq_tree (h : p.root ≠ envRoot) : c.get? p = Json.get? p.steps c.tree := by
  rw [get?, root?_of_ne h, Path.steps, Json.get?, child?_tree]

private theorem tree_putRoot (c : Context) (name : String) (v : Json) :
    (c.putRoot name v).tree = Json.set v [.key name] c.tree := rfl

theorem tree_of_set (h : c.set p v = .ok (change, d)) : d.tree = Json.set v p.steps c.tree := by
  obtain ⟨-, -, rfl⟩ := set_eq_ok h
  rw [tree_putRoot, Path.steps]
  by_cases hp : p.segments = []
  · rw [hp]
    rfl
  · rw [Json.set_cons hp, child?_tree, Json.set_containerFor hp]

/-- What a removal leaves; where there is nothing to remove, all of it. -/
def without (c : Context) (p : Path) : Context :=
  match c.remove? p with
  | some (_, d) => d
  | none => c

theorem tree_without (hp : p.segments ≠ []) (c : Context) :
    (c.without p).tree = Json.without p.steps c.tree := by
  rw [Json.without, Path.steps, Json.erase?_cons hp, child?_tree, without, remove?]
  cases Members.get? p.root c.roots with
  | none => rfl
  | some root =>
    cases h : Json.erase? p.segments root with
    | none => simp [h]
    | some r => simp [h, tree, Json.set_key, Json.membersOrNone]

private theorem without_of_root (hp : p.segments = []) (c : Context) : c.without p = c := by
  rw [without, remove?, hp]
  cases Members.get? p.root c.roots <;> rfl

private theorem map_fst_remove? (hroot : p.root ≠ envRoot) (hp : p.segments ≠ []) (c : Context) :
    (c.remove? p).map (·.1) = c.get? p := by
  rw [get?, root?_of_ne hroot, remove?, Option.map_map]
  cases Members.get? p.root c.roots with
  | none => rfl
  | some root => exact Json.map_fst_erase? hp root

theorem set_of_get? (hp : p.Writable) (h : c.get? p = some v) : c.set p v = .ok (.modified, c) := by
  obtain ⟨root, hroot, held⟩ := Option.bind_eq_some_iff.mp h
  have there := hroot
  rw [root?_of_ne hp.root] at there
  rw [set_of_writable hp, h, there, Option.getD_some, Json.set_of_get? held,
    putRoot_of_root? hp.root hroot]
  rfl

theorem get?_without_of_absent (h : c.get? p = none) (q : Path) :
    (c.without p).get? q = c.get? q := by
  by_cases hroot : p.root = envRoot
  · -- The environment is read elsewhere than among the roots.
    unfold without
    split
    · rename_i old d hremove
      obtain ⟨-, tree, rfl⟩ := remove?_eq_some hremove
      refine get?_congr ?_
      by_cases hq : q.root = envRoot
      · rw [root?, root?, if_pos hq, if_pos hq, putRoot_env]
      · exact root?_putRoot_of_ne (hroot ▸ hq)
    · rfl
  · by_cases hp : p.segments = []
    · rw [without_of_root hp]
    · rw [← map_fst_remove? hroot hp, Option.map_eq_none_iff] at h
      rw [without, h]

/-- An operation that is done apart from a place: neither at it, nor above or below it, and it does
not move the place to another item either. -/
def Operation.Spares (p : Path) : Operation → Prop
  | .setRoot name _ => name ≠ p.root
  | .removeRoot name => name ≠ p.root
  | .set q _ => p.Apart q
  | .remove q => p.Apart q ∧ ¬ p.Behind q
  | .isolate => False
  | .copy | .logLine _ | .takeLog => True

/-- An operation that makes a later item of the array in which a place is an item. -/
def Operation.PutsBehind (p : Path) : Operation → Prop
  | .set q _ => q.Behind p
  | _ => False

private theorem clears_apply {o : Operation} (hspares : o.Spares p) (hbehind : ¬ o.PutsBehind p)
    (h : Clears p.steps c.tree) : Clears p.steps (o.apply c).tree := by
  cases o with
  | setRoot name v =>
    have parts : Segment.key p.root ≠ .key name := fun equal => hspares (by cases equal; rfl)
    simp only [Operation.apply]
    by_cases hname : name = envRoot
    · simpa [setRoot, hname] using h
    · rw [setRoot_of_ne hname]
      refine Json.clears_set_fork parts h ?_ [] v
      rintro - i j ⟨⟩
  | removeRoot name =>
    have parts : Segment.key p.root ≠ .key name := fun equal => hspares (by cases equal; rfl)
    simp only [Operation.apply, removeRoot]
    split
    · refine Json.clears_set_fork parts h ?_ [] (.object [])
      rintro - i j ⟨⟩
    · change Clears p.steps (.object (Members.erase name c.roots))
      rw [← Json.without_key]
      refine Json.clears_without_fork parts ?_ h
      rintro i j ⟨⟩
  | set q v =>
    simp only [Operation.apply]
    split
    · rename_i change d hset
      rw [tree_of_set hset]
      exact Json.clears_set h hspares hbehind v
    · exact h
  | remove q =>
    change Clears p.steps (c.without q).tree
    by_cases hq : q.segments = []
    · rwa [without_of_root hq]
    · rw [tree_without hq]
      exact Json.clears_without h hspares.1 hspares.2
  | isolate => exact hspares.elim
  | copy | logLine line | takeLog => exact h

/-- One namespace comes from another by operations of a kind. -/
def LedBy (allowed : Operation → Prop) (c d : Context) : Prop :=
  ∃ operations : List Operation, (∀ o ∈ operations, allowed o) ∧
    d = operations.foldl Operation.apply c

namespace LedBy

variable {allowed : Operation → Prop}

theorem refl (c : Context) : LedBy allowed c c := ⟨[], by simp, rfl⟩

private theorem apply (h : LedBy allowed c d) {o : Operation} (ho : allowed o) :
    LedBy allowed c (o.apply d) := by
  obtain ⟨operations, each, rfl⟩ := h
  refine ⟨operations ++ [o], ?_, by rw [List.foldl_append]; rfl⟩
  intro o' ho'
  rcases List.mem_append.mp ho' with earlier | last
  · exact each o' earlier
  · exact List.mem_singleton.mp last ▸ ho

theorem set (h : LedBy allowed c d) (hp : ∀ v, allowed (.set p v)) {e : Context}
    (hset : d.set p v = .ok (change, e)) : LedBy allowed c e := by
  have led := h.apply (hp v)
  simpa only [Operation.apply, hset] using led

theorem logBlind (hline : ∀ line, allowed (.logLine line)) (htake : allowed .takeLog) :
    LogBlind (LedBy allowed c) := by
  intro d lines h
  induction lines using List.reverseRecOn with
  | nil => exact h.apply htake
  | append_singleton lines line ih => exact ih.apply (hline line)

/-- Operations apart from a place keep it clear for removal, if none makes a later item. -/
theorem clears (h : LedBy allowed c d) (hp : ∀ o, allowed o → o.Spares p ∧ ¬ o.PutsBehind p)
    (hc : Clears p.steps c.tree) : Clears p.steps d.tree := by
  obtain ⟨operations, each, rfl⟩ := h
  induction operations generalizing c with
  | nil => exact hc
  | cons o rest ih =>
    obtain ⟨own, others⟩ := List.forall_mem_cons.mp each
    obtain ⟨apart, clear⟩ := hp o own
    exact ih (clears_apply apart clear hc) others

end LedBy

end Context

end Assay

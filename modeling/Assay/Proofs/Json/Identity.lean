/- digest: Identity of values does not depend on the side, where objects have each name once, as
   they have in every document that is read. -/

import Mathlib.Data.List.Perm.Subperm
import Assay.Json.Draft
import Assay.Proofs.Members
import Assay.Proofs.Selector.Reading

set_option autoImplicit false
set_option relaxedAutoImplicit false

namespace Assay

private theorem Number.same_comm (m n : Number) : m.same n = n.same m := by
  cases m with
  | int i =>
    cases n with
    | int j => exact Bool.beq_comm
    | float b => rfl
  | float a =>
    cases n with
    | int j => rfl
    | float b => exact Bool.beq_comm

namespace Json

/-- Objects have each name once, at every depth. -/
inductive UniqueNames : Json → Prop
  | null : UniqueNames .null
  | bool (b : Bool) : UniqueNames (.bool b)
  | number (n : Number) : UniqueNames (.number n)
  | string (s : String) : UniqueNames (.string s)
  | array {items : List Json} (inside : ∀ v ∈ items, UniqueNames v) : UniqueNames (.array items)
  | object {members : Members Json} (once : (Members.names members).Nodup)
      (inside : ∀ e ∈ members, UniqueNames e.2) : UniqueNames (.object members)

variable {x y : Json} {items others : List Json} {members more : Members Json}

/-- Identical values are one value, or numbers with a point of one value, or they have parts. -/
theorem same_cases (h : x.same y = true) : x = y ∨
    (∃ a b : Double, x = .number (.float a) ∧ y = .number (.float b) ∧ a.same b = true) ∨
    (∃ items others, x = .array items ∧ y = .array others) ∨
    ∃ members more, x = .object members ∧ y = .object more := by
  cases x with
  | null => cases y <;> simp_all [same]
  | bool b => cases y <;> simp_all [same]
  | string s => cases y <;> simp_all [same]
  | array items => cases y <;> simp_all [same]
  | object members => cases y <;> simp_all [same]
  | number n =>
    cases y with
    | number m =>
      rw [same] at h
      cases n with
      | int i => cases m <;> simp_all [Number.same]
      | float a => cases m <;> simp_all [Number.same]
    | null | bool _ | string _ | array _ | object _ => simp [same] at h

private theorem sameItems_symm (turn : ∀ v ∈ items, ∀ w ∈ others, v.same w = true → w.same v = true)
    (h : sameItems items others = true) : sameItems others items = true := by
  induction items generalizing others with
  | nil =>
    cases others with
    | nil => rfl
    | cons w rest => simp [sameItems] at h
  | cons v items ih =>
    cases others with
    | nil => simp [sameItems] at h
    | cons w others =>
      simp only [sameItems, Bool.and_eq_true] at h ⊢
      refine ⟨turn v List.mem_cons_self w List.mem_cons_self h.1, ih ?_ h.2⟩
      intro a ha b hb
      exact turn a (List.mem_cons_of_mem v ha) b (List.mem_cons_of_mem w hb)

private theorem sameMembers_iff : sameMembers members more = true ↔
    ∀ e ∈ members, ∃ w, Members.get? e.1 more = some w ∧ e.2.same w = true := by
  induction members with
  | nil => simp [sameMembers]
  | cons e members ih =>
    obtain ⟨k, v⟩ := e
    have first : memberPasses (same v) k more = true ↔
        ∃ w, Members.get? k more = some w ∧ v.same w = true := by
      unfold memberPasses
      cases Members.get? k more <;> simp
    simp only [sameMembers, Bool.and_eq_true, ih, first, List.forall_mem_cons]

private theorem sameMembers_symm (once : (Members.names members).Nodup)
    (once' : (Members.names more).Nodup)
    (length : members.length = more.length)
    (turn : ∀ e ∈ members, ∀ e' ∈ more, e.2.same e'.2 = true → e'.2.same e.2 = true)
    (h : sameMembers members more = true) : sameMembers more members = true := by
  rw [sameMembers_iff] at h ⊢
  have inside : Members.names members ⊆ Members.names more := by
    intro name hname
    obtain ⟨e, he, rfl⟩ := List.mem_map.mp hname
    obtain ⟨w, found, -⟩ := h e he
    exact List.mem_map.mpr ⟨_, Members.mem_of_get? found, rfl⟩
  have all : (Members.names members).Perm (Members.names more) := by
    refine (once.subperm inside).perm_of_length_le ?_
    simp [Members.names, length]
  intro e' he'
  have named : e'.1 ∈ Members.names members := all.symm.subset (List.mem_map.mpr ⟨e', he', rfl⟩)
  obtain ⟨e, he, same_name⟩ := List.mem_map.mp named
  obtain ⟨w, found, identical⟩ := h e he
  have unique : w = e'.2 := by
    have there := Members.get?_of_mem once' he'
    rw [← same_name, found] at there
    exact Option.some.inj there
  refine ⟨e.2, ?_, turn e he e' he' (unique ▸ identical)⟩
  rw [← same_name]
  exact Members.get?_of_mem once he

private theorem same_symm (hx : x.UniqueNames) (hy : y.UniqueNames) (h : x.same y = true) :
    y.same x = true := by
  induction hx generalizing y with
  | null => cases y <;> simp_all [same]
  | bool b => cases y <;> simp_all [same]
  | string s => cases y <;> simp_all [same]
  | number n =>
    cases hy with
    | number m =>
      rw [same] at h ⊢
      exact (Number.same_comm m n).trans h
    | null | bool _ | string _ | array _ | object _ _ => simp [same] at h
  | array inside ih =>
    cases hy with
    | array inside' =>
      rw [same] at h ⊢
      exact sameItems_symm (fun v hv w hw => ih v hv (inside' w hw)) h
    | null | bool _ | number _ | string _ | object _ _ => simp [same] at h
  | object once inside ih =>
    cases hy with
    | object once' inside' =>
      simp only [same, Bool.and_eq_true, beq_iff_eq] at h ⊢
      exact ⟨h.1.symm, sameMembers_symm once once' h.1
        (fun e he e' he' => ih e he (inside' e' he')) h.2⟩
    | null | bool _ | number _ | string _ | array _ => simp [same] at h

theorem same_comm (hx : x.UniqueNames) (hy : y.UniqueNames) : x.same y = y.same x :=
  Bool.eq_iff_iff.mpr ⟨same_symm hx hy, same_symm hy hx⟩

private theorem uniqueNames_put {name : String} {v : Json} (hv : v.UniqueNames)
    (h : ∀ e ∈ members, e.2.UniqueNames) : ∀ e ∈ Members.put name v members, e.2.UniqueNames := by
  induction members with
  | nil =>
    intro e he
    rw [List.mem_singleton.mp he]
    exact hv
  | cons first members ih =>
    obtain ⟨k, u⟩ := first
    rw [List.forall_mem_cons] at h
    rw [Members.put]
    split
    · exact List.forall_mem_cons.mpr ⟨hv, h.2⟩
    · exact List.forall_mem_cons.mpr ⟨h.1, ih h.2⟩

namespace Draft

open Selector.Move (bind_eq_ok)

mutual

private theorem uniqueNames_toJson {room : Room} {v : Json} :
    {draft : Draft} → draft.toJson room = .ok v → v.UniqueNames
  | .null, h => by
    cases h
    exact .null
  | .bool b, h => by
    cases h
    exact .bool b
  | .number n, h => by
    cases h
    exact .number n
  | .string s, h => by
    cases h
    exact .string s
  | .invalid _, h => by cases h
  | .broken _, h => by cases h
  | .array items flaw, h => by
    rw [toJson] at h
    obtain ⟨inner, -, h⟩ := bind_eq_ok.mp h
    obtain ⟨values, read, h⟩ := bind_eq_ok.mp h
    cases flaw with
    | some f => cases h
    | none =>
      cases h
      exact .array (uniqueNames_toItems read)
  | .object members flaw, h => by
    rw [toJson] at h
    obtain ⟨inner, -, h⟩ := bind_eq_ok.mp h
    obtain ⟨values, read, h⟩ := bind_eq_ok.mp h
    cases flaw with
    | some f => cases h
    | none =>
      cases h
      have empty : (Members.names ([] : Members Json)).Nodup := List.nodup_nil
      obtain ⟨once, inside⟩ := uniqueNames_toMembers empty (by simp) read
      exact .object once inside

theorem uniqueNames_toItems {room : Room} {values : List Json} :
    {drafts : List Draft} → toItems room drafts = .ok values → ∀ v ∈ values, v.UniqueNames
  | [], h => by
    cases h
    simp
  | draft :: drafts, h => by
    rw [toItems] at h
    obtain ⟨first, hfirst, h⟩ := bind_eq_ok.mp h
    obtain ⟨rest, hrest, h⟩ := bind_eq_ok.mp h
    cases h
    exact List.forall_mem_cons.mpr ⟨uniqueNames_toJson hfirst, uniqueNames_toItems hrest⟩

theorem uniqueNames_toMembers {room : Room} {done values : Members Json} :
    {drafts : List (String × Draft)} → (Members.names done).Nodup →
      (∀ e ∈ done, e.2.UniqueNames) → toMembers room done drafts = .ok values →
      (Members.names values).Nodup ∧ ∀ e ∈ values, e.2.UniqueNames
  | [], once, inside, h => by
    cases h
    exact ⟨once, inside⟩
  | (k, draft) :: drafts, once, inside, h => by
    rw [toMembers] at h
    obtain ⟨first, hfirst, h⟩ := bind_eq_ok.mp h
    exact uniqueNames_toMembers (Members.nodup_put once k first)
      (uniqueNames_put (uniqueNames_toJson hfirst) inside) h

end

end Draft

/-- A document that is read has each name once in every object. -/
theorem uniqueNames_read {text : String} {v : Json} (h : read text = .ok v) : v.UniqueNames := by
  rw [read] at h
  generalize Draft.ofText text = drafted at h
  obtain ⟨draft, trailing⟩ := drafted
  obtain ⟨value, whole, h⟩ := Selector.Move.bind_eq_ok.mp h
  cases trailing with
  | some f => cases h
  | none =>
    cases h
    exact Draft.uniqueNames_toJson whole

end Json

end Assay

/- digest: Laws of ordered members: what a write and a removal do to the things under the names, and
   to the names themselves. -/

import Assay.Json.Basic
import Mathlib.Data.List.Nodup

set_option autoImplicit false
set_option relaxedAutoImplicit false

namespace Assay.Members

variable {α : Type}

@[simp] theorem get?_put_self (name : String) (v : α) (m : Members α) :
    get? name (put name v m) = some v := by
  induction m with
  | nil => simp [put, get?]
  | cons e m ih =>
    obtain ⟨k, u⟩ := e
    by_cases h : k = name <;> simp [put, get?, h, ih]

theorem get?_put_of_ne {name other : String} (h : other ≠ name) (v : α) (m : Members α) :
    get? other (put name v m) = get? other m := by
  induction m with
  | nil => simp [put, get?, h.symm]
  | cons e m ih =>
    obtain ⟨k, u⟩ := e
    by_cases hk : k = name
    · subst hk
      simp [put, get?, h.symm]
    · simp [put, get?, hk, ih]

theorem get?_isSome_iff (name : String) (m : Members α) :
    (get? name m).isSome = true ↔ name ∈ names m := by
  induction m with
  | nil => simp [get?, names]
  | cons e m ih =>
    obtain ⟨k, u⟩ := e
    by_cases h : k = name
    · simp [get?, names, h]
    · have other : name ≠ k := fun equal => h equal.symm
      simpa [get?, names, h, other] using ih

theorem mem_of_get? {name : String} {v : α} {m : Members α} (h : get? name m = some v) :
    (name, v) ∈ m := by
  induction m with
  | nil => cases h
  | cons e m ih =>
    obtain ⟨k, u⟩ := e
    rw [get?] at h
    split at h
    · rename_i equal
      cases h
      exact equal ▸ List.mem_cons_self
    · exact List.mem_cons_of_mem _ (ih h)

theorem get?_of_mem {name : String} {v : α} {m : Members α}
    (once : (names m).Nodup) (h : (name, v) ∈ m) : get? name m = some v := by
  induction m with
  | nil => cases h
  | cons e m ih =>
    obtain ⟨k, u⟩ := e
    obtain ⟨fresh, rest⟩ := List.nodup_cons.mp once
    rcases List.mem_cons.mp h with first | later
    · cases first
      simp [get?]
    · have other : k ≠ name := by
        rintro rfl
        exact fresh (List.mem_map.mpr ⟨_, later, rfl⟩)
      rw [get?, if_neg other]
      exact ih rest later

theorem names_put_of_mem {name : String} {m : Members α} (h : name ∈ names m) (v : α) :
    names (put name v m) = names m := by
  induction m with
  | nil => simp [names] at h
  | cons e m ih =>
    obtain ⟨k, u⟩ := e
    by_cases hk : k = name
    · simp [put, names, hk]
    · have rest : name ∈ names m := by
        rcases List.mem_cons.mp h with equal | rest
        · exact absurd equal.symm hk
        · exact rest
      have tail := ih rest
      simp only [names] at tail
      simp [put, names, hk, tail]

theorem put_of_not_mem {name : String} {m : Members α} (h : name ∉ names m) (v : α) :
    put name v m = m ++ [(name, v)] := by
  induction m with
  | nil => rfl
  | cons e m ih =>
    obtain ⟨k, u⟩ := e
    have hk : k ≠ name := fun equal => h (by simp [names, equal])
    have rest : name ∉ names m := fun inside => h (List.mem_cons_of_mem _ inside)
    simp [put, hk, ih rest]

theorem names_put_of_not_mem {name : String} {m : Members α} (h : name ∉ names m) (v : α) :
    names (put name v m) = names m ++ [name] := by
  simp [put_of_not_mem h, names]

theorem mem_names_put {name other : String} {v : α} {m : Members α} :
    other ∈ names (put name v m) ↔ other = name ∨ other ∈ names m := by
  by_cases h : name ∈ names m
  · rw [names_put_of_mem h]
    constructor
    · exact Or.inr
    · rintro (rfl | inside)
      · exact h
      · exact inside
  · rw [names_put_of_not_mem h, List.mem_append, List.mem_singleton, or_comm]

theorem nodup_put {m : Members α} (h : (names m).Nodup) (name : String) (v : α) :
    (names (put name v m)).Nodup := by
  by_cases hm : name ∈ names m
  · rwa [names_put_of_mem hm]
  · rw [names_put_of_not_mem hm, List.nodup_append]
    refine ⟨h, by simp, ?_⟩
    intro a ha b hb
    obtain rfl := List.mem_singleton.mp hb
    exact fun equal => hm (equal ▸ ha)

theorem put_put (name : String) (u v : α) (m : Members α) :
    put name v (put name u m) = put name v m := by
  induction m with
  | nil => simp [put]
  | cons e m ih =>
    obtain ⟨k, w⟩ := e
    by_cases h : k = name <;> simp [put, h, ih]

theorem getElem?_put_of_ne {name other : String} (h : other ≠ name) (u v : α) (m : Members α)
    (i : Nat) : (put name v m)[i]? = some (other, u) ↔ m[i]? = some (other, u) := by
  induction m generalizing i with
  | nil => cases i <;> simp [put, h.symm]
  | cons e m ih =>
    obtain ⟨k, x⟩ := e
    by_cases hk : k = name
    · subst hk
      cases i <;> simp [put, h.symm]
    · cases i with
      | zero => simp [put, hk]
      | succ i => simpa [put, hk] using ih i

theorem put_of_get? {name : String} {v : α} {m : Members α} (h : get? name m = some v) :
    put name v m = m := by
  induction m with
  | nil => cases h
  | cons e m ih =>
    obtain ⟨k, u⟩ := e
    by_cases hk : k = name
    · obtain rfl : u = v := by simpa [get?, hk] using h
      simp [put, hk]
    · have rest : get? name m = some v := by simpa [get?, hk] using h
      simp [put, hk, ih rest]

theorem names_erase_sublist (name : String) (m : Members α) :
    (names (erase name m)).Sublist (names m) := by
  induction m with
  | nil => exact List.Sublist.slnil
  | cons e m ih =>
    obtain ⟨k, u⟩ := e
    by_cases h : k = name
    · simp [erase, names, h]
    · simpa [erase, names, h] using ih

theorem mem_names_erase_of_ne {name other : String} {m : Members α} (h : other ≠ name) :
    other ∈ names (erase name m) ↔ other ∈ names m := by
  induction m with
  | nil => rfl
  | cons e m ih =>
    obtain ⟨k, u⟩ := e
    by_cases hk : k = name
    · subst hk
      simp [erase, names, h]
    · simp only [names] at ih
      simp [erase, names, hk, ih]

theorem erase_of_get?_none {name : String} {m : Members α} (h : get? name m = none) :
    erase name m = m := by
  induction m with
  | nil => rfl
  | cons e m ih =>
    obtain ⟨k, u⟩ := e
    by_cases hk : k = name
    · simp [get?, hk] at h
    · have rest : get? name m = none := by simpa [get?, hk] using h
      simp [erase, hk, ih rest]

theorem get?_erase_of_ne {name other : String} (h : other ≠ name) (m : Members α) :
    get? other (erase name m) = get? other m := by
  induction m with
  | nil => rfl
  | cons e m ih =>
    obtain ⟨k, u⟩ := e
    by_cases hk : k = name
    · subst hk
      simp [erase, get?, h.symm]
    · simp [erase, get?, hk, ih]

theorem erase_put_self (name : String) (v : α) (m : Members α) :
    erase name (put name v m) = erase name m := by
  induction m with
  | nil => simp [put, erase]
  | cons e m ih =>
    obtain ⟨k, u⟩ := e
    by_cases hk : k = name <;> simp [put, erase, hk, ih]

theorem erase_put_of_ne {name other : String} (h : other ≠ name) (v : α) (m : Members α) :
    erase other (put name v m) = put name v (erase other m) := by
  induction m with
  | nil => simp [put, erase, h.symm]
  | cons e m ih =>
    obtain ⟨k, u⟩ := e
    by_cases hk : k = name
    · subst hk
      simp [put, erase, h.symm]
    · by_cases ho : k = other
      · subst ho
        simp [put, erase, hk]
      · simp [put, erase, hk, ho, ih]

theorem erase_comm {name other : String} (h : other ≠ name) (m : Members α) :
    erase name (erase other m) = erase other (erase name m) := by
  induction m with
  | nil => rfl
  | cons e m ih =>
    obtain ⟨k, u⟩ := e
    by_cases hk : k = name
    · subst hk
      simp [erase, h.symm]
    · by_cases ho : k = other
      · subst ho
        simp [erase, hk]
      · simp [erase, hk, ho, ih]

theorem nodup_erase {m : Members α} (h : (names m).Nodup) (name : String) :
    (names (erase name m)).Nodup := h.sublist (names_erase_sublist name m)

@[simp] theorem putAll_nil (m : Members α) : putAll m [] = m := rfl

@[simp] theorem putAll_cons (m : Members α) (name : String) (v : α) (more : Members α) :
    putAll m ((name, v) :: more) = putAll (put name v m) more := rfl

theorem putAll_eq_append {m more : Members α} (h : (names (m ++ more)).Nodup) :
    putAll m more = m ++ more := by
  induction more generalizing m with
  | nil => simp [putAll]
  | cons e more ih =>
    obtain ⟨k, v⟩ := e
    have fresh : k ∉ names m := by
      intro inside
      simp only [names, List.map_append, List.map_cons] at h inside
      exact (List.nodup_append.mp h).2.2 k inside k (by simp) rfl
    have split : m ++ (k, v) :: more = m ++ [(k, v)] ++ more := by simp
    rw [putAll_cons, put_of_not_mem fresh, split]
    rw [split] at h
    exact ih h

theorem putAll_nil_of_nodup {m : Members α} (h : (names m).Nodup) : putAll [] m = m :=
  putAll_eq_append h

end Assay.Members

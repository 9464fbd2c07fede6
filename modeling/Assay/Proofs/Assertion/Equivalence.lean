/- digest: Equality of values is reflexive and symmetric, and on scalars it is an equivalence: there
   it asks whether the texts of two values have one meaning, as an instant, as a number or as they
   stand. -/

import Assay.Proofs.Assertion.Ordering
import Assay.Proofs.Number.Printed

set_option autoImplicit false
set_option relaxedAutoImplicit false

namespace Assay

/-- A value without parts. -/
def Json.IsScalar : Json → Prop
  | .array _ => False
  | .object _ => False
  | _ => True

namespace Compare

variable {x y z : Json}

private theorem instant?_plainText (h : x.IsScalar) :
    instant? (.string x.plainText) = instant? x := by
  cases x with
  | null => decide +kernel
  | bool b => cases b <;> decide +kernel
  | number n =>
    cases n with
    | int i => exact instant?_toString_int i
    | float d =>
      have spelled : number? (.string (Number.float d).render) = some d := number?_render (.float d)
      exact instant?_of_number? spelled
  | string s => rfl
  | array items => cases h
  | object members => cases h

private theorem number?_plainText (h : x.IsScalar) : number? (.string x.plainText) = number? x := by
  cases x with
  | null => decide +kernel
  | bool b => cases b <;> decide +kernel
  | number n => exact number?_render n
  | string s => rfl
  | array items => cases h
  | object members => cases h

/-- What a value is compared by. -/
inductive Meaning
  | instant (i : Instant)
  | number (rank : Int)
  | text (s : String)
  deriving DecidableEq

/-- The meaning of a value: its instant, else its number, else its text. -/
def meaning (v : Json) : Meaning :=
  match instant? v with
  | some i => .instant i
  | none =>
    match number? v with
    | some d => .number d.rank
    | none => .text v.plainText

private theorem meaning_of_instant {i : Instant} (h : instant? x = some i) :
    meaning x = .instant i := by
  rw [meaning, h]

private theorem meaning_of_number {d : Double} (h : number? x = some d) :
    meaning x = .number d.rank := by
  simp only [meaning, instant?_of_number? h, h]

private theorem meaning_plainText (h : x.IsScalar) : meaning (.string x.plainText) = meaning x := by
  rw [meaning, instant?_plainText h, number?_plainText h]
  rfl

private theorem instant?_of_meaning {i : Instant} (h : meaning x = .instant i) :
    instant? x = some i := by
  unfold meaning at h
  split at h
  · rename_i found
    cases h
    exact found
  · split at h <;> cases h

private theorem number?_of_meaning {rank : Int} (h : meaning x = .number rank) :
    ∃ d, number? x = some d ∧ d.rank = rank := by
  unfold meaning at h
  split at h
  · cases h
  · split at h
    · rename_i d found
      cases h
      exact ⟨d, found, rfl⟩
    · cases h

private theorem plainText_of_meaning {s : String} (h : meaning x = .text s) : x.plainText = s := by
  unfold meaning at h
  split at h
  · cases h
  · split at h
    · cases h
    · exact Meaning.text.inj h

private theorem Comparable.symm (h : Comparable x y) : Comparable y x := by
  rcases h with ⟨i, j, hx, hy⟩ | ⟨a, b, hx, hy⟩
  · exact .inl ⟨j, i, hy, hx⟩
  · exact .inr ⟨b, a, hy, hx⟩

private theorem equal_of_not_comparable (h : ¬ Comparable x y) :
    equal x y = (x.same y || x.plainText == y.plainText) := by
  unfold equal
  split
  · rename_i identical
    rw [identical, Bool.true_or]
  · rename_i distinct
    rw [Bool.not_eq_true] at distinct
    rw [distinct, Bool.false_or]
    split
    · rename_i i j hx hy
      exact absurd (.inl ⟨i, j, hx, hy⟩) h
    · split
      · rename_i a b hx hy
        exact absurd (.inr ⟨a, b, hx, hy⟩) h
      · rfl

private theorem equal_self (v : Json) : equal v v = true := by
  by_cases h : Comparable v v
  · rcases h with ⟨i, j, hi, hj⟩ | ⟨a, b, ha, hb⟩
    · exact (equal_of_instants hi hj).mpr (Option.some.inj (hi.symm.trans hj))
    · obtain rfl := Option.some.inj (ha.symm.trans hb)
      rw [equal_of_numbers ha ha]
      simp [Double.same]
  · rw [equal_of_not_comparable h, beq_self_eq_true, Bool.or_true]

private theorem equal_comm (hx : x.UniqueNames) (hy : y.UniqueNames) : equal x y = equal y x := by
  by_cases h : Comparable x y
  · obtain ⟨order, -, turned, first⟩ := exists_order h
    obtain ⟨order', found, -, second⟩ := exists_order h.symm
    obtain rfl : order' = order.swap := Option.some.inj (found.symm.trans turned)
    rw [Bool.eq_iff_iff, first, second]
    cases order <;> decide
  · have none : ¬ Comparable y x := fun turned => h turned.symm
    rw [equal_of_not_comparable h, equal_of_not_comparable none, Json.same_comm hx hy, Bool.beq_comm]

private theorem plainText_of_same (h : ¬ Comparable x y) (hx : x.IsScalar)
    (identical : x.same y = true) :
    x.plainText = y.plainText := by
  rcases Json.same_cases identical with rfl | ⟨a, b, rfl, rfl, -⟩ | ⟨items, others, rfl, rfl⟩ |
    ⟨members, more, rfl, rfl⟩
  · rfl
  · exact absurd (.inr ⟨a, b, rfl, rfl⟩) h
  · cases hx
  · cases hx

private theorem equal_iff_meaning (hx : x.IsScalar) (hy : y.IsScalar) :
    equal x y = true ↔ meaning x = meaning y := by
  by_cases h : Comparable x y
  · rcases h with ⟨i, j, hi, hj⟩ | ⟨a, b, ha, hb⟩
    · rw [equal_of_instants hi hj, meaning_of_instant hi, meaning_of_instant hj, Meaning.instant.injEq]
    · rw [equal_of_numbers ha hb, meaning_of_number ha, meaning_of_number hb, Meaning.number.injEq,
        Double.same, beq_iff_eq]
  · rw [equal_of_not_comparable h, Bool.or_eq_true, beq_iff_eq]
    constructor
    · intro alike
      have text : x.plainText = y.plainText := alike.elim (plainText_of_same h hx) id
      rw [← meaning_plainText hx, text, meaning_plainText hy]
    · -- Two values with one meaning as an instant or a number would have an order.
      intro one
      right
      cases meant : meaning x with
      | instant i =>
        exact absurd (.inl ⟨i, i, instant?_of_meaning meant, instant?_of_meaning (one ▸ meant)⟩) h
      | number rank =>
        obtain ⟨a, ha, -⟩ := number?_of_meaning meant
        obtain ⟨b, hb, -⟩ := number?_of_meaning (one ▸ meant)
        exact absurd (.inr ⟨a, b, ha, hb⟩) h
      | text s => exact (plainText_of_meaning meant).trans (plainText_of_meaning (one ▸ meant)).symm

/-- Equality is reflexive; it is symmetric on values with unique names, and transitive on scalars,
where it asks for one meaning and nothing else. -/
theorem equal_is_equivalence : (∀ v, equal v v = true) ∧
    (∀ x y, x.UniqueNames → y.UniqueNames → equal x y = equal y x) ∧
    (∀ x y z, x.IsScalar → y.IsScalar → z.IsScalar →
      equal x y = true → equal y z = true → equal x z = true) ∧
    ∀ x y, x.IsScalar → y.IsScalar → (equal x y = true ↔ meaning x = meaning y) := by
  refine ⟨equal_self, fun x y => equal_comm, ?_, fun x y => equal_iff_meaning⟩
  intro x y z hx hy hz first second
  rw [equal_iff_meaning hx hy] at first
  rw [equal_iff_meaning hy hz] at second
  rw [equal_iff_meaning hx hz]
  exact first.trans second

/-- An object, and the same members in another order. -/
def pairs : Json × Json :=
  (.object [("a", .int 1), ("b", .object [])], .object [("b", .object []), ("a", .int 1)])

theorem equal_across_forms :
    (equal (.string "2024-01-01T00:00:00Z") (.string "2024-01-01T01:00:00+01:00") = true ∧
      equal (.string "2024-01-01T01:00:00+01:00") (.string "2024-01-01") = true ∧
      equal (.string "2024-01-01T00:00:00Z") (.string "2024-01-01") = true) ∧
    (equal (.string " 1e3") (.int 1000) = true ∧ equal (.int 1000) (.string "1000.0") = true ∧
      equal (.string " 1e3") (.string "1000.0") = true) ∧
    (pairs.1.UniqueNames ∧ pairs.2.UniqueNames ∧ equal pairs.1 pairs.2 = true ∧
      equal pairs.2 pairs.1 = true) ∧
    equal (.array []) (.array []) = true ∧
    ¬ equal (.string "2024-01-01") (.string "2024") = true := by
  obtain ⟨refl, symm, trans, meanings⟩ := equal_is_equivalence
  have offsets : equal (.string "2024-01-01T00:00:00Z") (.string "2024-01-01T01:00:00+01:00") = true ∧
      equal (.string "2024-01-01T01:00:00+01:00") (.string "2024-01-01") = true := by decide +kernel
  have spellings : equal (.string " 1e3") (.int 1000) = true ∧
      equal (.int 1000) (.string "1000.0") = true := by decide +kernel
  have one : pairs.1.UniqueNames := by
    refine .object (by decide) ?_
    simp only [List.forall_mem_cons]
    exact ⟨.number _, .object (by decide) (by simp), by simp⟩
  have other : pairs.2.UniqueNames := by
    refine .object (by decide) ?_
    simp only [List.forall_mem_cons]
    exact ⟨.object (by decide) (by simp), .number _, by simp⟩
  have members : equal pairs.1 pairs.2 = true := by decide +kernel
  have apart : meaning (.string "2024-01-01") ≠ meaning (.string "2024") := by decide +kernel
  refine ⟨⟨offsets.1, offsets.2, ?_⟩, ⟨spellings.1, spellings.2, ?_⟩, ⟨one, other, members, ?_⟩,
    refl _, ?_⟩
  · exact trans _ (.string _) _ trivial trivial trivial offsets.1 offsets.2
  · exact trans _ (.int _) _ trivial trivial trivial spellings.1 spellings.2
  · exact symm _ _ one other ▸ members
  · exact fun equal => apart ((meanings (.string _) (.string _) trivial trivial).mp equal)

end Compare

end Assay

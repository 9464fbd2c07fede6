/- digest: How whole numbers compare, given as numbers or by their digits: in the order of the
   numbers that they are rounded to, and so in their own order wherever rounding keeps them apart.
   -/

import Assay.Proofs.Assertion.Success
import Assay.Proofs.Instant.Dashed
import Assay.Proofs.Number.Order
import Assay.Proofs.Token.Settled

set_option autoImplicit false
set_option relaxedAutoImplicit false

namespace Assay

/-- A value is a whole number of 64 bits, signed or not: the number itself, or text with its digits.
-/
structure IsWhole (v : Json) (i : Int) : Prop where
  bounds : -2 ^ 63 ≤ i ∧ i < 2 ^ 64
  form : v = .int i ∨ v = .string (toString i)

namespace IsWhole

variable {x y z : Json} {i j k : Int}

private theorem natAbs_lt (h : IsWhole x i) : i.natAbs < 2 ^ 64 := by
  obtain ⟨low, high⟩ := h.bounds
  omega

private theorem number?_eq (h : IsWhole x i) : Compare.number? x = Double.ofInt? i := by
  rcases h.form with rfl | rfl
  · rfl
  · exact Compare.number?_toString_int i

private theorem exists_number (h : IsWhole x i) :
    ∃ d, Compare.number? x = some d ∧ d.rank = Double.wholeRank i := by
  obtain ⟨d, hd, rank⟩ := Double.exists_ofInt? h.natAbs_lt
  exact ⟨d, h.number?_eq.trans hd, rank⟩

private theorem instant?_eq (h : IsWhole x i) : Compare.instant? x = none := by
  obtain ⟨d, hd, -⟩ := h.exists_number
  exact Compare.instant?_of_number? hd

private theorem not_live (h : IsWhole x i) : ∀ s ∈ x.texts, Token.isLive s = false := by
  intro s hs
  rcases h.form with rfl | rfl
  · cases hs
  · obtain rfl := List.mem_singleton.mp hs
    have plain {c : Char} (hc : c ≠ '-') (other : Text.isDigit c = false) :
        c ∉ (toString i).toList := fun inside => by
      rcases isDigit_or_sign_of_mem_toString inside with digit | sign
      · simp [digit] at other
      · exact hc sign
    have brace := plain (c := '{') (by decide) (by decide)
    rw [Token.isLive, Token.hasTokens, Token.scan, Token.any_isToken_pieces brace, Bool.false_or]
    cases name : Token.variableName? (toString i) with
    | none => rfl
    | some n =>
      obtain ⟨c, cs, equal, -⟩ := Token.exists_of_variableName? name
      rw [equal] at brace
      exact absurd (by simp) brace

end IsWhole

namespace Compare

variable {x y z : Json} {i j k : Int}

private theorem same_rank_of_same (hx : IsWhole x i) (hy : IsWhole y j) (h : x.same y = true) :
    Double.wholeRank i = Double.wholeRank j := by
  have same : number? x = number? y := by
    rcases hx.form with rfl | rfl <;> rcases hy.form with rfl | rfl <;>
      simp only [Json.int, Json.same, Number.same, beq_iff_eq, Bool.false_eq_true] at h
    · rw [h]
    · rw [h]
  obtain ⟨d, hd, rank⟩ := hx.exists_number
  obtain ⟨e, he, rank'⟩ := hy.exists_number
  obtain rfl : d = e := Option.some.inj (hd.symm.trans (same.trans he))
  exact rank.symm.trans rank'

private theorem equal_of_whole (hx : IsWhole x i) (hy : IsWhole y j) :
    equal x y = true ↔ Double.wholeRank i = Double.wholeRank j := by
  obtain ⟨d, hd, rank⟩ := hx.exists_number
  obtain ⟨e, he, rank'⟩ := hy.exists_number
  unfold equal
  split
  · exact ⟨fun _ => same_rank_of_same hx hy ‹_›, fun _ => rfl⟩
  · simp only [hx.instant?_eq, hd, he, Double.same, rank, rank', beq_iff_eq]

private theorem order?_of_whole (hx : IsWhole x i) (hy : IsWhole y j) :
    order? x y = some (compare (Double.wholeRank i) (Double.wholeRank j)) := by
  obtain ⟨d, hd, rank⟩ := hx.exists_number
  obtain ⟨e, he, rank'⟩ := hy.exists_number
  simp only [order?, hx.instant?_eq, hd, he, orderNumbers, Double.less, Double.same, rank, rank',
    decide_eq_true_eq, beq_iff_eq, compare, compareOfLessAndEq]

end Compare

namespace Operator

def relation? : Operator → Option (Int → Int → Prop)
  | .equals => some (· = ·)
  | .notEquals => some (· ≠ ·)
  | .greaterThan => some (· > ·)
  | .greaterOrEqual => some (· ≥ ·)
  | .lessThan => some (· < ·)
  | .lessOrEqual => some (· ≤ ·)
  | _ => none

/-- Under any name, description and secrecy and in any scope, an assertion with an operator and two
operands has an outcome and logs nothing, and it succeeds exactly if a condition holds. -/
def Decides (o : Operator) (x y : Json) (condition : Prop) : Prop :=
  ∀ (a : Assertion) (scope : Scope), a.operation = o.operation → a.operands.actual = x →
    a.operands.expected = y → ∃ f, a.execute scope = .ok ⟨f, []⟩ ∧ (f.success = true ↔ condition)

variable {o : Operator} {x y z : Json} {i j k : Int} {p q : Prop}

private theorem Decides.congr (h : o.Decides x y p) (equivalent : p ↔ q) : o.Decides x y q := by
  intro a scope operation actual expected
  obtain ⟨f, run, success⟩ := h a scope operation actual expected
  exact ⟨f, run, success.trans equivalent⟩

private theorem decides_of_not_live (hx : ∀ s ∈ x.texts, Token.isLive s = false)
    (hy : ∀ s ∈ y.texts, Token.isLive s = false)
    (need : ∀ name, o.requirement.check name x y = .holds) :
    o.Decides x y ((o.judge x y).isHolding = true) := by
  rintro a scope operation rfl rfl
  refine ⟨a.finding a.operands.actual a.operands.expected, ?_, ?_⟩
  · rw [Assertion.execute, Token.resolveValue, Token.expandWith_of_not_live hx, Token.resolveValue,
      Token.expandWith_of_not_live hy]
    rfl
  · simp only [Assertion.finding, Assertion.judge, operation, Operator.operation, need]

private theorem decides_rank {R : Int → Int → Prop} (hR : o.relation? = some R) (hx : IsWhole x i)
    (hy : IsWhole y j) : o.Decides x y (R (Double.wholeRank i) (Double.wholeRank j)) := by
  have equal := Compare.equal_of_whole hx hy
  have order := Compare.order?_of_whole hx hy
  cases o <;> cases hR <;> refine (decides_of_not_live hx.not_live hy.not_live fun _ => rfl).congr ?_
  case equals => rw [judge, Verdict.isHolding_of, equal]
  case notEquals => rw [judge, Verdict.isHolding_of, Bool.not_eq_true', ← Bool.not_eq_true, equal]
  case greaterThan =>
    simp only [judge, judgeOrder, order, Verdict.isHolding_of, beq_iff_eq, Int.compare_eq_gt]
  case greaterOrEqual =>
    simp only [judge, judgeOrder, order, Verdict.isHolding_of, bne_iff_ne, ne_eq, Int.compare_eq_lt, Int.not_lt]
  case lessThan =>
    simp only [judge, judgeOrder, order, Verdict.isHolding_of, beq_iff_eq, Int.compare_eq_lt]
  case lessOrEqual =>
    simp only [judge, judgeOrder, order, Verdict.isHolding_of, bne_iff_ne, ne_eq, Int.compare_eq_gt, Int.not_lt]

private theorem between_decides_rank (hx : IsWhole x i) (hy : IsWhole y j) (hz : IsWhole z k) :
    between.Decides x (.array [y, z]) (Double.wholeRank j ≤ Double.wholeRank i ∧
      Double.wholeRank i ≤ Double.wholeRank k) := by
  obtain ⟨d, hd, rank⟩ := hx.exists_number
  obtain ⟨low, hlow, lowRank⟩ := hy.exists_number
  obtain ⟨high, hhigh, highRank⟩ := hz.exists_number
  have range : Compare.range? (.array [y, z]) = some (low, high) := by
    simp only [Compare.range?, hlow, hhigh]
  have bounds : ∀ s ∈ (Json.array [y, z]).texts, Token.isLive s = false := by
    intro s hs
    simp only [Json.texts, Json.textsOfItems, List.append_nil, List.mem_append] at hs
    exact hs.elim (hy.not_live s) (hz.not_live s)
  refine (decides_of_not_live hx.not_live bounds fun name => ?_).congr ?_
  · simp [requirement, Requirement.check, range, Verdict.of]
  · simp only [judge, judgeBetween, range, hd, Verdict.isHolding_of, Double.atMost, Bool.and_eq_true,
      decide_eq_true_eq, rank, lowRank, highRank]

/-- Whole numbers of 64 bits, as numbers or as digits, are always compared, and by the numbers that
they are rounded to. So each comparison has the outcome that it has for the whole numbers themselves
if rounding keeps apart the two that differ: if one of them fits into a significand, or they lie
further apart than the numbers around them. -/
theorem whole_numbers_compare (hx : IsWhole x i) (hy : IsWhole y j) (hz : IsWhole z k) :
    (∀ o R, relation? o = some R →
      o.Decides x y (R (Double.wholeRank i) (Double.wholeRank j)) ∧
      ((i ≠ j → Double.KeepsApart i j) → o.Decides x y (R i j))) ∧
    between.Decides x (.array [y, z]) (Double.wholeRank j ≤ Double.wholeRank i ∧
      Double.wholeRank i ≤ Double.wholeRank k) ∧
    ((i ≠ j → Double.KeepsApart i j) → (i ≠ k → Double.KeepsApart i k) →
      between.Decides x (.array [y, z]) (j ≤ i ∧ i ≤ k)) := by
  refine ⟨fun o R hR => ?_, between_decides_rank hx hy hz, fun low high => ?_⟩
  · have ranks := decides_rank hR hx hy
    refine ⟨ranks, fun apart => ranks.congr ?_⟩
    have up := Double.wholeRank_le_iff hx.natAbs_lt hy.natAbs_lt apart
    have down := Double.wholeRank_le_iff hy.natAbs_lt hx.natAbs_lt fun h => (apart h.symm).symm
    cases o <;> cases hR <;> omega
  · have lower := Double.wholeRank_le_iff hy.natAbs_lt hx.natAbs_lt fun h => (low h.symm).symm
    have upper := Double.wholeRank_le_iff hx.natAbs_lt hz.natAbs_lt high
    exact (between_decides_rank hx hy hz).congr (and_congr lower upper)

/-- A number beyond the significands is told apart from the greatest below them and from the
greatest of all. -/
theorem large_numbers_compare :
    equals.Decides (.int 9007199254740993) (.string "9007199254740991")
      ((9007199254740993 : Int) = 9007199254740991) ∧
    greaterThan.Decides (.int 9007199254740993) (.string "9007199254740991")
      ((9007199254740993 : Int) > 9007199254740991) ∧
    between.Decides (.int 9007199254740993)
      (.array [.string "9007199254740991", .string "18446744073709551615"])
      ((9007199254740991 : Int) ≤ 9007199254740993 ∧
        (9007199254740993 : Int) ≤ 18446744073709551615) := by
  have beyond : IsWhole (.int 9007199254740993) 9007199254740993 := ⟨by decide, .inl rfl⟩
  have fitting : IsWhole (.string "9007199254740991") 9007199254740991 :=
    ⟨by decide, .inr (congrArg _ (by decide +kernel))⟩
  have greatest : IsWhole (.string "18446744073709551615") 18446744073709551615 :=
    ⟨by decide, .inr (congrArg _ (by decide +kernel))⟩
  obtain ⟨relations, -, range⟩ := whole_numbers_compare beyond fitting greatest
  exact ⟨(relations equals _ rfl).2 fun _ => by decide,
    (relations greaterThan _ rfl).2 fun _ => by decide,
    range (fun _ => by decide) (fun _ => by decide)⟩

def neighbours : Assertion where
  operator := "equals"
  operation := equals.operation
  operands := ⟨.int 9007199254740993, .int 9007199254740992, none, false⟩

/-- They are rounded to one number, and so the answer is that they are. -/
theorem neighbours_compare_equal : (9007199254740993 : Int) ≠ 9007199254740992 ∧
    ∃ f, neighbours.execute ⟨.empty, fun _ => none⟩ = .ok ⟨f, []⟩ ∧ f.success = true := by
  have above : IsWhole (.int 9007199254740993) 9007199254740993 := ⟨by decide, .inl rfl⟩
  have below : IsWhole (.int 9007199254740992) 9007199254740992 := ⟨by decide, .inl rfl⟩
  obtain ⟨f, run, success⟩ :=
    decides_rank (o := equals) rfl above below neighbours ⟨.empty, fun _ => none⟩ rfl rfl rfl
  exact ⟨by decide, f, run, success.mpr (by decide +kernel)⟩

end Operator

end Assay

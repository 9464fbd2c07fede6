/- digest: Equality and order choose between instants, numbers and text in the same way, since no
   text is both an instant and a number: values that can be compared lie in exactly one of three
   relations, and those that cannot are refused by every operator that asks for an order. -/

import Assay.Proofs.Assertion.Success
import Assay.Proofs.Instant.Dashed
import Assay.Proofs.Json.Identity
import Assay.Proofs.Number.Order

set_option autoImplicit false
set_option relaxedAutoImplicit false

namespace Assay

namespace Compare

private theorem orderInstants_eq_iff {i j : Instant} : orderInstants i j = .eq ↔ i = j := by
  unfold orderInstants
  split
  · rename_i earlier
    constructor
    · intro impossible
      cases impossible
    · rintro rfl
      simp [Instant.before] at earlier
  · split
    · simp [*]
    · simp [*]

private theorem orderInstants_swap (i j : Instant) :
    orderInstants j i = (orderInstants i j).swap := by
  obtain ⟨s, n⟩ := i
  obtain ⟨t, m⟩ := j
  have trichotomy := Int.lt_trichotomy s t
  have parts := Nat.lt_trichotomy n m
  simp only [orderInstants, Instant.before, Bool.or_eq_true, Bool.and_eq_true, decide_eq_true_eq,
    beq_iff_eq, Instant.mk.injEq]
  split_ifs <;> first | rfl | omega

private theorem orderNumbers_eq_iff {a b : Double} : orderNumbers a b = .eq ↔ a.same b = true := by
  simp only [orderNumbers, Double.less, Double.same, decide_eq_true_eq, beq_iff_eq]
  split_ifs <;> simp <;> omega

private theorem orderNumbers_swap (a b : Double) : orderNumbers b a = (orderNumbers a b).swap := by
  simp only [orderNumbers, Double.less, Double.same, decide_eq_true_eq, beq_iff_eq]
  split_ifs <;> first | rfl | omega

variable {x y : Json} {i j : Instant} {a b : Double}

private theorem instant?_of_same (h : x.same y = true) : instant? x = instant? y := by
  rcases Json.same_cases h with rfl | ⟨a, b, rfl, rfl, -⟩ | ⟨items, others, rfl, rfl⟩ |
    ⟨members, more, rfl, rfl⟩
  · rfl
  · rfl
  · rfl
  · rfl

private theorem same_of_same (h : x.same y = true) (hx : number? x = some a)
    (hy : number? y = some b) :
    a.same b = true := by
  rcases Json.same_cases h with rfl | ⟨c, d, rfl, rfl, equal⟩ | ⟨items, others, rfl, rfl⟩ |
    ⟨members, more, rfl, rfl⟩
  · obtain rfl := Option.some.inj (hx.symm.trans hy)
    simp [Double.same]
  · cases hx
    cases hy
    exact equal
  · cases hx
  · cases hx

/-- Two values can be put in order: they are two instants or two numbers. -/
def Comparable (x y : Json) : Prop :=
  (∃ i j, instant? x = some i ∧ instant? y = some j) ∨ ∃ a b, number? x = some a ∧ number? y = some b

/-- A number, or text that spells a finite one. -/
inductive IsNumeric : Json → Prop
  | number (n : Number) : IsNumeric (.number n)
  | text {s : String} {d : Double} (spelled : Decimal.read? (Text.trim s) = some d) :
    IsNumeric (.string s)

private theorem IsNumeric.instant?_eq (h : IsNumeric y) : instant? y = none := by
  cases h with
  | number n => rfl
  | text spelled => exact instant?_of_number? spelled

private theorem number?_of_not_isNumeric (h : ¬ IsNumeric y) : number? y = none := by
  cases y with
  | number n => exact absurd (.number n) h
  | string s =>
    cases spelled : Decimal.read? (Text.trim s) with
    | none => exact spelled
    | some d => exact absurd (.text spelled) h
  | null | bool _ | array _ | object _ => rfl

private theorem IsNumeric.exists_number (h : IsNumeric x)
    (fits : ∀ i : Int, x = .int i → i.natAbs < 2 ^ 64) :
    ∃ a, number? x = some a := by
  cases h with
  | number n =>
    cases n with
    | int i =>
      obtain ⟨a, value, -⟩ := Double.exists_ofInt? (fits i rfl)
      exact ⟨a, value⟩
    | float a => exact ⟨a, rfl⟩
  | text spelled => exact ⟨_, spelled⟩

private theorem isNumeric_of_number? (h : number? x = some a) : IsNumeric x := by
  by_contra other
  cases (number?_of_not_isNumeric other).symm.trans h

/-- Values whose whole numbers have 64 bits can be put in order exactly if both are instants or both
are numeric. -/
theorem comparable_iff (hx : ∀ i : Int, x = .int i → i.natAbs < 2 ^ 64)
    (hy : ∀ i : Int, y = .int i → i.natAbs < 2 ^ 64) :
    Comparable x y ↔
      (∃ i j, instant? x = some i ∧ instant? y = some j) ∨ IsNumeric x ∧ IsNumeric y := by
  refine or_congr Iff.rfl ⟨?_, ?_⟩
  · rintro ⟨a, b, first, second⟩
    exact ⟨isNumeric_of_number? first, isNumeric_of_number? second⟩
  · rintro ⟨first, second⟩
    obtain ⟨a, first⟩ := first.exists_number hx
    obtain ⟨b, second⟩ := second.exists_number hy
    exact ⟨a, b, first, second⟩

private theorem order?_of_instants (hx : instant? x = some i) (hy : instant? y = some j) :
    order? x y = some (orderInstants i j) := by
  simp only [order?, hx, hy]

theorem equal_of_instants (hx : instant? x = some i) (hy : instant? y = some j) :
    equal x y = true ↔ i = j := by
  unfold equal
  split
  · rename_i identical
    have same : instant? x = instant? y := instant?_of_same identical
    rw [hx, hy] at same
    exact ⟨fun _ => Option.some.inj same, fun _ => rfl⟩
  · simp only [hx, hy, beq_iff_eq]

private theorem order?_of_numbers (hx : number? x = some a) (hy : number? y = some b) :
    order? x y = some (orderNumbers a b) := by
  simp only [order?, instant?_of_number? hx, hx, hy]

theorem equal_of_numbers (hx : number? x = some a) (hy : number? y = some b) :
    equal x y = a.same b := by
  unfold equal
  split
  · rename_i identical
    exact (same_of_same identical hx hy).symm
  · simp only [instant?_of_number? hx, hx, hy]

theorem exists_order (h : Comparable x y) : ∃ order, order? x y = some order ∧
    order? y x = some order.swap ∧ (equal x y = true ↔ order = .eq) := by
  rcases h with ⟨i, j, hx, hy⟩ | ⟨a, b, hx, hy⟩
  · have turned : order? y x = some (orderInstants i j).swap := by
      rw [order?_of_instants hy hx, orderInstants_swap]
    have equality : equal x y = true ↔ orderInstants i j = .eq :=
      (equal_of_instants hx hy).trans orderInstants_eq_iff.symm
    exact ⟨orderInstants i j, order?_of_instants hx hy, turned, equality⟩
  · have turned : order? y x = some (orderNumbers a b).swap := by
      rw [order?_of_numbers hy hx, orderNumbers_swap]
    have equality : equal x y = true ↔ orderNumbers a b = .eq := by
      rw [equal_of_numbers hx hy, orderNumbers_eq_iff]
    exact ⟨orderNumbers a b, order?_of_numbers hx hy, turned, equality⟩

private theorem order?_eq_none (h : ¬ Comparable x y) : order? x y = none := by
  unfold order?
  split
  · rename_i i j hx hy
    exact absurd (Or.inl ⟨i, j, hx, hy⟩) h
  · split
    · rename_i a b hx hy
      exact absurd (Or.inr ⟨a, b, hx, hy⟩) h
    · rfl

end Compare

namespace Operator

/-- The operators that ask for an order, with the words for what they ask. -/
def orderings : List (Operator × String) :=
  [(.greaterThan, "greater than"), (.greaterOrEqual, "greater than or equal to"),
    (.lessThan, "less than"), (.lessOrEqual, "less than or equal to")]

def cannotCompare (x y : Json) : String :=
  "Cannot compare " ++ x.typeName ++ " '" ++ x.plainText ++ "' with " ++ y.typeName ++ " '" ++
    y.plainText ++ "' numerically"

def outOfOrder (words : String) (x y : Json) : String :=
  "Expected '" ++ x.plainText ++ "' to be " ++ words ++ " '" ++ y.plainText ++ "'"

/-- Exactly one of three conditions holds. -/
def ExactlyOne (p q r : Prop) : Prop := (p ∧ ¬ q ∧ ¬ r) ∨ (¬ p ∧ q ∧ ¬ r) ∨ (¬ p ∧ ¬ q ∧ r)

variable {x y : Json} {o : Operator} {words : String}

private theorem exists_judgeOrder (h : (o, words) ∈ orderings) : o.requirement = .anything ∧
    ∃ accept, ∀ x y, o.judge x y = judgeOrder accept words x y := by
  simp only [orderings, List.mem_cons, Prod.mk.injEq, List.not_mem_nil, or_false] at h
  rcases h with ⟨rfl, rfl⟩ | ⟨rfl, rfl⟩ | ⟨rfl, rfl⟩ | ⟨rfl, rfl⟩
  · exact ⟨rfl, (· == .gt), fun _ _ => by rw [judge]⟩
  · exact ⟨rfl, (· != .lt), fun _ _ => by rw [judge]⟩
  · exact ⟨rfl, (· == .lt), fun _ _ => by rw [judge]⟩
  · exact ⟨rfl, (· != .gt), fun _ _ => by rw [judge]⟩

private theorem gives_cannotCompare (h : (o, words) ∈ orderings)
    (none : Compare.order? x y = none) :
    o.Gives x y (.fails (cannotCompare x y)) := by
  obtain ⟨any, accept, judged⟩ := exists_judgeOrder h
  intro a same
  have met : o.requirement.IsMet x y := by
    rw [any]
    trivial
  rw [judge_of_isMet same met, judged]
  unfold judgeOrder
  rw [none]
  rfl

private theorem gives_outOfOrder (h : (o, words) ∈ orderings) {order : Ordering}
    (some : Compare.order? x y = some order) (refuted : ¬ o.Succeeds x y) :
    o.Gives x y (.fails (outOfOrder words x y)) := by
  obtain ⟨any, accept, judged⟩ := exists_judgeOrder h
  have met : o.requirement.IsMet x y := by
    rw [any]
    trivial
  have rejected : accept order = false := by
    rw [succeeds_iff, judged, isHolding_judgeOrder, some, Option.any_some] at refuted
    simpa [met] using refuted
  intro a same
  rw [judge_of_isMet same met, judged]
  unfold judgeOrder
  rw [some]
  exact if_neg (by rw [rejected]; exact Bool.false_ne_true)

/-- Two values of which neither both name instants nor both are numbers are refused by all four
operators that ask for an order, with the words that they cannot be compared. Of any other two
values exactly one is the case: the first is less, they are equal, or the first is greater; an
operator that admits equality succeeds where the opposite one fails, the operands may be swapped
together with the relation, and every failure says which relation does not hold. -/
theorem orderings_agree_with_equals (x y : Json) :
    (¬ Compare.Comparable x y →
      ∀ e ∈ orderings, e.1.Gives x y (.fails (cannotCompare x y)) ∧ ¬ e.1.Succeeds x y) ∧
    (Compare.Comparable x y →
      ExactlyOne (lessThan.Succeeds x y) (equals.Succeeds x y) (greaterThan.Succeeds x y) ∧
      (greaterOrEqual.Succeeds x y ↔ ¬ lessThan.Succeeds x y) ∧
      (lessOrEqual.Succeeds x y ↔ ¬ greaterThan.Succeeds x y) ∧
      (greaterThan.Succeeds x y ↔ lessThan.Succeeds y x) ∧
      ∀ e ∈ orderings, ¬ e.1.Succeeds x y → e.1.Gives x y (.fails (outOfOrder e.2 x y))) := by
  refine ⟨fun apart e he => ?_, fun together => ?_⟩
  · have none : Compare.order? x y = none := Compare.order?_eq_none apart
    have refused := gives_cannotCompare he none
    refine ⟨refused, fun success => ?_⟩
    obtain ⟨-, accept, judged⟩ := exists_judgeOrder he
    rw [succeeds_iff, judged, isHolding_judgeOrder, none] at success
    cases success.2
  · obtain ⟨order, found, turned, equality⟩ := Compare.exists_order together
    have equals_iff : equals.Succeeds x y ↔ order = .eq := by
      rw [succeeds_iff_accepts, accepts, equality]
    have less_iff : lessThan.Succeeds x y ↔ order = .lt := by
      rw [succeeds_iff_accepts, accepts, found, Option.any_some, beq_iff_eq]
    have greater_iff : greaterThan.Succeeds x y ↔ order = .gt := by
      rw [succeeds_iff_accepts, accepts, found, Option.any_some, beq_iff_eq]
    have atLeast_iff : greaterOrEqual.Succeeds x y ↔ order ≠ .lt := by
      rw [succeeds_iff_accepts, accepts, found, Option.any_some, bne_iff_ne]
    have atMost_iff : lessOrEqual.Succeeds x y ↔ order ≠ .gt := by
      rw [succeeds_iff_accepts, accepts, found, Option.any_some, bne_iff_ne]
    have turned_iff : lessThan.Succeeds y x ↔ order.swap = .lt := by
      rw [succeeds_iff_accepts, accepts, turned, Option.any_some, beq_iff_eq]
    refine ⟨?_, ?_, ?_, ?_, fun e he refuted => gives_outOfOrder he found refuted⟩
    · rw [ExactlyOne, less_iff, equals_iff, greater_iff]
      cases order <;> simp
    · rw [atLeast_iff, less_iff]
    · rw [atMost_iff, greater_iff]
    · rw [greater_iff, turned_iff]
      cases order <;> simp

/-- One instant in two notations is equal to itself and neither less nor greater, and a day has no
order with a number that its text begins with. -/
theorem midnight_agrees_with_equals :
    Compare.Comparable (.string "2024-01-01T01:30:00+01:30") (.string " 2024-1-1 ") ∧
    equals.Succeeds (.string "2024-01-01T01:30:00+01:30") (.string " 2024-1-1 ") ∧
    ¬ lessThan.Succeeds (.string "2024-01-01T01:30:00+01:30") (.string " 2024-1-1 ") ∧
    ¬ greaterThan.Succeeds (.string "2024-01-01T01:30:00+01:30") (.string " 2024-1-1 ") ∧
    ¬ Compare.Comparable (.string "2024-01-01") (.string "2024") ∧
    lessThan.Gives (.string "2024-01-01") (.string "2024")
      (.fails "Cannot compare string '2024-01-01' with string '2024' numerically") := by
  have shifted : Compare.instant? (.string "2024-01-01T01:30:00+01:30") = some ⟨1704067200, 0⟩ := by
    decide +kernel
  have short : Compare.instant? (.string " 2024-1-1 ") = some ⟨1704067200, 0⟩ := by decide +kernel
  have together : Compare.Comparable (.string "2024-01-01T01:30:00+01:30") (.string " 2024-1-1 ") :=
    .inl ⟨_, _, shifted, short⟩
  have apart : ¬ Compare.Comparable (.string "2024-01-01") (.string "2024") := by
    rintro (⟨i, j, -, year⟩ | ⟨a, b, day, -⟩)
    · have none : Compare.instant? (.string "2024") = none := by decide +kernel
      cases none.symm.trans year
    · have none : Compare.number? (.string "2024-01-01") = none := by decide +kernel
      cases none.symm.trans day
  have equality : equals.Succeeds (.string "2024-01-01T01:30:00+01:30") (.string " 2024-1-1 ") := by
    rw [succeeds_iff_accepts]
    exact (Compare.equal_of_instants shifted short).mpr rfl
  obtain ⟨one, -⟩ := (orderings_agree_with_equals _ _).2 together
  obtain ⟨refused, -⟩ := (orderings_agree_with_equals _ _).1 apart (.lessThan, "less than")
    (by simp [orderings])
  rcases one with ⟨-, unequal, -⟩ | ⟨notLess, -, notGreater⟩ | ⟨-, unequal, -⟩
  · exact absurd equality unequal
  · refine ⟨together, equality, notLess, notGreater, apart, ?_⟩
    exact refused
  · exact absurd equality unequal

end Operator

namespace Compare

variable {x y low high : Json}

private theorem IsNumeric.order?_eq (h : IsNumeric y) :
    order? x y = (number? x).bind fun v => (number? y).map (orderNumbers v) := by
  have none : instant? y = .none := h.instant?_eq
  unfold order?
  rw [none]
  cases instant? x <;> cases number? x <;> cases number? y <;> rfl

private theorem range?_pair (low high : Json) : range? (.array [low, high]) =
    (number? low).bind fun a => (number? high).map fun b => (a, b) := by
  simp only [range?]
  cases number? low <;> cases number? high <;> rfl

private theorem isSome_range? (h : (range? y).isSome = true) :
    ∃ low high, y = .array [low, high] ∧ IsNumeric low ∧ IsNumeric high := by
  unfold range? at h
  split at h
  · rename_i low high
    refine ⟨low, high, rfl, ?_, ?_⟩
    · by_contra other
      simp [number?_of_not_isNumeric other] at h
    · by_contra other
      simp [number?_of_not_isNumeric other] at h
  · cases h

private theorem orderNumbers_ne_lt (v a : Double) : (orderNumbers v a != .lt) = a.atMost v := by
  rw [Bool.eq_iff_iff, bne_iff_ne]
  simp only [orderNumbers, Double.less, Double.same, Double.atMost, decide_eq_true_eq, beq_iff_eq]
  split_ifs <;> simp only [ne_eq, reduceCtorEq, not_true_eq_false, not_false_eq_true, false_iff,
    true_iff] <;> omega

private theorem orderNumbers_ne_gt (v b : Double) : (orderNumbers v b != .gt) = v.atMost b := by
  rw [← orderNumbers_ne_lt, orderNumbers_swap b v]
  cases orderNumbers b v <;> rfl

end Compare

namespace Operator

open Compare (IsNumeric)

variable {x y low high : Json}

def needsRange (name : String) (y : Json) : String :=
  "Operator '" ++ name ++ "' requires [min,max] numeric expected value, got " ++ y.render

private theorem accepts_between_pair (hlow : IsNumeric low) (hhigh : IsNumeric high) :
    between.accepts x (.array [low, high]) =
      (greaterOrEqual.accepts x low && lessOrEqual.accepts x high) := by
  simp only [accepts, Compare.range?_pair, hlow.order?_eq, hhigh.order?_eq]
  cases Compare.number? x with
  | none => cases Compare.number? low <;> cases Compare.number? high <;> rfl
  | some v =>
    cases Compare.number? low with
    | none => rfl
    | some a =>
      cases Compare.number? high with
      | none => simp
      | some b => simp [Compare.orderNumbers_ne_lt, Compare.orderNumbers_ne_gt]

private theorem between_judge_of_not_range {a : Assertion} (h : a.operation = between.operation)
    (unmet : ¬ (Compare.range? y).isSome = true) :
    a.judge x y = .fails (needsRange a.operator y) := by
  have refused : a.judge x y = Requirement.rangeExpected.check a.operator x y :=
    judge_of_not_isMet h unmet
  rw [refused]
  exact if_neg unmet

private theorem judgeBetween_ne (met : (Compare.range? y).isSome = true) :
    judgeBetween x y ≠ .fails "Operator 'between' requires [min,max]" := by
  obtain ⟨⟨low, high⟩, range⟩ := Option.isSome_iff_exists.mp met
  intro equal
  unfold judgeBetween at equal
  rw [range] at equal
  cases value : Compare.number? x with
  | none =>
    simp only [value, Verdict.fails.injEq] at equal
    have first := congrArg (fun s : String => s.toList.head?) equal
    simp [String.toList_append] at first
  | some v =>
    simp only [value, Verdict.of] at equal
    split at equal
    · cases equal
    · have same := Verdict.fails.inj equal
      have first := congrArg (fun s : String => s.toList.head?) same
      simp [String.toList_append] at first

private theorem needsRange_ne (name : String) (y : Json) :
    needsRange name y ≠ "Operator 'between' requires [min,max]" := by
  intro equal
  have lengths := congrArg String.length equal
  simp only [needsRange, String.length_append] at lengths
  have before : "Operator '".length = 10 := by decide
  have behind : "' requires [min,max] numeric expected value, got ".length = 49 := by decide
  have whole : "Operator 'between' requires [min,max]".length = 37 := by decide
  omega

/-- Against two bounds that are numbers or spell them, `between` is the conjunction of the two
operators that ask for one bound. Any other expected value is refused because of its shape, and so
the test itself never finds that the bounds are missing. -/
theorem between_is_both_bounds (x y : Json) :
    (∀ low high, y = .array [low, high] → IsNumeric low → IsNumeric high →
      (between.Succeeds x y ↔ greaterOrEqual.Succeeds x low ∧ lessOrEqual.Succeeds x high)) ∧
    ((¬ ∃ low high, y = .array [low, high] ∧ IsNumeric low ∧ IsNumeric high) →
      ∀ a : Assertion, a.operation = between.operation →
        (a.finding x y).success = false ∧ a.judge x y = .fails (needsRange a.operator y)) ∧
    ∀ a : Assertion, a.operation = between.operation →
      a.judge x y ≠ .fails "Operator 'between' requires [min,max]" := by
  refine ⟨?_, ?_, ?_⟩
  · rintro low high rfl hlow hhigh
    simp only [succeeds_iff_accepts, accepts_between_pair hlow hhigh, Bool.and_eq_true]
  · intro other a same
    have unmet : ¬ (Compare.range? y).isSome = true := fun met => other (Compare.isSome_range? met)
    have verdict : a.judge x y = .fails (needsRange a.operator y) :=
      between_judge_of_not_range same unmet
    refine ⟨?_, verdict⟩
    rw [Assertion.finding, verdict]
    rfl
  · intro a same
    by_cases met : (Compare.range? y).isSome = true
    · have verdict : a.judge x y = judgeBetween x y := judge_of_isMet same met
      rw [verdict]
      exact judgeBetween_ne met
    · rw [between_judge_of_not_range same met]
      intro equal
      exact needsRange_ne a.operator y (Verdict.fails.inj equal)

/-- The digits of a number lie between a number and a fraction in scientific form, since they are at
least the one and at most the other; a word is no bound. -/
theorem seven_is_between_both_bounds :
    (between.Succeeds (.string "7") (.array [.int 7, .string " 7.5e0"]) ∧
      greaterOrEqual.Succeeds (.string "7") (.int 7) ∧
      lessOrEqual.Succeeds (.string "7") (.string " 7.5e0")) ∧
    (Assertion.judge ⟨"between", between.operation, default⟩ (.string "7")
      (.array [.int 7, .string "x"]) = .fails (needsRange "between" (.array [.int 7, .string "x"]))) := by
  have fraction : (Decimal.read? (Text.trim " 7.5e0")).isSome = true := by decide +kernel
  obtain ⟨d, spelled⟩ := Option.isSome_iff_exists.mp fraction
  have lower : greaterOrEqual.Succeeds (.string "7") (.int 7) := by
    rw [succeeds_iff_accepts]
    decide +kernel
  have upper : lessOrEqual.Succeeds (.string "7") (.string " 7.5e0") := by
    rw [succeeds_iff_accepts]
    decide +kernel
  have both := (between_is_both_bounds (.string "7") _).1 (.int 7) (.string " 7.5e0") rfl
    (.number _) (.text spelled)
  have word : Compare.number? (.string "x") = none := by decide +kernel
  have other : ¬ ∃ low high, Json.array [.int 7, .string "x"] = .array [low, high] ∧
      IsNumeric low ∧ IsNumeric high := by
    rintro ⟨low, high, equal, -, hhigh⟩
    cases equal
    cases hhigh with
    | text read => cases word.symm.trans read
  have refused := (between_is_both_bounds (.string "7") _).2.1 other
    ⟨"between", between.operation, default⟩ rfl
  exact ⟨⟨both.mpr ⟨lower, upper⟩, lower, upper⟩, refused.2⟩

end Operator

end Assay

/- digest: When an operator succeeds on resolved operands, under any name and whether or not they
   are secret, and what that means for each operator. -/

import Assay.Assertion.Basic

set_option autoImplicit false
set_option relaxedAutoImplicit false

namespace Assay

namespace Verdict

@[simp] theorem isHolding_of (condition : Bool) (message : String) :
    (of condition message).isHolding = condition := by
  cases condition <;> rfl

private theorem isHolding_iff {v : Verdict} : v.isHolding = true ↔ v = .holds := by
  cases v <;> simp [isHolding]

end Verdict

/-- The operands have the shape that an operator needs. -/
def Requirement.IsMet (actual expected : Json) : Requirement → Prop
  | .anything => True
  | .sizedActual => Compare.isSized actual = true
  | .rangeExpected => (Compare.range? expected).isSome = true

private theorem Requirement.isHolding_check_iff (r : Requirement) (name : String) (x y : Json) :
    (r.check name x y).isHolding = true ↔ r.IsMet x y := by
  cases r with
  | anything => simp [check, IsMet, Verdict.isHolding]
  | sizedActual => rw [check, Verdict.isHolding_of, IsMet]
  | rangeExpected => rw [check, Verdict.isHolding_of, IsMet]

namespace Operator

/-- Every assertion with an operator has a verdict on two resolved operands. -/
def Gives (o : Operator) (actual expected : Json) (v : Verdict) : Prop :=
  ∀ a : Assertion, a.operation = o.operation → a.judge actual expected = v

/-- Every assertion with an operator is a success on two resolved operands. -/
def Succeeds (o : Operator) (actual expected : Json) : Prop :=
  ∀ a : Assertion, a.operation = o.operation → (a.finding actual expected).success = true

variable {o : Operator} {a : Assertion} {x y : Json}

theorem judge_of_isMet (h : a.operation = o.operation) (met : o.requirement.IsMet x y) :
    a.judge x y = o.judge x y := by
  have holding := (Requirement.isHolding_check_iff o.requirement a.operator x y).mpr met
  have checked : o.requirement.check a.operator x y = .holds := Verdict.isHolding_iff.mp holding
  rw [Assertion.judge, h]
  simp only [operation, checked]

theorem judge_of_not_isMet (h : a.operation = o.operation) (unmet : ¬ o.requirement.IsMet x y) :
    a.judge x y = o.requirement.check a.operator x y := by
  rw [Assertion.judge, h]
  simp only [operation]
  cases checked : o.requirement.check a.operator x y with
  | holds =>
    have holding : (o.requirement.check a.operator x y).isHolding = true := by rw [checked]; rfl
    exact absurd ((Requirement.isHolding_check_iff _ _ x y).mp holding) unmet
  | fails message => rfl

private theorem success_iff (h : a.operation = o.operation) : (a.finding x y).success = true ↔
    o.requirement.IsMet x y ∧ (o.judge x y).isHolding = true := by
  rw [Assertion.finding]
  by_cases met : o.requirement.IsMet x y
  · simp only [judge_of_isMet h met, met, true_and]
  · have refused := mt (Requirement.isHolding_check_iff o.requirement a.operator x y).mp met
    simp only [judge_of_not_isMet h met, met, false_and, iff_false]
    exact refused

theorem succeeds_iff :
    o.Succeeds x y ↔ o.requirement.IsMet x y ∧ (o.judge x y).isHolding = true := by
  constructor
  · intro h
    exact (success_iff rfl).mp (h ⟨"", o.operation, default⟩ rfl)
  · intro h a same
    exact (success_iff same).mpr h

theorem success_iff_succeeds (h : a.operation = o.operation) :
    (a.finding x y).success = true ↔ o.Succeeds x y :=
  (success_iff h).trans succeeds_iff.symm

/-- Whether an operator accepts resolved operands: they have the shape that it needs, and its
comparison holds. -/
def accepts (actual expected : Json) : Operator → Bool
  | .equals => Compare.equal actual expected
  | .notEquals => !Compare.equal actual expected
  | .greaterThan => (Compare.order? actual expected).any (· == .gt)
  | .greaterOrEqual => (Compare.order? actual expected).any (· != .lt)
  | .lessThan => (Compare.order? actual expected).any (· == .lt)
  | .lessOrEqual => (Compare.order? actual expected).any (· != .gt)
  | .type =>
    let wanted := Text.lower expected.plainText
    wanted == actual.typeName || (wanted == "number" && actual.typeName == "integer")
  | .exist => Compare.isPresent actual
  | .notExists => !Compare.isPresent actual
  | .empty => Compare.isSized actual && Compare.size actual == 0
  | .notEmpty => Compare.isSized actual && Compare.size actual != 0
  | .contains => Compare.holds actual expected
  | .notContains => !Compare.holds actual expected
  | .matches => (patternMatches actual expected).toOption == some true
  | .notMatches => (patternMatches actual expected).toOption == some false
  | .between =>
    (Compare.range? expected).any fun (low, high) =>
      (Compare.number? actual).any fun v => low.atMost v && v.atMost high
  | .length => Compare.isSized actual && (Compare.number? expected).any fun wanted =>
      (Double.ofInt? (Compare.size actual)).any (·.same wanted)
  | .includes => Compare.isSized actual && (expectedItems expected).all fun v => Compare.holds actual v
  | .excludes => Compare.isSized actual && (expectedItems expected).all fun v => !Compare.holds actual v
  | .startsWith => Text.startsWith (Text.lower actual.plainText) (Text.lower expected.plainText)
  | .endsWith => Text.endsWith (Text.lower actual.plainText) (Text.lower expected.plainText)

theorem isHolding_judgeOrder (accept : Ordering → Bool) (relation : String) :
    (judgeOrder accept relation x y).isHolding = (Compare.order? x y).any accept := by
  unfold judgeOrder
  cases Compare.order? x y with
  | none => rfl
  | some order => simp

private theorem isHolding_judgeLength : (judgeLength x y).isHolding =
    (Compare.number? y).any fun wanted =>
      (Double.ofInt? (Compare.size x)).any (·.same wanted) := by
  unfold judgeLength
  cases Compare.number? y with
  | none => rfl
  | some wanted =>
    rw [Option.any_some]
    exact Verdict.isHolding_of _ _

private theorem isHolding_judgeBetween : (judgeBetween x y).isHolding =
    (Compare.range? y).any fun (low, high) =>
      (Compare.number? x).any fun v => low.atMost v && v.atMost high := by
  unfold judgeBetween
  cases Compare.range? y with
  | none => rfl
  | some bounds =>
    cases Compare.number? x with
    | none => rfl
    | some v => simp

private theorem isHolding_filter (items : List Json) (test : Json → Bool) (message : String) :
    (Verdict.of (items.filter test).isEmpty message).isHolding = items.all fun v => !test v := by
  rw [Verdict.isHolding_of, Bool.eq_iff_iff, List.isEmpty_iff, List.filter_eq_nil_iff, List.all_eq_true]
  simp

theorem succeeds_iff_accepts : o.Succeeds x y ↔ o.accepts x y = true := by
  rw [succeeds_iff]
  cases o with
  | equals | notEquals | type | exist | notExists | contains | notContains | startsWith | endsWith =>
    simp [requirement, Requirement.IsMet, judge, accepts]
  | greaterThan | greaterOrEqual | lessThan | lessOrEqual =>
    simp only [requirement, Requirement.IsMet, judge, isHolding_judgeOrder, true_and, accepts]
  | empty | notEmpty => simp [requirement, Requirement.IsMet, judge, accepts]
  | length =>
    simp only [requirement, Requirement.IsMet, judge, isHolding_judgeLength, accepts, Bool.and_eq_true]
  | includes | excludes =>
    simp only [requirement, Requirement.IsMet, judge, isHolding_filter, accepts, Bool.and_eq_true,
      Bool.not_not]
  | «matches» | notMatches =>
    simp only [requirement, Requirement.IsMet, judge, true_and, accepts]
    cases patternMatches x y with
    | error message => simp [Verdict.isHolding, Except.toOption]
    | ok matched => simp [Except.toOption]
  | between =>
    simp only [requirement, Requirement.IsMet, judge, isHolding_judgeBetween, accepts]
    cases Compare.range? y <;> simp

end Operator

end Assay

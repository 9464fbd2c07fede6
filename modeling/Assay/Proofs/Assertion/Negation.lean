/- digest: Operators and their negations: of each pair exactly one succeeds on operands of the shape
   that both need, and neither does on others; a size and a membership are one question in two
   operators. -/

import Assay.Proofs.Assertion.Success
import Assay.Proofs.Number.Order

set_option autoImplicit false
set_option relaxedAutoImplicit false

namespace Assay

namespace Double

private theorem ofInt?_natCast_eq (n : Nat) : ofInt? n = ofMagnitude false (wholeMagnitude n) := by
  have positive : decide ((n : Int) < 0) = false := by
    rw [decide_eq_false_iff_not]
    omega
  rw [ofInt?, ofQuotient, ofUnits, Int.natAbs_natCast, ← wholeMagnitude, positive]

private theorem any_same_iff_of_rank {zero : Double} (h : zero.rank = 0) (n : Nat) :
    (ofInt? n).any (·.same zero) = true ↔ n = 0 := by
  rw [ofInt?_natCast_eq]
  have whole : wholeMagnitude n = 0 ↔ n = 0 := by
    constructor
    · intro nothing
      by_contra hn
      have positive := wholeMagnitude_pos hn
      omega
    · rintro rfl
      exact wholeMagnitude_zero
  rw [← whole]
  generalize wholeMagnitude n = magnitude
  unfold ofMagnitude
  split
  · rename_i finite
    have place : (⟨false, magnitude, finite⟩ : Double).rank = magnitude := rfl
    rw [Option.any_some, same, h, place, beq_iff_eq]
    omega
  · rename_i infinite
    have large : magnitude ≠ 0 := by
      rintro rfl
      exact infinite (by decide)
    simp [large]

end Double

private theorem Compare.exists_number?_zero :
    ∃ zero, number? (.int 0) = some zero ∧ zero.rank = 0 := by
  obtain ⟨zero, found, rank⟩ := Double.exists_ofInt? (i := 0) (by decide)
  have nothing : Double.wholeRank 0 = 0 := by
    simp [Double.wholeRank, Double.wholeMagnitude_zero]
  exact ⟨zero, found, rank.trans nothing⟩

namespace Assertion

variable {operands : Operands} {scope : Scope} {x y : Json}

/-- The operands resolve to two values, and the outcome is that for these. -/
def RunsOn (a : Assertion) (scope : Scope) (actual expected : Json) : Prop :=
  ∃ lines, a.execute scope = .ok ⟨a.finding actual expected, lines⟩

/-- The execution has an outcome, and that is a success. -/
def Passes (a : Assertion) (scope : Scope) : Prop :=
  ∃ f lines, a.execute scope = .ok ⟨f, lines⟩ ∧ f.success = true

private theorem passes_iff_any {a : Assertion} :
    (a.execute scope).toOption.any (·.value.success) = true ↔ a.Passes scope := by
  unfold Passes
  cases a.execute scope with
  | error refusal => simp [Except.toOption]
  | ok r =>
    obtain ⟨f, lines⟩ := r
    simp [Except.toOption]

instance {a : Assertion} : Decidable (a.Passes scope) := decidable_of_iff _ passes_iff_any

theorem RunsOn.passes_iff {a : Assertion} {o : Operator} (ran : a.RunsOn scope x y)
    (operation : a.operation = o.operation) : a.Passes scope ↔ o.Succeeds x y := by
  obtain ⟨lines, executed⟩ := ran
  rw [← Operator.success_iff_succeeds operation]
  constructor
  · rintro ⟨f, others, again, success⟩
    rw [executed] at again
    cases again
    exact success
  · intro success
    exact ⟨_, _, executed, success⟩

theorem runsOn_of_resolved {a : Assertion} {actual expected : Token.Logged Json}
    (hactual : Token.resolveValue scope a.operands.actual = .ok actual)
    (hexpected : Token.resolveValue scope a.operands.expected = .ok expected) :
    a.RunsOn scope actual.value expected.value := by
  refine ⟨actual.lines ++ expected.lines, ?_⟩
  rw [execute, hactual]
  simp only [Token.Resolution.andThen, hexpected]
  rfl

private theorem execute_eq_error_of_actual {a : Assertion} {refusal : Selector.Refusal}
    (hactual : Token.resolveValue scope a.operands.actual = .error refusal) :
    a.execute scope = .error refusal := by
  rw [execute, hactual]
  rfl

private theorem execute_eq_error_of_expected {a : Assertion} {refusal : Selector.Refusal}
    {actual : Token.Logged Json}
    (hactual : Token.resolveValue scope a.operands.actual = .ok actual)
    (hexpected : Token.resolveValue scope a.operands.expected = .error refusal) :
    a.execute scope = .error refusal := by
  rw [execute, hactual]
  simp only [Token.Resolution.andThen, hexpected]
  rfl

end Assertion

namespace Operator

variable {x y v : Json} {rest : List Json}

/-- A value is a pattern that can be compiled. -/
def Compiles (y : Json) : Prop :=
  ∃ p, Pattern.read y.plainText = .ok p ∧ p.isTooLarge = false

/-- How operators go together with their negations, and with the operators that ask the same in
other words, on two resolved operands. -/
structure Complement (x y : Json) : Prop where
  equality : equals.Succeeds x y ↔ ¬ notEquals.Succeeds x y
  existence : exist.Succeeds x y ↔ ¬ notExists.Succeeds x y
  containment : contains.Succeeds x y ↔ ¬ notContains.Succeeds x y
  emptiness : Compare.isSized x = true → (empty.Succeeds x y ↔ ¬ notEmpty.Succeeds x y)
  emptiness_unsized : Compare.isSized x = false → ¬ empty.Succeeds x y ∧ ¬ notEmpty.Succeeds x y
  matching : Compiles y → (matches.Succeeds x y ↔ ¬ notMatches.Succeeds x y)
  matching_unreadable : ¬ Compiles y → ¬ matches.Succeeds x y ∧ ¬ notMatches.Succeeds x y
  membership : Compare.isSized x = true → y.isArray = false →
    (includes.Succeeds x y ↔ ¬ excludes.Succeeds x y)
  membership_none : Compare.isSized x = true → y = .array [] →
    includes.Succeeds x y ∧ excludes.Succeeds x y
  membership_some : ∀ v rest, y = .array (v :: rest) →
    ¬ (includes.Succeeds x y ∧ excludes.Succeeds x y)
  empty_length : empty.Succeeds x y ↔ length.Succeeds x (.int 0)
  includes_contains : includes.Succeeds x y ↔
    Compare.isSized x = true ∧ ∀ v ∈ expectedItems y, contains.Succeeds x v

private theorem patternMatches_of_compiles (h : Compiles y) :
    ∃ matched, patternMatches x y = .ok matched := by
  obtain ⟨p, read, small⟩ := h
  refine ⟨p.isMatch x.plainText, ?_⟩
  simp [patternMatches, read, small]

private theorem patternMatches_of_not_compiles (h : ¬ Compiles y) :
    ∃ message, patternMatches x y = .error message := by
  cases read : Pattern.read y.plainText with
  | error flaw => simp [patternMatches, read]
  | ok p =>
    cases large : p.isTooLarge with
    | true => simp [patternMatches, read, large]
    | false => exact absurd ⟨p, read, large⟩ h

private theorem matches_complement (h : Compiles y) :
    matches.Succeeds x y ↔ ¬ notMatches.Succeeds x y := by
  obtain ⟨matched, found⟩ := patternMatches_of_compiles (x := x) h
  simp only [succeeds_iff_accepts, accepts, found]
  cases matched with
  | true => simp [Except.toOption]
  | false => simp [Except.toOption]

private theorem matches_unreadable (h : ¬ Compiles y) :
    ¬ matches.Succeeds x y ∧ ¬ notMatches.Succeeds x y := by
  obtain ⟨message, refused⟩ := patternMatches_of_not_compiles (x := x) h
  simp [succeeds_iff_accepts, accepts, refused, Except.toOption]

private theorem expectedItems_lone (h : y.isArray = false) : expectedItems y = [y] := by
  cases y with
  | array items => cases h
  | null | bool _ | number _ | string _ | object _ => rfl

private theorem includes_complement (sized : Compare.isSized x = true) (lone : y.isArray = false) :
    includes.Succeeds x y ↔ ¬ excludes.Succeeds x y := by
  simp [succeeds_iff_accepts, accepts, expectedItems_lone lone, sized]

private theorem includes_none (sized : Compare.isSized x = true) :
    includes.Succeeds x (.array []) ∧ excludes.Succeeds x (.array []) := by
  simp [succeeds_iff_accepts, accepts, expectedItems, sized]

private theorem not_includes_and_excludes :
    ¬ (includes.Succeeds x (.array (v :: rest)) ∧ excludes.Succeeds x (.array (v :: rest))) := by
  simp only [succeeds_iff_accepts, accepts, expectedItems, List.all_cons, Bool.and_eq_true]
  rintro ⟨⟨-, present, -⟩, -, absent, -⟩
  rw [present] at absent
  cases absent

private theorem empty_iff_length_zero : empty.Succeeds x y ↔ length.Succeeds x (.int 0) := by
  obtain ⟨zero, found, rank⟩ := Compare.exists_number?_zero
  have sizes := Double.any_same_iff_of_rank rank (Compare.size x)
  rw [succeeds_iff_accepts, succeeds_iff_accepts, accepts, accepts, found, Option.any_some]
  rw [Bool.and_eq_true, Bool.and_eq_true, beq_iff_eq]
  -- The rounded size has a name, so that it is never evaluated.
  generalize Double.ofInt? (Compare.size x) = counted at sizes ⊢
  exact and_congr_right fun _ => sizes.symm

private theorem includes_iff_contains : includes.Succeeds x y ↔
    Compare.isSized x = true ∧ ∀ v ∈ expectedItems y, contains.Succeeds x v := by
  simp only [succeeds_iff_accepts, accepts, Bool.and_eq_true, List.all_eq_true]

private theorem complement (x y : Json) : Complement x y where
  equality := by simp [succeeds_iff_accepts, accepts]
  existence := by simp [succeeds_iff_accepts, accepts]
  containment := by simp [succeeds_iff_accepts, accepts]
  emptiness sized := by simp [succeeds_iff_accepts, accepts, sized]
  emptiness_unsized unsized := by simp [succeeds_iff_accepts, accepts, unsized]
  matching := matches_complement
  matching_unreadable := matches_unreadable
  membership := includes_complement
  membership_none sized none := none ▸ includes_none sized
  membership_some _ _ some := some ▸ not_includes_and_excludes
  empty_length := empty_iff_length_zero
  includes_contains := includes_iff_contains

/-- An operand is refused, and then every assertion on it breaks down with that refusal; or both
resolve, and then all assertions on them have outcomes for the same two values, on which an operator
and its negation are complementary. The length zero may also be given as such. -/
theorem negations_complement (operands : Operands) (scope : Scope) :
    (∃ refusal, (Token.resolveValue scope operands.actual = .error refusal ∨
        Token.resolveValue scope operands.expected = .error refusal) ∧
      ∀ a : Assertion, a.operands = operands → a.execute scope = .error refusal) ∨
    ∃ actual expected, Token.resolveValue scope operands.actual = .ok actual ∧
      Token.resolveValue scope operands.expected = .ok expected ∧
      Complement actual.value expected.value ∧
      (∀ (o : Operator) (a : Assertion), a.operation = o.operation → a.operands = operands →
        a.RunsOn scope actual.value expected.value ∧
        (a.Passes scope ↔ o.Succeeds actual.value expected.value)) ∧
      ∀ a : Assertion, a.operation = length.operation → a.operands.actual = operands.actual →
        a.operands.expected = .int 0 → (a.Passes scope ↔ empty.Succeeds actual.value expected.value) := by
  cases hactual : Token.resolveValue scope operands.actual with
  | error refusal =>
    left
    refine ⟨refusal, .inl rfl, ?_⟩
    rintro a rfl
    exact Assertion.execute_eq_error_of_actual hactual
  | ok actual =>
    cases hexpected : Token.resolveValue scope operands.expected with
    | error refusal =>
      left
      refine ⟨refusal, .inr rfl, ?_⟩
      rintro a rfl
      exact Assertion.execute_eq_error_of_expected hactual hexpected
    | ok expected =>
      right
      refine ⟨actual, expected, rfl, rfl, complement _ _, ?_, ?_⟩
      · rintro o a operation rfl
        have ran := Assertion.runsOn_of_resolved hactual hexpected
        exact ⟨ran, ran.passes_iff operation⟩
      · intro a operation same zero
        have hzero : Token.resolveValue scope a.operands.expected = .ok ⟨.int 0, []⟩ := by
          rw [zero]
          rfl
        have ran := Assertion.runsOn_of_resolved (same ▸ hactual) hzero
        exact (ran.passes_iff operation).trans empty_iff_length_zero.symm

/-- A scope in which `$.ctx.list` has two items. -/
def listScope : Scope :=
  ⟨Context.empty.putRoot "ctx" (.object [("list", .array [.nat 1, .nat 2])]), fun _ => none⟩

/-- An operator on the values that a selector finds in the list, and the number two. -/
def onList (o : Operator) (selector : String) : Assertion :=
  ⟨"", o.operation, ⟨.string ("\x7b\x7b$.ctx.list" ++ selector ++ "\x7d\x7d"), .int 2, none, false⟩⟩

theorem last_item_negations :
    (onList equals "[1]").Passes listScope ∧ ¬ (onList notEquals "[1]").Passes listScope ∧
    ∃ x y, Complement x y ∧ (onList equals "[1]").RunsOn listScope x y ∧
      equals.Succeeds x y ∧ ¬ notEquals.Succeeds x y := by
  have passing : (onList equals "[1]").Passes listScope := by decide +kernel
  have failing : ¬ (onList notEquals "[1]").Passes listScope := by decide +kernel
  refine ⟨passing, failing, ?_⟩
  rcases negations_complement (onList equals "[1]").operands listScope with refused | resolved
  · obtain ⟨refusal, -, broken⟩ := refused
    obtain ⟨f, lines, executed, -⟩ := passing
    cases executed.symm.trans (broken _ rfl)
  · obtain ⟨x, y, -, -, laws, runs, -⟩ := resolved
    have first := runs equals (onList equals "[1]") rfl rfl
    have second := runs notEquals (onList notEquals "[1]") rfl rfl
    exact ⟨x.value, y.value, laws, first.1, first.2.mp passing, fun both => failing (second.2.mpr both)⟩

/-- A selector that is refused ends an operator and its negation alike, and neither succeeds. -/
theorem refused_negations :
    ¬ ((onList equals "[::0]").Passes listScope ↔ ¬ (onList notEquals "[::0]").Passes listScope) := by
  decide +kernel

end Operator

end Assay

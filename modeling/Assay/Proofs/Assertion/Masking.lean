/- digest: What the messages of secret assertions give away: where the operands show in full and
   nowhere else, nothing but the reason of the failure. -/

import Assay.Proofs.Assertion.Wording

set_option autoImplicit false
set_option relaxedAutoImplicit false

namespace Assay

namespace Operator

/-- Why an operator rejects operands. -/
inductive Reason
  /-- It needs operands of another shape. -/
  | need
  /-- The operands have no order. -/
  | incomparable
  /-- The expected value is no pattern. -/
  | unreadable
  /-- An operand is no number. -/
  | notNumber
  /-- The comparison does not hold. -/
  | refuted
  deriving DecidableEq

/-- Why a comparison fails on operands of the shape that it needs, if it does. -/
def comparison (actual expected : Json) : Operator → Reason
  | .greaterThan | .greaterOrEqual | .lessThan | .lessOrEqual =>
    if (Compare.order? actual expected).isSome then .refuted else .incomparable
  | .matches | .notMatches =>
    match patternMatches actual expected with
    | .ok _ => .refuted
    | .error _ => .unreadable
  | .between => if (Compare.number? actual).isSome then .refuted else .notNumber
  | .length => if (Compare.number? expected).isSome then .refuted else .notNumber
  | _ => .refuted

/-- Why an operator rejects two operands, if it does. -/
def reason (o : Operator) (actual expected : Json) : Reason :=
  match o.requirement.check "" actual expected with
  | .fails _ => .need
  | .holds => o.comparison actual expected

/-- The words around the operands where a comparison is refuted; none for operators that show only
what they worked out from the operands. -/
def refutedWording : Operator → Wording
  | .equals => [.words "Expected '", .expected, .words "' but got '", .actual, .words "'"]
  | .notEquals => [.words "Expected a value other than '", .expected, .words "'"]
  | .greaterThan => ordered "greater than"
  | .greaterOrEqual => ordered "greater than or equal to"
  | .lessThan => ordered "less than"
  | .lessOrEqual => ordered "less than or equal to"
  | .exist => [.words "Expected value to exist"]
  | .notExists => [.words "Expected no value but got '", .actual, .words "'"]
  | .contains => related "' to contain '" "'"
  | .notContains => related "' not to contain '" "'"
  | .matches => related "' to match /" "/"
  | .notMatches => related "' not to match /" "/"
  | .includes => [.words "Values [", .expected, .words "] not found in '", .actual, .words "'"]
  | .excludes =>
    [.words "Values [", .expected, .words "] unexpectedly found in '", .actual, .words "'"]
  | .startsWith => related "' to start with '" "'"
  | .endsWith => related "' to end with '" "'"
  | .type | .empty | .notEmpty | .between | .length => []
where
  related (relation closing : String) : Wording :=
    [.words "Expected '", .actual, .words relation, .expected, .words closing]
  ordered (relation : String) : Wording := related ("' to be " ++ relation ++ " '") "'"

def incomparableWording (actualType expectedType : String) : Wording :=
  [.words ("Cannot compare " ++ actualType ++ " '"), .actual,
    .words ("' with " ++ expectedType ++ " '"), .expected, .words "' numerically"]

/-- The words around the operands in the message of an operator under a name, by its reason and the
types of the operands. -/
def wording (o : Operator) (name actualType expectedType : String) : Reason → Wording
  | .need =>
    match o.requirement with
    | .anything => []
    | .sizedActual =>
      [.words ("Operator '" ++ name ++ "' requires a collection or string actual value, got " ++
        actualType)]
    | .rangeExpected =>
      let words := "Operator '" ++ name ++ "' requires [min,max] numeric expected value, got "
      if expectedType = "string" then [.words words, .words "\"", .expected, .words "\""]
      else [.words words, .expected]
  | .incomparable => incomparableWording actualType expectedType
  | .unreadable | .notNumber => []
  | .refuted => o.refutedWording

/-- Whether a failure shows an operand only as its whole text: no single items of a list, no numbers
in another form, no flaws of a pattern, and no text with escapes. -/
def showsWhole (o : Operator) (expected : Json) : Reason → Bool
  | .need =>
    match o.requirement, expected with
    | .rangeExpected, .string s => Text.quoteJson s == "\"" ++ s ++ "\""
    | .rangeExpected, .null => false
    | _, _ => true
  | .incomparable => true
  | .unreadable | .notNumber => false
  | .refuted =>
    match o with
    | .includes | .excludes => !expected.isArray
    | .type | .empty | .notEmpty | .between | .length => false
    | _ => true

end Operator

namespace Verdict

private theorem of_eq_fails {condition : Bool} {text message : String} :
    of condition text = .fails message ↔ condition = false ∧ text = message := by
  cases condition <;> simp [of]

end Verdict

namespace Operator

variable {o : Operator} {name message : String} {x y : Json}

private theorem isHolding_check (r : Requirement) (name other : String) (x y : Json) :
    (r.check name x y).isHolding = (r.check other x y).isHolding := by
  cases r with
  | anything => rfl
  | sizedActual =>
    unfold Requirement.check
    cases Compare.isSized x <;> rfl
  | rangeExpected =>
    unfold Requirement.check
    cases (Compare.range? y).isSome <;> rfl

private theorem fill_words (a e text : String) : Wording.fill a e [.words text] = text := by
  simp [Wording.fill, MessagePart.text]

private theorem need_fill (h : o.requirement.check name x y = .fails message)
    (whole : o.showsWhole y .need = true) :
    message = (o.wording name x.typeName y.typeName .need).fill x.plainText y.plainText := by
  unfold wording
  unfold showsWhole at whole
  cases hr : o.requirement with
  | anything => simp [hr, Requirement.check] at h
  | sizedActual =>
    rw [hr, Requirement.check, Verdict.of_eq_fails] at h
    rw [← h.2, fill_words]
  | rangeExpected =>
    rw [hr, Requirement.check, Verdict.of_eq_fails] at h
    rw [← h.2]
    cases y with
    | null => simp [hr] at whole
    | string s =>
      have quoted : Text.quoteJson s = "\"" ++ s ++ "\"" := by simpa [hr] using whole
      simp [Wording.fill, MessagePart.text, Json.typeName, Json.plainText, Json.render, quoted,
        String.append_assoc]
    | number n =>
      cases n <;>
        simp [Wording.fill, MessagePart.text, Json.typeName, Json.plainText, String.append_assoc]
    | bool _ | array _ | object _ =>
      simp [Wording.fill, MessagePart.text, Json.typeName, Json.plainText, String.append_assoc]

private theorem join_plainText_filter {v : Json} {test : Json → Bool}
    (h : ([v].filter test).isEmpty = false) :
    Text.join ", " (([v].filter test).map Json.plainText) = v.plainText := by
  cases passes : test v with
  | true => simp [passes, Text.join]
  | false => simp [passes] at h

private theorem expectedItems_of_not_array {v : Json} (h : v.isArray = false) :
    expectedItems v = [v] := by
  cases v with
  | array items => cases h
  | null | bool _ | number _ | string _ | object _ => rfl

private theorem order_fill {accept : Ordering → Bool} {relation : String}
    (h : judgeOrder accept relation x y = .fails message) :
    message = (if (Compare.order? x y).isSome then refutedWording.ordered relation
      else incomparableWording x.typeName y.typeName).fill x.plainText y.plainText := by
  unfold judgeOrder at h
  cases order : Compare.order? x y with
  | none =>
    simp only [order, Verdict.fails.injEq] at h
    simp [← h, incomparableWording, Wording.fill, MessagePart.text, String.append_assoc]
  | some found =>
    simp only [order, Verdict.of_eq_fails] at h
    simp [← h.2, refutedWording.ordered, refutedWording.related, Wording.fill, MessagePart.text,
      String.append_assoc]

private theorem comparison_fill (h : o.judge x y = .fails message)
    (whole : o.showsWhole y (o.comparison x y) = true) :
    message = (o.wording name x.typeName y.typeName (o.comparison x y)).fill
      x.plainText y.plainText := by
  cases o with
  | equals | notEquals | notExists | contains | notContains | startsWith | endsWith =>
    rw [judge, Verdict.of_eq_fails] at h
    simp [← h.2, comparison, wording, refutedWording, refutedWording.related, Wording.fill,
      MessagePart.text, String.append_assoc]
  | exist =>
    rw [judge, Verdict.of_eq_fails] at h
    simp [← h.2, comparison, wording, refutedWording, Wording.fill, MessagePart.text]
  | greaterThan | greaterOrEqual | lessThan | lessOrEqual =>
    have shown := order_fill h
    simp only [comparison]
    split at shown
    · rwa [if_pos ‹_›]
    · rwa [if_neg ‹_›]
  | «matches» | notMatches =>
    simp only [judge] at h
    simp only [comparison] at whole ⊢
    cases read : patternMatches x y with
    | error flaw => simp [read, showsWhole] at whole
    | ok m =>
      simp only [read, Verdict.of_eq_fails] at h
      simp [← h.2, wording, refutedWording, refutedWording.related, Wording.fill,
        MessagePart.text, String.append_assoc]
  | includes | excludes =>
    -- A list would show item by item, and only those items that the test singles out.
    have single : y.isArray = false := by simpa [showsWhole, comparison] using whole
    simp only [judge] at h
    rw [Verdict.of_eq_fails, expectedItems_of_not_array single] at h
    rw [← h.2, join_plainText_filter h.1]
    simp [comparison, wording, refutedWording, Wording.fill, MessagePart.text, String.append_assoc]
  | type | empty | notEmpty => simp [showsWhole, comparison] at whole
  | between | length =>
    simp only [comparison] at whole
    split at whole <;> simp [showsWhole] at whole

private theorem fails_fill {a : Assertion} (ha : a.operation = o.operation)
    (h : a.judge x y = .fails message) (whole : o.showsWhole y (o.reason x y) = true) :
    message = (o.wording a.operator x.typeName y.typeName (o.reason x y)).fill
      x.plainText y.plainText := by
  unfold Assertion.judge at h
  rw [ha] at h
  -- The name of the operator is in the message of its requirement, but the reason does not know it.
  have same := isHolding_check o.requirement a.operator "" x y
  cases needed : o.requirement.check a.operator x y with
  | fails m =>
    have unmet : o.reason x y = .need := by
      unfold reason
      cases bare : o.requirement.check "" x y with
      | fails _ => rfl
      | holds => simp [needed, bare, Verdict.isHolding] at same
    rw [unmet] at whole ⊢
    refine need_fill ?_ whole
    simpa [operation, needed] using h
  | holds =>
    have met : o.reason x y = o.comparison x y := by
      unfold reason
      cases bare : o.requirement.check "" x y with
      | fails _ => simp [needed, bare, Verdict.isHolding] at same
      | holds => rfl
    rw [met] at whole ⊢
    refine comparison_fill ?_ whole
    simpa [operation, needed] using h

end Operator

namespace Assertion

variable {a : Assertion} {scope : Scope} {f : Finding} {lines : List String}

private theorem execute_eq_ok (h : a.execute scope = .ok ⟨f, lines⟩) :
    f = a.finding f.actual f.expected := by
  unfold execute at h
  cases hactual : Token.resolveValue scope a.operands.actual with
  | error e => simp [hactual, Token.Resolution.andThen] at h
  | ok actual =>
    cases hexpected : Token.resolveValue scope a.operands.expected with
    | error e =>
      simp [hactual, hexpected, Token.Resolution.andThen, Token.Resolution.onValue,
        Except.map] at h
    | ok expected =>
      simp only [hactual, hexpected, Token.Resolution.andThen, Token.Resolution.onValue,
        Except.map, Except.ok.injEq, Token.Logged.mk.injEq] at h
      rw [← h.1]
      rfl

private theorem message_of_failure {x y : Json} (hmask : a.operands.mask = true)
    (h : (a.finding x y).success = false) :
    ∃ m, a.judge x y = .fails m ∧ (a.finding x y).message = some (hideValues m [x, y]) := by
  cases verdict : a.judge x y with
  | holds => simp [finding, verdict, Verdict.isHolding] at h
  | fails m => exact ⟨m, rfl, by simp [finding, verdict, hmask, Verdict.message?]⟩

end Assertion

/-- A secret assertion with an operator under a name failed for a reason, on operands of given types
that show in the message in full, each in its slots alone. -/
structure Operator.FailedInSecret (o : Operator) (name : String) (reason : Reason)
    (actualType expectedType : String) (f : Finding) : Prop where
  execution : ∃ (a : Assertion) (scope : Scope) (lines : List String), a.operation = o.operation ∧
    a.operator = name ∧ a.operands.mask = true ∧ a.execute scope = .ok ⟨f, lines⟩
  failed : f.success = false
  reason_eq : o.reason f.actual f.expected = reason
  actualType_eq : f.actual.typeName = actualType
  expectedType_eq : f.expected.typeName = expectedType
  whole : o.showsWhole f.expected reason = true
  clear : (o.wording name actualType expectedType reason).Clear f.actual.plainText
    f.expected.plainText

namespace Operator

variable {o : Operator} {name actualType expectedType : String} {r : Reason} {f g : Finding}

private theorem FailedInSecret.message_eq (h : o.FailedInSecret name r actualType expectedType f) :
    f.message = some ((o.wording name actualType expectedType r).fill maskText maskText) := by
  obtain ⟨a, scope, lines, operation, rfl, hmask, ran⟩ := h.execution
  have outcome := Assertion.execute_eq_ok ran
  have failed : (a.finding f.actual f.expected).success = false := outcome ▸ h.failed
  obtain ⟨m, verdict, message⟩ := Assertion.message_of_failure hmask failed
  have whole : o.showsWhole f.expected (o.reason f.actual f.expected) = true := by
    rw [h.reason_eq]
    exact h.whole
  have filled := fails_fill operation verdict whole
  rw [h.reason_eq, h.actualType_eq, h.expectedType_eq] at filled
  rw [outcome, message, filled, Wording.hideValues_fill h.clear]

/-- Two secret failures of an operator for one reason, with operands of the same types, have one
message, whatever the operands are, if these show in full and nowhere but in their slots. -/
theorem secret_messages_agree (hf : o.FailedInSecret name r actualType expectedType f)
    (hg : o.FailedInSecret name r actualType expectedType g) : f.message = g.message := by
  rw [hf.message_eq, hg.message_eq]

def secretTest (actual expected : String) : Assertion :=
  ⟨"equals", Operator.equals.operation, ⟨.string actual, .string expected, none, true⟩⟩

def secretFinding (actual expected : String) : Finding :=
  (secretTest actual expected).finding (.string actual) (.string expected)

private theorem secretTest_execute {actual expected : String}
    (h : (Token.isLive actual || Token.isLive expected) = false) (scope : Scope) :
    (secretTest actual expected).execute scope = .ok ⟨secretFinding actual expected, []⟩ := by
  obtain ⟨hactual, hexpected⟩ := Bool.or_eq_false_iff.mp h
  simp [Assertion.execute, secretTest, secretFinding, Token.resolveValue, Token.expandWith,
    hactual, hexpected, Token.Resolution.silent, Token.Resolution.andThen,
    Token.Resolution.onValue, Except.map]

def bareScope : Scope := ⟨.empty, fun _ => none⟩

theorem secret_messages_agree_password :
    (secretFinding "hunter2" "nope").message = (secretFinding "s3cret" "gu3ss").message := by
  have first : equals.FailedInSecret "equals" .refuted "string" "string"
      (secretFinding "hunter2" "nope") :=
    ⟨⟨_, bareScope, [], rfl, rfl, rfl, secretTest_execute (by decide +kernel) _⟩,
      by decide +kernel, by decide +kernel, rfl, rfl, rfl,
      ⟨by decide, by decide, by decide +kernel, by decide +kernel⟩⟩
  have second : equals.FailedInSecret "equals" .refuted "string" "string"
      (secretFinding "s3cret" "gu3ss") :=
    ⟨⟨_, bareScope, [], rfl, rfl, rfl, secretTest_execute (by decide +kernel) _⟩,
      by decide +kernel, by decide +kernel, rfl, rfl, rfl,
      ⟨by decide, by decide, by decide +kernel, by decide +kernel⟩⟩
  exact secret_messages_agree first second

/-- Where the actual text is a part of the expected one, what is left of the latter shows: the
messages differ, although both tests fail for one reason and no operand occurs in the wording. -/
theorem secret_message_shows_rest :
    (secretTest "hunter2" "nope").execute bareScope = .ok ⟨secretFinding "hunter2" "nope", []⟩ ∧
    (secretTest "hunter2" "hunter2!").execute bareScope =
      .ok ⟨secretFinding "hunter2" "hunter2!", []⟩ ∧
    equals.reason (.string "hunter2") (.string "nope") =
      equals.reason (.string "hunter2") (.string "hunter2!") ∧
    (∀ text ∈ ["hunter2", "nope", "hunter2!"],
      ∀ words ∈ ["Expected '", "' but got '", "'", maskText], Text.contains words text = false) ∧
    (secretFinding "hunter2" "nope").message = some "Expected '****' but got '****'" ∧
    (secretFinding "hunter2" "hunter2!").message = some "Expected '****!' but got '****'" := by
  refine ⟨secretTest_execute (by decide +kernel) _, secretTest_execute (by decide +kernel) _,
    ?_, ?_, ?_, ?_⟩
  · decide +kernel
  · decide +kernel
  · decide +kernel
  · decide +kernel

end Operator

end Assay

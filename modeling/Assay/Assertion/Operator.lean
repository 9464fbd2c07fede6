/- digest: The operators of assertions: what each needs of its operands, when it holds, and what it
   says when it does not. -/

import Assay.Assertion.Compare
import Assay.Number.Render
import Assay.Pattern.Match
import Assay.Pattern.Read
import Assay.Pattern.Size

set_option autoImplicit false
set_option relaxedAutoImplicit false

namespace Assay

/-- The outcome of a test. -/
inductive Verdict
  | holds
  | fails (message : String)
  deriving DecidableEq

namespace Verdict

def of (condition : Bool) (message : String) : Verdict :=
  if condition then .holds else .fails message

def isHolding : Verdict → Bool
  | .holds => true
  | .fails _ => false

def message? : Verdict → Option String
  | .holds => none
  | .fails m => some m

end Verdict

/-- What an operator needs before it can compare. -/
inductive Requirement
  | anything
  /-- The actual value is a text, a list or an object. -/
  | sizedActual
  /-- The expected value is a list of two numbers. -/
  | rangeExpected
  deriving DecidableEq

/-- An operator's need and its test of resolved operands. -/
structure Operation where
  requirement : Requirement
  judge : Json → Json → Verdict

def Requirement.check (operator : String) (r : Requirement) (actual expected : Json) : Verdict :=
  match r with
  | .anything => .holds
  | .sizedActual =>
    .of (Compare.isSized actual) ("Operator '" ++ operator ++
      "' requires a collection or string actual value, got " ++ actual.typeName)
  | .rangeExpected =>
    .of (Compare.range? expected).isSome ("Operator '" ++ operator ++
      "' requires [min,max] numeric expected value, got " ++ expected.render)

/-- The operators that are always there. -/
inductive Operator
  | equals | notEquals
  | greaterThan | greaterOrEqual | lessThan | lessOrEqual
  | type | exist | notExists | empty | notEmpty
  | contains | notContains | matches | notMatches
  | between | length | includes | excludes | startsWith | endsWith
  deriving DecidableEq

namespace Operator

def judgeOrder (accept : Ordering → Bool) (relation : String) (actual expected : Json) : Verdict :=
  match Compare.order? actual expected with
  | some order => .of (accept order) ("Expected '" ++ actual.plainText ++ "' to be " ++ relation ++
      " '" ++ expected.plainText ++ "'")
  | none => .fails ("Cannot compare " ++ actual.typeName ++ " '" ++ actual.plainText ++ "' with " ++
      expected.typeName ++ " '" ++ expected.plainText ++ "' numerically")

def patternMatches (actual expected : Json) : Except String Bool :=
  let text := expected.plainText
  match Pattern.read text with
  | .error flaw => .error ("Invalid regular expression '" ++ text ++ "': " ++ flaw.report text)
  | .ok p =>
    if p.isTooLarge then
      .error ("Invalid regular expression '" ++ text ++ "': Compiled regex exceeds size limit of " ++
        toString Pattern.roomLimit ++ " bytes.")
    else .ok (p.isMatch actual.plainText)

/-- The items that a list of expected values names; any other value is an item itself. -/
def expectedItems : Json → List Json
  | .array items => items
  | v => [v]

/-- A test of a number against bounds. -/
def judgeBetween (actual expected : Json) : Verdict :=
  match Compare.range? expected with
  | none => .fails "Operator 'between' requires [min,max]"
  | some (low, high) =>
    match Compare.number? actual with
    | none => .fails ("Expected a number between " ++ low.renderPlain ++ " and " ++
        high.renderPlain ++ " but got " ++ actual.typeName)
    | some v => .of (low.atMost v && v.atMost high) ("Expected " ++ v.renderPlain ++
        " to be between " ++ low.renderPlain ++ " and " ++ high.renderPlain)

def judgeLength (actual expected : Json) : Verdict :=
  match Compare.number? expected with
  | none => .fails ("Expected length must be a number, got '" ++ expected.plainText ++ "'")
  | some wanted =>
    let found := Compare.size actual
    .of ((Double.ofInt? found).any (·.same wanted)) ("Expected length " ++ wanted.renderPlain ++
      " but got " ++ toString found)

def judge (o : Operator) (actual expected : Json) : Verdict :=
  let a := actual.plainText
  let e := expected.plainText
  match o with
  | .equals => .of (Compare.equal actual expected) ("Expected '" ++ e ++ "' but got '" ++ a ++ "'")
  | .notEquals => .of (!Compare.equal actual expected) ("Expected a value other than '" ++ e ++ "'")
  | .greaterThan => judgeOrder (· == .gt) "greater than" actual expected
  | .greaterOrEqual => judgeOrder (· != .lt) "greater than or equal to" actual expected
  | .lessThan => judgeOrder (· == .lt) "less than" actual expected
  | .lessOrEqual => judgeOrder (· != .gt) "less than or equal to" actual expected
  | .type =>
    let wanted := Text.lower e
    let found := actual.typeName
    .of (wanted == found || (wanted == "number" && found == "integer"))
      ("Expected type '" ++ wanted ++ "' but got '" ++ found ++ "'")
  | .exist => .of (Compare.isPresent actual) "Expected value to exist"
  | .notExists => .of (!Compare.isPresent actual) ("Expected no value but got '" ++ a ++ "'")
  | .empty => .of (Compare.size actual == 0) ("Expected empty " ++ actual.typeName ++
      " but it has " ++ toString (Compare.size actual) ++ " item(s)")
  | .notEmpty => .of (Compare.size actual != 0) ("Expected non-empty " ++ actual.typeName)
  | .contains => .of (Compare.holds actual expected) ("Expected '" ++ a ++ "' to contain '" ++ e ++ "'")
  | .notContains =>
    .of (!Compare.holds actual expected) ("Expected '" ++ a ++ "' not to contain '" ++ e ++ "'")
  | .matches =>
    match patternMatches actual expected with
    | .ok m => .of m ("Expected '" ++ a ++ "' to match /" ++ e ++ "/")
    | .error message => .fails message
  | .notMatches =>
    match patternMatches actual expected with
    | .ok m => .of (!m) ("Expected '" ++ a ++ "' not to match /" ++ e ++ "/")
    | .error message => .fails message
  | .between => judgeBetween actual expected
  | .length => judgeLength actual expected
  | .includes =>
    let missing := (expectedItems expected).filter fun v => !Compare.holds actual v
    .of missing.isEmpty ("Values [" ++ Text.join ", " (missing.map Json.plainText) ++
      "] not found in '" ++ a ++ "'")
  | .excludes =>
    let present := (expectedItems expected).filter fun v => Compare.holds actual v
    .of present.isEmpty ("Values [" ++ Text.join ", " (present.map Json.plainText) ++
      "] unexpectedly found in '" ++ a ++ "'")
  | .startsWith => .of (Text.startsWith (Text.lower a) (Text.lower e))
      ("Expected '" ++ a ++ "' to start with '" ++ e ++ "'")
  | .endsWith => .of (Text.endsWith (Text.lower a) (Text.lower e))
      ("Expected '" ++ a ++ "' to end with '" ++ e ++ "'")

def requirement : Operator → Requirement
  | .empty => .sizedActual
  | .notEmpty => .sizedActual
  | .length => .sizedActual
  | .includes => .sizedActual
  | .excludes => .sizedActual
  | .between => .rangeExpected
  | _ => .anything

def operation (o : Operator) : Operation := ⟨o.requirement, o.judge⟩

end Operator

end Assay

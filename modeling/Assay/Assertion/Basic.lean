/- digest: Assertions and their results; operands that are marked as secret are not shown. -/

import Assay.Assertion.Operator
import Assay.Token.Resolve

set_option autoImplicit false
set_option relaxedAutoImplicit false

namespace Assay

/-- The operands of an assertion before their tokens are resolved. -/
structure Operands where
  actual : Json
  expected : Json
  description : Option String
  mask : Bool
  deriving Inhabited

/-- An operation on operands under the name of its operator. -/
structure Assertion where
  operator : String
  operation : Operation
  operands : Operands

def maskText : String := "****"

/-- The outcome of an assertion. -/
structure Finding where
  operator : String
  success : Bool
  description : Option String
  actual : Json
  expected : Json
  message : Option String
  mask : Option Bool
  deriving Inhabited

namespace Finding

def isMasked (f : Finding) : Bool := f.mask == some true

/-- Sets the mark of secrecy, which can be done only once. -/
def setMask? (f : Finding) (mask : Bool) : Option Finding :=
  match f.mask with
  | some _ => none
  | none => some { f with mask := some mask }

def display (f : Finding) (v : Json) : String :=
  if f.isMasked then maskText else v.plainText

/-- The outcome without secret operands. -/
def redacted (f : Finding) : Finding :=
  if f.isMasked then { f with actual := .string maskText, expected := .string maskText } else f

def toJson (f : Finding) : Json :=
  .object [("operator", .string f.operator), ("success", .bool f.success),
    ("description", .ofText? f.description), ("actual", f.actual), ("expected", f.expected),
    ("message", .ofText? f.message), ("mask", .bool f.isMasked)]

end Finding

namespace Assertion

/-- A message in which the texts of some values are hidden, one value after the other. -/
def hideValues (message : String) (values : List Json) : String :=
  values.foldl (fun m v => Text.replace m v.plainText maskText) message

/-- The verdict on resolved operands: first the operator's need, then its test. -/
def judge (a : Assertion) (actual expected : Json) : Verdict :=
  match a.operation.requirement.check a.operator actual expected with
  | .holds => a.operation.judge actual expected
  | .fails m => .fails m

def finding (a : Assertion) (actual expected : Json) : Finding :=
  let verdict := a.judge actual expected
  { operator := a.operator
    success := verdict.isHolding
    description := a.operands.description
    actual := actual
    expected := expected
    message :=
      if a.operands.mask then verdict.message?.map fun m => hideValues m [actual, expected]
      else verdict.message?
    mask := if a.operands.mask then some true else none }

/-- Resolves the operands and tests them. -/
def execute (a : Assertion) (scope : Scope) : Token.Resolution Finding :=
  (Token.resolveValue scope a.operands.actual).andThen fun actual =>
    (Token.resolveValue scope a.operands.expected).onValue (a.finding actual)

end Assertion

end Assay

/- digest: The types of steps and assertions that documents may name. -/

import Assay.Registry
import Assay.Step.Basic

set_option autoImplicit false
set_option relaxedAutoImplicit false

namespace Assay

/-- The kinds of steps. A foreign kind reads its work from the fields of the document. -/
inductive StepKind
  | wait | check | each | loop | request | use
  | foreign (read : Members Json → Except String ForeignWork)

/-- The types that documents may name. -/
structure Vocabulary where
  steps : Registry StepKind
  assertions : Registry Operation

namespace Vocabulary

def stepType (typeName : String) (given : Option String) (kind : StepKind) :
    TypeDescriptor StepKind := .make .step typeName given kind

/-- The descriptors of the six kinds of steps. -/
def waitType : TypeDescriptor StepKind := stepType "jtest::flow::WaitStep" none .wait

@[inherit_doc waitType]
def checkType : TypeDescriptor StepKind := stepType "jtest::flow::AssertStep" none .check

@[inherit_doc waitType]
def eachType : TypeDescriptor StepKind := stepType "jtest::flow::ForLoopStep" (some "for") .each

@[inherit_doc waitType]
def loopType : TypeDescriptor StepKind := stepType "jtest::flow::WhileStep" none .loop

@[inherit_doc waitType]
def requestType : TypeDescriptor StepKind := stepType "jtest::http::HttpStep" none .request

@[inherit_doc waitType]
def useType : TypeDescriptor StepKind := stepType "jtest::template::UseStep" none .use

def operatorNames : List (String × Operator) :=
  [("Equals", .equals), ("NotEquals", .notEquals), ("GreaterThan", .greaterThan),
    ("GreaterOrEqual", .greaterOrEqual), ("LessThan", .lessThan), ("LessOrEqual", .lessOrEqual),
    ("Type", .type), ("Exists", .exist), ("NotExists", .notExists), ("Empty", .empty),
    ("NotEmpty", .notEmpty), ("Contains", .contains), ("NotContains", .notContains),
    ("Match", .matches), ("NotMatch", .notMatches), ("Between", .between), ("Length", .length),
    ("In", .includes), ("NotIn", .excludes), ("StartsWith", .startsWith),
    ("EndsWith", .endsWith)]

def operatorType (name : String) (o : Operator) : TypeDescriptor Operation :=
  .make .assertion ("jtest::assertion::" ++ name ++ "Assertion") none o.operation

def standard : Vocabulary :=
  ⟨((Registry.empty .step).registerAll
      [waitType, checkType, eachType, loopType, requestType, useType]).1,
    ((Registry.empty .assertion).registerAll
      (operatorNames.map fun e => operatorType e.1 e.2)).1⟩

end Vocabulary

end Assay

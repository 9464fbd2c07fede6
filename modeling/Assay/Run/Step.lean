/- digest: Running steps: the work of the step first, then its values are saved, then its assertions
   are tested. -/

import Assay.Run.Loops
import Assay.Run.Request
import Assay.Run.Use

set_option autoImplicit false
set_option relaxedAutoImplicit false

namespace Assay

namespace Step

/-- The place that a value is saved to; the text may hold tokens. -/
def readTarget (label target : String) : Exec Path := do
  let text ← if Token.hasTokens target then Exec.resolveText target else pure target
  Exec.naming ("invalid save target in step '" ++ label ++ "'") (Exec.readPath text)

def saveAll (label : String) (changes : Changes) : Members Json → Exec Changes
  | [] => pure changes
  | (target, v) :: rest => do
    let p ← readTarget label target
    let v ← Exec.resolveValue v
    let change ← Exec.write p v
    saveAll label (changes.record p change) rest

/-- The error of a step: that of its work, or the number of its failed assertions. -/
def errorOf (outcome : Outcome) (findings : List Finding) : Option String :=
  let count := (findings.filter (!·.success)).length
  outcome.error.or (if count = 0 then none else some (toString count ++ " assertion(s) failed"))

def complete (frame : StepFrame) (outcome : Outcome) : Exec StepResult := do
  let changes ← saveAll frame.label outcome.changes frame.save
  let findings ← Exec.inTurn Exec.check frame.checks
  let logs ← Exec.takeLog
  return { id := frame.id, name := frame.label, kind := frame.kind
           success := outcome.success && findings.all (·.success)
           error := errorOf outcome findings, milliseconds := 0, findings := findings
           changes := changes, details := outcome.details, inner := outcome.inner, logs := logs }

def runForeign (work : ForeignWork) : Exec Outcome := do
  match work ⟨← Exec.context, (← Exec.surroundings).processVariable⟩ with
  | .ok c =>
    Exec.setContext c
    return .passed
  | .error text => throw (.breakdown text)

/-- The work of a step; `body` gives the results of the steps inside it. -/
def work (body : List Step → Exec (List StepResult)) : Step → Exec Outcome
  | .wait _ duration => do
    let milliseconds ← Exec.readMilliseconds duration "wait duration"
    Exec.pause milliseconds
    return Outcome.passed.withDetails [("ms", .nat milliseconds)]
  | .check _ => pure .passed
  | .each _ items itemKey indexKey steps => Each.run items itemKey indexKey (body steps)
  | .loop _ condition timeout steps => Loop.run condition timeout (body steps)
  | .request _ call => call.run
  | .use _ template arguments => Use.run template arguments body
  | .foreign _ work => runForeign work

def runLayer (inner : Step → Exec StepResult) (step : Step) : Exec StepResult := do
  let outcome ← Exec.naming (step.frame.kind ++ " step '" ++ step.frame.label ++ "' failed")
    (step.work (Exec.inTurn inner))
  complete step.frame outcome

def runWithin : Nat → Step → Exec StepResult
  | 0, _ => throw .exhausted
  | levels + 1, step => runLayer (runWithin levels) step

def run (step : Step) : Exec StepResult := do
  runWithin (← Exec.surroundings).depth step

def runAll : List Step → Exec (List StepResult) := Exec.inTurn run

end Step

end Assay

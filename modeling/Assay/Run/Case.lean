/- digest: Running test cases: each run has variables of its own, and of what it writes there only
   the globals are carried on. -/

import Assay.Run.Step
import Assay.Suite.Basic

set_option autoImplicit false
set_option relaxedAutoImplicit false

namespace Assay

/-- The result of one run of a test case. -/
structure CaseResult where
  name : String
  dataset : Option String
  success : Bool
  milliseconds : Nat
  steps : List StepResult
  /-- The fault that broke the run off. -/
  error : Option String
  /-- The number of steps that did not run because of the fault. -/
  skipped : Nat
  deriving Inhabited

namespace CaseResult

def title (r : CaseResult) : String :=
  match r.dataset with
  | some d => r.name ++ " [" ++ d ++ "]"
  | none => r.name

/-- The result without secret operands. -/
def redacted (r : CaseResult) : CaseResult := { r with steps := StepResult.redactedAll r.steps }

def toJson (r : CaseResult) : Json :=
  .object [("name", .string r.name), ("dataset", .ofText? r.dataset), ("success", .bool r.success),
    ("durationMs", .nat r.milliseconds), ("steps", .array (StepResult.toJsonAll r.steps)),
    ("error", .ofText? r.error), ("skipped", .nat r.skipped)]

end CaseResult

/-- The variables of a run with a dataset: those of the snapshot, with the globals that the run
before left, and with the values of the dataset resolved in them. -/
def Dataset.enter (processVariable : String → Option String) (snapshot : Context)
    (previous : Option Json) (d : Dataset) : Except Selector.Refusal Context :=
  let c := match previous with
    | some globals => snapshot.copy.putRoot Context.globalsRoot globals
    | none => snapshot.copy
  (Token.resolveValue ⟨c, processVariable⟩ (.object d.values)).map fun values =>
    (c.logLines values.lines).putRoot Context.caseRoot values.value

namespace TestCase

/-- Runs steps up to the first fault, which stands as the last result. -/
def runSteps : List Step → Exec (List StepResult × Option Fault)
  | [] => pure ([], none)
  | step :: rest => do
    match ← Exec.attempt step.run with
    | .ok result =>
      let (others, fault) ← runSteps rest
      return (result :: others, fault)
    | .error fault =>
      let logs ← Exec.takeLog
      return ([.ofFault step.frame fault logs], some fault)

def runOnce (c : TestCase) (dataset : Option String) : Exec CaseResult := do
  let (steps, fault) ← runSteps c.steps
  return { name := c.name, dataset := dataset
           success := fault.isNone && steps.all (·.success), milliseconds := 0, steps := steps
           error := fault.map Fault.message, skipped := c.steps.length - steps.length }

/-- The runs of a case with datasets, and the globals that the last of them left. -/
def runDatasets (c : TestCase) (snapshot : Context) (previous : Option Json) :
    List Dataset → Exec (List CaseResult × Option Json)
  | [] => pure ([], previous)
  | d :: rest => do
    let start ← Exec.unrefused (d.enter (← Exec.surroundings).processVariable snapshot previous)
    let (result, after) ← Exec.apart start (runOnce c (some d.name))
    let (others, last) ← runDatasets c snapshot (after.root? Context.globalsRoot) rest
    return (result :: others, last)

def carry (globals : Option Json) : Exec Unit := do
  match globals with
  | some v => Exec.setContext ((← Exec.context).putRoot Context.globalsRoot v)
  | none => pure ()

def run (c : TestCase) : Exec (List CaseResult) := do
  let base ← Exec.context
  if c.datasets.isEmpty then
    let (result, after) ← Exec.apart base.copy (runOnce c none)
    carry (after.root? Context.globalsRoot)
    return [result]
  else
    let (results, globals) ← runDatasets c base.copy none c.datasets
    carry globals
    return results

end TestCase

end Assay

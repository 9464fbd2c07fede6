/- digest: What is printed after a run: for each suite its cases and what failed in them, then the
   totals. -/

import Assay.Report.Markdown

set_option autoImplicit false
set_option relaxedAutoImplicit false

namespace Assay.Command

def findingLine (f : Finding) : String :=
  "       " ++ f.operator ++ " expected '" ++ f.display f.expected ++ "' actual '" ++
    f.display f.actual ++ "'"

def stepLines (r : StepResult) : List String :=
  if r.success then []
  else ("     " ++ r.name ++ ": " ++ r.error.getD "failed") :: r.failedFindings.map findingLine

def caseLines (r : CaseResult) : List String :=
  ("  " ++ (if r.success then "✓" else "✗") ++ " " ++ r.title ++ " (" ++
    Markdown.duration r.milliseconds ++ ")") :: r.steps.flatMap stepLines

def suiteLines (r : SuiteResult) : List String :=
  ((if r.success then "PASS" else "FAIL") ++ " suite: " ++ r.name ++ " (" ++
    Markdown.duration r.milliseconds ++ ")") ::
    (match r.error with
      | some e => ["  Error: " ++ e]
      | none => []) ++
    r.cases.flatMap caseLines

def totalLines (results : List SuiteResult) : List String :=
  let cases := Markdown.caseCount results
  let passed := Markdown.passedCount results
  ["Suites: " ++ toString results.length, "Cases: " ++ toString cases,
    "Passed: " ++ toString passed, "Failed: " ++ toString (cases - passed)]

end Assay.Command

/- digest: The Markdown report: a table of suites, then for each case a table of its steps and what
   failed in them. Secret operands are not shown. -/

import Assay.Instant.Render
import Assay.Run.Suite

set_option autoImplicit false
set_option relaxedAutoImplicit false

namespace Assay.Markdown

def icon (success : Bool) : String := if success then "✅" else "❌"

/-- Text in one line, without the sign that separates cells. -/
def escapeChar : Char → List Char
  | '|' => ['\\', '|']
  | '\n' => [' ']
  | c => [c]

/-- Text that fits into a cell of a table. -/
def escape (text : String) : String := String.ofList (text.toList.flatMap escapeChar)

def row (cells : List String) : String := "| " ++ Text.join " | " cells ++ " |"

def duration (milliseconds : Nat) : String := toString milliseconds ++ " ms"

def suiteHead : List String :=
  ["| Suite | Passed | Failed | Duration | Result |", "|-------|--------|--------|----------|--------|"]

def suiteRow (s : SuiteResult) : String :=
  row [escape s.name, toString s.passedCases, toString s.failedCases, duration s.milliseconds,
    icon s.success]

def stepHead : List String :=
  ["| # | Step | Type | Result | Duration |", "|---|------|------|--------|----------|"]

def stepRow (place : Nat) (r : StepResult) : String :=
  row [toString place, escape r.name, r.kind, icon r.success, duration r.milliseconds]

def stepRows (place : Nat) : List StepResult → List String
  | [] => []
  | r :: rest => stepRow place r :: stepRows (place + 1) rest

def bullet (f : Finding) : String :=
  "- `" ++ f.operator ++ "`" ++
    (match f.description with
      | some d => " (" ++ escape d ++ ")"
      | none => "") ++
    ": expected `" ++ f.display f.expected ++ "`, actual `" ++ f.display f.actual ++ "`" ++
    (match f.message with
      | some m => " - " ++ escape m
      | none => "")

def errorLines : Option String → List String
  | some e => ["> **Error:** " ++ escape e, ""]
  | none => []

def failureLines (r : StepResult) : List String :=
  ["<details><summary>" ++ escape r.name ++ "</summary>", ""] ++
    (match r.error with
      | some e => ["- " ++ escape e]
      | none => []) ++
    r.failedFindings.map bullet ++ r.logs.map (fun line => "- log: " ++ escape line) ++
    ["", "</details>", ""]

/-- The table of the steps of a case, and what failed in them. -/
def stepLines (c : CaseResult) : List String :=
  if c.steps.isEmpty then []
  else
    stepHead ++ stepRows 1 c.steps ++
      (if c.skipped = 0 then [] else ["", "_" ++ toString c.skipped ++ " step(s) skipped_"]) ++ [""] ++
      (c.steps.filter (!·.success)).flatMap failureLines

def caseLines (c : CaseResult) : List String :=
  ["### " ++ icon c.success ++ " " ++ escape c.title ++ " (" ++ duration c.milliseconds ++ ")", ""] ++
    errorLines c.error ++ stepLines c

def suiteLines (s : SuiteResult) : List String :=
  ["## " ++ icon s.success ++ " " ++ escape s.name, ""] ++
    (match s.file with
      | some f => ["File: `" ++ f ++ "`", ""]
      | none => []) ++
    (match s.description with
      | some d => [escape d, ""]
      | none => []) ++
    errorLines s.error ++ s.cases.flatMap caseLines

def caseCount (results : List SuiteResult) : Nat :=
  results.foldr (fun r count => r.cases.length + count) 0

def passedCount (results : List SuiteResult) : Nat :=
  results.foldr (fun r count => r.passedCases + count) 0

def totals (results : List SuiteResult) : String :=
  "**" ++ toString (passedCount results) ++ "/" ++ toString (caseCount results) ++
    "** test cases passed in " ++ toString results.length ++ " suite(s)."

def lines (time : Instant) (results : List SuiteResult) : List String :=
  ["# JTest Report", "", "Generated at " ++ time.render, "", totals results, ""] ++ suiteHead ++
    results.map suiteRow ++ [""] ++ results.flatMap suiteLines

def render (time : Instant) (results : List SuiteResult) : String :=
  String.join ((lines time results).map (· ++ "\n"))

end Assay.Markdown

/- digest: The formats of reports and their texts. -/

import Assay.Report.Markdown

set_option autoImplicit false
set_option relaxedAutoImplicit false

namespace Assay

/-- A format of reports. -/
inductive ReportFormat
  | markdown | json
  deriving DecidableEq

namespace ReportFormat

def extension : ReportFormat → String
  | .markdown => "md"
  | .json => "json"

/-- The name of the file of a report, with date and time. -/
def fileName (time : Instant) (f : ReportFormat) : String :=
  let d := time.date
  let c := time.clock
  "jtest-report-" ++ Instant.yearText d.year ++ Instant.padded 2 d.month ++ Instant.padded 2 d.day ++
    "-" ++ Instant.padded 2 c.hour ++ Instant.padded 2 c.minute ++ Instant.padded 2 c.second ++ "." ++
    f.extension

/-- The results as one indented document, without secret operands. -/
def renderJson (results : List SuiteResult) : String :=
  (Json.array (results.map fun r => r.redacted.toJson)).renderIndented

def render (time : Instant) (results : List SuiteResult) : ReportFormat → String
  | .markdown => Markdown.render time results
  | .json => renderJson results

end ReportFormat

end Assay

/- digest: The results of steps. A result counts as a success only if all results inside it do. -/

import Assay.Assertion.Basic
import Assay.Step.Basic
import Assay.Run.Fault

set_option autoImplicit false
set_option relaxedAutoImplicit false

namespace Assay

/-- The result of a step, with the results of the steps that ran inside it. -/
structure StepResult where
  id : Option String
  name : String
  kind : String
  success : Bool
  error : Option String
  milliseconds : Nat
  findings : List Finding
  changes : Changes
  details : Option Json
  inner : List StepResult
  logs : List String
  deriving Inhabited

namespace StepResult

def ofFault (frame : StepFrame) (fault : Fault) (logs : List String) : StepResult :=
  { id := frame.id, name := frame.label, kind := frame.kind, success := false
    error := some fault.message, milliseconds := 0, findings := [], changes := .none
    details := none, inner := [], logs := logs }

def ofRound (index : Nat) (results : List StepResult) : StepResult :=
  { id := none, name := "iteration " ++ toString index, kind := "iteration"
    success := results.all (·.success), error := none, milliseconds := 0, findings := []
    changes := .none, details := none, inner := results, logs := [] }

mutual

/-- The failed assertions of a step, then those of the steps inside it. -/
def failedFindings : StepResult → List Finding
  | ⟨_, _, _, _, _, _, findings, _, _, inner, _⟩ =>
    findings.filter (!·.success) ++ failedFindingsOf inner

def failedFindingsOf : List StepResult → List Finding
  | [] => []
  | r :: rest => failedFindings r ++ failedFindingsOf rest

end

mutual

def redacted : StepResult → StepResult
  | ⟨id, name, kind, success, error, milliseconds, findings, changes, details, inner, logs⟩ =>
    ⟨id, name, kind, success, error, milliseconds, findings.map Finding.redacted, changes, details,
      redactedAll inner, logs⟩

def redactedAll : List StepResult → List StepResult
  | [] => []
  | r :: rest => redacted r :: redactedAll rest

end

mutual

/-- The result as a value; details, inner results and logs appear only where there are any. -/
def toJson : StepResult → Json
  | ⟨id, name, kind, success, error, milliseconds, findings, changes, details, inner, logs⟩ =>
    .object ([("id", .ofText? id), ("name", .string name), ("type", .string kind),
        ("success", .bool success), ("error", .ofText? error), ("durationMs", .nat milliseconds),
        ("assertions", .array (findings.map Finding.toJson)), ("changes", changes.toJson)] ++
      (match details with
        | some d => [("details", d)]
        | none => []) ++
      (if inner.isEmpty then [] else [("inner", .array (toJsonAll inner))]) ++
      (if logs.isEmpty then [] else [("logs", .ofTexts logs)]))

def toJsonAll : List StepResult → List Json
  | [] => []
  | r :: rest => toJson r :: toJsonAll rest

end

end StepResult

/-- What the work of a step comes to, before values are saved and assertions are tested. -/
structure Outcome where
  success : Bool
  error : Option String
  details : Option Json
  inner : List StepResult
  changes : Changes
  deriving Inhabited

namespace Outcome

def passed : Outcome := ⟨true, none, none, [], .none⟩

def failed (message : String) : Outcome := { passed with success := false, error := some message }

def withDetails (details : Members Json) (o : Outcome) : Outcome :=
  { o with details := some (.object details) }

def failures (results : List StepResult) : Nat := (results.filter (!·.success)).length

/-- Adds inner results; if any of them is a failure, so is the whole. -/
def withInner (inner : List StepResult) (o : Outcome) : Outcome :=
  let count := failures inner
  if count = 0 then { o with inner := inner }
  else
    { o with
      success := false
      error := o.error.or (some (toString count ++ " inner step(s) failed"))
      inner := inner }

end Outcome

end Assay

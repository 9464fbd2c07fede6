/- digest: Steps of a test: what all of them have in common, and what each kind does. -/

import Assay.Assertion.Basic
import Assay.Http.Call

set_option autoImplicit false
set_option relaxedAutoImplicit false

namespace Assay

/-- What all steps have in common. Values are saved in order after the step has done its work. -/
structure StepFrame where
  id : Option String
  name : Option String
  description : Option String
  checks : List Assertion
  save : Members Json
  kind : String

/-- Work that is defined elsewhere: it gives the new namespace, or the text of its breakdown. -/
abbrev ForeignWork := Scope → Except String Context

/-- A step of a test. -/
inductive Step
  | wait (frame : StepFrame) (duration : Json)
  | check (frame : StepFrame)
  | each (frame : StepFrame) (items : Json) (itemKey indexKey : String) (body : List Step)
  | loop (frame : StepFrame) (condition : Assertion) (timeout : Json) (body : List Step)
  | request (frame : StepFrame) (call : Http.Call)
  | use (frame : StepFrame) (template : String) (arguments : Members Json)
  | foreign (frame : StepFrame) (work : ForeignWork)

namespace Step

def frame : Step → StepFrame
  | .wait f _ => f
  | .check f => f
  | .each f _ _ _ _ => f
  | .loop f _ _ _ => f
  | .request f _ => f
  | .use f _ _ => f
  | .foreign f _ => f

end Step

namespace StepFrame

/-- The name of a step in results: its name, its id or its kind. -/
def label (f : StepFrame) : String :=
  (f.name.or f.id).getD f.kind

end StepFrame

end Assay

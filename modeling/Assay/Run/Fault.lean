/- digest: Faults: why a test case breaks off, and where the break lies, from the outermost step
   inwards. -/

import Assay.Context.Basic
import Assay.Document.Error

set_option autoImplicit false
set_option relaxedAutoImplicit false

namespace Assay

def WriteError.asDefinition : WriteError → DefinitionError
  | .readOnlyRoot root => .readOnlyRoot root
  | .indexTooLarge path => .invalidPath path.display

/-- The innermost reason of a fault. -/
inductive Cause
  | definition (e : DefinitionError)
  | document (e : DocumentError)
  | told (text : String)
  deriving DecidableEq

def Cause.message : Cause → String
  | .definition e => e.message
  | .document e => e.message
  | .told text => text

/-- A reason, and the things that failed because of it from the outermost on. -/
structure Fault where
  within : List String
  cause : Cause
  deriving DecidableEq

namespace Fault

def told (text : String) : Fault := ⟨[], .told text⟩

def ofDefinition (e : DefinitionError) : Fault := ⟨[], .definition e⟩

def inside (text : String) (f : Fault) : Fault := { f with within := text :: f.within }

def message (f : Fault) : String := Text.join ": " (f.within ++ [f.cause.message])

def headline (f : Fault) : String := f.within.head?.getD f.cause.message

end Fault

end Assay

/- digest: Why a document is refused: faults of its text, of its shape, and of the definitions in
   it. -/

import Assay.Json.Flaw
import Assay.Json.Render

set_option autoImplicit false
set_option relaxedAutoImplicit false

namespace Assay

/-- The two families of types that documents name. -/
inductive Family
  | step | assertion
  deriving DecidableEq

namespace Family

def word : Family → String
  | .step => "step"
  | .assertion => "assertion"

/-- The ending of type names that is left out of the short name. -/
def suffix : Family → String
  | .step => "Step"
  | .assertion => "Assertion"

end Family

/-- Why a definition is refused. -/
inductive DefinitionError
  | unknownType (family : Family) (name : String)
  | duplicateType (family : Family) (name existing incoming : String)
  | invalid (family : Family) (name why : String)
  | templateNotFound (name : String)
  | missingParameter (template parameter : String)
  | parameterType (template parameter expected actual : String)
  | invalidPath (text : String)
  | readOnlyRoot (root : String)
  | maskAlreadySet
  deriving DecidableEq

def DefinitionError.message : DefinitionError → String
  | .unknownType f n => "unknown " ++ f.word ++ " type '" ++ n ++ "'"
  | .duplicateType f n existing incoming =>
    "duplicate " ++ f.word ++ " type '" ++ n ++ "' (registered by " ++ existing ++ ", rejected " ++
      incoming ++ ")"
  | .invalid f n why => "invalid " ++ f.word ++ " '" ++ n ++ "': " ++ why
  | .templateNotFound n => "template '" ++ n ++ "' not found"
  | .missingParameter t p => "template '" ++ t ++ "' requires parameter '" ++ p ++ "'"
  | .parameterType t p expected actual =>
    "parameter '" ++ p ++ "' of template '" ++ t ++ "' expects " ++ expected ++ ", got " ++ actual
  | .invalidPath t => "invalid variable path '" ++ t ++ "'"
  | .readOnlyRoot r => "variable root '" ++ r ++ "' is read-only"
  | .maskAlreadySet => "assertion mask flag is already set"

/-- What stands where something else was expected. -/
inductive Found
  | null
  | bool (value : Bool)
  | number (value : Number)
  | text (value : String)
  | list
  | map
  deriving DecidableEq

def Found.message : Found → String
  | .null => "null"
  | .bool b => "boolean `" ++ Json.boolText b ++ "`"
  | .number (.int i) => "integer `" ++ toString i ++ "`"
  | .number (.float d) => "floating point `" ++ d.render ++ "`"
  | .text s => "string " ++ Text.quoteMessage s
  | .list => "sequence"
  | .map => "map"

/-- How a document differs from its expected shape. -/
inductive ShapeError
  | wrongType (found : Found) (expected : String)
  | missingField (name : String)
  | duplicateField (name : String)
  | wrongLength (length : Nat) (expected : String)
  | inField (name : String) (inner : ShapeError)
  | definition (e : DefinitionError)
  deriving DecidableEq

def ShapeError.message : ShapeError → String
  | .wrongType found expected => "invalid type: " ++ found.message ++ ", expected " ++ expected
  | .missingField n => "missing field `" ++ n ++ "`"
  | .duplicateField n => "duplicate field `" ++ n ++ "`"
  | .wrongLength n expected => "invalid length " ++ toString n ++ ", expected " ++ expected
  | .inField n inner => "field '" ++ n ++ "': " ++ inner.message
  | .definition e => e.message

/-- Why a document is refused. -/
inductive DocumentError
  | malformed (flaw : Json.Flaw)
  | misshapen (why : ShapeError)
  deriving DecidableEq

namespace DocumentError

def message : DocumentError → String
  | .malformed f => f.message
  | .misshapen e => e.message

def inField (name : String) : DocumentError → DocumentError
  | .malformed f => .malformed f
  | .misshapen e => .misshapen (.inField name e)

def ofDefinition (e : DefinitionError) : DocumentError := .misshapen (.definition e)

end DocumentError

end Assay

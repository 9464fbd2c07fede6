/- digest: Templates: named sequences of steps with parameters, and the binding of arguments to
   them. -/

import Assay.Json.Draft
import Assay.Json.Render
import Assay.Document.Error
import Assay.Step.Basic
import Assay.Text.Blank
import Assay.Text.Casing

set_option autoImplicit false
set_option relaxedAutoImplicit false

namespace Assay

/-- A parameter of a template. -/
structure Parameter where
  kind : Option String
  required : Bool
  default : Option Json
  description : Option String
  deriving Inhabited

/-- A named sequence of steps. The outputs are written to the caller's places in order. -/
structure Template where
  name : String
  description : Option String
  parameters : Members Parameter
  steps : List Step
  output : Members Json

namespace Parameter

def checkedKinds : List String := ["string", "number", "integer", "boolean", "object", "array"]

def numberIn? (text : String) : Option Number :=
  match Json.read (Text.trim text) with
  | .ok (.number n) => some n
  | _ => none

/-- The truth value that text spells. -/
def boolIn? (text : String) : Option Bool :=
  let word := Text.lower (Text.trim text)
  if word = "true" then some true else if word = "false" then some false else none

/-- A value of a checked kind, converted from text where text may stand for it. -/
def fit? (kind : String) (value : Json) : Option Json :=
  match value with
  | .null => some .null
  | .string s =>
    if kind = "string" then some value
    else if kind = "number" then (numberIn? s).map .number
    else if kind = "integer" then
      match numberIn? s with
      | some (.int i) => some (.int i)
      | _ => none
    else if kind = "boolean" then (boolIn? s).map .bool
    else none
  | .number (.int _) => if kind = "string" ∨ kind = "number" ∨ kind = "integer" then some value else none
  | .number (.float _) => if kind = "string" ∨ kind = "number" then some value else none
  | .bool _ => if kind = "string" ∨ kind = "boolean" then some value else none
  | .object _ => if kind = "object" then some value else none
  | .array _ => if kind = "array" then some value else none

/-- A value of a kind in any case; kinds that are not known are not checked. Otherwise the name of
the type that the value has. -/
def coerce (kind : String) (value : Json) : Except String Json :=
  let plain := Text.lower kind
  if checkedKinds.contains plain then
    match fit? plain value with
    | some v => .ok v
    | none => .error value.typeName
  else .ok value

end Parameter

namespace Template

/-- The value of a parameter: the one given, the default, or none where none is needed. -/
def valueOf (template name : String) (p : Parameter) (given : Option Json) :
    Except DefinitionError (Option Json) :=
  match given.or p.default with
  | none => if p.required then .error (.missingParameter template name) else .ok none
  | some v =>
    match p.kind with
    | none => .ok (some v)
    | some kind =>
      match Parameter.coerce kind v with
      | .ok v => .ok (some v)
      | .error actual => .error (.parameterType template name kind actual)

/-- Binds parameters in order; each that has a value moves to the end. -/
def bindAll (template : String) (bound : Members Json) :
    Members Parameter → Except DefinitionError (Members Json)
  | [] => .ok bound
  | (name, p) :: rest => do
    let value ← valueOf template name p (Members.get? name bound)
    match value with
    | none => bindAll template bound rest
    | some v => bindAll template (Members.put name v (Members.erase name bound)) rest

/-- Binds arguments to the parameters of a template; arguments that it does not declare are kept. -/
def bind (t : Template) (arguments : Members Json) : Except DefinitionError (Members Json) :=
  bindAll t.name arguments t.parameters

end Template

end Assay

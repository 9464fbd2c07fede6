/- digest: The use of a template: its steps run on variables of their own, and only its outputs come
   back. -/

import Assay.Run.Exec

set_option autoImplicit false
set_option relaxedAutoImplicit false

namespace Assay.Use

/-- Writes bound parameters into the variables of a template. -/
def place (parameters : Members Json) : Exec Unit :=
  match parameters with
  | [] => pure ()
  | (name, v) :: rest => do
    let _ ← Exec.write ⟨Context.ctxRoot, [.key name]⟩ v
    place rest

/-- The outputs of a template: each is resolved in the template's variables and written to the
caller's. -/
def deliver (inside : Context) (outputs : Members Json) (changes : Changes) :
    Members Json → Exec (Context × Members Json × Changes)
  | [] => pure (inside, outputs, changes)
  | (target, v) :: rest => do
    let (v, inside) ← Exec.apart inside (Exec.resolveValue v)
    let p ← Exec.readPath target
    let change ← Exec.write p v
    deliver inside (Members.put target v outputs) (changes.record p change) rest

def enter (parameters : Members Json) : Exec Context := do
  let ((), inside) ← Exec.apart (← Exec.context).isolated (place parameters)
  return inside

/-- Runs a template on arguments: `body` gives the results of its steps. -/
def expand (name : String) (t : Template) (arguments : Members Json)
    (body : List Step → Exec (List StepResult)) : Exec Outcome := do
  let parameters ← Exec.ofDefinition (t.bind arguments)
  let inside ← enter parameters
  let (inner, inside) ← Exec.apart inside (Exec.naming ("template '" ++ name ++ "'") (body t.steps))
  let (inside, outputs, changes) ← deliver inside [] .none t.output
  Exec.setContext ((← Exec.context).logLines inside.log)
  Exec.writeRoot Context.thisRoot (.object outputs)
  return { Outcome.passed.withDetails [("template", .string name), ("outputs", .object outputs)] with
    changes := changes }.withInner inner

/-- Runs the template of a name; the name and the arguments may hold tokens. -/
def run (template : String) (arguments : Members Json)
    (body : List Step → Exec (List StepResult)) : Exec Outcome := do
  let name ← Exec.resolveText template
  let t ← Exec.ofDefinition ((← Exec.surroundings).templates.get name)
  let arguments ← Exec.resolving fun scope =>
    Token.expandMembers (Token.resolve scope) arguments
  expand name t arguments body

end Assay.Use

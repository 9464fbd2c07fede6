/- digest: Reading steps and assertions from documents. The type of a step or assertion decides
   which fields it has. -/

import Assay.Document.Shape
import Assay.Step.Vocabulary

set_option autoImplicit false
set_option relaxedAutoImplicit false

namespace Assay

open Document (Field Shape Reader)

def Operands.shape : Shape Operands :=
  ⟨"struct Operands", ⟨.null, .null, none, false⟩,
    [(Field.needed "actualValue" Document.readJson fun v o => { o with actual := v }).withAlias
        "actual",
      (Field.free "expectedValue" Document.readJson fun v o => { o with expected := v }).withAlias
        "expected",
      .free "description" (Document.readOptional Document.readText) fun v o =>
        { o with description := v },
      .free "mask" Document.readBool fun v o => { o with mask := v }]⟩

/-- Takes the type out of the fields of a document: text that is not blank. -/
def takeType (family : Family) (fields : Members Json) :
    Except DefinitionError (String × Members Json) :=
  match Members.get? "type" fields with
  | none => .error (.invalid family "" "missing 'type' field")
  | some v =>
    let refused : DefinitionError :=
      .invalid family v.render "'type' must be a non-empty string"
    match v with
    | .string s =>
      if (Text.trim s).isEmpty then .error refused
      else .ok (Text.trim s, Members.erase "type" fields)
    | _ => .error refused

/-- A fault in the fields of a type is an invalid definition of that type. -/
def asDefinition {α : Type} (family : Family) (name : String) :
    Except DocumentError α → Except DefinitionError α
  | .ok a => .ok a
  | .error e => .error (.invalid family name e.message)

def asDocument {α : Type} : Except DefinitionError α → Except DocumentError α
  | .ok a => .ok a
  | .error e => .error (.ofDefinition e)

namespace Assertion

def ofFields (v : Vocabulary) (operator : String) (fields : Members Json) :
    Except DefinitionError Assertion := do
  let type ← v.assertions.get operator
  let operands ← asDefinition .assertion type.discriminator
    (Document.ofValue Operands.shape.read (.object fields))
  .ok ⟨Text.lower operator, type.kind, operands⟩

def ofOperands (v : Vocabulary) (operator : String) (operands : Operands) :
    Except DefinitionError Assertion := do
  let type ← v.assertions.get operator
  .ok ⟨Text.lower operator, type.kind, operands⟩

def read (v : Vocabulary) : Reader Assertion := fun room d => do
  let fields ← Document.readMap Document.readJson room d
  let (operator, fields) ← asDocument (takeType .assertion fields)
  asDocument (ofFields v operator fields)

end Assertion

/-- Takes a field out of the fields of a document; without it, the given value stands. -/
def takeField {α : Type} (name : String) (read : Reader α) (missing : α) (fields : Members Json) :
    Except DocumentError (α × Members Json) :=
  match Members.get? name fields with
  | none => .ok (missing, fields)
  | some v =>
    match Document.ofValue read v with
    | .ok a => .ok (a, Members.erase name fields)
    | .error e => .error (e.inField name)

def Http.Call.shape : Shape Http.Call :=
  let text := Document.readText
  let values := Document.readMap Document.readJson
  ⟨"struct HttpStep", ⟨"GET", "", [], [], none, none, [], none⟩,
    [.free "method" text fun v c => { c with method := v },
      .needed "url" text fun v c => { c with url := v },
      .free "query" values fun v c => { c with query := v },
      .free "headers" values fun v c => { c with headers := v },
      .free "body" (Document.readOptional Document.readJson) fun v c => { c with body := v },
      .free "file" (Document.readOptional text) fun v c => { c with file := v },
      .free "formFiles" (Document.readMap text) fun v c => { c with formFiles := v },
      .free "contentType" (Document.readOptional text) fun v c => { c with contentType := v }]⟩

namespace Step

def waitShape : Shape Json :=
  ⟨"struct WaitStep", .null,
    [(Field.needed "ms" Document.readJson fun v _ => v).withAlias "duration"]⟩

def checkShape : Shape Unit := ⟨"struct AssertStep", (), []⟩

/-- The fields of a loop over items. -/
structure EachFields where
  items : Json
  body : List Step
  itemKey : String
  indexKey : String

def eachShape (readStep : Reader Step) : Shape EachFields :=
  ⟨"struct ForLoopStep", ⟨.null, [], "item", "index"⟩,
    [.needed "items" Document.readJson fun v f => { f with items := v },
      .free "steps" (Document.readList readStep) fun v f => { f with body := v },
      .free "currentItemKey" Document.readText fun v f => { f with itemKey := v },
      .free "currentIndexKey" Document.readText fun v f => { f with indexKey := v }]⟩

/-- The fields of a loop under a condition. -/
structure LoopFields where
  condition : Assertion
  body : List Step
  timeout : Json

/-- The shape of a loop under a condition; by default it may take half a minute. -/
def loopShape (v : Vocabulary) (readStep : Reader Step) : Shape LoopFields :=
  ⟨"struct WhileStep", ⟨⟨"", Operator.operation .exist, default⟩, [], .nat 30000⟩,
    [.needed "condition" (Assertion.read v) fun c f => { f with condition := c },
      .free "steps" (Document.readList readStep) fun b f => { f with body := b },
      .free "timeoutMs" Document.readJson fun t f => { f with timeout := t }]⟩

def useShape : Shape (String × Members Json) :=
  ⟨"struct UseStep", ("", []),
    [.needed "template" Document.readText fun v f => (v, f.2),
      .free "with" (Document.readMap Document.readJson) fun v f => (f.1, v)]⟩

/-- Gives a step of a kind its own fields, with a reader for the steps inside it. -/
def ofFields (v : Vocabulary) (readStep : Reader Step) (type : TypeDescriptor StepKind)
    (frame : StepFrame) (fields : Members Json) : Except DefinitionError Step :=
  let own {α : Type} (s : Shape α) : Except DefinitionError α :=
    asDefinition .step type.discriminator (Document.ofValue s.read (.object fields))
  match type.kind with
  | .wait => (own waitShape).map fun d => .wait frame d
  | .check => (own checkShape).map fun _ => .check frame
  | .each => (own (eachShape readStep)).map fun f => .each frame f.items f.itemKey f.indexKey f.body
  | .loop => (own (loopShape v readStep)).map fun f => .loop frame f.condition f.timeout f.body
  | .request => (own Http.Call.shape).map fun c => .request frame c
  | .use => (own useShape).map fun f => .use frame f.1 f.2
  | .foreign read =>
    match read fields with
    | .ok work => .ok (.foreign frame work)
    | .error why => .error (.invalid .step type.discriminator why)

/-- Reads a step whose fields are known, with a reader for the steps inside it. -/
def ofMembers (v : Vocabulary) (readStep : Reader Step) (fields : Members Json) :
    Except DocumentError Step := do
  let text := Document.readOptional Document.readText
  let (name, fields) ← asDocument (takeType .step fields)
  let (id, fields) ← takeField "id" text none fields
  let (label, fields) ← takeField "name" text none fields
  let (description, fields) ← takeField "description" text none fields
  let (checks, fields) ← takeField "assert"
    (Document.readOptional (Document.readList (Assertion.read v))) none fields
  let (save, fields) ← takeField "save"
    (Document.readOptional (Document.readMap Document.readJson)) none fields
  let type ← asDocument (v.steps.get name)
  asDocument (ofFields v readStep type
    ⟨id, label, description, checks.getD [], save.getD [], type.discriminator⟩ fields)

def readWithin (v : Vocabulary) : Nat → Reader Step
  | 0 => fun _ _ => .error (.malformed .tooDeep)
  | levels + 1 => fun room d => do
    let fields ← Document.readMap Document.readJson room d
    ofMembers v (readWithin v levels) fields

/-- Steps lie this many levels deep in each other at most; a document that deep is refused as a
text. -/
def maxLevels : Nat := 128

def read (v : Vocabulary) : Reader Step := readWithin v maxLevels

/-- A step of a given type from its fields alone. -/
def construct (v : Vocabulary) (name : String) (fields : Members Json) :
    Except DefinitionError Step := do
  let type ← v.steps.get name
  ofFields v (read v) type ⟨none, none, none, [], [], type.discriminator⟩ fields

end Step

end Assay

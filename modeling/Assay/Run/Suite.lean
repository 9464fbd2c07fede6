/- digest: Running suites: templates are loaded, the environment is put together, and the cases run
   one after the other. A suite that cannot be loaded gives a failed result. -/

import Assay.Run.Case
import Assay.Suite.Read
import Assay.Template.Read

set_option autoImplicit false
set_option relaxedAutoImplicit false

namespace Assay

/-- The result of a suite. -/
structure SuiteResult where
  name : String
  description : Option String
  file : Option String
  cases : List CaseResult
  success : Bool
  milliseconds : Nat
  error : Option String
  deriving Inhabited

namespace SuiteResult

/-- The result of a suite that could not be loaded or prepared. -/
def failed (name : String) (file : Option String) (error : String) : SuiteResult :=
  { name := name, description := none, file := file, cases := [], success := false
    milliseconds := 0, error := some error }

def passedCases (r : SuiteResult) : Nat := (r.cases.filter (·.success)).length

def failedCases (r : SuiteResult) : Nat := r.cases.length - r.passedCases

/-- The result without secret operands. -/
def redacted (r : SuiteResult) : SuiteResult := { r with cases := r.cases.map CaseResult.redacted }

def toJson (r : SuiteResult) : Json :=
  .object [("name", .string r.name), ("description", .ofText? r.description),
    ("file", .ofText? r.file), ("cases", .array (r.cases.map CaseResult.toJson)),
    ("success", .bool r.success), ("durationMs", .nat r.milliseconds), ("error", .ofText? r.error)]

end SuiteResult

/-- What all suites of a run share. -/
structure Runner where
  vocabulary : Vocabulary
  common : TemplateStore
  /-- Values of the environment that suites may replace. -/
  defaults : Members Json
  /-- Values of the environment that replace those of suites. -/
  overrides : Members Json
  /-- A part of the names of the cases that run, in any case. -/
  filter : Option String

namespace Exec

variable {α : Type}

def ofText (read : Document.Reader α) (text : String) : Exec α :=
  match Document.ofText read text with
  | .ok a => pure a
  | .error e => fault ⟨[], .document e⟩

def readTextFile (path : String) : Exec String := do
  match (← surroundings).files.readText path with
  | .ok text => pure text
  | .error e => complain e.message

end Exec

def isRemoteSource (source : String) : Bool :=
  Text.startsWith source "http://" || Text.startsWith source "https://"

def fetchSource (source : String) : Exec String := do
  match (← Exec.surroundings).fetch source with
  | .text text => pure text
  | .missed why => Exec.naming ("Failed to fetch template source " ++ source) (Exec.complain why)
  | .unread why => Exec.naming ("Failed to read template source " ++ source) (Exec.complain why)

/-- The text of a source of templates, relative to a folder. -/
def readSource (folder source : String) : Exec String :=
  if isRemoteSource source then fetchSource source
  else
    let path := FilePath.join folder source
    Exec.naming ("Failed to read template source " ++ path) (Exec.readTextFile path)

/-- Loads sources of templates in order, the later over the earlier. -/
def TemplateStore.loadAll (v : Vocabulary) (folder : String) (store : TemplateStore) :
    List String → Exec TemplateStore
  | [] => pure store
  | source :: rest => do
    let text ← readSource folder source
    let collection ← Exec.naming ("Invalid template source '" ++ source ++ "'")
      (Exec.naming "failed to parse template collection"
        (Exec.ofText (TemplateCollection.shape v).read text))
    loadAll v folder (store.load collection) rest

namespace Runner

def selects (r : Runner) (name : String) : Bool :=
  match r.filter with
  | some part => Text.contains (Text.lower name) (Text.lower part)
  | none => true

def start (r : Runner) (s : Suite) : Context :=
  let env := Members.putAll (Members.putAll r.defaults s.env) r.overrides
  (Context.withEnv (.object env)).putRoot Context.globalsRoot (.object s.globals)

def selected (r : Runner) (s : Suite) : List TestCase := s.tests.filter fun c => r.selects c.name

def run (r : Runner) (s : Suite) (folder : String) : Exec SuiteResult := do
  let store ← TemplateStore.loadAll r.vocabulary folder [] s.sources
  let surround (w : Surroundings) : Surroundings :=
    { w with templates := ⟨store, r.common⟩, folder := folder }
  let (results, _) ← Exec.apart (r.start s)
    (Exec.amid surround (Exec.inTurn TestCase.run (r.selected s)))
  let cases := results.flatten
  return { name := s.name, description := s.description, file := none, cases := cases
           success := cases.all (·.success), milliseconds := 0, error := none }

def nameOfFile (path : String) : String := (FilePath.stem? path).getD "suite"

def readSuite (r : Runner) (path : String) : Exec Suite := do
  let text ← Exec.naming ("Failed to read test file: " ++ path) (Exec.readTextFile path)
  Exec.naming "failed to parse test suite" (Exec.ofText (Suite.shape r.vocabulary).read text)

/-- Runs the suite of a file; one that cannot be read or prepared fails. -/
def runFile (r : Runner) (path : String) : Exec SuiteResult := do
  match ← Exec.attempt (r.readSuite path) with
  | .error f => return .failed (nameOfFile path) (some path) f.message
  | .ok s =>
    match ← Exec.attempt (r.run s ((FilePath.parent? path).getD ".")) with
    | .ok result => return { result with file := some path }
    | .error f =>
      return { SuiteResult.failed s.name (some path) f.message with description := s.description }

end Runner

end Assay

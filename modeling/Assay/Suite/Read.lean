/- digest: Reading test suites from documents. -/

import Assay.Step.Read
import Assay.Suite.Basic

set_option autoImplicit false
set_option relaxedAutoImplicit false

namespace Assay

open Document (Shape Reader)

def Dataset.shape : Shape Dataset :=
  ⟨"struct JTestDataset", default,
    [.needed "name" Document.readText fun x d => { d with name := x },
      .free "case" (Document.readMap Document.readJson) fun x d => { d with values := x }]⟩

def TestCase.shape (v : Vocabulary) : Shape TestCase :=
  ⟨"struct JTestCase", default,
    [.needed "name" Document.readText fun x c => { c with name := x },
      .free "description" (Document.readOptional Document.readText) fun x c =>
        { c with description := x },
      .free "steps" (Document.readList (Step.read v)) fun x c => { c with steps := x },
      .free "datasets" (Document.readList Dataset.shape.read) fun x c => { c with datasets := x }]⟩

/-- The shape of the head of a suite: its name and description. -/
def headShape : Shape (Option String × Option String) :=
  let text := Document.readOptional Document.readText
  ⟨"struct SuiteInfo", (none, none),
    [.free "name" text fun x h => (x, h.2), .free "description" text fun x h => (h.1, x)]⟩

def Suite.shape (v : Vocabulary) : Shape Suite :=
  let values := Document.readMap Document.readJson
  ⟨"struct JTestSuite", default,
    [.free "version" (Document.readOptional Document.readText) fun x s => { s with version := x },
      .free "info" headShape.read fun x s => { s with givenName := x.1, description := x.2 },
      .free "using" (Document.readList Document.readText) fun x s => { s with sources := x },
      .free "env" values fun x s => { s with env := x },
      .free "globals" values fun x s => { s with globals := x },
      .free "tests" (Document.readList (TestCase.shape v).read) fun x s => { s with tests := x }]⟩

end Assay

/- digest: Reading templates and collections of them from documents. -/

import Assay.Step.Read
import Assay.Template.Store

set_option autoImplicit false
set_option relaxedAutoImplicit false

namespace Assay

open Document (Shape Reader)

def Parameter.shape : Shape Parameter :=
  let text := Document.readOptional Document.readText
  ⟨"struct ParamSpec", ⟨none, false, none, none⟩,
    [.free "type" text fun v p => { p with kind := v },
      .free "required" Document.readBool fun v p => { p with required := v },
      .free "default" (Document.readOptional Document.readJson) fun v p => { p with default := v },
      .free "description" text fun v p => { p with description := v }]⟩

def Template.shape (v : Vocabulary) : Shape Template :=
  ⟨"struct Template", ⟨"", none, [], [], []⟩,
    [.needed "name" Document.readText fun x t => { t with name := x },
      .free "description" (Document.readOptional Document.readText) fun x t =>
        { t with description := x },
      .free "params" (Document.readMap Parameter.shape.read) fun x t => { t with parameters := x },
      .free "steps" (Document.readList (Step.read v)) fun x t => { t with steps := x },
      .free "output" (Document.readMap Document.readJson) fun x t => { t with output := x }]⟩

/-- The shape of the part of a collection that holds the templates. -/
def componentsShape (v : Vocabulary) : Shape (List Template) :=
  ⟨"struct Components", [],
    [.free "templates" (Document.readList (Template.shape v).read) fun x _ => x]⟩

def TemplateCollection.shape (v : Vocabulary) : Shape TemplateCollection :=
  ⟨"struct TemplateCollection", ⟨none, []⟩,
    [.free "version" (Document.readOptional Document.readText) fun x c => { c with version := x },
      .free "components" (componentsShape v).read fun x c => { c with templates := x }]⟩

end Assay

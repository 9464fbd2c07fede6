/- digest: Templates by name: a store keeps the last template of each name, and a catalog looks in
   the store of the suite before the common one. -/

import Assay.Template.Basic

set_option autoImplicit false
set_option relaxedAutoImplicit false

namespace Assay

/-- A document of templates. -/
structure TemplateCollection where
  version : Option String
  templates : List Template

/-- Templates by their names, in the order in which the names first came. -/
abbrev TemplateStore := Members Template

namespace TemplateStore

/-- Adds a template; one of the same name is replaced in its place. -/
def insert (s : TemplateStore) (t : Template) : TemplateStore := Members.put t.name t s

/-- Adds all templates of a collection in order. -/
def load (s : TemplateStore) (c : TemplateCollection) : TemplateStore :=
  c.templates.foldl insert s

end TemplateStore

/-- The templates of a suite before those of all suites. -/
structure TemplateCatalog where
  suite : TemplateStore
  common : TemplateStore

namespace TemplateCatalog

def empty : TemplateCatalog := ⟨[], []⟩

def get (c : TemplateCatalog) (name : String) : Except DefinitionError Template :=
  match (Members.get? name c.suite).or (Members.get? name c.common) with
  | some t => .ok t
  | none => .error (.templateNotFound name)

end TemplateCatalog

end Assay

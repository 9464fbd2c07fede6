/- digest: Types by their short names: each name stands for one type, in any case, and names are
   kept in order. -/

import Assay.Document.Error
import Assay.Text.Casing

set_option autoImplicit false
set_option relaxedAutoImplicit false

namespace Assay

/-- A type under its short name. -/
structure TypeDescriptor (κ : Type) where
  discriminator : String
  typeName : String
  kind : κ

namespace TypeDescriptor

/-- The short name of a type: the part of its name after the last double colon, without the family's
ending unless that is all, in lower case. -/
def shortName (typeName suffix : String) : String :=
  let base := typeName.toList.takeWhile (· ≠ '<')
  let last := String.ofList ((Text.afterLast? [':', ':'] base).getD base)
  match Text.before? last suffix with
  | some stem => if stem.isEmpty then Text.lower last else Text.lower stem
  | none => Text.lower last

/-- A type under a given name, or under its short name. -/
def make {κ : Type} (family : Family) (typeName : String) (given : Option String) (kind : κ) :
    TypeDescriptor κ :=
  ⟨match given with
    | some name => Text.lower name
    | none => shortName typeName family.suffix, typeName, kind⟩

end TypeDescriptor

/-- The types of one family, in ascending order of their short names. -/
structure Registry (κ : Type) where
  family : Family
  entries : List (TypeDescriptor κ)

namespace Registry

variable {κ : Type}

def empty (family : Family) : Registry κ := ⟨family, []⟩

/-- The type of a name in lower case. -/
def find? (r : Registry κ) (name : String) : Option (TypeDescriptor κ) :=
  r.entries.find? (·.discriminator == name)

def place (d : TypeDescriptor κ) : List (TypeDescriptor κ) → List (TypeDescriptor κ)
  | [] => [d]
  | e :: rest => if d.discriminator < e.discriminator then d :: e :: rest else e :: place d rest

/-- Adds a type, unless its name is taken. -/
def register (r : Registry κ) (d : TypeDescriptor κ) : Except DefinitionError (Registry κ) :=
  match r.find? d.discriminator with
  | some existing =>
    .error (.duplicateType r.family d.discriminator existing.typeName d.typeName)
  | none => .ok { r with entries := place d r.entries }

/-- Adds types in order up to the first whose name is taken; those before it stay. -/
def registerAll (r : Registry κ) : List (TypeDescriptor κ) → Registry κ × Option DefinitionError
  | [] => (r, none)
  | d :: rest =>
    match r.register d with
    | .ok r => registerAll r rest
    | .error e => (r, some e)

def get (r : Registry κ) (name : String) : Except DefinitionError (TypeDescriptor κ) :=
  match r.find? (Text.lower name) with
  | some d => .ok d
  | none => .error (.unknownType r.family name)

def names (r : Registry κ) : List String := r.entries.map (·.discriminator)

end Registry

end Assay

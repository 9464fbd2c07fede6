/- digest: Finding the files of suites: names of files are taken as they are, and in folders the
   documents that have tests are looked for. -/

import Assay.Files.Tree
import Assay.Json.Draft
import Assay.Text.Casing

set_option autoImplicit false
set_option relaxedAutoImplicit false

namespace Assay.FileTree

def hasDocumentName (path : String) : Bool :=
  match FilePath.extension? path with
  | some e => Text.sameIgnoringPlainCase e "json"
  | none => false

def hasTests : Json → Bool
  | .object members =>
    match Members.get? "tests" members with
    | some (.array _) => true
    | _ => false
  | _ => false

def isSuiteFile (t : FileTree) (path : String) : Bool :=
  t.isFile path && hasDocumentName path &&
    match t.readText path with
    | .ok text =>
      match Json.read text with
      | .ok v => hasTests v
      | .error _ => false
    | .error _ => false

def placeName (name : String) : List String → List String
  | [] => [name]
  | n :: rest => if name < n then name :: n :: rest else n :: placeName name rest

/-- The files of suites right in a folder, in the order of their names. -/
def suitesIn (t : FileTree) (folder : String) : List String :=
  ((t.namesIn folder).foldr placeName []).filterMap fun name =>
    let path := FilePath.join folder name
    if t.isSuiteFile path then some path else none

/-- The files of suites that names of files and folders lead to. -/
def discover (t : FileTree) (paths : List String) : List String :=
  paths.flatMap fun path => if t.isFolder path then t.suitesIn path else [path]

end Assay.FileTree

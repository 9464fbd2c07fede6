/- digest: Names of files and folders: joining them, and their last parts. -/

import Assay.Text.Search

set_option autoImplicit false
set_option relaxedAutoImplicit false

namespace Assay.FilePath

/-- Whether a name starts at the root of the file system. -/
def isAbsolute (path : String) : Bool := path.toList.head? == some '/'

/-- A name inside a folder; an absolute name stands for itself. -/
def join (folder path : String) : String :=
  if isAbsolute path || folder.isEmpty then path
  else if folder.toList.getLast? == some '/' then folder ++ path
  else folder ++ "/" ++ path

/-- The parts between slashes that say something: empty ones and points are left out. -/
def parts (path : String) : List String :=
  (Text.split '/' path).filter fun s => s ≠ "" && s ≠ "."

/-- The last part, if it is the name of a file or folder. -/
def fileName? (path : String) : Option String :=
  match (parts path).getLast? with
  | some s => if s = ".." then none else some s
  | none => none

/-- A name cut at its last point; a point at its start does not count. -/
def cutName (name : String) : String × Option String :=
  match Text.cutAt? '.' (String.ofList name.toList.reverse) with
  | some (after, before) =>
    if before.isEmpty then (name, none)
    else (String.ofList before.toList.reverse, some (String.ofList after.toList.reverse))
  | none => (name, none)

/-- The name of a file without its ending. -/
def stem? (path : String) : Option String := (fileName? path).map fun n => (cutName n).1

def extension? (path : String) : Option String := (fileName? path).bind fun n => (cutName n).2

/-- The text before the last part, which runs backwards; empty parts and points at the end are left
out, but a leading slash or point stays. -/
def trimFolder : List Char → List Char
  | ['/'] => ['/']
  | ['.'] => ['.']
  | '/' :: rest => trimFolder rest
  | '.' :: '/' :: rest => trimFolder ('/' :: rest)
  | cs => cs

/-- The folder of a name; the root and the empty name have none. -/
def parent? (path : String) : Option String :=
  let cs := path.toList.reverse
  match trimFolder cs with
  | [] => none
  | ['/'] => none
  | name =>
    let folder := name.dropWhile (· ≠ '/')
    some (String.ofList (trimFolder folder).reverse)

end Assay.FilePath

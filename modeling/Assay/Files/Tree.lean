/- digest: A tree of files and folders, and what the names in it lead to. -/

import Assay.Files.Path

set_option autoImplicit false
set_option relaxedAutoImplicit false

namespace Assay

/-- Why a file cannot be read. -/
inductive FileError
  | missing | isFolder | notFolder | notText | badName | longName
  deriving DecidableEq

def FileError.message : FileError → String
  | .missing => "No such file or directory (os error 2)"
  | .isFolder => "Is a directory (os error 21)"
  | .notFolder => "Not a directory (os error 20)"
  | .notText => "stream did not contain valid UTF-8"
  | .badName => "file name contained an unexpected NUL byte"
  | .longName => "File name too long (os error 36)"

/-- Files and folders by the parts of their names below the working folder; those of other names
begin with a slash as a part of its own. -/
structure FileTree where
  files : List (List String × ByteArray)
  folders : List (List String)

/-- What a name leads to. What lies above the working folder is known only to be a folder. -/
inductive Entry
  | file (content : ByteArray)
  | folder (parts : List String)
  | outside

namespace FileTree

def empty : FileTree := ⟨[], []⟩

def origin (path : String) : List String := if FilePath.isAbsolute path then ["/"] else []

def partsOf (path : String) : List String := origin path ++ FilePath.parts path

def ofNames (files : List (String × ByteArray)) (folders : List String) : FileTree :=
  ⟨files.map fun e => (partsOf e.1, e.2), folders.map partsOf⟩

def isFolderAt (t : FileTree) (parts : List String) : Bool :=
  parts.isEmpty || parts == ["/"] || t.folders.any (parts.isPrefixOf ·) ||
    t.files.any fun e => parts.isPrefixOf e.1 && parts != e.1

def entry (t : FileTree) (parts : List String) : Except FileError Entry :=
  match t.files.find? (·.1 == parts) with
  | some e => .ok (.file e.2)
  | none => if t.isFolderAt parts then .ok (.folder parts) else .error .missing

def longestPart : Nat := 255

def longestName : Nat := 4095

def step (t : FileTree) (part : String) : Entry → Except FileError Entry
  | .file _ => .error .notFolder
  | .outside =>
    if part = "" ∨ part = "." ∨ part = ".." then .ok .outside
    else if longestPart < part.utf8ByteSize then .error .longName
    else .error .missing
  | .folder parts =>
    if part = "" ∨ part = "." then .ok (.folder parts)
    else if part = ".." then
      if parts.isEmpty then .ok .outside
      else if parts == ["/"] then .ok (.folder parts)
      else .ok (.folder parts.dropLast)
    else if longestPart < part.utf8ByteSize then .error .longName
    else t.entry (parts ++ [part])

def find (t : FileTree) (path : String) : Except FileError Entry :=
  if path.isEmpty then .error .missing
  else if path.toList.contains (Char.ofNat 0) then .error .badName
  else if longestName < path.utf8ByteSize then .error .longName
  else (Text.split '/' path).foldlM (fun e part => t.step part e) (.folder (origin path))

def read (t : FileTree) (path : String) : Except FileError ByteArray := do
  match ← t.find path with
  | .file content => .ok content
  | _ => .error .isFolder

def readText (t : FileTree) (path : String) : Except FileError String := do
  let content ← t.read path
  match String.fromUTF8? content with
  | some s => .ok s
  | none => .error .notText

def isFolder (t : FileTree) (path : String) : Bool :=
  match t.find path with
  | .ok (.folder _) => true
  | .ok .outside => true
  | _ => false

def isFile (t : FileTree) (path : String) : Bool :=
  match t.find path with
  | .ok (.file _) => true
  | _ => false

/-- The name right below a folder on the way to some parts. -/
def childOf? (folder parts : List String) : Option String :=
  if folder.isPrefixOf parts then parts[folder.length]? else none

def namesIn (t : FileTree) (path : String) : List String :=
  match t.find path with
  | .ok (.folder parts) => ((t.files.map (·.1) ++ t.folders).filterMap (childOf? parts)).eraseDups
  | _ => []

end FileTree

end Assay

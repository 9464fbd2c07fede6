/- digest: The settings of the program and the document that they are read from. -/

import Assay.Run.Suite
import Assay.Text.Blank
import Assay.Yaml.Value

set_option autoImplicit false
set_option relaxedAutoImplicit false

namespace Assay

/-- The settings of the program. -/
structure Config where
  /-- The number of suites that run at a time. -/
  maxParallel : Nat
  httpTimeoutSecs : Nat
  /-- Sources of templates for all suites. -/
  templates : List String
  /-- Values of the environment that suites may replace. -/
  env : Members Json
  deriving Inhabited

/-- Why settings cannot be loaded. -/
inductive ConfigError
  | unreadable (path : String) (why : FileError)
  | invalid (path : String) (why : YamlError)
  deriving DecidableEq

/-- The wording for settings that cannot be loaded; a wrong text is named by its file alone. -/
def ConfigError.message : ConfigError → String
  | .unreadable path why => "Failed to read config file: " ++ path ++ ": " ++ why.message
  | .invalid path _ => "Failed to parse config file: " ++ path

namespace Config

open Yaml (Node)

def standard : Config := ⟨4, 30, [], []⟩

/-- The levels of collections in a document of settings. -/
def maxDepth : Nat := 128

/-- Reads one entry into the settings; entries of other names do not count. -/
def readEntry (limit : Nat) (c : Config) (name : String) (n : Node) : Node.Reading Config := do
  match name with
  | "maxParallel" => return { c with maxParallel := ← n.count limit }
  | "httpTimeoutSecs" => return { c with httpTimeoutSecs := ← n.count limit }
  | "templates" => return { c with templates := ← Node.texts limit (← n.items limit) }
  | "env" =>
    let entries ← n.entries limit
    return { c with env := ← Node.members limit (maxDepth - 2) [] entries }
  | _ => return c

def names : List String := ["maxParallel", "httpTimeoutSecs", "templates", "env"]

/-- Reads entries in order; no setting may come twice. -/
def readEntries (limit : Nat) (seen : List String) (c : Config) :
    List (Node × Node) → Node.Reading Config
  | [] => return c
  | (k, n) :: rest => do
    let name ← k.text limit
    if seen.contains name && names.contains name then throw .wrongShape
    let c ← readEntry limit c name n
    readEntries limit (name :: seen) c rest

/-- Reads the settings from a document. Aliases may be followed a hundred times for each of its
marks. -/
def ofNode (root : Node) : Node.Reading Config := do
  let limit := 100 * root.marks
  readEntries limit [] standard (← root.entries limit)

def ofText (text : String) : Except YamlError Config :=
  if Text.allBlank text then .ok standard
  else do
    match ← Node.read text with
    | none => .ok standard
    | some root => (ofNode root).run' 0

def load (files : FileTree) (path : String) : Except ConfigError Config :=
  match files.readText path with
  | .error e => .error (.unreadable path e)
  | .ok text =>
    match ofText text with
    | .ok c => .ok c
    | .error e => .error (.invalid path e)

end Config

end Assay

/- digest: The variable namespace of a test case: a read-only environment, ordered roots, and the
   lines logged since they were last taken. -/

import Assay.Path.Access

set_option autoImplicit false
set_option relaxedAutoImplicit false

namespace Assay

/-- Named trees of values. The environment stands apart and is never written. -/
structure Context where
  env : Json
  roots : Members Json
  log : List String
  deriving Inhabited

/-- Why a write is refused. -/
inductive WriteError
  | readOnlyRoot (root : String)
  | indexTooLarge (path : Path)
  deriving DecidableEq

/-- Whether a write made its place or replaced what was there. -/
inductive Change
  | added | modified
  deriving DecidableEq

namespace Context

def envRoot : String := "env"

def globalsRoot : String := "globals"

/-- The name of the root for a case's own variables. -/
def ctxRoot : String := "ctx"

def caseRoot : String := "case"

/-- The name of the root for the last response or the last outputs. -/
def thisRoot : String := "this"

def maxArrayIndex : Nat := 10000

/-- A new namespace around an environment. -/
def withEnv (env : Json) : Context :=
  ⟨env, [(globalsRoot, .object []), (ctxRoot, .object [])], []⟩

def empty : Context := withEnv (.object [])

def root? (c : Context) (name : String) : Option Json :=
  if name = envRoot then some c.env else Members.get? name c.roots

/-- The names of the roots that can be written, in the order of their insertion. -/
def rootNames (c : Context) : List String := Members.names c.roots

/-- Replaces or adds a whole root beside the environment. -/
def putRoot (c : Context) (name : String) (value : Json) : Context :=
  { c with roots := Members.put name value c.roots }

/-- Replaces or adds a whole root, unless it is the environment. -/
def setRoot (c : Context) (name : String) (value : Json) : Except WriteError Context :=
  if name = envRoot then .error (.readOnlyRoot name) else .ok (c.putRoot name value)

/-- Removes a root; the two roots that every namespace has become empty objects instead. -/
def removeRoot (c : Context) (name : String) : Option Json × Context :=
  (Members.get? name c.roots,
    { c with roots :=
        if name = globalsRoot ∨ name = ctxRoot then Members.put name (.object []) c.roots
        else Members.erase name c.roots })

def get? (c : Context) (p : Path) : Option Json :=
  (c.root? p.root).bind (Json.get? p.segments)

/-- Writes at a place and makes what is missing on the way. -/
def set (c : Context) (p : Path) (value : Json) : Except WriteError (Change × Context) :=
  if p.root = envRoot then .error (.readOnlyRoot p.root)
  else if p.segments.any (Segment.exceeds maxArrayIndex) then .error (.indexTooLarge p)
  else
    let change := if (c.get? p).isSome then Change.modified else Change.added
    let tree := (Members.get? p.root c.roots).getD (.object [])
    .ok (change, { c with roots := Members.put p.root (Json.set value p.segments tree) c.roots })

/-- Removes what is at a place below a root that can be written. -/
def remove? (c : Context) (p : Path) : Option (Json × Context) :=
  ((Members.get? p.root c.roots).bind (Json.erase? p.segments)).map fun r =>
    (r.1, { c with roots := Members.put p.root r.2 c.roots })

/-- The whole namespace as one object, the environment first. -/
def snapshot (c : Context) : Json :=
  .object (Members.putAll [(envRoot, c.env)] c.roots)

def copy (c : Context) : Context := { c with log := [] }

/-- The namespace in which a template runs: the same environment and globals, and nothing else. -/
def isolated (c : Context) : Context :=
  match Members.get? globalsRoot c.roots with
  | some globals =>
    { withEnv c.env with roots := Members.put globalsRoot globals (withEnv c.env).roots }
  | none => withEnv c.env

def logLine (c : Context) (line : String) : Context := { c with log := c.log ++ [line] }

def logLines (c : Context) (lines : List String) : Context := { c with log := c.log ++ lines }

/-- The lines logged so far, and the namespace with an empty log. -/
def takeLog (c : Context) : List String × Context := (c.log, { c with log := [] })

end Context

/-- The places that a step added and modified, each once, in the order of writing. -/
structure Changes where
  added : List String
  modified : List String
  deriving DecidableEq, Inhabited

namespace Changes

def none : Changes := ⟨[], []⟩

def note (text : String) (texts : List String) : List String :=
  if texts.contains text then texts else texts ++ [text]

def record (c : Changes) (p : Path) : Change → Changes
  | .added => { c with added := note p.display c.added }
  | .modified => { c with modified := note p.display c.modified }

def isEmpty (c : Changes) : Bool := c.added.isEmpty && c.modified.isEmpty

def toJson (c : Changes) : Json :=
  .object [("added", .ofTexts c.added), ("modified", .ofTexts c.modified)]

end Changes

end Assay

/- digest: Computations of a run: they read their surroundings, change the state of the run, and may
   stop before they are done. What was changed before a stop stays changed. -/

import Assay.Files.Tree
import Assay.Http.Message
import Assay.Path.Read
import Assay.Run.Result
import Assay.Template.Store

set_option autoImplicit false
set_option relaxedAutoImplicit false

namespace Assay

/-- What a run can reach but not change. -/
structure Surroundings where
  transport : Http.Transport
  /-- Microseconds that a request takes, given the requests before it. -/
  latency : List Http.Request → Http.Request → Nat
  templates : TemplateCatalog
  /-- The folder that names of files are relative to. -/
  folder : String
  files : FileTree
  /-- What comes of fetching the text at an address. -/
  fetch : String → Http.Fetched := fun _ => .missed "connection refused"
  processVariable : String → Option String
  /-- Microseconds that pass before a reading of the clock, by the number of readings so far. -/
  pace : Nat → Nat
  /-- The number of rounds after which a loop under a condition is given up. -/
  patience : Nat
  /-- The levels of steps inside each other after which a run is given up. -/
  depth : Nat := 1000
  /-- The microseconds at which the loops around end, the innermost first. -/
  deadlines : List Nat

/-- What a run changes: its variables, the time in microseconds, and the requests sent so far. -/
structure RunState where
  context : Context
  now : Nat
  readings : Nat
  sent : List Http.Request

/-- Why a computation stops before it is done. -/
inductive Stop
  /-- A fault of the test. -/
  | fault (f : Fault)
  /-- A breakdown of the work, which no part of a run handles. -/
  | breakdown (text : String)
  /-- The deadline of a loop around, counted from the innermost. -/
  | cancelled (loop : Nat)
  /-- Steps lie too deep in each other, or a loop has too many rounds. -/
  | exhausted

abbrev Exec (α : Type) := ReaderT Surroundings (ExceptT Stop (StateM RunState)) α

namespace Exec

variable {α : Type}

def fault (f : Fault) : Exec α := throw (.fault f)

/-- Stops with a fault of which only the wording matters. -/
def complain (text : String) : Exec α := fault (.told text)

/-- The value of a definition, or its error as a fault. -/
def ofDefinition : Except DefinitionError α → Exec α
  | .ok a => pure a
  | .error e => fault (.ofDefinition e)

/-- Runs a computation and turns its faults into values; other stops go on. -/
def attempt (x : Exec α) : Exec (Except Fault α) := fun w s =>
  match x w s with
  | (.ok a, s) => (.ok (.ok a), s)
  | (.error (.fault f), s) => (.ok (.error f), s)
  | (.error e, s) => (.error e, s)

/-- Runs a computation and names what fails if it stops with a fault. -/
def naming (text : String) (x : Exec α) : Exec α := do
  match ← attempt x with
  | .ok a => pure a
  | .error f => fault (f.inside text)

def surroundings : Exec Surroundings := read

def context : Exec Context := do return (← get).context

def setContext (c : Context) : Exec Unit := modify fun s => { s with context := c }

/-- The result of work with selectors; one with a refused move breaks the run down. -/
def unrefused : Except Selector.Refusal α → Exec α
  | .ok a => pure a
  | .error refusal => throw (.breakdown refusal.message)

/-- Resolves tokens in the variables as they are, and logs on the way. -/
def resolving (resolve : Scope → Token.Resolution α) : Exec α := do
  let c ← context
  let r ← unrefused (resolve ⟨c, (← surroundings).processVariable⟩)
  setContext (c.logLines r.lines)
  return r.value

def resolveValue (v : Json) : Exec Json := resolving fun scope => Token.resolveValue scope v

def resolveText (text : String) : Exec String := resolving fun scope => Token.resolveText scope text

def check (a : Assertion) : Exec Finding := resolving a.execute

def readPath (text : String) : Exec Path :=
  match Path.read? text with
  | some p => pure p
  | none => fault (.ofDefinition (.invalidPath text))

def write (p : Path) (v : Json) : Exec Change := do
  match (← context).set p v with
  | .ok (change, c) =>
    setContext c
    return change
  | .error e => fault (.ofDefinition e.asDefinition)

def writeRoot (name : String) (v : Json) : Exec Unit := do
  match (← context).setRoot name v with
  | .ok c => setContext c
  | .error e => fault (.ofDefinition e.asDefinition)

/-- Runs a computation on other variables, which it gives back; one's own stay as they are, also if
it stops. -/
def apart (c : Context) (x : Exec α) : Exec (α × Context) := fun w s =>
  match x w { s with context := c } with
  | (.ok a, t) => (.ok (a, t.context), { t with context := s.context })
  | (.error e, t) => (.error e, { t with context := s.context })

def amid (change : Surroundings → Surroundings) (x : Exec α) : Exec α := fun w s => x (change w) s

def takeLog : Exec (List String) := do
  let (lines, c) := (← context).takeLog
  setContext c
  return lines

/-- The results of several computations, one after the other. -/
def inTurn {β : Type} (run : β → Exec α) : List β → Exec (List α)
  | [] => pure []
  | b :: rest => do
    let a ← run b
    let others ← inTurn run rest
    return a :: others

end Exec

end Assay

/- digest: The words of the command line and the options that they give. Words are read from left to
   right, and the first wrong one ends the reading. -/

import Assay.Report.Format
import Assay.Text.Letter

set_option autoImplicit false
set_option relaxedAutoImplicit false

namespace Assay.Command

/-- What the command line asks for. -/
structure Options where
  paths : List String
  config : Option String
  /-- A part of the names of the cases that run. -/
  filter : Option String
  /-- The number of suites that run at a time. -/
  parallel : Option Nat
  /-- Values of the environment that replace all others. -/
  env : Members Json
  reportFolder : Option String
  reportFormat : Option ReportFormat
  verbose : Bool

/-- Why no suites are asked for. -/
inductive Detour
  | help | version | misuse
  deriving DecidableEq

/-- Options that a value follows. -/
inductive Setting
  | config | filter | parallel | env | reportFolder | reportFormat
  deriving DecidableEq

/-- Options by themselves. -/
inductive Switch
  | verbose | help | version
  deriving DecidableEq

/-- An option. -/
inductive Flag
  | setting (s : Setting)
  | switch (s : Switch)
  deriving DecidableEq

def Flag.ofLong? : String → Option Flag
  | "config" => some (.setting .config)
  | "filter" => some (.setting .filter)
  | "parallel" => some (.setting .parallel)
  | "env" => some (.setting .env)
  | "report-dir" => some (.setting .reportFolder)
  | "report-format" => some (.setting .reportFormat)
  | "verbose" => some (.switch .verbose)
  | "help" => some (.switch .help)
  | "version" => some (.switch .version)
  | _ => none

def Flag.ofShort? : Char → Option Flag
  | 'c' => some (.setting .config)
  | 'f' => some (.setting .filter)
  | 'p' => some (.setting .parallel)
  | 'e' => some (.setting .env)
  | 'r' => some (.setting .reportFolder)
  | 'v' => some (.switch .verbose)
  | 'h' => some (.switch .help)
  | 'V' => some (.switch .version)
  | _ => none

/-- A word of the command line. -/
inductive Word
  /-- After this word all others are paths. -/
  | divider
  | long (name : String) (value : Option String)
  | short (letters : List Char)
  | plain (text : String)
  deriving DecidableEq

/-- The kind of a word by the lines at its start; a single line is a plain word. -/
def Word.ofText (text : String) : Word :=
  match text.toList with
  | ['-', '-'] => .divider
  | '-' :: '-' :: name =>
    match Text.cutAt? '=' (String.ofList name) with
    | some (name, value) => .long name (some value)
    | none => .long (String.ofList name) none
  | ['-'] => .plain text
  | '-' :: letters => .short letters
  | _ => .plain text

/-- A pair of a name and a value; blanks around the name do not count, and it must not be empty. -/
def readPair? (text : String) : Option (String × String) :=
  match Text.cutAt? '=' text with
  | some (name, value) =>
    let name := Text.trim name
    if name.isEmpty then none else some (name, value)
  | none => none

def countLimit : Nat := Nat.pow 2 64

/-- A count in decimal digits, after a plus sign or without one. -/
def readCount? (text : String) : Option Nat :=
  let digits := match text.toList with
    | '+' :: digits => digits
    | digits => digits
  if digits.isEmpty || !digits.all Text.isDigit then none
  else
    let n := Text.digitsValue digits
    if n < countLimit then some n else none

/-- A name of a file or folder: any text but the empty one. -/
def readName? (text : String) : Option String := if text.isEmpty then none else some text

def readFormat? : String → Option ReportFormat
  | "markdown" => some .markdown
  | "json" => some .json
  | _ => none

namespace Options

def blank : Options := ⟨[], none, none, none, [], none, none, false⟩

def once {α : Type} (old : Option α) (new : Option α) : Except Detour (Option α) :=
  match old, new with
  | none, some a => .ok (some a)
  | _, _ => .error .misuse

def set (o : Options) (value : String) : Setting → Except Detour Options
  | .config => do return { o with config := ← once o.config (readName? value) }
  | .filter => do return { o with filter := ← once o.filter (some value) }
  | .parallel => do return { o with parallel := ← once o.parallel (readCount? value) }
  | .reportFolder => do return { o with reportFolder := ← once o.reportFolder (readName? value) }
  | .reportFormat => do return { o with reportFormat := ← once o.reportFormat (readFormat? value) }
  | .env =>
    match readPair? value with
    | some (name, v) => .ok { o with env := Members.put name (.string v) o.env }
    | none => .error .misuse

def turnOn (o : Options) : Switch → Except Detour Options
  | .verbose => if o.verbose then .error .misuse else .ok { o with verbose := true }
  | .help => .error .help
  | .version => .error .version

def addPath (o : Options) (text : String) : Except Detour Options :=
  match readName? text with
  | some path => .ok { o with paths := o.paths ++ [path] }
  | none => .error .misuse

/-- A value right behind the letter of its option, with an equals sign between them or without one.
-/
def attached? : List Char → Option String
  | [] => none
  | '=' :: value => some (String.ofList value)
  | value => some (String.ofList value)

/-- Letters of options in one word: all of them are turned on, up to one that takes a value, for
which the value is given or still due. -/
def readLetters (o : Options) : List Char → Except Detour (Options × Option Setting)
  | [] => .ok (o, none)
  | letter :: rest =>
    match Flag.ofShort? letter with
    | none => .error .misuse
    | some (.switch s) => do readLetters (← o.turnOn s) rest
    | some (.setting s) =>
      match attached? rest with
      | some value => do return (← o.set value s, none)
      | none => .ok (o, some s)

/-- An option of a long name, for which the value is given or still due. -/
def readLong (o : Options) (name : String) (value : Option String) :
    Except Detour (Options × Option Setting) :=
  match Flag.ofLong? name, value with
  | some (.switch s), none => do return (← o.turnOn s, none)
  | some (.setting s), some v => do return (← o.set v s, none)
  | some (.setting s), none => .ok (o, some s)
  | _, _ => .error .misuse

/-- Reads words; a setting may be due for a value. -/
def readWords (o : Options) (due : Option Setting) : List String → Except Detour Options
  | [] => if due.isNone then .ok o else .error .misuse
  | text :: rest =>
    match Word.ofText text, due with
    | .plain value, some s => do readWords (← o.set value s) none rest
    | _, some _ => .error .misuse
    | .plain path, none => do readWords (← o.addPath path) none rest
    | .divider, none => rest.foldlM addPath o
    | .long name value, none => do
      let (o, due) ← o.readLong name value
      readWords o due rest
    | .short letters, none => do
      let (o, due) ← o.readLetters letters
      readWords o due rest

def configVariable : String := "JTEST_CONFIG"

/-- Takes the settings from a variable of the process if no option names them. -/
def completeConfig (o : Options) (processVariable : String → Option String) :
    Except Detour Options :=
  match o.config, processVariable configVariable with
  | none, some value => o.set value .config
  | _, _ => .ok o

/-- The options of the command line. Without paths the working folder is meant. -/
def ofWords (processVariable : String → Option String) (words : List String) :
    Except Detour Options := do
  let o ← blank.readWords none words
  let o ← o.completeConfig processVariable
  return if o.paths.isEmpty then { o with paths := ["."] } else o

end Options

end Assay.Command

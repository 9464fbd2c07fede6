/- digest: The program: it takes in the command line, the files below the working folder and the
   variables of the process, and prints and writes what a run comes to. -/

import Std.Time.DateTime.Timestamp
import Assay.Command.Session
import Assay.Command.Summary
import Assay.Http.Offline

set_option autoImplicit false
set_option relaxedAutoImplicit false

namespace Assay.Program

open Command (Options Detour)

/-- Files with their contents, and folders, by their names. -/
abbrev Found := List (String × ByteArray) × List String

/-- Takes in what lies in a folder; links to folders are not followed. -/
partial def gather (folder : String) (entries : Array IO.FS.DirEntry) : IO Found :=
  entries.foldlM (fun found e => do
    let name := FilePath.join folder e.fileName
    let kind := (← e.path.symlinkMetadata).type
    if kind == .dir then
      let (files, folders) ← gather name (← e.path.readDir)
      return (files ++ found.1, name :: folders ++ found.2)
    else
      try
        return ((name, ← IO.FS.readBinFile e.path) :: found.1, found.2)
      catch _ => return found) ([], [])

def gatherNamed (path : String) : IO Found := do
  let place := (← IO.currentDir) / path
  try
    if ← place.isDir then gather path (← place.readDir)
    else return ([(path, ← IO.FS.readBinFile place)], [])
  catch _ => return ([], [])

def files (o : Options) : IO FileTree := do
  let here ← gather "" (← (← IO.currentDir).readDir)
  let named ← ((o.config.toList ++ o.paths).filter FilePath.isAbsolute).mapM gatherNamed
  let found := here :: named
  return .ofNames (found.flatMap (·.1)) (found.flatMap (·.2))

/-- The variables of the process, as the system lists them. -/
def environment : IO (Members String) := do
  try
    let listed ← IO.FS.readBinFile "/proc/self/environ"
    let lines := Text.split (Char.ofNat 0) ((String.fromUTF8? listed).getD "")
    return Members.putAll [] (lines.filterMap (Text.cutAt? '='))
  catch _ => return []

def now : IO Instant := do
  let t := (← Std.Time.Timestamp.now).val
  return ⟨t.second.val, t.nano.val.toNat⟩

def helpLines : List String :=
  ["JTest - run JSON API test suites.", "", "Usage: jtest [OPTIONS] [PATHS]...", "", "Arguments:",
    "  [PATHS]...  Suite files or directories [default: .]", "", "Options:",
    "  -c, --config <FILE>           Engine configuration file (YAML or JSON)",
    "  -f, --filter <TEXT>           Filter test cases by name (partial match)",
    "  -p, --parallel <COUNT>        Maximum number of suite files run in parallel",
    "  -e, --env <KEY=VALUE>         Override an environment value, may be repeated",
    "  -r, --report-dir <DIR>        Directory to save the report file",
    "      --report-format <FORMAT>  Report output format: markdown or json [default: markdown]",
    "  -v, --verbose                 Enable verbose output",
    "  -h, --help                    Print help",
    "  -V, --version                 Print version"]

def sayDetour : Detour → IO Unit
  | .help => helpLines.forM IO.println
  | .version => IO.println "jtest 0.1.0"
  | .misuse => IO.eprintln "error: invalid arguments\n\nFor more information, try '--help'."

/-- Writes a report, or says why it cannot be written. -/
def writeReport (folder : String) (format : ReportFormat) (results : List SuiteResult) :
    IO Unit := do
  let time ← now
  try
    IO.FS.createDirAll folder
    IO.FS.writeFile (FilePath.join folder (format.fileName time)) (format.render time results)
  catch e => IO.eprintln ("Failed to save report: " ++ e.toString)

/-- The surroundings of a run in the working folder. Time passes only where a test waits. -/
def surroundings (files : FileTree) (given : Members String) : Surroundings :=
  { transport := .offline, latency := fun _ _ => 0, templates := .empty, folder := ".", files := files
    fetch := Http.Fetched.offline, processVariable := fun name => Members.get? name given
    pace := fun _ => 100, patience := 1000000, deadlines := [] }

/-- Runs what the options ask for, and gives the exit code. -/
def run (o : Options) (given : Members String) : IO Nat := do
  let w := surroundings (← files o) given
  match (o.run w ⟨.empty, 0, 0, []⟩).1 with
  | .error _ =>
    IO.eprintln "Error: the run was given up"
    return 1
  | .ok outcome =>
    match outcome with
    | .error r => IO.eprintln ("Error: " ++ r.headline)
    | .ok results =>
      (results.flatMap Command.suiteLines).forM IO.println
      IO.println "Summary:"
      (Command.totalLines results).forM fun line => IO.println ("  " ++ line)
      match o.reportFolder with
      | some folder => writeReport folder o.format results
      | none => pure ()
    return Command.exitCode outcome

end Assay.Program

def main (args : List String) : IO UInt32 := do
  let given ← Assay.Program.environment
  match Assay.Command.Options.ofWords (fun name => Assay.Members.get? name given) args with
  | .error d =>
    Assay.Program.sayDetour d
    return d.exitCode.toUInt32
  | .ok o => return (← Assay.Program.run o given).toUInt32

/- digest: A run of the program: the settings are loaded, the files of suites found, the common
   templates loaded and the suites run. The exit code tells whether all of them passed. -/

import Assay.Command.Options
import Assay.Config
import Assay.Files.Discovery
import Assay.Run.Parallel

set_option autoImplicit false
set_option relaxedAutoImplicit false

namespace Assay.Command

/-- Why no suite runs. -/
inductive Refusal
  | settings (e : ConfigError)
  | noSuites
  | templates (f : Fault)

def Refusal.headline : Refusal → String
  | .settings (.unreadable path _) => "Failed to read config file: " ++ path
  | .settings (.invalid path _) => "Failed to parse config file: " ++ path
  | .noSuites => "No test suites were found"
  | .templates f => f.headline

/-- The file of settings that is taken if it is there and no other is named. -/
def usualConfig : String := "jtest.yaml"

namespace Options

def loadConfig (o : Options) (files : FileTree) : Except ConfigError Config :=
  match o.config with
  | some path => Config.load files path
  | none => if files.isFile usualConfig then Config.load files usualConfig else .ok Config.standard

/-- The folder that sources of common templates are relative to. -/
def configFolder (o : Options) : String := (o.config.bind FilePath.parent?).getD "."

def runner (o : Options) (c : Config) (common : TemplateStore) : Runner :=
  { vocabulary := .standard, common := common, defaults := c.env, overrides := o.env
    filter := o.filter }

def run (o : Options) : Exec (Except Refusal (List SuiteResult)) := do
  let files := (← Exec.surroundings).files
  match o.loadConfig files with
  | .error e => return .error (.settings e)
  | .ok config =>
    let paths := files.discover o.paths
    if paths.isEmpty then return .error .noSuites
    match ← Exec.attempt
        (TemplateStore.loadAll Vocabulary.standard o.configFolder [] config.templates) with
    | .error f => return .error (.templates f)
    | .ok common =>
      let results ← (o.runner config common).runFiles paths (o.parallel.getD config.maxParallel)
      return .ok results

def format (o : Options) : ReportFormat := o.reportFormat.getD .markdown

end Options

def exitCode : Except Refusal (List SuiteResult) → Nat
  | .ok results => if results.all (·.success) then 0 else 1
  | .error _ => 1

/-- The exit code where the command line asks for no run. -/
def Detour.exitCode : Detour → Nat
  | .help => 0
  | .version => 0
  | .misuse => 2

end Assay.Command

import IssueReport.Pipeline
import IssueReport.Plugin.Command
import IssueReport.Text.Blank
/-!
Configurations: the plugins to run, the code of their diagnostics, the documents to leave out, and
whether the local check reports. A configuration is checked before it is used; the first fault
counts.
-/

namespace IssueReport

structure Config where
  plugins : List CommandPlugin
  diagnosticCode : Option String
  excludedPaths : List String
  localCheck : Option Bool
  deriving DecidableEq

/-- Why a configuration cannot be used. Plugins are counted from one. -/
inductive ConfigError where
  | blankCode
  | unnamedPlugin (number : Nat)
  | noCommand (plugin : String)
  | invalidPattern (pattern : String) (error : GlobError)
  deriving DecidableEq

def ConfigError.message : ConfigError → String
  | .blankCode => "diagnostic_code must not be empty"
  | .unnamedPlugin number => "plugin #" ++ toString number ++ " has no name"
  | .noCommand plugin => "plugin " ++ Text.quoted plugin ++ " has no command"
  | .invalidPattern pattern error =>
      "invalid excluded_paths pattern " ++ Text.quoted pattern ++ ": " ++ error.message

namespace Config

def default : Config := ⟨[], none, [], none⟩

def effectiveCode (config : Config) : String :=
  config.diagnosticCode.getD Pipeline.pluginCode

def effectiveCheck (config : Config) : Bool :=
  config.localCheck.getD true

/-! ### Checking -/

def validateCode (code : Option String) : Except ConfigError Unit :=
  if code.any Text.isBlankText then .error .blankCode else .ok ()

def validatePlugins (number : Nat) : List CommandPlugin → Except ConfigError Unit
  | [] => .ok ()
  | plugin :: plugins =>
      if Text.isBlankText plugin.name then .error (.unnamedPlugin number)
      else if Text.isBlankText plugin.command then .error (.noCommand plugin.name)
      else validatePlugins (number + 1) plugins

def validatePatterns : List String → Except ConfigError Unit
  | [] => .ok ()
  | pattern :: patterns =>
      match Glob.parse pattern with
      | .ok _ => validatePatterns patterns
      | .error error => .error (.invalidPattern pattern error)

def validate (config : Config) : Except ConfigError Unit := do
  validateCode config.diagnosticCode
  validatePlugins 1 config.plugins
  validatePatterns config.excludedPaths

def exclusions (config : Config) : Except ExclusionsError (Option Exclusions) :=
  if config.excludedPaths.isEmpty then .ok none
  else (Exclusions.ofPatterns config.excludedPaths).map some

/-! ### Finding -/

/-- The names of configuration files, the first that is there being taken. -/
def fileNames : List String := ["bridge.yaml", ".bridge.yaml"]

def discover (tree : FileTree) (here : Location) (directory : String) : Option String :=
  (fileNames.map (Path.join directory)).find? fun path => tree.isFile here path

end Config

end IssueReport

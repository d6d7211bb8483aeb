import IssueReport.CommandLine.Arguments
import IssueReport.Config.Yaml
import IssueReport.Project.PathCheck
/-!
A run of the command line: help, or the report of the project at a path. The path is checked first,
then the configuration is loaded, then the project.
-/

namespace IssueReport

namespace CommandLine

def versionText : String := "bal-bridge 0.1.0\n"

def helpText : String :=
  String.join ([
    "Tool for linking Ballerina compiler plugins",
    "",
    "USAGE:",
    "    bal-bridge [<ballerina-file> | <package-directory>] [--config <file>]",
    "",
    "DESCRIPTION:",
    "    Loads the Ballerina project at the given path (default: the current",
    "    directory), compiles every module with the configured compiler plugins,",
    "    and prints all reported issues as a JSON array.",
    "",
    "OPTIONS:",
    "    -c, --config <file>    Bridge configuration (default: bridge.yaml or",
    "                           .bridge.yaml in the project directory)",
    "    -h, --help             Print this help text"].map (· ++ "\n"))

def successCode : Nat := 0

def errorCode : Nat := 2

/-- Why a run ends without a report. Only the first kind is told to the user in the output. -/
inductive Failure where
  | pathRejected (error : PathError)
  | configUnread (path : String) (error : ConfigReadError)
  | configInvalid (error : ConfigError)
  | projectUnloaded (error : LoadError)
  | patternInvalid (error : ExclusionsError)
  deriving DecidableEq

def Failure.message : Failure → String
  | .pathRejected error => error.message
  | .configUnread path error => "invalid configuration: " ++ path ++ ": " ++ error.message
  | .configInvalid error => "invalid configuration: " ++ error.message
  | .projectUnloaded error => error.message
  | .patternInvalid error => error.message

structure Outcome where
  code : Nat
  output : String
  failure : Option Failure
  events : List Event
  tree : FileTree

def helpPath : String := "?"

def wantsHelp (arguments : Arguments) : Bool :=
  arguments.help || arguments.path.any fun path => Path.sameNames path helpPath

variable (tree : FileTree) (here : Location)

/-- The directory in which the configuration of a project is looked for. -/
def configDirectory (path : String) : String :=
  if tree.isFile here path then
    match Path.parent? path with
    | some "" => "."
    | some parent => parent
    | none => "."
  else path

/-- The configuration file to load: the given one, or the one beside the project. -/
def configPath (given : Option String) (path : String) : Option String :=
  match given with
  | some config => some config
  | none => Config.discover tree here (configDirectory tree here path)

def loadConfig (path : String) : Except Failure Config :=
  match tree.read? here path with
  | none => .error (.configUnread path .unreadable)
  | some content =>
      match Config.parse content with
      | .error error => .error (.configUnread path error)
      | .ok config =>
          match config.validate with
          | .error error => .error (.configInvalid error)
          | .ok () => .ok config

def fail (events : List Event) (failure : Failure) : Outcome :=
  let output :=
    match failure with
    | .pathRejected error => error.message ++ "\n"
    | _ => ""
  ⟨errorCode, output, some failure, events, tree⟩

def skippedEvents (failures : Nat) : List Event :=
  if failures = 0 then [] else [.issuesSkipped failures]

variable (starter : CommandPlugin.Starter)

def report (events : List Event) (path : String) (config : Config) : Outcome :=
  match Walker.load tree here path (config.plugins.map (CommandPlugin.pluginOf starter))
      Exclusions.none with
  | .error error => fail tree events (.projectUnloaded error)
  | .ok (opened, state) =>
      match config.exclusions with
      | .error error => fail tree (events ++ state.events) (.patternInvalid error)
      | .ok exclusions =>
          let walker := { opened with exclusions := exclusions.getD Exclusions.none }
          let pipeline : Pipeline := ⟨walker, config.effectiveCode, config.effectiveCheck⟩
          let (report, finished) := pipeline.run state
          { code := successCode
            output := report.issues.reportText
            failure := none
            events := events ++ finished.events ++ skippedEvents report.failures.length
            tree := finished.tree }

/-- Runs with arguments in a directory of a file tree, given how programs are started. -/
def runWith (arguments : Arguments) : Outcome :=
  if wantsHelp arguments then ⟨successCode, helpText, none, [], tree⟩
  else
    match Path.check tree here arguments.path with
    | .error error => fail tree [] (.pathRejected error)
    | .ok path =>
        match configPath tree here arguments.config path with
        | none => report tree here starter [] path Config.default
        | some configFile =>
            let events := [Event.loadingConfiguration configFile]
            match loadConfig tree here configFile with
            | .error failure => fail tree events failure
            | .ok config => report tree here starter events path config

def run : Arguments → Outcome :=
  runWith tree here CommandPlugin.start

end CommandLine

end IssueReport

import IssueReport.Command.Shell
import IssueReport.Text.Blank
/-!
Plugins that are programs. A program runs in the root of the project, with the name of the module in
a variable and the paths of its sources after the configured arguments. It prints its diagnostics
as JSON and has to end with a status of zero.
-/

namespace IssueReport

structure CommandPlugin where
  name : String
  command : String
  arguments : List String
  deriving DecidableEq

namespace CommandPlugin

def moduleVariable : String := "BRIDGE_MODULE"

def programDirectories : List String := ["/bin/", "/usr/bin/"]

def programName (command : String) : String :=
  match programDirectories.find? fun directory => command.startsWith directory with
  | some directory => (command.drop directory.length).toString
  | none => command

def runShell (tree : FileTree) (surroundings : Command.Surroundings) : List String → Command.Result
  | "-c" :: script :: [] => Command.runShell ⟨"sh", [], surroundings⟩ tree script
  | "-c" :: script :: name :: arguments =>
      Command.runShell ⟨name, arguments, surroundings⟩ tree script
  | "-c" :: [] =>
      ⟨tree, [], Command.Program.line "sh: 0: -c requires an argument", .exit 2⟩
  | [] => Command.Program.quiet tree [] 0
  | path :: arguments =>
      match tree.read? surroundings.here path with
      | some content =>
          Command.runShell ⟨path, arguments, surroundings⟩ tree (Text.decodeLossy content)
      | none =>
          ⟨tree, [],
            Command.Program.line ("sh: 0: cannot open " ++ path ++ ": No such file"), .exit 2⟩

def startError (tree : FileTree) (here : Location) (command : String) : StartError :=
  if command.toList.contains '/' then
    match tree.resolve here command with
    | .ok _ => .permissionDenied
    | .error .notDirectory => .notDirectory
    | .error _ => .notFound
  else .notFound

/-- Starts some of the programs of a system: a shell, with a part of its language, and three others.
Only where programs are really run is it known which ones there are. -/
def start (tree : FileTree) (surroundings : Command.Surroundings) (command : String)
    (arguments : List String) : Except StartError Command.Result :=
  if (command :: arguments).any fun text => text.toList.contains '\x00' then .error .nulByte
  else
    match programName command with
    | "sh" => .ok (runShell tree surroundings arguments)
    | "cat" => .ok (Command.Program.cat tree surroundings.here [] arguments)
    | "true" => .ok (Command.Program.quiet tree [] 0)
    | "false" => .ok (Command.Program.quiet tree [] 1)
    | _ => .error (startError tree surroundings.here command)

def diagnosticsOf (command : String) (tree : FileTree) (output : List UInt8) : Analysis :=
  match Wire.parse output with
  | .error fault => ⟨.error (.invalidOutput command fault), [], tree⟩
  | .ok found =>
      ⟨.ok (found.map Wire.Diagnostic.accept),
        found.flatMap fun diagnostic =>
          diagnostic.dropped.map fun kind => .propertyDropped diagnostic.code kind,
        tree⟩

/-- How programs are started: in a tree and its surroundings, by a command with arguments. -/
abbrev Starter := FileTree → Command.Surroundings → String → List String →
  Except StartError Command.Result

def startOn (starter : Starter) (plugin : CommandPlugin) (tree : FileTree) (input : PluginInput) :
    Except StartError Command.Result :=
  let surroundings : Command.Surroundings := ⟨input.root, [(moduleVariable, input.module.name)]⟩
  let paths := input.sources.map fun source => source.location.text
  starter tree surroundings plugin.command (plugin.arguments ++ paths)

def analyze (starter : Starter) (plugin : CommandPlugin) (tree : FileTree) (input : PluginInput) :
    Analysis :=
  match startOn starter plugin tree input with
  | .error error => ⟨.error (.notStarted plugin.command error), [], tree⟩
  | .ok result =>
      if result.ending = .exit 0 then diagnosticsOf plugin.command result.tree result.output
      else
        ⟨.error (.exited plugin.command result.ending
          (Text.trim (Text.decodeLossy result.complaints))), [], result.tree⟩

def pluginOf (starter : Starter) (plugin : CommandPlugin) : Plugin where
  name := plugin.name
  analyze := plugin.analyze starter

def toPlugin (plugin : CommandPlugin) : Plugin :=
  pluginOf start plugin

end CommandPlugin

end IssueReport

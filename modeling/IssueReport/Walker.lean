import IssueReport.Glob.Exclusions
import IssueReport.Plugin
import IssueReport.Project.Load
/-!
Walking a project: its documents without the excluded ones, and the diagnostics of its modules. A
module is compiled when its diagnostics are first asked for; the answer is kept, whatever happens
to the files later.
-/

namespace IssueReport

structure Walker where
  project : Project
  plugins : List Plugin
  exclusions : Exclusions

structure PluginCall where
  plugin : Nat
  input : PluginInput
  deriving DecidableEq

/-- Everything that a walk changes: the file tree, the diagnostics that are known, by module and
for the whole project, and the record of events and calls. -/
structure WalkState where
  tree : FileTree
  compiled : List (ModuleId × List Diagnostic)
  whole : Option (List Diagnostic)
  events : List Event
  calls : List PluginCall

namespace WalkState

def initial (tree : FileTree) : WalkState := ⟨tree, [], none, [], []⟩

def diagnostics? (state : WalkState) (module : ModuleId) : Option (List Diagnostic) :=
  (state.compiled.find? fun entry => entry.1 = module).map (·.2)

def log (state : WalkState) (events : List Event) : WalkState :=
  { state with events := state.events ++ events }

end WalkState

namespace Walker

variable (walker : Walker)

def isExcluded (document : Document) : Bool :=
  walker.exclusions.excludes (walker.project.seenPath document).text

def documents (module : Module) : List Document :=
  module.documents.filter fun document => !walker.isExcluded document

def pairs : List (Module × Document) :=
  walker.project.modules.flatMap fun module =>
    (walker.documents module).map fun document => (module, document)

/-! ### Compiling a module -/

/-- The source of a document, if it can be read. Bytes that are no text are replaced. -/
def source? (tree : FileTree) (document : Document) : Option SourceFile :=
  (tree.read? [] document.path).map fun content =>
    ⟨document.id, document.location, Text.decodeLossy content⟩

def sources (tree : FileTree) (module : Module) : List SourceFile :=
  (walker.documents module).filterMap (source? tree)

def unreadable (tree : FileTree) (module : Module) : List Document :=
  (walker.documents module).filter fun document => (source? tree document).isNone

structure Compilation where
  tree : FileTree
  diagnostics : List Diagnostic
  events : List Event
  calls : List PluginCall

/-- Runs one plugin. If it fails, only its own diagnostics are missing. -/
def runPlugin (input : PluginInput) (compilation : Compilation) (position : Nat)
    (plugin : Plugin) : Compilation :=
  let analysis := plugin.analyze compilation.tree input
  let calls := compilation.calls ++ [⟨position, input⟩]
  match analysis.outcome with
  | .ok found =>
      ⟨analysis.tree, compilation.diagnostics ++ found, compilation.events ++ analysis.events,
        calls⟩
  | .error failure =>
      ⟨analysis.tree, compilation.diagnostics,
        compilation.events ++ analysis.events ++
          [.pluginFailed plugin.name input.module.name failure.message],
        calls⟩

def runPlugins (input : PluginInput) (compilation : Compilation) (position : Nat) :
    List Plugin → Compilation
  | [] => compilation
  | plugin :: plugins =>
      runPlugins input (runPlugin input compilation position plugin) (position + 1) plugins

def pluginInput (tree : FileTree) (module : Module) : PluginInput :=
  ⟨walker.project.root, module, walker.sources tree module⟩

def compileFresh (tree : FileTree) (module : Module) : Compilation :=
  let input := walker.pluginInput tree module
  let unread := (walker.unreadable tree module).map fun document =>
    Event.unreadableSource document.location
  let found := runPlugins input ⟨tree, [], unread, []⟩ 0 walker.plugins
  { found with
    events := found.events ++
      [.moduleCompiled module.name input.sources.length found.diagnostics.length] }

/-- The diagnostics of a module, compiled if they are not known. -/
def compile (module : Module) (state : WalkState) : List Diagnostic × WalkState :=
  match state.diagnostics? module.id with
  | some known => (known, state)
  | none =>
      let found := walker.compileFresh state.tree module
      (found.diagnostics,
        { state with
          tree := found.tree
          compiled := state.compiled ++ [(module.id, found.diagnostics)]
          events := state.events ++ found.events
          calls := state.calls ++ found.calls })

def compileAll (state : WalkState) : List Module → List Diagnostic × WalkState
  | [] => ([], state)
  | module :: modules =>
      let (found, next) := walker.compile module state
      let (others, last) := compileAll next modules
      (found ++ others, last)

def projectDiagnostics (state : WalkState) : List Diagnostic × WalkState :=
  match state.whole with
  | some known => (known, state)
  | none =>
      let (found, next) := walker.compileAll state walker.project.modules
      (found, { next with whole := some found })

def load (tree : FileTree) (here : Location) (path : String) (plugins : List Plugin)
    (exclusions : Exclusions) : Except LoadError (Walker × WalkState) :=
  match Project.load tree here path with
  | .error error => .error error
  | .ok project =>
      .ok (⟨project, plugins, exclusions⟩,
        (WalkState.initial tree).log
          [.projectLoaded project.root project.kind project.modules.length])

end Walker

end IssueReport

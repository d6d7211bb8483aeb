import IssueReport.Diagnostic.Wire
import IssueReport.Event
import IssueReport.FileTree.Resolve
/-!
Plugins: named functions that analyze the sources of a module. A plugin may look at the file tree
and change it, which is why an analysis gives the tree after it.
-/

namespace IssueReport

structure SourceFile where
  document : DocumentId
  location : Location
  text : String
  deriving DecidableEq

/-- What a plugin is given: the module with all its documents, and the sources that were read. -/
structure PluginInput where
  root : Location
  module : Module
  sources : List SourceFile
  deriving DecidableEq

inductive StartError where
  | notFound
  | notDirectory
  | permissionDenied
  | nulByte
  deriving DecidableEq

def StartError.message : StartError → String
  | .notFound => "No such file or directory (os error 2)"
  | .notDirectory => "Not a directory (os error 20)"
  | .permissionDenied => "Permission denied (os error 13)"
  | .nulByte => "nul byte found in provided data"

inductive Ending where
  | exit (status : Nat)
  | signal (number : Nat)
  deriving DecidableEq

def signalNames : List (Nat × String) :=
  [(1, "SIGHUP"), (2, "SIGINT"), (3, "SIGQUIT"), (4, "SIGILL"), (5, "SIGTRAP"), (6, "SIGABRT"),
    (7, "SIGBUS"), (8, "SIGFPE"), (9, "SIGKILL"), (10, "SIGUSR1"), (11, "SIGSEGV"),
    (12, "SIGUSR2"), (13, "SIGPIPE"), (14, "SIGALRM"), (15, "SIGTERM")]

def Ending.description : Ending → String
  | .exit status => "exit status: " ++ toString status
  | .signal number =>
      "signal: " ++ toString number ++
        match signalNames.find? fun entry => entry.1 = number with
        | some (_, name) => " (" ++ name ++ ")"
        | none => ""

inductive PluginFailure where
  | notStarted (command : String) (error : StartError)
  | exited (command : String) (ending : Ending) (complaint : String)
  | invalidOutput (command : String) (fault : Json.ReadError Empty)
  | failed (reason : String)
  deriving DecidableEq

def outputFault : Json.ReadError Empty → String
  | .malformed => "malformed text"
  | .ended => "unexpected end of text"
  | .mismatch fault => fault.message

def PluginFailure.message : PluginFailure → String
  | .notStarted command error =>
      "failed to run " ++ Text.quoted command ++ ": " ++ error.message
  | .exited command ending complaint =>
      Text.quoted command ++ " exited with " ++ ending.description ++ ": " ++ complaint
  | .invalidOutput command fault =>
      "invalid diagnostics from " ++ Text.quoted command ++ ": " ++ outputFault fault
  | .failed reason => reason

structure Analysis where
  outcome : Except PluginFailure (List Diagnostic)
  events : List Event
  tree : FileTree

structure Plugin where
  name : String
  analyze : FileTree → PluginInput → Analysis

namespace Plugin

/-- A plugin that neither looks at the file tree nor logs. -/
def ofFunction (name : String)
    (answer : PluginInput → Except PluginFailure (List Diagnostic)) : Plugin where
  name := name
  analyze tree input := ⟨answer input, [], tree⟩

end Plugin

end IssueReport

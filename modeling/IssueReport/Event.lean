import IssueReport.Diagnostic
import IssueReport.Project.Basic
/-!
The events that a run logs.
-/

namespace IssueReport

inductive Level where
  | debug
  | info
  | warn
  deriving DecidableEq

def Level.name : Level → String
  | .debug => "DEBUG"
  | .info => "INFO"
  | .warn => "WARN"

def ProjectKind.name : ProjectKind → String
  | .singleFile => "SingleFile"
  | .package => "Package"

inductive Event where
  | projectLoaded (root : Location) (kind : ProjectKind) (modules : Nat)
  | unreadableSource (document : Location)
  | pluginFailed (plugin module reason : String)
  | moduleCompiled (module : String) (documents diagnostics : Nat)
  | propertyDropped (code : String) (kind : PropertyKind)
  | issueSkipped (diagnostic property : Nat) (reason : String)
  | loadingConfiguration (path : String)
  | issuesSkipped (count : Nat)
  deriving DecidableEq

inductive FieldValue where
  | text (value : String)
  | count (value : Nat)
  deriving DecidableEq

namespace Event

def level : Event → Level
  | .projectLoaded _ _ _ => .debug
  | .unreadableSource _ => .warn
  | .pluginFailed _ _ _ => .warn
  | .moduleCompiled _ _ _ => .debug
  | .propertyDropped _ _ => .warn
  | .issueSkipped _ _ _ => .warn
  | .loadingConfiguration _ => .debug
  | .issuesSkipped _ => .info

def title : Event → String
  | .projectLoaded _ _ _ => "project loaded"
  | .unreadableSource _ => "cannot read document source"
  | .pluginFailed _ _ _ => "plugin failed, skipping its diagnostics"
  | .moduleCompiled _ _ _ => "module compiled"
  | .propertyDropped _ _ => "dropping property with a mismatched value"
  | .issueSkipped _ _ _ => "skipping plugin issue"
  | .loadingConfiguration _ => "loading configuration"
  | .issuesSkipped _ => "some plugin issues could not be converted"

def reason? : Event → Option String
  | .pluginFailed _ _ reason => some reason
  | .issueSkipped _ _ reason => some reason
  | _ => none

def fields : Event → List (String × FieldValue)
  | .projectLoaded root kind modules =>
      [("root", .text root.text), ("kind", .text kind.name), ("modules", .count modules)]
  | .unreadableSource document => [("document", .text document.text)]
  | .pluginFailed plugin module _ => [("plugin", .text plugin), ("module", .text module)]
  | .moduleCompiled module documents diagnostics =>
      [("module", .text module), ("documents", .count documents),
        ("diagnostics", .count diagnostics)]
  | .propertyDropped code kind => [("code", .text code), ("kind", .text kind.name)]
  | .issueSkipped diagnostic property _ =>
      [("diagnostic", .count diagnostic), ("property", .count property)]
  | .loadingConfiguration path => [("config", .text path)]
  | .issuesSkipped count => [("skipped", .count count)]

end Event

end IssueReport

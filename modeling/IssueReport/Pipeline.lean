import IssueReport.Collection
import IssueReport.Payload.Conversion
import IssueReport.Walker
/-!
The pipeline from a project to its issues. At every document the local check reports its issue;
then the diagnostics of the whole project are scanned for those of plugins, which are converted
the first time that they are seen.
-/

namespace IssueReport

/-- A payload that did not become an issue: the positions of its diagnostic and of its property,
and why. -/
structure ExtractionFailure where
  diagnostic : Nat
  property : Nat
  error : ConversionError
  deriving DecidableEq

structure Report where
  documents : Nat
  issues : Collection
  failures : List ExtractionFailure
  deriving DecidableEq

structure Pipeline where
  walker : Walker
  code : String
  localCheck : Bool

namespace Pipeline

def pluginCode : String := "SCAN_TOOL_DIAGNOSTICS"

def localFinding : Finding where
  startLine := 0
  startLineOffset := 0
  endLine := 0
  endLineOffset := 0
  ruleId := "S107"
  message := "Local issue"
  issueType := "INTERNAL_CHECK_VIOLATION"

def localIssue (document : Document) : Issue where
  start := ⟨0, 0⟩
  finish := ⟨0, 0⟩
  ruleId := localFinding.ruleId
  message := localFinding.message
  issueType := localFinding.issueType
  fileName := document.name
  reportedFilePath := document.path
  start_bounded := by decide
  finish_bounded := by decide
  start_le_finish := by decide
  ruleId_ne_empty := by decide
  message_ne_empty := by decide

theorem ofParts_localFinding (document : Document) :
    Issue.ofParts (localFinding.inDocument document) = .ok (localIssue document) :=
  rfl

/-! ### Converting diagnostics -/

structure Extraction where
  issues : List Issue
  failures : List ExtractionFailure

def Extraction.none : Extraction := ⟨[], []⟩

def Extraction.append (first second : Extraction) : Extraction :=
  ⟨first.issues ++ second.issues, first.failures ++ second.failures⟩

def extractProperty (diagnostic position : Nat) (property : Property) : Extraction :=
  match property.payload? with
  | Option.none => Extraction.none
  | some payload =>
      match payload.convert with
      | .ok issue => ⟨[issue], []⟩
      | .error error => ⟨[], [⟨diagnostic, position, error⟩]⟩

def extractProperties (diagnostic : Nat) (position : Nat) : List Property → Extraction
  | [] => Extraction.none
  | property :: properties =>
      (extractProperty diagnostic position property).append
        (extractProperties diagnostic (position + 1) properties)

def extract (position : Nat) (diagnostic : Diagnostic) : Extraction :=
  extractProperties position 0 diagnostic.properties

def failureEvent (failure : ExtractionFailure) : Event :=
  .issueSkipped failure.diagnostic failure.property failure.error.message

/-! ### A run -/

/-- Where a run stands: the report so far, the positions of the diagnostics that have been
converted, and the state of the walk. -/
structure Run where
  report : Report
  converted : List Nat
  walk : WalkState

variable (pipeline : Pipeline)

/-- Converts a diagnostic, if it is of a plugin and has not been converted. -/
def scanDiagnostic (run : Run) (position : Nat) (diagnostic : Diagnostic) : Run :=
  if diagnostic.code ≠ pipeline.code || run.converted.contains position then run
  else
    let found := extract position diagnostic
    { report :=
        { run.report with
          issues := run.report.issues.append found.issues
          failures := run.report.failures ++ found.failures }
      converted := run.converted ++ [position]
      walk := run.walk.log (found.failures.map failureEvent) }

def scan (run : Run) (position : Nat) : List Diagnostic → Run
  | [] => run
  | diagnostic :: diagnostics =>
      scan (pipeline.scanDiagnostic run position diagnostic) (position + 1) diagnostics

def checkDocument (report : Report) (document : Document) : Report :=
  let issues :=
    if pipeline.localCheck then
      match report.issues.report localFinding document with
      | .ok issues => issues
      | .error _ => report.issues
    else report.issues
  { report with documents := report.documents + 1, issues := issues }

def visit (run : Run) (pair : Module × Document) : Run :=
  let report := pipeline.checkDocument run.report pair.2
  let (_, compiled) := pipeline.walker.compile pair.1 run.walk
  let (diagnostics, known) := pipeline.walker.projectDiagnostics compiled
  pipeline.scan { run with report := report, walk := known } 0 diagnostics

def run (state : WalkState) : Report × WalkState :=
  let finished := pipeline.walker.pairs.foldl pipeline.visit
    { report := ⟨0, Collection.empty, []⟩, converted := [], walk := state }
  (finished.report, finished.walk)

end Pipeline

end IssueReport

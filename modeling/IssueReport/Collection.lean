import IssueReport.Issue.Json
import IssueReport.Project.Basic
/-!
Collections of issues: lists that only grow at their end. The report of a collection is its JSON
text, indented, and a line end.
-/

namespace IssueReport

structure Collection where
  issues : List Issue
  deriving DecidableEq

/-- What a local check says about a place in a document. -/
structure Finding where
  startLine : Int
  startLineOffset : Int
  endLine : Int
  endLineOffset : Int
  ruleId : String
  message : String
  issueType : String
  deriving DecidableEq

def Finding.inDocument (finding : Finding) (document : Document) : IssueParts where
  startLine := finding.startLine
  startLineOffset := finding.startLineOffset
  endLine := finding.endLine
  endLineOffset := finding.endLineOffset
  ruleId := finding.ruleId
  message := finding.message
  issueType := finding.issueType
  fileName := document.name
  reportedFilePath := document.path

namespace Collection

def empty : Collection := ⟨[]⟩

def size (collection : Collection) : Nat :=
  collection.issues.length

def isEmpty (collection : Collection) : Bool :=
  collection.issues.isEmpty

def last? (collection : Collection) : Option Issue :=
  collection.issues.getLast?

def push (collection : Collection) (issue : Issue) : Collection :=
  ⟨collection.issues ++ [issue]⟩

def append (collection : Collection) (issues : List Issue) : Collection :=
  ⟨collection.issues ++ issues⟩

def add (collection : Collection) (parts : IssueParts) : Except InvalidIssue Collection :=
  (Issue.ofParts parts).map collection.push

/-- Adds what a check has found in a document; the name and the path come from the document. -/
def report (collection : Collection) (finding : Finding) (document : Document) :
    Except InvalidIssue Collection :=
  collection.add (finding.inDocument document)

def toJson (collection : Collection) : Json :=
  .array (collection.issues.map Issue.toJson)

def render (collection : Collection) : String :=
  Json.toText .indented collection.toJson

def reportText (collection : Collection) : String :=
  collection.render ++ "\n"

end Collection

end IssueReport

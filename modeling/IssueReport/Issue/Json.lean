import IssueReport.Issue
import IssueReport.Json.Printer
import IssueReport.Json.Record
/-!
Issues in JSON: an object with the nine members of the contract, in its order. Reading one back
goes through the same checks as building it.
-/

namespace IssueReport

def IssueParts.toJson (parts : IssueParts) : Json :=
  .object [
    (Accessor.startLine.name, .number (.integer parts.startLine)),
    (Accessor.startLineOffset.name, .number (.integer parts.startLineOffset)),
    (Accessor.endLine.name, .number (.integer parts.endLine)),
    (Accessor.endLineOffset.name, .number (.integer parts.endLineOffset)),
    (Accessor.ruleId.name, .text parts.ruleId),
    (Accessor.message.name, .text parts.message),
    (Accessor.issueType.name, .text parts.issueType),
    (Accessor.fileName.name, .text parts.fileName),
    (Accessor.reportedFilePath.name, .text parts.reportedFilePath)]

structure IssueDraft where
  startLine : Option Int := none
  startLineOffset : Option Int := none
  endLine : Option Int := none
  endLineOffset : Option Int := none
  ruleId : Option String := none
  message : Option String := none
  issueType : Option String := none
  fileName : Option String := none
  reportedFilePath : Option String := none

namespace IssueDraft

open Json (Reader readInteger readText Mismatch required)

variable {Reason : Type}

def isRead (accessor : Accessor) (draft : IssueDraft) : Bool :=
  match accessor with
  | .startLine => draft.startLine.isSome
  | .startLineOffset => draft.startLineOffset.isSome
  | .endLine => draft.endLine.isSome
  | .endLineOffset => draft.endLineOffset.isSome
  | .ruleId => draft.ruleId.isSome
  | .message => draft.message.isSome
  | .issueType => draft.issueType.isSome
  | .fileName => draft.fileName.isSome
  | .reportedFilePath => draft.reportedFilePath.isSome

def read (accessor : Accessor) (draft : IssueDraft) : Reader Reason IssueDraft :=
  match accessor with
  | .startLine => readInteger.map fun value => { draft with startLine := some value }
  | .startLineOffset => readInteger.map fun value => { draft with startLineOffset := some value }
  | .endLine => readInteger.map fun value => { draft with endLine := some value }
  | .endLineOffset => readInteger.map fun value => { draft with endLineOffset := some value }
  | .ruleId => readText.map fun value => { draft with ruleId := some value }
  | .message => readText.map fun value => { draft with message := some value }
  | .issueType => readText.map fun value => { draft with issueType := some value }
  | .fileName => readText.map fun value => { draft with fileName := some value }
  | .reportedFilePath => readText.map fun value => { draft with reportedFilePath := some value }

def finish (draft : IssueDraft) : Except Mismatch IssueParts := do
  let startLine ← required Accessor.startLine.name draft.startLine
  let startLineOffset ← required Accessor.startLineOffset.name draft.startLineOffset
  let endLine ← required Accessor.endLine.name draft.endLine
  let endLineOffset ← required Accessor.endLineOffset.name draft.endLineOffset
  let ruleId ← required Accessor.ruleId.name draft.ruleId
  let message ← required Accessor.message.name draft.message
  let issueType ← required Accessor.issueType.name draft.issueType
  let fileName ← required Accessor.fileName.name draft.fileName
  let reportedFilePath ← required Accessor.reportedFilePath.name draft.reportedFilePath
  return ⟨startLine, startLineOffset, endLine, endLineOffset, ruleId, message, issueType,
    fileName, reportedFilePath⟩

end IssueDraft

def IssueParts.shape {Reason : Type} : Json.Shape Reason IssueDraft IssueParts where
  name := "IssueParts"
  fields := Accessor.all.map fun accessor => {
    name := accessor.name
    isOptional := false
    isRead := IssueDraft.isRead accessor
    read := IssueDraft.read accessor }
  initial := {}
  finish := IssueDraft.finish

namespace Issue

def toJson (issue : Issue) : Json :=
  issue.toParts.toJson

def compactText (issue : Issue) : String :=
  Json.toText .compact issue.toJson

/-- Reads an issue. Values that make no issue are rejected before the text after them is looked
at. -/
def read : Json.Reader InvalidIssue Issue :=
  IssueParts.shape.read.andThen fun parts rest =>
    match ofParts parts with
    | .ok issue => .ok (issue, rest)
    | .error fault => .error (.rejected fault)

def parse (input : List UInt8) : Except (Json.ReadError InvalidIssue) Issue :=
  Json.readAll read input

end Issue

end IssueReport

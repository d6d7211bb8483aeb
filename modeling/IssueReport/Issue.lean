import IssueReport.Accessor
/-!
Issues: findings with a range in a file, a rule and a message. An issue is built from nine values,
which are checked in a fixed order; the type holds what the checks have established.
-/

namespace IssueReport

/-- The nine values of an issue before they are checked. -/
structure IssueParts where
  startLine : Int
  startLineOffset : Int
  endLine : Int
  endLineOffset : Int
  ruleId : String
  message : String
  issueType : String
  fileName : String
  reportedFilePath : String
  deriving DecidableEq

inductive InvalidIssue where
  | coordinate (accessor : Accessor) (value : Int)
  | reversed (startLine startLineOffset endLine endLineOffset : Nat)
  | empty (accessor : Accessor)
  deriving DecidableEq

def InvalidIssue.message : InvalidIssue → String
  | .coordinate accessor value =>
      "coordinate " ++ accessor.name ++ " is out of range: " ++ toString value
  | .reversed startLine startLineOffset endLine endLineOffset =>
      "issue range ends before it starts (" ++ toString startLine ++ ":" ++
        toString startLineOffset ++ " > " ++ toString endLine ++ ":" ++
        toString endLineOffset ++ ")"
  | .empty accessor => accessor.name ++ " must not be empty"

/-- A place in a file. Places are ordered by line, then by offset. -/
structure Position where
  line : Nat
  offset : Nat
  deriving DecidableEq

instance : LE Position where
  le left right := left.line < right.line ∨ left.line = right.line ∧ left.offset ≤ right.offset

instance (left right : Position) : Decidable (left ≤ right) :=
  inferInstanceAs (Decidable (_ ∨ _))

def greatestCoordinate : Nat := 0xFFFFFFFF

def Position.Bounded (position : Position) : Prop :=
  position.line ≤ greatestCoordinate ∧ position.offset ≤ greatestCoordinate

instance (position : Position) : Decidable position.Bounded :=
  inferInstanceAs (Decidable (_ ∧ _))

structure Issue where
  start : Position
  finish : Position
  ruleId : String
  message : String
  issueType : String
  fileName : String
  reportedFilePath : String
  start_bounded : start.Bounded
  finish_bounded : finish.Bounded
  start_le_finish : start ≤ finish
  ruleId_ne_empty : ruleId ≠ ""
  message_ne_empty : message ≠ ""
  deriving DecidableEq

namespace Issue

def isPoint (issue : Issue) : Bool :=
  issue.start = issue.finish

def toParts (issue : Issue) : IssueParts where
  startLine := issue.start.line
  startLineOffset := issue.start.offset
  endLine := issue.finish.line
  endLineOffset := issue.finish.offset
  ruleId := issue.ruleId
  message := issue.message
  issueType := issue.issueType
  fileName := issue.fileName
  reportedFilePath := issue.reportedFilePath

def coordinate (accessor : Accessor) (value : Int) :
    Except InvalidIssue { coordinate : Nat // coordinate ≤ greatestCoordinate } :=
  if inRange : 0 ≤ value ∧ value ≤ greatestCoordinate then
    .ok ⟨value.toNat, by omega⟩
  else .error (.coordinate accessor value)

/-- Checks the coordinates in the order of the contract, then the order of the positions, then that
the rule and the message are not empty. The other texts are free. -/
def ofParts (parts : IssueParts) : Except InvalidIssue Issue := do
  let startLine ← coordinate .startLine parts.startLine
  let startLineOffset ← coordinate .startLineOffset parts.startLineOffset
  let endLine ← coordinate .endLine parts.endLine
  let endLineOffset ← coordinate .endLineOffset parts.endLineOffset
  if ordered : Position.mk startLine.val startLineOffset.val ≤
      Position.mk endLine.val endLineOffset.val then
    if noRule : parts.ruleId = "" then .error (.empty .ruleId)
    else if noMessage : parts.message = "" then .error (.empty .message)
    else
      .ok {
        start := ⟨startLine.val, startLineOffset.val⟩
        finish := ⟨endLine.val, endLineOffset.val⟩
        ruleId := parts.ruleId
        message := parts.message
        issueType := parts.issueType
        fileName := parts.fileName
        reportedFilePath := parts.reportedFilePath
        start_bounded := ⟨startLine.property, startLineOffset.property⟩
        finish_bounded := ⟨endLine.property, endLineOffset.property⟩
        start_le_finish := ordered
        ruleId_ne_empty := noRule
        message_ne_empty := noMessage }
  else
    .error (.reversed startLine.val startLineOffset.val endLine.val endLineOffset.val)

end Issue

end IssueReport

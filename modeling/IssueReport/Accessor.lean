/-!
The contract of an issue: nine accessors, four of which answer integers and five of which answer
text.
-/

namespace IssueReport

inductive Accessor where
  | startLine
  | startLineOffset
  | endLine
  | endLineOffset
  | ruleId
  | message
  | issueType
  | fileName
  | reportedFilePath
  deriving DecidableEq

namespace Accessor

/-- The accessors in the order of the contract. -/
def all : List Accessor :=
  [.startLine, .startLineOffset, .endLine, .endLineOffset, .ruleId, .message, .issueType,
    .fileName, .reportedFilePath]

theorem mem_all (accessor : Accessor) : accessor ∈ all := by
  cases accessor <;> decide

def name : Accessor → String
  | .startLine => "startLine"
  | .startLineOffset => "startLineOffset"
  | .endLine => "endLine"
  | .endLineOffset => "endLineOffset"
  | .ruleId => "ruleID"
  | .message => "message"
  | .issueType => "issueType"
  | .fileName => "fileName"
  | .reportedFilePath => "reportedFilePath"

def ofName? (name : String) : Option Accessor :=
  all.find? fun accessor => accessor.name = name

theorem ofName?_name (accessor : Accessor) : ofName? accessor.name = some accessor := by
  cases accessor <;> decide

theorem name_of_ofName? {name : String} {accessor : Accessor} (found : ofName? name = some accessor) :
    accessor.name = name := by
  simpa using List.find?_some found

theorem name_injective {left right : Accessor} (same : left.name = right.name) : left = right := by
  have found := ofName?_name left
  rw [same, ofName?_name] at found
  exact (Option.some.inj found).symm

end Accessor

end IssueReport

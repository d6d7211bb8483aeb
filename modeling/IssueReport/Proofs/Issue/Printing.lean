import IssueReport.Proofs.Issue.Reading
import IssueReport.Proofs.Json.Printing
/-!
Issues that are written and read again. The text of an issue denotes the value of the issue, and
that value, asked for its nine members, becomes the issue.
-/

namespace IssueReport

namespace Issue

theorem coordinate_of_bounded {value : Nat} (bounded : value ≤ greatestCoordinate)
    (accessor : Accessor) : coordinate accessor value = .ok ⟨value, bounded⟩ := by
  have inRange : 0 ≤ (value : Int) ∧ (value : Int) ≤ greatestCoordinate := by omega
  unfold coordinate
  rw [dif_pos inRange]
  rfl

/-- The parts of an issue pass its checks. -/
theorem ofParts_toParts (issue : Issue) : ofParts issue.toParts = .ok issue := by
  unfold ofParts toParts
  dsimp only
  rw [coordinate_of_bounded issue.start_bounded.1, coordinate_of_bounded issue.start_bounded.2,
    coordinate_of_bounded issue.finish_bounded.1, coordinate_of_bounded issue.finish_bounded.2]
  change (if ordered : issue.start ≤ issue.finish then _ else _) = _
  rw [dif_pos issue.start_le_finish, dif_neg issue.ruleId_ne_empty,
    dif_neg issue.message_ne_empty]

def written (issue : Issue) : Accessor → Json
  | .startLine => .number (.integer issue.start.line)
  | .startLineOffset => .number (.integer issue.start.offset)
  | .endLine => .number (.integer issue.finish.line)
  | .endLineOffset => .number (.integer issue.finish.offset)
  | .ruleId => .text issue.ruleId
  | .message => .text issue.message
  | .issueType => .text issue.issueType
  | .fileName => .text issue.fileName
  | .reportedFilePath => .text issue.reportedFilePath

theorem toJson_eq_object (issue : Issue) :
    issue.toJson =
      .object (Accessor.all.map fun accessor => (accessor.name, issue.written accessor)) :=
  rfl

theorem observeMember_integer (accessor : String) {value : Nat}
    (bounded : value ≤ greatestCoordinate) :
    Payload.observeMember accessor (.number (.integer value)) = .ok (.integer value) := by
  have limits : greatestCoordinate < Json.signedLimit := by decide
  have small : (value : Int) < Json.signedLimit := by omega
  unfold Payload.observeMember
  dsimp only
  rw [if_pos small]

theorem observeMember_written (issue : Issue) (accessor : Accessor) :
    Payload.observeMember accessor.name (issue.written accessor) =
      .ok (Payload.observePart issue.toParts accessor) := by
  cases accessor with
  | startLine => exact observeMember_integer _ issue.start_bounded.1
  | startLineOffset => exact observeMember_integer _ issue.start_bounded.2
  | endLine => exact observeMember_integer _ issue.finish_bounded.1
  | endLineOffset => exact observeMember_integer _ issue.finish_bounded.2
  | ruleId | message | issueType | fileName | reportedFilePath => rfl

theorem answers_toJson (issue : Issue) : (Payload.ofJson issue.toJson).Answers issue.toParts := by
  rw [toJson_eq_object, Payload.answers_ofJson]
  intro accessor
  exact ⟨_, member?_all issue.written accessor, observeMember_written issue accessor⟩

/-- The value of an issue is converted to the issue. -/
theorem convert_toJson (issue : Issue) : (Payload.ofJson issue.toJson).convert = .ok issue :=
  Payload.convert_eq_ok.mpr ⟨issue.toParts, answers_toJson issue, ofParts_toParts issue⟩

theorem settle_toJson (issue : Issue) : Json.settle issue.toJson = issue.toJson :=
  rfl

theorem printable_written (issue : Issue) (accessor : Accessor) (depth : Nat) :
    Json.Printable depth (issue.written accessor) := by
  have fits : ∀ value : Nat, value ≤ greatestCoordinate →
      Json.Printable depth (.number (.integer value)) := by
    intro value bounded
    have limits : greatestCoordinate < Json.significandLimit := by decide
    have word : Json.FitsWord value := by
      unfold Json.FitsWord
      omega
    cases depth <;> exact word
  cases accessor with
  | startLine => exact fits _ issue.start_bounded.1
  | startLineOffset => exact fits _ issue.start_bounded.2
  | endLine => exact fits _ issue.finish_bounded.1
  | endLineOffset => exact fits _ issue.finish_bounded.2
  | ruleId | message | issueType | fileName | reportedFilePath => cases depth <;> trivial

theorem printable_toJson (issue : Issue) (inner : Nat) :
    Json.Printable (inner + 1) issue.toJson := by
  rw [toJson_eq_object]
  intro member present
  obtain ⟨accessor, -, same⟩ := List.mem_map.mp present
  rw [← same]
  exact printable_written issue accessor inner

/-- The text of an issue denotes its value. -/
theorem parse_compactText (issue : Issue) :
    Json.parse (Text.utf8 issue.compactText) = .ok issue.toJson :=
  Json.parse_toText (printable_toJson issue 126) (settle_toJson issue)

end Issue

end IssueReport

import IssueReport.Payload.Conversion
/-!
When a payload becomes an issue. The nine parts are found exactly if every accessor of the contract
answers with its part; then only the checks of an issue can fail.
-/

namespace IssueReport

/-! ### Inquiries -/

namespace Inquiry

variable {Value Next : Type}

theorem outcome_bind_eq_ok {inquiry : Inquiry Value} {next : Value → Inquiry Next} {result : Next} :
    (inquiry >>= next).outcome = .ok result ↔
      ∃ value, inquiry.outcome = .ok value ∧ (next value).outcome = .ok result := by
  cases answered : inquiry.outcome with
  | error error =>
      rw [bind_of_error next answered]
      constructor
      · intro impossible
        cases impossible
      · rintro ⟨value, impossible, -⟩
        cases impossible
  | ok value =>
      rw [bind_of_ok next answered]
      constructor
      · intro found
        exact ⟨value, rfl, found⟩
      · rintro ⟨other, same, found⟩
        cases same
        exact found

/-- If there is no outcome, an accessor did not answer as the contract says. -/
def RefusesByShape (typeName : String) (inquiry : Inquiry Value) : Prop :=
  ∀ error, inquiry.outcome = .error error →
    ∃ accessor fault, error = .incompatible accessor typeName fault

theorem RefusesByShape.pure (typeName : String) (value : Value) :
    RefusesByShape typeName (pure value : Inquiry Value) := by
  intro error refused
  cases refused

theorem RefusesByShape.bind {typeName : String} {inquiry : Inquiry Value}
    {next : Value → Inquiry Next} (first : RefusesByShape typeName inquiry)
    (after : ∀ value, RefusesByShape typeName (next value)) :
    RefusesByShape typeName (inquiry >>= next) := by
  intro error refused
  cases answered : inquiry.outcome with
  | error fault =>
      rw [bind_of_error next answered] at refused
      cases refused
      exact first error answered
  | ok value =>
      rw [bind_of_ok next answered] at refused
      exact after value error refused

end Inquiry

namespace Payload

variable {payload : Payload}

theorem integer_eq_ok {accessor : Accessor} {value : Int} :
    (payload.integer accessor).outcome = .ok value ↔
      payload.observe accessor.name = .ok (.integer value) := by
  unfold integer
  dsimp only
  cases payload.observe accessor.name with
  | error error =>
      constructor <;> intro impossible <;> cases impossible
  | ok observation =>
      cases observation with
      | integer other => simp
      | float other => simp
      | text other => simp
      | boolean other => simp
      | null => simp

theorem text_eq_ok {accessor : Accessor} {value : String} :
    (payload.text accessor).outcome = .ok value ↔
      payload.observe accessor.name = .ok (.text value) := by
  unfold text
  dsimp only
  cases payload.observe accessor.name with
  | error error =>
      constructor <;> intro impossible <;> cases impossible
  | ok observation =>
      cases observation with
      | integer other => simp
      | float other => simp
      | text other => simp
      | boolean other => simp
      | null => simp

theorem refusesByShape_integer (accessor : Accessor) :
    Inquiry.RefusesByShape payload.typeName (payload.integer accessor) := by
  intro error refused
  unfold integer at refused
  dsimp only at refused
  split at refused
  · cases refused
  · cases refused
    exact ⟨_, _, rfl⟩
  · cases refused
    exact ⟨_, _, rfl⟩

theorem refusesByShape_text (accessor : Accessor) :
    Inquiry.RefusesByShape payload.typeName (payload.text accessor) := by
  intro error refused
  unfold text at refused
  dsimp only at refused
  split at refused
  · cases refused
  · cases refused
    exact ⟨_, _, rfl⟩
  · cases refused
    exact ⟨_, _, rfl⟩

theorem refusesByShape_parts : Inquiry.RefusesByShape payload.typeName payload.parts := by
  unfold parts
  repeat
    apply Inquiry.RefusesByShape.bind
    · first
      | exact refusesByShape_integer _
      | exact refusesByShape_text _
    intro _
  exact Inquiry.RefusesByShape.pure _ _

def Answers (payload : Payload) (parts : IssueParts) : Prop :=
  ∀ accessor : Accessor, payload.observe accessor.name = .ok (observePart parts accessor)

theorem parts_eq_ok {found : IssueParts} :
    payload.parts.outcome = .ok found ↔ payload.Answers found := by
  unfold parts
  simp only [Inquiry.outcome_bind_eq_ok, integer_eq_ok, text_eq_ok, Inquiry.outcome_pure,
    Except.ok.injEq]
  constructor
  · rintro ⟨_, startLine, _, startLineOffset, _, endLine, _, endLineOffset, _, ruleId, _, message,
      _, issueType, _, fileName, _, reportedFilePath, same⟩ accessor
    rw [← same]
    cases accessor <;> assumption
  · intro answers
    exact ⟨_, answers .startLine, _, answers .startLineOffset, _, answers .endLine, _,
      answers .endLineOffset, _, answers .ruleId, _, answers .message, _, answers .issueType, _,
      answers .fileName, _, answers .reportedFilePath, rfl⟩

theorem convert_eq_ok {issue : Issue} :
    payload.convert = .ok issue ↔
      ∃ parts, payload.Answers parts ∧ Issue.ofParts parts = .ok issue := by
  unfold convert
  cases found : payload.parts.outcome with
  | error error =>
      constructor
      · intro impossible
        cases impossible
      · rintro ⟨parts, answers, -⟩
        rw [← parts_eq_ok, found] at answers
        cases answers
  | ok parts =>
      dsimp only
      constructor
      · intro converted
        cases built : Issue.ofParts parts with
        | error fault =>
            rw [built] at converted
            cases converted
        | ok other =>
            rw [built] at converted
            cases converted
            exact ⟨parts, parts_eq_ok.mp found, built⟩
      · rintro ⟨others, answers, built⟩
        rw [← parts_eq_ok, found] at answers
        cases answers
        rw [built]

theorem convert_eq_invalid {typeName : String} {fault : InvalidIssue} :
    payload.convert = .error (.invalid typeName fault) ↔
      typeName = payload.typeName ∧
        ∃ parts, payload.Answers parts ∧ Issue.ofParts parts = .error fault := by
  unfold convert
  cases found : payload.parts.outcome with
  | error error =>
      obtain ⟨accessor, shape, same⟩ := refusesByShape_parts error found
      constructor
      · intro invalid
        rw [same] at invalid
        cases invalid
      · rintro ⟨-, parts, answers, -⟩
        rw [← parts_eq_ok, found] at answers
        cases answers
  | ok parts =>
      dsimp only
      constructor
      · intro invalid
        cases built : Issue.ofParts parts with
        | ok issue =>
            rw [built] at invalid
            cases invalid
        | error other =>
            rw [built] at invalid
            cases invalid
            exact ⟨rfl, parts, parts_eq_ok.mp found, built⟩
      · rintro ⟨same, others, answers, built⟩
        rw [← parts_eq_ok, found] at answers
        cases answers
        rw [built, same]

end Payload

end IssueReport

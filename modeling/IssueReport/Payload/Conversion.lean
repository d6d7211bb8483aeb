import IssueReport.Payload
/-!
Turning payloads into issues. All nine accessors are read, in the order of the contract, before
anything is built; the first that does not answer as the contract says ends the conversion.
-/

namespace IssueReport

inductive ShapeFault where
  | access (error : AccessError)
  | notInteger (observation : Observation)
  | notText (observation : Observation)
  deriving DecidableEq

def ShapeFault.message : ShapeFault → String
  | .access error => error.message
  | .notInteger observation => "expected integer, got " ++ observation.kind
  | .notText observation => "expected string, got " ++ observation.kind

inductive ConversionError where
  | incompatible (accessor : Accessor) (typeName : String) (fault : ShapeFault)
  | invalid (typeName : String) (fault : InvalidIssue)
  deriving DecidableEq

namespace ConversionError

def message : ConversionError → String
  | .incompatible accessor typeName fault =>
      "incompatible issue shape: accessor " ++ Text.quoted accessor.name ++ " on " ++ typeName ++
        ": " ++ fault.message
  | .invalid typeName fault => "invalid issue from " ++ typeName ++ ": " ++ fault.message

def accessor? : ConversionError → Option Accessor
  | .incompatible accessor _ _ => some accessor
  | .invalid _ _ => none

end ConversionError

/-- Questions that have been asked of a payload, and what came of the answers. -/
structure Inquiry (Value : Type) where
  asked : List Accessor
  outcome : Except ConversionError Value

namespace Inquiry

/-- Goes on with a value. After an error nothing more is asked. -/
def andThen {Value Next : Type} (inquiry : Inquiry Value) (next : Value → Inquiry Next) :
    Inquiry Next :=
  match inquiry.outcome with
  | .error error => ⟨inquiry.asked, .error error⟩
  | .ok value => ⟨inquiry.asked ++ (next value).asked, (next value).outcome⟩

instance : Monad Inquiry where
  pure value := ⟨[], .ok value⟩
  bind := andThen

@[simp]
theorem asked_pure {Value : Type} (value : Value) : (pure value : Inquiry Value).asked = [] :=
  rfl

@[simp]
theorem outcome_pure {Value : Type} (value : Value) :
    (pure value : Inquiry Value).outcome = .ok value :=
  rfl

theorem bind_of_ok {Value Next : Type} {inquiry : Inquiry Value} {value : Value}
    (next : Value → Inquiry Next) (answered : inquiry.outcome = .ok value) :
    inquiry >>= next = ⟨inquiry.asked ++ (next value).asked, (next value).outcome⟩ := by
  change andThen inquiry next = _
  rw [andThen, answered]

theorem bind_of_error {Value Next : Type} {inquiry : Inquiry Value} {error : ConversionError}
    (next : Value → Inquiry Next) (refused : inquiry.outcome = .error error) :
    inquiry >>= next = ⟨inquiry.asked, .error error⟩ := by
  change andThen inquiry next = _
  rw [andThen, refused]

end Inquiry

namespace Payload

variable (payload : Payload)

def integer (accessor : Accessor) : Inquiry Int where
  asked := [accessor]
  outcome :=
    match payload.observe accessor.name with
    | .ok (.integer value) => .ok value
    | .ok other => .error (.incompatible accessor payload.typeName (.notInteger other))
    | .error error => .error (.incompatible accessor payload.typeName (.access error))

def text (accessor : Accessor) : Inquiry String where
  asked := [accessor]
  outcome :=
    match payload.observe accessor.name with
    | .ok (.text value) => .ok value
    | .ok other => .error (.incompatible accessor payload.typeName (.notText other))
    | .error error => .error (.incompatible accessor payload.typeName (.access error))

def parts : Inquiry IssueParts := do
  let startLine ← payload.integer .startLine
  let startLineOffset ← payload.integer .startLineOffset
  let endLine ← payload.integer .endLine
  let endLineOffset ← payload.integer .endLineOffset
  let ruleId ← payload.text .ruleId
  let message ← payload.text .message
  let issueType ← payload.text .issueType
  let fileName ← payload.text .fileName
  let reportedFilePath ← payload.text .reportedFilePath
  return ⟨startLine, startLineOffset, endLine, endLineOffset, ruleId, message, issueType,
    fileName, reportedFilePath⟩

def convert : Except ConversionError Issue :=
  match payload.parts.outcome with
  | .error error => .error error
  | .ok parts =>
      match Issue.ofParts parts with
      | .ok issue => .ok issue
      | .error fault => .error (.invalid payload.typeName fault)

def queried : List Accessor :=
  payload.parts.asked

end Payload

end IssueReport

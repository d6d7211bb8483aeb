import IssueReport.Issue.Json
/-!
Payloads: values of plugins whose type is not known here. A payload is only ever asked for
observations by name.
-/

namespace IssueReport

inductive Observation where
  | integer (value : Int)
  | float (value : Binary64)
  | text (value : String)
  | boolean (value : Bool)
  | null
  deriving DecidableEq

def Observation.kind : Observation → String
  | .integer _ => "integer"
  | .float _ => "float"
  | .text _ => "string"
  | .boolean _ => "boolean"
  | .null => "null"

inductive AccessError where
  | missing
  | inaccessible (reason : String)
  | failed (reason : String)
  | outOfRange (value : String)
  deriving DecidableEq

def AccessError.message : AccessError → String
  | .missing => "accessor is missing"
  | .inaccessible reason => "accessor is not accessible: " ++ reason
  | .failed reason => "accessor failed: " ++ reason
  | .outOfRange value => "integer out of range: " ++ value

structure Payload where
  typeName : String
  observe : String → Except AccessError Observation

namespace Payload

/-! ### JSON values -/

def jsonTypeName : Json → String
  | .object _ => "json object"
  | .array _ => "json array"
  | .text _ => "json string"
  | .number _ => "json number"
  | .boolean _ => "json boolean"
  | .null => "json null"

/-- What a member of an object answers. Integers that need all 64 bits without a sign are out of
range. -/
def observeMember (accessor : String) : Json → Except AccessError Observation
  | .null => .ok .null
  | .boolean value => .ok (.boolean value)
  | .number (.integer value) =>
      if value < Json.signedLimit then .ok (.integer value) else .error (.outOfRange (toString value))
  | .number (.float value) => .ok (.float value)
  | .text value => .ok (.text value)
  | .array _ => .error (.inaccessible ("member " ++ Text.quoted accessor ++ " is not a scalar"))
  | .object _ => .error (.inaccessible ("member " ++ Text.quoted accessor ++ " is not a scalar"))

/-- Objects answer with the member of the accessor's name; other values have no accessors. -/
def observeJson (value : Json) (accessor : String) : Except AccessError Observation :=
  match value with
  | .object members =>
      match Json.member? accessor members with
      | some member => observeMember accessor member
      | none => .error .missing
  | _ => .error .missing

def ofJson (value : Json) : Payload where
  typeName := jsonTypeName value
  observe := observeJson value

/-! ### Values that are known to have the nine parts -/

def observePart (parts : IssueParts) : Accessor → Observation
  | .startLine => .integer parts.startLine
  | .startLineOffset => .integer parts.startLineOffset
  | .endLine => .integer parts.endLine
  | .endLineOffset => .integer parts.endLineOffset
  | .ruleId => .text parts.ruleId
  | .message => .text parts.message
  | .issueType => .text parts.issueType
  | .fileName => .text parts.fileName
  | .reportedFilePath => .text parts.reportedFilePath

def ofParts (typeName : String) (parts : IssueParts) : Payload where
  typeName := typeName
  observe accessor :=
    match Accessor.ofName? accessor with
    | some accessor => .ok (observePart parts accessor)
    | none => .error .missing

end Payload

end IssueReport

import IssueReport.Payload
/-!
Diagnostics: what plugins find in a module. A diagnostic carries properties, of which only those
that hold a payload can become issues.
-/

namespace IssueReport

inductive PropertyKind where
  | string
  | numeric
  | symbolic
  | other
  deriving DecidableEq

namespace PropertyKind

def all : List PropertyKind :=
  [.string, .numeric, .symbolic, .other]

def name : PropertyKind → String
  | .string => "string"
  | .numeric => "numeric"
  | .symbolic => "symbolic"
  | .other => "other"

def ofName? (name : String) : Option PropertyKind :=
  all.find? fun kind => kind.name = name

theorem ofName?_name (kind : PropertyKind) : ofName? kind.name = some kind := by
  cases kind <;> decide

theorem name_of_ofName? {name : String} {kind : PropertyKind} (found : ofName? name = some kind) :
    kind.name = name := by
  simpa using List.find?_some found

end PropertyKind

inductive Property where
  | string (value : String)
  | numeric (value : Binary64)
  | symbolic (value : String)
  | other (payload : Payload)

namespace Property

def kind : Property → PropertyKind
  | .string _ => .string
  | .numeric _ => .numeric
  | .symbolic _ => .symbolic
  | .other _ => .other

def payload? : Property → Option Payload
  | .other payload => some payload
  | _ => none

end Property

structure Diagnostic where
  code : String
  message : String
  properties : List Property

end IssueReport

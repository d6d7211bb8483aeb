import IssueReport.Diagnostic
/-!
Diagnostics as programs print them: a JSON list of records. A typed property whose value is of
another type is dropped; nothing else of the diagnostic is lost.
-/

namespace IssueReport.Wire

open Json (Reader Field Shape Mismatch required)

variable {Reason : Type}

structure Property where
  kind : PropertyKind
  value : Json

structure Diagnostic where
  code : String
  message : String
  properties : List Property

/-! ### Reading -/

def kindNamed (name : String) : Reader Reason PropertyKind :=
  match PropertyKind.ofName? name with
  | some kind => Reader.pure kind
  | none => Reader.fail (.unknownChoice name (PropertyKind.all.map (·.name)))

def readUnit : Reader Reason Unit :=
  Reader.look fun byte rest =>
    if byte = Json.Byte.letterN then fun _ => Json.wordNull rest
    else Json.wrongType .unit

def readChoice : Reader Reason PropertyKind :=
  Reader.look fun byte rest =>
    if byte = Json.Byte.quote then fun _ => (Json.stringText.andThen kindNamed) rest
    else Json.wrongType .choice

/-- A kind is written as its name, or as an object with that one member, which is null. -/
def readKind : Reader Reason PropertyKind :=
  Reader.look fun byte rest =>
    if byte = Json.Byte.quote then fun _ => (Json.stringText.andThen kindNamed) rest
    else if byte = Json.Byte.openBrace then fun _ =>
      (readChoice.andThen fun kind => Json.colon.andThen fun _ => readUnit.andThen fun _ =>
        Json.endOfObject.map fun _ => kind) rest
    else fun _ => .error .malformed

structure PropertyDraft where
  kind : Option PropertyKind := none
  value : Option Json := none

/-- The depth to which the value of a property may be nested: it stands in a property, in a list of
properties, in a diagnostic, in a list of diagnostics. -/
def valueDepth : Nat := Json.depthLimit - 4

def kindField : Field Reason PropertyDraft where
  name := "kind"
  isOptional := false
  isRead draft := draft.kind.isSome
  read draft := readKind.map fun kind => { draft with kind := some kind }

def valueField : Field Reason PropertyDraft where
  name := "value"
  isOptional := false
  isRead draft := draft.value.isSome
  read draft := (Json.readValue valueDepth).map fun value => { draft with value := some value }

def PropertyDraft.finish (draft : PropertyDraft) : Except Mismatch Property := do
  let kind ← required "kind" draft.kind
  let value ← required "value" draft.value
  return ⟨kind, value⟩

def Property.shape : Shape Reason PropertyDraft Property where
  name := "WireProperty"
  fields := [kindField, valueField]
  initial := {}
  finish := PropertyDraft.finish

structure DiagnosticDraft where
  code : Option String := none
  message : Option String := none
  properties : Option (List Property) := none

def codeField : Field Reason DiagnosticDraft where
  name := "code"
  isOptional := false
  isRead draft := draft.code.isSome
  read draft := Json.readText.map fun code => { draft with code := some code }

def messageField : Field Reason DiagnosticDraft where
  name := "message"
  isOptional := true
  isRead draft := draft.message.isSome
  read draft := Json.readText.map fun message => { draft with message := some message }

def propertiesField : Field Reason DiagnosticDraft where
  name := "properties"
  isOptional := true
  isRead draft := draft.properties.isSome
  read draft :=
    (Json.readList Property.shape.read).map fun properties =>
      { draft with properties := some properties }

/-- Only the code has to be there. -/
def DiagnosticDraft.finish (draft : DiagnosticDraft) : Except Mismatch Diagnostic := do
  let code ← required "code" draft.code
  return ⟨code, draft.message.getD "", draft.properties.getD []⟩

def Diagnostic.shape : Shape Reason DiagnosticDraft Diagnostic where
  name := "WireDiagnostic"
  fields := [codeField, messageField, propertiesField]
  initial := {}
  finish := DiagnosticDraft.finish

def parse (input : List UInt8) : Except (Json.ReadError Empty) (List Diagnostic) :=
  Json.readAll (Json.readList Diagnostic.shape.read) input

/-! ### Taking over -/

/-- The property, if its value fits its kind. Every value fits the open kind. -/
def Property.accept? (property : Property) : Option IssueReport.Property :=
  match property.kind, property.value with
  | .other, value => some (.other (Payload.ofJson value))
  | .string, .text value => some (.string value)
  | .symbolic, .text value => some (.symbolic value)
  | .numeric, .number value => some (.numeric value.toBinary64)
  | _, _ => none

def Diagnostic.accept (diagnostic : Diagnostic) : IssueReport.Diagnostic where
  code := diagnostic.code
  message := diagnostic.message
  properties := diagnostic.properties.filterMap Property.accept?

def Diagnostic.dropped (diagnostic : Diagnostic) : List PropertyKind :=
  (diagnostic.properties.filter fun property => property.accept?.isNone).map (·.kind)

end IssueReport.Wire

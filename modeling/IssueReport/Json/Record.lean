import IssueReport.Json.Parse
/-!
Reading JSON into records of a known shape. A record is read from an object, its fields in any
order and unknown members passed over, or from an array that holds the fields in the order of their
declaration.
-/

namespace IssueReport.Json

variable {Reason Draft Result : Type}

structure Field (Reason Draft : Type) where
  name : String
  isOptional : Bool
  isRead : Draft → Bool
  read : Draft → Reader Reason Draft

/-- The shape of a record: its name for messages, its fields, the draft before any is read, and the
record of a draft in which every field is read that has to be. -/
structure Shape (Reason Draft Result : Type) where
  name : String
  fields : List (Field Reason Draft)
  initial : Draft
  finish : Draft → Except Mismatch Result

def required {Value : Type} (name : String) : Option Value → Except Mismatch Value
  | some value => .ok value
  | none => .error (.missingField name)

namespace Shape

variable (shape : Shape Reason Draft Result)

def field? (name : String) : Option (Field Reason Draft) :=
  shape.fields.find? fun field => field.name = name

def complete (draft : Draft) : Reader Reason Result :=
  match shape.finish draft with
  | .ok result => Reader.pure result
  | .error fault => Reader.fail fault

/-- A member after its name: a field is read once, and any other member is passed over. -/
def readMember (draft : Draft) (name : String) : Reader Reason Draft :=
  match shape.field? name with
  | some field =>
      if field.isRead draft then Reader.fail (.duplicateField name)
      else colon.andThen fun _ => field.read draft
  | none => colon.andThen fun _ => skipValue.map fun _ => draft

def readObject : Reader Reason Result :=
  (members shape.readMember shape.initial).andThen fun draft =>
    (shape.complete draft).andThen fun result => endOfObject.map fun _ => result

/-- The fields of an array one after the other. Fields at the end may be absent if they are
optional. -/
def readFields (draft : Draft) (position : Nat) : List (Field Reason Draft) → Reader Reason Draft
  | [] => Reader.pure draft
  | field :: fields =>
      (anotherItem (position = 0)).andThen fun another =>
        if another then
          (field.read draft).andThen fun next => readFields next (position + 1) fields
        else if field.isOptional then readFields draft (position + 1) fields
        else Reader.fail (.wrongLength position shape.name shape.fields.length)

def readArray : Reader Reason Result :=
  (readFields shape shape.initial 0 shape.fields).andThen fun draft =>
    (shape.complete draft).andThen fun result => endOfArray.map fun _ => result

def read : Reader Reason Result :=
  Reader.look fun byte rest =>
    if byte = Byte.openBrace then fun _ => shape.readObject rest
    else if byte = Byte.openBracket then fun _ => shape.readArray rest
    else wrongType (.record shape.name)

end Shape

/-! ### Values of fields -/

def readInteger : Reader Reason Int :=
  Reader.look fun byte _ =>
    if startsNumber byte then
      readNumber.andThen fun
        | .integer value =>
            if value < signedLimit then Reader.pure value else Reader.fail (.integerOutOfRange value)
        | .float value => Reader.fail (.wrongType (.float value) .integer)
    else wrongType .integer

def readText : Reader Reason String :=
  Reader.look fun byte rest =>
    if byte = Byte.quote then fun _ => stringText rest else wrongType .text

def readList (item : Reader Reason Result) : Reader Reason (List Result) :=
  Reader.look fun byte rest =>
    if byte = Byte.openBracket then fun _ =>
      ((items item).andThen fun found => endOfArray.map fun _ => found) rest
    else wrongType .sequence

end IssueReport.Json

import IssueReport.Json.Number
import IssueReport.Json.Skip
/-!
Reading a JSON value that is kept. Arrays and objects are nested to a limit, counted over the whole
text.
-/

namespace IssueReport.Json

variable {Reason : Type}

def depthLimit : Nat := 127

def readScalar (byte : UInt8) (rest : Input) : Reader Reason Json :=
  fun here =>
    if byte = Byte.letterN then wordNull.map (fun _ => Json.null) rest
    else if byte = Byte.letterT then wordTrue.map (fun _ => Json.boolean true) rest
    else if byte = Byte.letterF then wordFalse.map (fun _ => Json.boolean false) rest
    else if startsNumber byte then readNumber.map Json.number here
    else if byte = Byte.quote then stringText.map Json.text rest
    else .error .malformed

def readArray (item : Reader Reason Json) : Reader Reason Json :=
  (items item).andThen fun found => endOfArray.map fun _ => Json.array found

def readObject (memberValue : Reader Reason Json) : Reader Reason Json :=
  (members (fun found name => colon.andThen fun _ =>
    memberValue.map fun value => setMember name value found) []).andThen fun found =>
      endOfObject.map fun _ => Json.object found

def readValue : (depth : Nat) → Reader Reason Json
  | 0 => Reader.look readScalar
  | inner + 1 =>
      Reader.look fun byte rest =>
        if byte = Byte.openBracket then fun _ => readArray (readValue inner) rest
        else if byte = Byte.openBrace then fun _ => readObject (readValue inner) rest
        else readScalar byte rest

/-- What a text holds where a value of another type is wanted. Of arrays and objects only the first
byte is looked at. -/
def readFound : Reader Reason Found :=
  Reader.look fun byte rest here =>
    if byte = Byte.letterN then wordNull.map (fun _ => Found.null) rest
    else if byte = Byte.letterT then wordTrue.map (fun _ => Found.boolean true) rest
    else if byte = Byte.letterF then wordFalse.map (fun _ => Found.boolean false) rest
    else if startsNumber byte then
      (readNumber.map fun
        | .integer value => Found.integer value
        | .float value => Found.float value) here
    else if byte = Byte.quote then stringText.map Found.text rest
    else if byte = Byte.openBracket then .ok (Found.sequence, here)
    else if byte = Byte.openBrace then .ok (Found.map, here)
    else .error .malformed

def wrongType (expected : Expected) {Result : Type} : Reader Reason Result :=
  readFound.andThen fun found => Reader.fail (.wrongType found expected)

def parse (input : Input) : Except (ReadError Empty) Json :=
  readAll (readValue depthLimit) input

end IssueReport.Json

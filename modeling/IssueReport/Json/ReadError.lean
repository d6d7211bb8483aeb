import IssueReport.Binary64.Shortest
import IssueReport.Text.Quoted
/-!
Why a JSON text cannot be read. A text is read from left to right and the first fault ends the
reading: it is malformed, it ends too early, it does not fit the shape that is wanted, or what was
read is rejected for a reason of its own.
-/

namespace IssueReport.Json

inductive Found where
  | null
  | boolean (value : Bool)
  | integer (value : Int)
  | float (value : Binary64)
  | text (value : String)
  | sequence
  | map
  deriving DecidableEq

inductive Expected where
  | integer
  | text
  | sequence
  | unit
  | choice
  | record (shape : String)
  deriving DecidableEq

inductive Mismatch where
  | missingField (name : String)
  | duplicateField (name : String)
  | wrongType (found : Found) (expected : Expected)
  | integerOutOfRange (value : Int)
  | wrongLength (length : Nat) (shape : String) (fields : Nat)
  | unknownChoice (name : String) (choices : List String)
  deriving DecidableEq

inductive ReadError (Reason : Type) where
  | malformed
  | ended
  | mismatch (fault : Mismatch)
  | rejected (reason : Reason)
  deriving DecidableEq

def Found.description : Found → String
  | .null => "null"
  | .boolean value => "boolean `" ++ (if value then "true" else "false") ++ "`"
  | .integer value => "integer `" ++ toString value ++ "`"
  | .float value => "floating point `" ++ value.toText Binary64.messageLayout ++ "`"
  | .text value => "string " ++ Text.quoted value
  | .sequence => "sequence"
  | .map => "map"

def Expected.description : Expected → String
  | .integer => "i64"
  | .text => "a string"
  | .sequence => "a sequence"
  | .unit => "unit"
  | .choice => "variant identifier"
  | .record shape => "struct " ++ shape

def Mismatch.message : Mismatch → String
  | .missingField name => "missing field `" ++ name ++ "`"
  | .duplicateField name => "duplicate field `" ++ name ++ "`"
  | .wrongType found expected =>
      "invalid type: " ++ found.description ++ ", expected " ++ expected.description
  | .integerOutOfRange value =>
      "invalid value: integer `" ++ toString value ++ "`, expected " ++
        Expected.integer.description
  | .wrongLength length shape fields =>
      "invalid length " ++ toString length ++ ", expected struct " ++ shape ++ " with " ++
        toString fields ++ (if fields = 1 then " element" else " elements")
  | .unknownChoice name choices =>
      "unknown variant `" ++ name ++ "`, expected one of " ++
        String.intercalate ", " (choices.map fun choice => "`" ++ choice ++ "`")

end IssueReport.Json

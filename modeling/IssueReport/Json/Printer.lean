import IssueReport.Json.Value
import IssueReport.Binary64.Shortest
import IssueReport.Text.Utf8
/-!
Writing JSON: on one line without blanks, or with every item and member on a line of its own,
indented by two spaces a level. An array or object without contents is written in one piece either
way.
-/

namespace IssueReport.Json

inductive Spacing where
  | compact
  | indented
  deriving DecidableEq

def Spacing.lineBreak : Spacing → (depth : Nat) → List Char
  | .compact, _ => []
  | .indented, depth => '\n' :: List.replicate (2 * depth) ' '

def Spacing.afterColon : Spacing → List Char
  | .compact => []
  | .indented => [' ']

def hexDigit (value : Nat) : Char :=
  Nat.digitChar value

/-- Quotes, backslashes and control characters are escaped, in the short form where there is one. -/
def writeCharacter (character : Char) : List Char :=
  match character with
  | '"' => ['\\', '"']
  | '\\' => ['\\', '\\']
  | '\x08' => ['\\', 'b']
  | '\x0C' => ['\\', 'f']
  | '\n' => ['\\', 'n']
  | '\r' => ['\\', 'r']
  | '\t' => ['\\', 't']
  | _ =>
      if character.toNat < 0x20 then
        ['\\', 'u', '0', '0', hexDigit (character.toNat / 16), hexDigit (character.toNat % 16)]
      else [character]

def writeText (text : String) : List Char :=
  '"' :: text.toList.flatMap writeCharacter ++ ['"']

def writeInteger (value : Int) : List Char :=
  (if value < 0 then ['-'] else []) ++ Nat.toDigits 10 value.natAbs

def writeNumber : Number → List Char
  | .integer value => writeInteger value
  | .float value => (value.toText Binary64.messageLayout).toList

variable (spacing : Spacing)

def writeName (name : String) : List Char :=
  writeText name ++ ':' :: spacing.afterColon

mutual

def write (depth : Nat) : Json → List Char
  | .null => ['n', 'u', 'l', 'l']
  | .boolean true => ['t', 'r', 'u', 'e']
  | .boolean false => ['f', 'a', 'l', 's', 'e']
  | .number value => writeNumber value
  | .text value => writeText value
  | .array [] => ['[', ']']
  | .array (item :: items) =>
      '[' :: spacing.lineBreak (depth + 1) ++ write (depth + 1) item ++
        writeItems (depth + 1) items ++ spacing.lineBreak depth ++ [']']
  | .object [] => ['{', '}']
  | .object ((name, value) :: members) =>
      '{' :: spacing.lineBreak (depth + 1) ++ writeName spacing name ++ write (depth + 1) value ++
        writeMembers (depth + 1) members ++ spacing.lineBreak depth ++ ['}']

def writeItems (depth : Nat) : List Json → List Char
  | [] => []
  | item :: items =>
      ',' :: spacing.lineBreak depth ++ write depth item ++ writeItems depth items

def writeMembers (depth : Nat) : List (String × Json) → List Char
  | [] => []
  | (name, value) :: members =>
      ',' :: spacing.lineBreak depth ++ writeName spacing name ++ write depth value ++
        writeMembers depth members

end

def toText (value : Json) : String :=
  String.ofList (write spacing 0 value)

end IssueReport.Json

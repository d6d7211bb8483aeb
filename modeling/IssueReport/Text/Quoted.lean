import IssueReport.Text.Hidden
/-!
Quoted text for messages: double quotes around it, escapes for the quote, the backslash and every
hidden character.
-/

namespace IssueReport.Text

def hexadecimal (number : Nat) : List Char :=
  Nat.toDigits 16 number

def quotedCharacter (character : Char) : List Char :=
  match character with
  | '\x00' => ['\\', '0']
  | '\t' => ['\\', 't']
  | '\n' => ['\\', 'n']
  | '\r' => ['\\', 'r']
  | '"' => ['\\', '"']
  | '\\' => ['\\', '\\']
  | _ =>
      if isHidden character then
        '\\' :: 'u' :: '{' :: hexadecimal character.toNat ++ ['}']
      else [character]

def quoted (text : String) : String :=
  String.ofList ('"' :: text.toList.flatMap quotedCharacter ++ ['"'])

end IssueReport.Text

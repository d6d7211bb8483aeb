import IssueReport.FileTree.Edit
import IssueReport.Plugin
import IssueReport.Text.Utf8
/-!
The programs that scripts and plugins can run. A program gets its arguments and a file tree; it
gives the bytes that it writes, a status, and the tree that it leaves.
-/

namespace IssueReport.Command

structure Result where
  tree : FileTree
  output : List UInt8
  complaints : List UInt8
  ending : Ending

structure Surroundings where
  here : Location
  environment : List (String × String)

namespace Program

def line (text : String) : List UInt8 :=
  Text.utf8 (text ++ "\n")

/-- A program that changes no files and writes no complaints. -/
def quiet (tree : FileTree) (output : List UInt8) (status : Nat) : Result :=
  ⟨tree, output, [], .exit status⟩

/-! ### Files -/

def readFault (tree : FileTree) (here : Location) (path : String) : String :=
  match tree.resolve here path with
  | .ok _ => "Is a directory"
  | .error .notFound => "No such file or directory"
  | .error .notDirectory => "Not a directory"
  | .error .nameTooLong => "File name too long"
  | .error .tooManyLinks => "Too many levels of symbolic links"
  | .error .denied => "Permission denied"
  | .error .nulByte => "No such file or directory"

/-- Writes files one after the other. A minus sign stands for the input, and so does nothing. -/
def cat (tree : FileTree) (here : Location) (input : List UInt8) (paths : List String) : Result :=
  let one (result : Result) (path : String) : Result :=
    if path = "-" then { result with output := result.output ++ input }
    else
      match tree.read? here path with
      | some content => { result with output := result.output ++ content }
      | none =>
          { result with
            complaints := result.complaints ++
              line ("cat: " ++ path ++ ": " ++ readFault tree here path)
            ending := .exit 1 }
  (if paths.isEmpty then ["-"] else paths).foldl one (quiet tree [] 0)

def remove (tree : FileTree) (here : Location) (arguments : List String) : Result :=
  let forced := arguments.contains "-f"
  let one (result : Result) (path : String) : Result :=
    match result.tree.remove? here path with
    | some left => { result with tree := left }
    | none =>
        if forced && !result.tree.exists? here path then result
        else
          { result with
            complaints := result.complaints ++
              line ("rm: cannot remove '" ++ path ++ "': " ++ readFault result.tree here path)
            ending := .exit 1 }
  (arguments.filter (· ≠ "-f")).foldl one (quiet tree [] 0)

/-! ### Text -/

def escaped? : Char → Option UInt8
  | 'n' => some 0x0A
  | 't' => some 0x09
  | 'r' => some 0x0D
  | 'a' => some 0x07
  | 'b' => some 0x08
  | 'f' => some 0x0C
  | 'v' => some 0x0B
  | '\\' => some 0x5C
  | _ => none

def isOctal (character : Char) : Bool :=
  '0' ≤ character && character ≤ '7'

def octalValue (digits : List Char) : Nat :=
  digits.foldl (fun value digit => value * 8 + (digit.toNat - 0x30)) 0

/-- Where in a format the reader stands: in plain text, after a percent sign, after a backslash, or
among the digits of a byte. -/
inductive FormatPlace where
  | plain
  | directive
  | escape
  | octal (digits : List Char)

/-- A pass over a format: the bytes so far, and the arguments that are left. -/
structure Formatting where
  place : FormatPlace
  output : List UInt8
  arguments : List String

def Formatting.write (state : Formatting) (bytes : List UInt8) : Formatting :=
  { state with place := .plain, output := state.output ++ bytes }

def formatPlain (state : Formatting) (character : Char) : Formatting :=
  match character with
  | '%' => { state with place := .directive }
  | '\\' => { state with place := .escape }
  | _ => state.write (Text.utf8 character.toString)

/-- The text of an argument as a decimal number; anything else counts as zero. -/
def decimalText (argument : String) : String :=
  if argument.toInt?.isSome then argument else "0"

def octalByte (digits : List Char) : UInt8 :=
  UInt8.ofNat (octalValue digits)

def formatStep (state : Formatting) (character : Char) : Formatting :=
  match state.place with
  | .plain => formatPlain state character
  | .directive =>
      let argument := state.arguments.head?.getD ""
      let next := { state with arguments := state.arguments.tail }
      match character with
      | '%' => state.write [0x25]
      | 's' => next.write (Text.utf8 argument)
      | 'd' => next.write (Text.utf8 (decimalText argument))
      | _ => state.write (Text.utf8 ("%" ++ character.toString))
  | .escape =>
      if isOctal character then { state with place := .octal [character] }
      else
        match escaped? character with
        | some byte => state.write [byte]
        | none => state.write (Text.utf8 ("\\" ++ character.toString))
  | .octal digits =>
      if isOctal character && digits.length < 3 then
        { state with place := .octal (digits ++ [character]) }
      else formatPlain (state.write [octalByte digits]) character

def formatOnce (format : String) (arguments : List String) : List UInt8 × List String :=
  let last := format.toList.foldl formatStep ⟨.plain, [], arguments⟩
  let tail : List UInt8 :=
    match last.place with
    | .plain => []
    | .directive => [0x25]
    | .escape => [0x5C]
    | .octal digits => [octalByte digits]
  (last.output ++ tail, last.arguments)

/-- Passes over a format until it takes no more arguments. -/
def formatAll (format : String) : (bound : Nat) → List String → List UInt8
  | 0, arguments => (formatOnce format arguments).1
  | bound + 1, arguments =>
      let (output, left) := formatOnce format arguments
      if left.isEmpty || left.length = arguments.length then output
      else output ++ formatAll format bound left

def printf (tree : FileTree) (caller : String) : List String → Result
  | [] => ⟨tree, [], line (caller ++ "printf: usage: printf format [arg ...]"), .exit 2⟩
  | format :: arguments => quiet tree (formatAll format arguments.length arguments) 0

def unescape : List Char → List UInt8
  | '\\' :: letter :: rest =>
      match escaped? letter with
      | some byte => byte :: unescape rest
      | none => 0x5C :: (Text.utf8 letter.toString ++ unescape rest)
  | character :: rest => Text.utf8 character.toString ++ unescape rest
  | [] => []

def echo (tree : FileTree) (arguments : List String) : Result :=
  match arguments with
  | "-n" :: words => quiet tree (unescape (String.intercalate " " words).toList) 0
  | words => quiet tree (unescape (String.intercalate " " words).toList ++ [0x0A]) 0

/-! ### Conditions and endings -/

def condition? (tree : FileTree) (here : Location) : List String → Option Bool
  | [] => some false
  | [text] => some (text ≠ "")
  | ["!", text] => some (text = "")
  | [operator, operand] =>
      match operator with
      | "-n" => some (operand ≠ "")
      | "-z" => some (operand = "")
      | "-e" => some (tree.exists? here operand)
      | "-f" => some (tree.isFile here operand)
      | "-d" => some (tree.at? here operand = some .directory)
      | _ => none
  | [left, operator, right] =>
      match operator with
      | "=" => some (left = right)
      | "!=" => some (left ≠ right)
      | _ => none
  | _ => none

def test (tree : FileTree) (here : Location) (arguments : List String) : Result :=
  match condition? tree here arguments with
  | some true => quiet tree [] 0
  | some false => quiet tree [] 1
  | none => ⟨tree, [], line "test: unexpected operator", .exit 2⟩

def signalNumber? (text : String) : Option Nat :=
  match text.toNat? with
  | some number => some number
  | none =>
      (signalNames.find? fun entry => entry.2 = text || entry.2 = "SIG" ++ text).map (·.1)

end Program

end IssueReport.Command

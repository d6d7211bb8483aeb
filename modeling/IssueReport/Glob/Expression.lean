import IssueReport.Glob.Match
/-!
Regular expressions of patterns, as messages show them. An expression is about bytes: a character of
more than one byte is written as the numbers of its bytes.
-/

namespace IssueReport

namespace Glob

def isMark (character : Char) : Bool :=
  ['\\', '.', '+', '*', '?', '(', ')', '|', '[', ']', '{', '}', '^', '$', '#', '&', '-', '~'].contains
    character

def byteText (byte : UInt8) : List Char :=
  let value := byte.toNat
  if value < 0x80 then
    let character := Char.ofNat value
    if isMark character then ['\\', character] else [character]
  else ['\\', 'x', Nat.digitChar (value / 16), Nat.digitChar (value % 16)]

def characterText (character : Char) : List Char :=
  (Text.utf8 character.toString).flatMap byteText

def rangeText (range : CharRange) : List Char :=
  if range.first = range.last then characterText range.first
  else characterText range.first ++ '-' :: characterText range.last

def groupText : List (List Char) → List Char
  | [] => []
  | branches => "(?:".toList ++ List.intercalate ['|'] branches ++ [')']

mutual

def tokenText : GlobToken → List Char
  | .literal character => characterText character
  | .any => ['.']
  | .star => ['.', '*']
  | .anywhere => groupText ["/?".toList, ".*/".toList]
  | .within => "/.*".toList
  | .between => groupText ["/".toList, "/.*/".toList]
  | .oneOf negated ranges =>
      '[' :: (if negated then ['^'] else []) ++ ranges.flatMap rangeText ++ [']']
  | .choice branches => groupText (branchTexts branches)

def tokensText : List GlobToken → List Char
  | [] => []
  | token :: tokens => tokenText token ++ tokensText tokens

def branchTexts : List (List GlobToken) → List (List Char)
  | [] => []
  | branch :: branches =>
      if isVoidBranch branch then branchTexts branches
      else tokensText branch :: branchTexts branches

end

/-- The expression of a pattern, which has to match all of a path. -/
def expression (glob : Glob) : String :=
  let body :=
    match glob.tokens with
    | [.anywhere] => ['.', '*']
    | tokens => tokensText tokens
  String.ofList ("(?-u)^".toList ++ body ++ ['$'])

end Glob

end IssueReport

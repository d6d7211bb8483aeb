import IssueReport.Glob.Form
import IssueReport.Text.Utf8
/-!
Matching paths against patterns, byte by byte. A part of a pattern is run on the set of what may be
left of the path, which is a list without repetitions, longest first.
-/

namespace IssueReport

abbrev Remainders := List (List UInt8)

namespace Remainders

def insert (rest : List UInt8) : Remainders → Remainders
  | [] => [rest]
  | first :: others =>
      if first.length < rest.length then rest :: first :: others
      else if first.length = rest.length then first :: others
      else first :: insert rest others

def union (left right : Remainders) : Remainders :=
  left.foldr insert right

end Remainders

namespace Glob

def slash : UInt8 := 0x2F

def tails : List UInt8 → Remainders
  | [] => [[]]
  | byte :: rest => (byte :: rest) :: tails rest

def afterSlashes : List UInt8 → Remainders
  | [] => []
  | byte :: rest => if byte = slash then rest :: afterSlashes rest else afterSlashes rest

def after? : List UInt8 → List UInt8 → Option (List UInt8)
  | [], rest => some rest
  | _ :: _, [] => none
  | byte :: bytes, first :: rest => if byte = first then after? bytes rest else none

def afterSlash? (path : List UInt8) : Option (List UInt8) :=
  after? [slash] path

structure ByteRange where
  first : UInt8
  last : UInt8

/-- A class holds bytes, not characters: the bytes of a character of more than one byte belong to it
one by one, and a range runs from the last byte of its first character to the first byte of its last
character. -/
def byteRanges (range : CharRange) : List ByteRange :=
  let single (bytes : List UInt8) := bytes.map fun byte => ByteRange.mk byte byte
  let start := Text.utf8 range.first.toString
  if range.first = range.last then single start
  else
    match start.reverse, Text.utf8 range.last.toString with
    | low :: before, high :: more => single before.reverse ++ ⟨low, high⟩ :: single more
    | _, _ => []

def inClass (negated : Bool) (ranges : List CharRange) (byte : UInt8) : Bool :=
  negated != ((ranges.flatMap byteRanges).any fun range => range.first ≤ byte && byte ≤ range.last)

def each (step : List UInt8 → Remainders) (remainders : Remainders) : Remainders :=
  remainders.foldr (fun rest found => (step rest).union found) []

mutual

/-- The part stands for nothing, not even for the empty text. -/
def isVoid : GlobToken → Bool
  | .choice branches => areVoid branches
  | _ => false

def isVoidBranch : List GlobToken → Bool
  | [] => true
  | token :: tokens => isVoid token && isVoidBranch tokens

def areVoid : List (List GlobToken) → Bool
  | [] => true
  | branch :: branches => isVoidBranch branch && areVoid branches

end

mutual

def runToken (remainders : Remainders) : GlobToken → Remainders
  | .literal character =>
      remainders.filterMap (after? (Text.utf8 character.toString))
  | .any => remainders.filterMap List.tail?
  | .star =>
      match remainders with
      | [] => []
      | longest :: _ => tails longest
  | .anywhere => each (fun rest => rest :: afterSlashes rest) remainders
  | .within => each (fun rest => ((afterSlash? rest).map tails).getD []) remainders
  | .between =>
      each (fun rest =>
        ((afterSlash? rest).map fun beyond => beyond :: afterSlashes beyond).getD []) remainders
  | .oneOf negated ranges =>
      remainders.filterMap fun
        | byte :: rest => if inClass negated ranges byte then some rest else none
        | [] => none
  | .choice branches => if areVoid branches then remainders else runBranches remainders branches

def runTokens (remainders : Remainders) : List GlobToken → Remainders
  | [] => remainders
  | token :: tokens => runTokens (runToken remainders token) tokens

def runBranches (remainders : Remainders) : List (List GlobToken) → Remainders
  | [] => []
  | branch :: branches =>
      if isVoidBranch branch then runBranches remainders branches
      else (runTokens remainders branch).union (runBranches remainders branches)

end

def lastComponent (path : List UInt8) : List UInt8 :=
  (path.reverse.takeWhile (· ≠ slash)).reverse

/-- The path has a file name: its last component is neither empty nor two dots. -/
def hasFileName (path : List UInt8) : Bool :=
  let name := lastComponent path
  name ≠ [] && name ≠ [0x2E, 0x2E]

/-- All of the path matches. Two stars alone match every path. -/
def matchesBytes (glob : Glob) (path : List UInt8) : Bool :=
  match glob.tokens with
  | [.anywhere] => true
  | tokens => (runTokens [path] tokens).contains []

/-- The path matches. A pattern that looks at the file name matches no path without one. -/
def matchesPath (glob : Glob) (path : String) : Bool :=
  let bytes := Text.utf8 path
  (!(GlobForm.ofTokens glob.tokens).needsFileName || hasFileName bytes) && glob.matchesBytes bytes

end Glob

end IssueReport

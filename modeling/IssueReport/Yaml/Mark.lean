/-!
The characters of a YAML text with their positions. Line ends are made alike, and the text closes
with an end mark, so that a reader always has a character to look at.
-/

namespace IssueReport.Yaml

inductive SyntaxError where
  | character
  | indicator
  | key
  | indentation
  | directive
  | tag
  | anchor
  | blockHeader
  | quoted
  | grammar
  | documents
  deriving DecidableEq

/-- A character with the number of bytes, of lines and of characters in its line before it. -/
structure Mark where
  character : Char
  index : Nat
  line : Nat
  column : Nat
  deriving DecidableEq

/-- The character that closes a text. It cannot stand in one. -/
def endMark : Char := '\x00'

def byteOrderMark : Char := '\uFEFF'

def isPermitted (character : Char) : Bool :=
  let code := character.toNat
  code = 0x9 || code = 0xA || code = 0xD || (0x20 ≤ code && code ≤ 0x7E) || code = 0x85 ||
    (0xA0 ≤ code && code ≤ 0xD7FF) || (0xE000 ≤ code && code ≤ 0xFFFD) ||
    (0x10000 ≤ code && code ≤ 0x10FFFF)

def isBreak (character : Char) : Bool :=
  character = '\n' || character = '\u2028' || character = '\u2029'

def isBlank (character : Char) : Bool :=
  character = ' ' || character = '\t'

def isBreakOrEnd (character : Char) : Bool :=
  isBreak character || character = endMark

def isSpace (character : Char) : Bool :=
  isBlank character || isBreakOrEnd character

def isWordCharacter (character : Char) : Bool :=
  character.isAlphanum || character = '_' || character = '-'

def marksFrom (index line column : Nat) : List Char → List Mark
  | [] => [⟨endMark, index, line, column⟩]
  | '\r' :: '\n' :: rest => ⟨'\n', index, line, column⟩ :: marksFrom (index + 2) (line + 1) 0 rest
  | character :: rest =>
      let next := index + character.utf8Size
      if character = '\r' || character = '\u0085' then
        ⟨'\n', index, line, column⟩ :: marksFrom next (line + 1) 0 rest
      else if isBreak character then
        ⟨character, index, line, column⟩ :: marksFrom next (line + 1) 0 rest
      else ⟨character, index, line, column⟩ :: marksFrom next line (column + 1) rest

def marks (text : List Char) : Except SyntaxError (List Mark) :=
  if text.all isPermitted then .ok (marksFrom 0 0 0 text) else .error .character

def look (rest : List Mark) : Char :=
  match rest with
  | mark :: _ => mark.character
  | [] => endMark

def lookAt (rest : List Mark) (distance : Nat) : Char :=
  look (rest.drop distance)

def columnOf (rest : List Mark) : Nat :=
  match rest with
  | mark :: _ => mark.column
  | [] => 0

/-- What is left starts with three equal characters on their own at the start of a line. -/
def startsWithThree (character : Char) (rest : List Mark) : Bool :=
  columnOf rest = 0 && lookAt rest 0 = character && lookAt rest 1 = character &&
    lookAt rest 2 = character && isSpace (lookAt rest 3)

def atDocumentMark (rest : List Mark) : Bool :=
  startsWithThree '-' rest || startsWithThree '.' rest

def takeWhile (test : Char → Bool) (rest : List Mark) : List Char × List Mark :=
  ((rest.takeWhile fun mark => test mark.character).map (·.character),
    rest.dropWhile fun mark => test mark.character)

def dropBlanks (rest : List Mark) : List Mark :=
  rest.dropWhile fun mark => isBlank mark.character

def dropLine? (rest : List Mark) : Option (List Mark) :=
  let unblank := dropBlanks rest
  let bare :=
    if look unblank = '#' then unblank.dropWhile fun mark => !isBreakOrEnd mark.character
    else unblank
  if isBreak (look bare) then some (bare.drop 1)
  else if look bare = endMark then some bare
  else none

end IssueReport.Yaml

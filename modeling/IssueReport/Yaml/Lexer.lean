import IssueReport.Text.Utf8
import IssueReport.Yaml.Scalar
/-!
Dividing a YAML text into tokens. A mapping may start with a key that is only known to be one when
its colon is found; where a key may have started is therefore remembered, and the tokens of the key
are put in afterwards.
-/

namespace IssueReport.Yaml

/-- Where a key may have started: the number of tokens before it, and its position. A required key
stands where nothing else may. -/
structure KeyStart where
  before : Nat
  required : Bool
  mark : Mark

/-- The reader: what is left, the tokens so far, last ones first, where a key may have started at
each level of flow collections, innermost first, whether a key may start here, and the indentations
of the open block collections, innermost first. -/
structure Lexer where
  rest : List Mark
  tokens : List Token
  keys : List (Option KeyStart)
  keyAllowed : Bool
  indents : List Int

namespace Lexer

/-- The greatest length of a key in bytes, with the blanks before its colon. -/
def keyLimit : Nat := 1024

def start (rest : List Mark) : Lexer := ⟨rest, [], [none], true, []⟩

variable (lexer : Lexer)

def inFlow : Bool := 1 < lexer.keys.length

def indent : Int := lexer.indents.head?.getD (-1)

def column : Int := columnOf lexer.rest

def push (token : Token) : Lexer :=
  { lexer with tokens := token :: lexer.tokens }

def insertAfter (number : Nat) (token : Token) : Lexer :=
  { lexer with tokens := lexer.tokens.insertIdx (lexer.tokens.length - number) token }

def skip (number : Nat) : Lexer :=
  { lexer with rest := lexer.rest.drop number }

/-! ### Blanks -/

/-- Passes over blanks, comments and line breaks. Tabs count as blanks where no key may start, and
after a line break a key may start outside flow collections. -/
def skipToToken (inFlow : Bool) (keyAllowed inComment : Bool) : List Mark → Bool × List Mark
  | [] => (keyAllowed, [])
  | mark :: rest =>
      let character := mark.character
      if isBreak character then skipToToken inFlow (keyAllowed || !inFlow) false rest
      else if character = endMark then (keyAllowed, mark :: rest)
      else if inComment then skipToToken inFlow keyAllowed true rest
      else if character = '#' then skipToToken inFlow keyAllowed true rest
      else if character = ' ' || (character = '\t' && (inFlow || !keyAllowed)) ||
          (character = byteOrderMark && mark.column = 0) then
        skipToToken inFlow keyAllowed false rest
      else (keyAllowed, mark :: rest)

/-! ### Keys -/

def forgetKey : Except SyntaxError Lexer :=
  match lexer.keys with
  | some key :: keys =>
      if key.required then .error .key else .ok { lexer with keys := none :: keys }
  | _ => .ok lexer

def rememberKey : Except SyntaxError Lexer :=
  if lexer.keyAllowed then do
    let next ← lexer.forgetKey
    match next.rest with
    | mark :: _ =>
        let required := !next.inFlow && next.indent = (mark.column : Int)
        return { next with
          keys := some ⟨next.tokens.length, required, mark⟩ :: next.keys.drop 1 }
    | [] => return next
  else .ok lexer

def isStale (here : Mark) (key : KeyStart) : Bool :=
  key.mark.line < here.line || key.mark.index + keyLimit < here.index

def dropStaleKeys : Except SyntaxError Lexer :=
  match lexer.rest with
  | [] => .ok lexer
  | here :: _ =>
      if lexer.keys.any fun key => key.any fun key => isStale here key && key.required then
        .error .key
      else
        .ok { lexer with
          keys := lexer.keys.map fun key => key.filter fun key => !isStale here key }

/-! ### Indentation -/

def openBlock (column : Int) (before : Nat) (token : Token) : Lexer :=
  if lexer.inFlow || column ≤ lexer.indent then lexer
  else { lexer.insertAfter before token with indents := column :: lexer.indents }

def closeBlocks (column : Int) : Lexer :=
  if lexer.inFlow then lexer
  else
    let closed := (lexer.indents.takeWhile (column < ·)).length
    { lexer with
      indents := lexer.indents.drop closed
      tokens := List.replicate closed .blockEnd ++ lexer.tokens }

/-! ### Marks -/

def documentMark (token : Token) : Except SyntaxError Lexer := do
  let next ← (lexer.closeBlocks (-1)).forgetKey
  return { (next.skip 3).push token with keyAllowed := false }

def openFlow (token : Token) : Except SyntaxError Lexer := do
  let next ← lexer.rememberKey
  return { (next.skip 1).push token with keys := none :: next.keys, keyAllowed := true }

def closeFlow (token : Token) : Except SyntaxError Lexer := do
  let next ← lexer.forgetKey
  return { (next.skip 1).push token with
    keys := if next.inFlow then next.keys.drop 1 else next.keys
    keyAllowed := false }

def flowEntry : Except SyntaxError Lexer := do
  let next ← lexer.forgetKey
  return { (next.skip 1).push .flowEntry with keyAllowed := true }

/-- Opens a block collection here; outside flow collections one may only start where a key may. -/
def openBlockHere (token : Token) : Except SyntaxError Lexer :=
  if lexer.inFlow then .ok lexer
  else if lexer.keyAllowed then .ok (lexer.openBlock lexer.column lexer.tokens.length token)
  else .error .indicator

def blockEntry : Except SyntaxError Lexer := do
  let opened ← lexer.openBlockHere .blockSequenceStart
  let next ← opened.forgetKey
  return { (next.skip 1).push .blockEntry with keyAllowed := true }

def key : Except SyntaxError Lexer := do
  let opened ← lexer.openBlockHere .blockMappingStart
  let next ← opened.forgetKey
  return { (next.skip 1).push .key with keyAllowed := !next.inFlow }

/-- A colon. What may have been a key before it is one now. -/
def value : Except SyntaxError Lexer :=
  match lexer.keys with
  | some key :: keys =>
      let opened := (lexer.insertAfter key.before .key).openBlock key.mark.column key.before
        .blockMappingStart
      .ok { (opened.skip 1).push .value with keys := none :: keys, keyAllowed := false }
  | _ => do
      let opened ← lexer.openBlockHere .blockMappingStart
      return { (opened.skip 1).push .value with keyAllowed := !opened.inFlow }

/-! ### Names -/

def endsAnchor (character : Char) : Bool :=
  isSpace character || ['?', ':', ',', ']', '}', '%', '@', Char.ofNat 0x60].contains character

def anchor (token : String → Token) : Except SyntaxError Lexer := do
  let next ← lexer.rememberKey
  let (name, after) := takeWhile isWordCharacter (next.rest.drop 1)
  if name.isEmpty || !endsAnchor (look after) then .error .anchor
  else
    return { next.push (token (String.ofList name)) with rest := after, keyAllowed := false }

/-! ### Tags -/

def isTagCharacter (whole : Bool) (character : Char) : Bool :=
  isWordCharacter character ||
    [';', '/', '?', ':', '@', '&', '=', '+', '$', '.', '!', '~', '*', '\'', '(', ')', '%'].contains
      character ||
    (whole && [',', '[', ']'].contains character)

def byteCount? (first : Nat) : Option Nat :=
  if first < 0x80 then some 1
  else if first / 32 = 6 then some 2
  else if first / 16 = 14 then some 3
  else if first / 8 = 30 then some 4
  else none

/-- The bytes that the characters of a tag stand for; `missing` counts the bytes that an escaped
character still needs. -/
def tagBytes (missing : Nat) : List Char → Option (List UInt8)
  | [] => if missing = 0 then some [] else none
  | '%' :: high :: low :: rest =>
      match hexValue? high, hexValue? low with
      | some high, some low =>
          let value := high * 16 + low
          let left :=
            if missing = 0 then (byteCount? value).map (· - 1)
            else if value / 64 = 2 then some (missing - 1)
            else none
          match left with
          | some left => (tagBytes left rest).map (UInt8.ofNat value :: ·)
          | none => none
      | _, _ => none
  | character :: rest =>
      if character = '%' || 0 < missing then none
      else (tagBytes 0 rest).map (Text.utf8 character.toString ++ ·)

/-- The text of a tag or of a part of one, which an escaped null character cuts off. -/
def readTagText (whole : Bool) (rest : List Mark) : Except SyntaxError (String × List Mark) :=
  let (written, after) := takeWhile (isTagCharacter whole) rest
  match tagBytes 0 written with
  | some bytes => .ok (Text.decodeLossy (bytes.takeWhile (· ≠ 0)), after)
  | none => .error .tag

def readSomeTagText (whole : Bool) (rest : List Mark) : Except SyntaxError (String × List Mark) :=
  if isTagCharacter whole (look rest) then readTagText whole rest else .error .tag

/-- A handle: an exclamation mark, a word, and an exclamation mark if there is one. -/
def readHandle (rest : List Mark) : Except SyntaxError (List Char × List Mark) :=
  if look rest ≠ '!' then .error .tag
  else
    let (name, after) := takeWhile isWordCharacter (rest.drop 1)
    if look after = '!' then .ok ('!' :: name ++ ['!'], after.drop 1)
    else .ok ('!' :: name, after)

def readWholeTag (rest : List Mark) : Except SyntaxError (WrittenTag × List Mark) := do
  let (suffix, after) ← readSomeTagText true (rest.drop 2)
  if look after ≠ '>' then .error .tag else return (⟨"", suffix⟩, after.drop 1)

/-- A tag written as a handle and a suffix. A lone exclamation mark is a tag of its own. -/
def readShortTag (rest : List Mark) : Except SyntaxError (WrittenTag × List Mark) := do
  let (handle, after) ← readHandle rest
  if 1 < handle.length && handle.getLast? = some '!' then
    let (suffix, last) ← readSomeTagText false after
    return (⟨String.ofList handle, suffix⟩, last)
  else
    let (more, last) ← readTagText false after
    let suffix := String.ofList (handle.drop 1) ++ more
    return (if suffix = "" then ⟨"", "!"⟩ else ⟨"!", suffix⟩, last)

def tag : Except SyntaxError Lexer := do
  let next ← lexer.rememberKey
  let (written, after) ←
    if lookAt next.rest 1 = '<' then readWholeTag next.rest else readShortTag next.rest
  if isSpace (look after) || (next.inFlow && look after = ',') then
    return { next.push (.tag written) with rest := after, keyAllowed := false }
  else .error .tag

/-! ### Directives -/

def versionDigits : Nat := 9

def readNumber (rest : List Mark) : Except SyntaxError (Nat × List Mark) :=
  let (digits, after) := takeWhile Char.isDigit rest
  if digits.isEmpty || versionDigits < digits.length then .error .directive
  else .ok (digits.foldl (fun value digit => value * 10 + (digit.toNat - 0x30)) 0, after)

def readVersion (rest : List Mark) : Except SyntaxError (Token × List Mark) := do
  let (major, after) ← readNumber (dropBlanks rest)
  if look after ≠ '.' then .error .directive
  else
    let (minor, last) ← readNumber (after.drop 1)
    return (.version major minor, last)

def readTagDirective (rest : List Mark) : Except SyntaxError (Token × List Mark) := do
  let (handle, after) ← readHandle (dropBlanks rest)
  if handle ≠ ['!'] && handle.getLast? ≠ some '!' then .error .directive
  else if !isBlank (look after) then .error .directive
  else
    let (replacement, last) ← readSomeTagText true (dropBlanks after)
    if !isSpace (look last) then .error .directive
    else return (.tagDirective (String.ofList handle) replacement, last)

def directive : Except SyntaxError Lexer := do
  let next ← (lexer.closeBlocks (-1)).forgetKey
  let (name, after) := takeWhile isWordCharacter (next.rest.drop 1)
  if name.isEmpty || !isSpace (look after) then .error .directive
  else
    let (token, last) ←
      if name = ['Y', 'A', 'M', 'L'] then readVersion after
      else if name = ['T', 'A', 'G'] then readTagDirective after
      else .error .directive
    match dropLine? last with
    | some rest => return { next.push token with rest := rest, keyAllowed := false }
    | none => .error .directive

/-! ### Scalars -/

def blockScalar (folded : Bool) : Except SyntaxError Lexer := do
  let next ← lexer.forgetKey
  let (text, after) ← readBlockScalar folded next.indent (next.rest.drop 1)
  let style := if folded then ScalarStyle.folded else .literal
  return { next.push (.scalar style (String.ofList text)) with rest := after, keyAllowed := true }

def quotedScalar (single : Bool) : Except SyntaxError Lexer := do
  let next ← lexer.rememberKey
  let (text, after) ← readQuoted single .text [] (next.rest.drop 1)
  return { next.push (.scalar .quoted (String.ofList text)) with
    rest := after, keyAllowed := false }

def plainScalar : Except SyntaxError Lexer := do
  let next ← lexer.rememberKey
  let found ← readPlain next.inFlow (next.indent + 1) [] none next.rest
  return { next.push (.scalar .plain (String.ofList found.text)) with
    rest := found.rest, keyAllowed := found.brokenOff }

def isIndicator (character : Char) : Bool :=
  ['-', '?', ':', ',', '[', ']', '{', '}', '#', '&', '*', '!', '|', '>', '\'', '"', '%', '@',
    Char.ofNat 0x60].contains character

def startsPlain : Bool :=
  let first := lookAt lexer.rest 0
  let second := lookAt lexer.rest 1
  (!isSpace first && !isIndicator first) || (first = '-' && !isBlank second) ||
    (!lexer.inFlow && (first = '?' || first = ':') && !isSpace second)

/-! ### The whole text -/

def token : Except SyntaxError Lexer :=
  let first := lookAt lexer.rest 0
  let apart := isSpace (lookAt lexer.rest 1)
  if columnOf lexer.rest = 0 && first = '%' then lexer.directive
  else if startsWithThree '-' lexer.rest then lexer.documentMark .documentStart
  else if startsWithThree '.' lexer.rest then lexer.documentMark .documentEnd
  else if first = '[' then lexer.openFlow .flowSequenceStart
  else if first = '{' then lexer.openFlow .flowMappingStart
  else if first = ']' then lexer.closeFlow .flowSequenceEnd
  else if first = '}' then lexer.closeFlow .flowMappingEnd
  else if first = ',' then lexer.flowEntry
  else if first = '-' && apart then lexer.blockEntry
  else if first = '?' && (lexer.inFlow || apart) then lexer.key
  else if first = ':' && (lexer.inFlow || apart) then lexer.value
  else if first = '*' then lexer.anchor .alias
  else if first = '&' then lexer.anchor .anchor
  else if first = '!' then lexer.tag
  else if first = '|' && !lexer.inFlow then lexer.blockScalar false
  else if first = '>' && !lexer.inFlow then lexer.blockScalar true
  else if first = '\'' then lexer.quotedScalar true
  else if first = '"' then lexer.quotedScalar false
  else if lexer.startsPlain then lexer.plainScalar
  else .error .indicator

def advance : Except SyntaxError Lexer :=
  let (keyAllowed, rest) := skipToToken lexer.inFlow lexer.keyAllowed false lexer.rest
  do
    let next ← { lexer with rest := rest, keyAllowed := keyAllowed }.dropStaleKeys
    return next.closeBlocks next.column

/-- The tokens up to the end of the text. Every token takes at least one character. -/
def run : (bound : Nat) → Lexer → Except SyntaxError (List Token)
  | 0, _ => .error .grammar
  | bound + 1, lexer => do
      let next ← lexer.advance
      if look next.rest = endMark then
        let last ← (next.closeBlocks (-1)).forgetKey
        return last.tokens.reverse
      else
        run bound (← next.token)

end Lexer

def tokens (text : List Char) : Except SyntaxError (List Token) := do
  let rest ← marks text
  (Lexer.start rest).run (rest.length + 1)

end IssueReport.Yaml

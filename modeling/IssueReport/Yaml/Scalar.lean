import IssueReport.Yaml.Token
/-!
The text of scalars. Line breaks inside plain and quoted scalars are folded: one becomes a space,
and of several the first is left out. Block scalars keep their lines or fold them.
-/

namespace IssueReport.Yaml

structure Gap where
  blanks : List Char
  broken : Bool
  firstBreak : List Char
  breaks : List Char

namespace Gap

def empty : Gap := ⟨[], false, [], []⟩

def escaped : Gap := ⟨[], true, [], []⟩

/-- Adds a blank or a line break. Blanks count only before the first line break. -/
def add (gap : Gap) (character : Char) : Gap :=
  if isBlank character then
    if gap.broken then gap else { gap with blanks := gap.blanks ++ [character] }
  else if gap.broken then { gap with breaks := gap.breaks ++ [character] }
  else ⟨[], true, [character], []⟩

def text (gap : Gap) : List Char :=
  if !gap.broken then gap.blanks
  else if gap.firstBreak = ['\n'] then if gap.breaks.isEmpty then [' '] else gap.breaks
  else gap.firstBreak ++ gap.breaks

end Gap

/-! ### Plain scalars -/

structure PlainScalar where
  text : List Char
  brokenOff : Bool
  rest : List Mark

def endsFlowScalar (character : Char) : Bool :=
  [',', '[', ']', '{', '}'].contains character

def isFlowMark (character : Char) : Bool :=
  [',', '?', '[', ']', '{', '}'].contains character

/-- Reads a plain scalar after a part of it and a gap, if there is one. Outside flow collections its
lines have to be indented. -/
def readPlain (inFlow : Bool) (indent : Int) (text : List Char) (gap : Option Gap) :
    List Mark → Except SyntaxError PlainScalar
  | [] => .ok ⟨text, false, []⟩
  | mark :: rest =>
      let here := mark :: rest
      let character := mark.character
      let outdented := !inFlow && (mark.column : Int) < indent
      let finished : PlainScalar := ⟨text, (gap.map (·.broken)).getD false, here⟩
      if isBlank character || isBreak character then
        let current := gap.getD Gap.empty
        if character = '\t' && current.broken && (mark.column : Int) < indent then
          .error .indentation
        else readPlain inFlow indent text (some (current.add character)) rest
      else if character = endMark then .ok finished
      else if gap.isSome && (outdented || atDocumentMark here || character = '#') then .ok finished
      else if inFlow && character = ':' && isFlowMark (look rest) then .error .indicator
      else if (character = ':' && isSpace (look rest)) || (inFlow && endsFlowScalar character) then
        .ok finished
      else
        readPlain inFlow indent (text ++ (gap.getD Gap.empty).text ++ [character]) none rest

/-! ### Quoted scalars -/

inductive Escape where
  | denotes (character : Char)
  | digits (count : Nat)
  | lineBreak

def escape? : Char → Option Escape
  | '0' => some (.denotes '\x00')
  | 'a' => some (.denotes '\x07')
  | 'b' => some (.denotes '\x08')
  | 't' => some (.denotes '\t')
  | '\t' => some (.denotes '\t')
  | 'n' => some (.denotes '\n')
  | 'v' => some (.denotes '\x0B')
  | 'f' => some (.denotes '\x0C')
  | 'r' => some (.denotes '\r')
  | 'e' => some (.denotes '\x1B')
  | ' ' => some (.denotes ' ')
  | '"' => some (.denotes '"')
  | '/' => some (.denotes '/')
  | '\\' => some (.denotes '\\')
  | 'N' => some (.denotes '\u0085')
  | '_' => some (.denotes '\u00A0')
  | 'L' => some (.denotes '\u2028')
  | 'P' => some (.denotes '\u2029')
  | 'x' => some (.digits 2)
  | 'u' => some (.digits 4)
  | 'U' => some (.digits 8)
  | character => if isBreak character then some .lineBreak else none

def hexValue? (character : Char) : Option Nat :=
  if character.isDigit then some (character.toNat - 0x30)
  else if 'a' ≤ character && character ≤ 'f' then some (character.toNat - 0x57)
  else if 'A' ≤ character && character ≤ 'F' then some (character.toNat - 0x37)
  else none

def character? (code : Nat) : Option Char :=
  if (0xD800 ≤ code && code ≤ 0xDFFF) || 0x10FFFF < code then none else some (Char.ofNat code)

inductive QuotedPlace where
  | text
  | gap (gap : Gap)
  | secondQuote
  | escape
  | digits (missing value : Nat)

def readQuoted (single : Bool) (place : QuotedPlace) (text : List Char) :
    List Mark → Except SyntaxError (List Char × List Mark)
  | [] => .error .quoted
  | mark :: rest =>
      let here := mark :: rest
      let character := mark.character
      let quote := if single then '\'' else '"'
      if character = endMark then .error .quoted
      else
        match place with
        | .secondQuote => readQuoted single .text (text ++ [quote]) rest
        | .escape =>
            match escape? character with
            | some (.denotes denoted) => readQuoted single .text (text ++ [denoted]) rest
            | some (.digits count) => readQuoted single (.digits count 0) text rest
            | some .lineBreak => readQuoted single (.gap Gap.escaped) text rest
            | none => .error .quoted
        | .digits missing value =>
            match hexValue? character with
            | none => .error .quoted
            | some digit =>
                let next := value * 16 + digit
                if 1 < missing then readQuoted single (.digits (missing - 1) next) text rest
                else
                  match character? next with
                  | some denoted => readQuoted single .text (text ++ [denoted]) rest
                  | none => .error .quoted
        | .text =>
            if isBlank character || isBreak character then
              readQuoted single (.gap (Gap.empty.add character)) text rest
            else step quote single text character rest
        | .gap gap =>
            if isBlank character || isBreak character then
              readQuoted single (.gap (gap.add character)) text rest
            else if atDocumentMark here then .error .quoted
            else step quote single (text ++ gap.text) character rest
where
  /-- Reads a character that is neither a blank nor a line break. -/
  step (quote : Char) (single : Bool) (text : List Char) (character : Char) (rest : List Mark) :
      Except SyntaxError (List Char × List Mark) :=
    if character = quote then
      if single && look rest = quote then readQuoted single .secondQuote text rest
      else .ok (text, rest)
    else if !single && character = '\\' then readQuoted single .escape text rest
    else readQuoted single .text (text ++ [character]) rest

/-! ### Block scalars -/

inductive Chomping where
  | strip
  | clip
  | keep
  deriving DecidableEq

structure BlockHeader where
  folded : Bool
  chomping : Chomping
  increment : Nat

def chomping? (character : Char) : Option Chomping :=
  if character = '+' then some .keep
  else if character = '-' then some .strip
  else none

def readIncrement (rest : List Mark) : Except SyntaxError (Nat × List Mark) :=
  let character := look rest
  if character = '0' then .error .blockHeader
  else if character.isDigit then .ok (character.toNat - 0x30, rest.drop 1)
  else .ok (0, rest)

def readHeader (folded : Bool) (rest : List Mark) : Except SyntaxError (BlockHeader × List Mark) := do
  let (header, after) ←
    match chomping? (look rest) with
    | some chomping => do
        let (increment, after) ← readIncrement (rest.drop 1)
        pure (⟨folded, chomping, increment⟩, after)
    | none => do
        let (increment, after) ← readIncrement rest
        match if increment = 0 then none else chomping? (look after) with
        | some chomping => pure (⟨folded, chomping, increment⟩, after.drop 1)
        | none => pure (⟨folded, .clip, increment⟩, after)
  match dropLine? after with
  | some next => .ok (header, next)
  | none => .error .blockHeader

/-- Where in a block scalar the reader stands. The indentation is not known before the first line,
unless the header gives it. -/
structure BlockState where
  text : List Char
  firstBreak : List Char
  breaks : List Char
  afterBlank : Bool
  indent : Option Nat
  widest : Nat
  inLine : Bool

def BlockState.settled (state : BlockState) (outer : Int) (column : Nat) : Nat :=
  match state.indent with
  | some indent => indent
  | none => max (max state.widest column) (max (outer + 1).toNat 1)

def BlockState.joined (state : BlockState) (folded : Bool) (next : Char) : List Char :=
  if folded && state.firstBreak = ['\n'] && !state.afterBlank && !isBlank next then
    state.text ++ (if state.breaks.isEmpty then [' '] else state.breaks)
  else state.text ++ state.firstBreak ++ state.breaks

def BlockState.finish (state : BlockState) : Chomping → List Char
  | .strip => state.text
  | .clip => state.text ++ state.firstBreak
  | .keep => state.text ++ state.firstBreak ++ state.breaks

def readBlock (header : BlockHeader) (outer : Int) (state : BlockState) :
    List Mark → Except SyntaxError (List Char × List Mark)
  | [] => .ok (state.finish header.chomping, [])
  | mark :: rest =>
      let character := mark.character
      if state.inLine then
        if isBreak character then
          readBlock header outer
            { state with firstBreak := [character], breaks := [], inLine := false } rest
        else if character = endMark then
          .ok ({ state with firstBreak := [], breaks := [] }.finish header.chomping, mark :: rest)
        else readBlock header outer { state with text := state.text ++ [character] } rest
      else
        let undecided := (state.indent.map fun indent => decide (mark.column < indent)).getD true
        if undecided && character = ' ' then readBlock header outer state rest
        else if undecided && character = '\t' then .error .indentation
        else if isBreak character then
          readBlock header outer
            { state with
              breaks := state.breaks ++ [character], widest := max state.widest mark.column } rest
        else
          let indent := state.settled outer mark.column
          if mark.column = indent && character ≠ endMark then
            readBlock header outer
              { text := state.joined header.folded character ++ [character]
                firstBreak := []
                breaks := []
                afterBlank := isBlank character
                indent := some indent
                widest := state.widest
                inLine := true } rest
          else .ok (state.finish header.chomping, mark :: rest)

def readBlockScalar (folded : Bool) (outer : Int) (rest : List Mark) :
    Except SyntaxError (List Char × List Mark) := do
  let (header, body) ← readHeader folded rest
  let indent := if header.increment = 0 then none else some ((max outer 0).toNat + header.increment)
  readBlock header outer ⟨[], [], [], false, indent, 0, false⟩ body

end IssueReport.Yaml

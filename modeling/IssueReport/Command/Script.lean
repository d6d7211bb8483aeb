/-!
Scripts of commands. A script is a list of commands, each of which runs always, after a success or
after a failure. The words of a command are quoted or expanded, its output may be sent to another
stream or a file, and its input may be taken from a file.
-/

namespace IssueReport.Command

/-- A part of a word. Expansions that are not quoted are split at blanks. -/
inductive Piece where
  | text (characters : List Char)
  | parameter (name : List Char) (quoted : Bool)
  | output (script : List Char) (quoted : Bool)
  deriving DecidableEq

abbrev Word := List Piece

inductive Condition where
  | always
  | onSuccess
  | onFailure
  deriving DecidableEq

inductive Stream where
  | output
  | complaints
  deriving DecidableEq

inductive Redirection where
  | copy (stream source : Stream)
  | write (stream : Stream) (path : Word) (appending : Bool)
  | read (path : Word)
  deriving DecidableEq

structure Step where
  condition : Condition
  words : List Word
  redirections : List Redirection

inductive ScriptError where
  | unterminated
  | unexpected (mark : List Char)
  | ended
  deriving DecidableEq

def ScriptError.message : ScriptError → String
  | .unterminated => "Syntax error: Unterminated quoted string"
  | .unexpected mark => "Syntax error: \"" ++ String.ofList mark ++ "\" unexpected"
  | .ended => "Syntax error: end of file unexpected"

namespace Script

/-! ### Marks and words -/

inductive Token where
  | word (pieces : Word)
  | mark (characters : List Char)
  deriving DecidableEq

/-- Where in a script the reader stands. `expansion` follows a dollar sign; the others gather the
name of a parameter, a name in braces, or a script in parentheses with the number of those that are
open. -/
inductive Place where
  | plain
  | single
  | double
  | escape (quoted : Bool)
  | expansion (quoted : Bool)
  | name (gathered : List Char) (quoted : Bool)
  | braced (gathered : List Char) (quoted : Bool)
  | nested (depth : Nat) (gathered : List Char) (quoted : Bool)
  | mark (characters : List Char)
  | comment

/-- The reader: its place, the word it is in, if any, and the tokens before it, last ones first. -/
structure State where
  place : Place
  word : Option Word
  tokens : List Token

namespace State

def push (state : State) (piece : Piece) (place : Place) : State :=
  { state with place := place, word := some (state.word.getD [] ++ [piece]) }

def pushCharacter (state : State) (character : Char) (place : Place) : State :=
  state.push (.text [character]) place

def endWord (state : State) : State :=
  match state.word with
  | some pieces => { state with word := none, tokens := .word pieces :: state.tokens }
  | none => state

/-- Starts or continues a word, so that an empty one is not lost. -/
def openWord (state : State) (place : Place) : State :=
  { state with place := place, word := some (state.word.getD []) }

def pushMark (state : State) (characters : List Char) : State :=
  { state.endWord with place := .plain, tokens := .mark characters :: state.endWord.tokens }

end State

def outside (quoted : Bool) : Place :=
  if quoted then .double else .plain

def stepPlain (state : State) (character : Char) : State :=
  match character with
  | ' ' => { state.endWord with place := .plain }
  | '\t' => { state.endWord with place := .plain }
  | '\n' => state.pushMark [';']
  | ';' => { state.endWord with place := .mark [';'] }
  | '&' => { state.endWord with place := .mark ['&'] }
  | '|' => { state.endWord with place := .mark ['|'] }
  | '>' =>
      if state.word = some [.text ['2']] then
        { state with place := .mark ['2', '>'], word := none }
      else if state.word = some [.text ['1']] then
        { state with place := .mark ['1', '>'], word := none }
      else { state.endWord with place := .mark ['1', '>'] }
  | '<' => state.pushMark ['<']
  | '(' => state.pushMark ['(']
  | ')' => state.pushMark [')']
  | '\'' => state.openWord .single
  | '"' => state.openWord .double
  | '\\' => state.openWord (.escape false)
  | '$' => state.openWord (.expansion false)
  | '#' =>
      if state.word.isNone then { state with place := .comment }
      else state.pushCharacter character .plain
  | _ => state.pushCharacter character .plain

def stepDouble (state : State) (character : Char) : State :=
  match character with
  | '"' => { state with place := .plain }
  | '\\' => { state with place := .escape true }
  | '$' => { state with place := .expansion true }
  | _ => state.pushCharacter character .double

def stepOutside (state : State) (quoted : Bool) (character : Char) : State :=
  if quoted then stepDouble state character else stepPlain state character

def startsName (character : Char) : Bool :=
  character.isAlpha || character = '_'

def isSpecial (character : Char) : Bool :=
  character.isDigit || ['#', '*', '@', '$', '?'].contains character

/-- Characters that a backslash makes plain between double quotes. -/
def isEscapable (character : Char) : Bool :=
  ['$', '"', '\\'].contains character || character = Char.ofNat 0x60

def step (state : State) (character : Char) : State :=
  match state.place with
  | .plain => stepPlain state character
  | .double => stepDouble state character
  | .single =>
      if character = '\'' then { state with place := .plain }
      else state.pushCharacter character .single
  | .escape quoted =>
      if quoted && !isEscapable character then
        (state.pushCharacter '\\' .double).pushCharacter character .double
      else state.pushCharacter character (outside quoted)
  | .expansion quoted =>
      if startsName character then { state with place := .name [character] quoted }
      else if isSpecial character then
        state.push (.parameter [character] quoted) (outside quoted)
      else if character = '{' then { state with place := .braced [] quoted }
      else if character = '(' then { state with place := .nested 0 [] quoted }
      else stepOutside (state.pushCharacter '$' (outside quoted)) quoted character
  | .name gathered quoted =>
      if startsName character || character.isDigit then
        { state with place := .name (gathered ++ [character]) quoted }
      else
        stepOutside (state.push (.parameter gathered quoted) (outside quoted)) quoted character
  | .braced gathered quoted =>
      if character = '}' then state.push (.parameter gathered quoted) (outside quoted)
      else { state with place := .braced (gathered ++ [character]) quoted }
  | .nested depth gathered quoted =>
      if character = '(' then { state with place := .nested (depth + 1) (gathered ++ ['(']) quoted }
      else if character = ')' then
        match depth with
        | 0 => state.push (.output gathered quoted) (outside quoted)
        | depth + 1 => { state with place := .nested depth (gathered ++ [')']) quoted }
      else { state with place := .nested depth (gathered ++ [character]) quoted }
  | .mark characters =>
      match characters, character with
      | ['&'], '&' => state.pushMark ['&', '&']
      | ['|'], '|' => state.pushMark ['|', '|']
      | [';'], ';' => state.pushMark [';', ';']
      | [stream, '>'], '&' => state.pushMark [stream, '>', '&']
      | [stream, '>'], '>' => state.pushMark [stream, '>', '>']
      | _, _ => stepPlain (state.pushMark characters) character
  | .comment => if character = '\n' then stepPlain state character else state

def finish (state : State) : Except ScriptError (List Token) :=
  match state.place with
  | .plain => .ok state.endWord.tokens.reverse
  | .escape false => .ok (state.pushCharacter '\\' .plain).endWord.tokens.reverse
  | .expansion false => .ok (state.pushCharacter '$' .plain).endWord.tokens.reverse
  | .name gathered false =>
      .ok (state.push (.parameter gathered false) .plain).endWord.tokens.reverse
  | .mark characters => .ok (state.pushMark characters).tokens.reverse
  | .comment => .ok state.tokens.reverse
  | _ => .error .unterminated

def tokens (script : List Char) : Except ScriptError (List Token) :=
  finish (script.foldl step ⟨.plain, none, []⟩)

/-! ### Commands -/

inductive OpenRedirection where
  | copy (stream : Stream)
  | write (stream : Stream) (appending : Bool)
  | read
  deriving DecidableEq

def streamNamed? (word : Word) : Option Stream :=
  if word = [.text ['1']] then some .output
  else if word = [.text ['2']] then some .complaints
  else none

def OpenRedirection.complete? (redirection : OpenRedirection) (word : Word) : Option Redirection :=
  match redirection with
  | .copy stream => (streamNamed? word).map (Redirection.copy stream)
  | .write stream appending => some (.write stream word appending)
  | .read => some (.read word)

/-- The reader of commands: when the next one runs, its words and redirections so far, and the
commands before it, last ones first. -/
structure Draft where
  condition : Condition
  words : List Word
  redirections : List Redirection
  redirecting : Option OpenRedirection
  steps : List Step

namespace Draft

/-- Ends a command. Only where a script may have a blank line may there be nothing in it. -/
def endStep (draft : Draft) (next : Condition) (fault : ScriptError) :
    Except ScriptError Draft :=
  if draft.redirecting.isSome then .error fault
  else if draft.words.isEmpty && draft.redirections.isEmpty then
    if draft.condition = .always && next = .always then .ok { draft with condition := next }
    else .error fault
  else
    .ok ⟨next, [], [], none,
      ⟨draft.condition, draft.words, draft.redirections⟩ :: draft.steps⟩

def redirect (draft : Draft) (redirection : OpenRedirection) (mark : List Char) :
    Except ScriptError Draft :=
  if draft.redirecting.isSome then .error (.unexpected mark)
  else .ok { draft with redirecting := some redirection }

def add (draft : Draft) : Token → Except ScriptError Draft
  | .word word =>
      match draft.redirecting with
      | none => .ok { draft with words := draft.words ++ [word] }
      | some redirection =>
          match redirection.complete? word with
          | some complete =>
              .ok { draft with
                redirections := draft.redirections ++ [complete], redirecting := none }
          | none => .error (.unexpected ['&'])
  | .mark mark =>
      match mark with
      | [';'] => draft.endStep .always (.unexpected mark)
      | ['&', '&'] => draft.endStep .onSuccess (.unexpected mark)
      | ['|', '|'] => draft.endStep .onFailure (.unexpected mark)
      | ['1', '>'] => draft.redirect (.write .output false) mark
      | ['2', '>'] => draft.redirect (.write .complaints false) mark
      | ['1', '>', '>'] => draft.redirect (.write .output true) mark
      | ['2', '>', '>'] => draft.redirect (.write .complaints true) mark
      | ['1', '>', '&'] => draft.redirect (.copy .output) mark
      | ['2', '>', '&'] => draft.redirect (.copy .complaints) mark
      | ['<'] => draft.redirect .read mark
      | _ => .error (.unexpected mark)

end Draft

def parse (script : List Char) : Except ScriptError (List Step) := do
  let found ← tokens script
  let draft ← found.foldlM Draft.add ⟨.always, [], [], none, []⟩
  let finished ← draft.endStep .always .ended
  return finished.steps.reverse

end Script

end IssueReport.Command

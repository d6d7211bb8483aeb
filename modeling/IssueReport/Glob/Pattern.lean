/-!
Patterns for paths. A question mark stands for one byte and a star for any bytes, slashes included;
two stars as a whole component stand for any directories; braces hold alternatives, brackets a class
of characters, and a backslash takes the meaning from the next character.
-/

namespace IssueReport

structure CharRange where
  first : Char
  last : Char
  deriving DecidableEq

/-- A part of a pattern. Two stars mean different things at the start, at the end and between other
parts. -/
inductive GlobToken where
  | literal (character : Char)
  | any
  | star
  | anywhere
  | within
  | between
  | oneOf (negated : Bool) (ranges : List CharRange)
  | choice (branches : List (List GlobToken))

inductive GlobFault where
  | unclosedClass
  | invalidRange (first last : Char)
  | unopenedAlternates
  | unclosedAlternates
  | danglingEscape
  deriving DecidableEq

def GlobFault.message : GlobFault → String
  | .unclosedClass => "unclosed character class; missing ']'"
  | .invalidRange first last =>
      "invalid range; '" ++ first.toString ++ "' > '" ++ last.toString ++ "'"
  | .unopenedAlternates =>
      "unopened alternate group; missing '\x7b' (maybe escape '\x7d' with '[\x7d]'?)"
  | .unclosedAlternates =>
      "unclosed alternate group; missing '\x7d' (maybe escape '\x7b' with '[\x7b]'?)"
  | .danglingEscape => "dangling '\\'"

namespace GlobToken

/-- A group that has been opened: the parts before it and its finished branches, last ones first. -/
structure Group where
  before : List GlobToken
  branches : List (List GlobToken)

/-- What has been read of a pattern: the parts of the current branch, last ones first, and the
groups that are open around it. -/
structure Draft where
  current : List GlobToken
  groups : List Group

namespace Draft

def push (draft : Draft) (token : GlobToken) : Draft :=
  { draft with current := token :: draft.current }

def pushStars (draft : Draft) : Draft :=
  (draft.push .star).push .star

def openGroup (draft : Draft) : Draft where
  current := []
  groups := ⟨draft.current, []⟩ :: draft.groups

def closeGroup? (draft : Draft) : Option Draft :=
  match draft.groups with
  | [] => none
  | group :: groups =>
      let branches := (draft.current.reverse :: group.branches).reverse
      some ⟨.choice branches :: group.before, groups⟩

def comma (draft : Draft) : Draft :=
  match draft.groups with
  | [] => draft.push (.literal ',')
  | group :: groups => ⟨[], ⟨group.before, draft.current.reverse :: group.branches⟩ :: groups⟩

/-- Two stars after a slash take the place of the slash; after other stars of that kind they add
nothing at the start and at the end. -/
def replaceSlash (draft : Draft) (atEnd : Bool) : Draft :=
  match draft.current with
  | .anywhere :: _ => draft
  | .within :: _ => draft
  | _ :: before => { draft with current := (if atEnd then .within else .between) :: before }
  | [] => draft

def startsComponent (draft : Draft) (previous : Option Char) : Bool :=
  previous = some '/' ||
    (!draft.groups.isEmpty && (previous = some ',' || previous = some '{'))

end Draft

structure ClassDraft where
  negated : Bool
  ranges : List CharRange
  isFirst : Bool
  inRange : Bool

namespace ClassDraft

def add (draft : ClassDraft) (character : Char) : Except GlobFault ClassDraft :=
  match draft.inRange, draft.ranges with
  | true, range :: ranges =>
      if character < range.first then .error (.invalidRange range.first character)
      else
        .ok { draft with
          ranges := ⟨range.first, character⟩ :: ranges, isFirst := false, inRange := false }
  | _, ranges =>
      .ok { draft with
        ranges := ⟨character, character⟩ :: ranges, isFirst := false, inRange := false }

/-- A hyphen that ends an open range or comes first stands for itself; any other opens a range. -/
def hyphen (draft : ClassDraft) : Except GlobFault ClassDraft :=
  if draft.isFirst || draft.inRange then draft.add '-'
  else .ok { draft with inRange := true }

def finish (draft : ClassDraft) : GlobToken :=
  .oneOf draft.negated
    (if draft.inRange then ⟨'-', '-'⟩ :: draft.ranges else draft.ranges).reverse

end ClassDraft

/-- Where in a pattern the reader stands: between parts, after a backslash, after an opening
bracket, in a class, or after one or two stars that follow a character. -/
inductive Place where
  | plain
  | escape
  | opened
  | inClass (draft : ClassDraft)
  | oneStar (before : Option Char)
  | twoStars (before : Option Char)

structure State where
  place : Place
  previous : Option Char
  draft : Draft

def State.after (character : Char) (draft : Draft) : State :=
  ⟨.plain, some character, draft⟩

/-- What two stars become, given the characters around them, and whether the next one belongs to
them. -/
def placeStars (draft : Draft) (before next : Option Char) : Draft × Bool :=
  let endsComponent := next.isNone || next = some '/'
  let endsBranch := !draft.groups.isEmpty && (next = some ',' || next = some '}')
  if draft.current.isEmpty then
    if endsComponent then (draft.push .anywhere, true) else (draft.pushStars, false)
  else if draft.startsComponent before then
    if next = some '/' then (draft.replaceSlash false, true)
    else if next.isNone || endsBranch then (draft.replaceSlash true, false)
    else (draft.pushStars, false)
  else (draft.pushStars, false)

def stepPlain (state : State) (character : Char) : Except GlobFault State :=
  match character with
  | '?' => .ok (.after character (state.draft.push .any))
  | '*' => .ok ⟨.oneStar state.previous, some character, state.draft⟩
  | '[' => .ok ⟨.opened, some character, state.draft⟩
  | '\\' => .ok ⟨.escape, some character, state.draft⟩
  | '{' => .ok (.after character state.draft.openGroup)
  | ',' => .ok (.after character state.draft.comma)
  | '}' =>
      match state.draft.closeGroup? with
      | some closed => .ok (.after character closed)
      | none => .error .unopenedAlternates
  | _ => .ok (.after character (state.draft.push (.literal character)))

def stepClass (state : State) (group : ClassDraft) (character : Char) : Except GlobFault State :=
  if character = ']' && !group.isFirst then
    .ok (.after character (state.draft.push group.finish))
  else
    match if character = '-' then group.hyphen else group.add character with
    | .error fault => .error fault
    | .ok next => .ok ⟨.inClass next, some character, state.draft⟩

def step (state : State) (character : Char) : Except GlobFault State :=
  match state.place with
  | .plain => stepPlain state character
  | .escape => .ok (.after character (state.draft.push (.literal character)))
  | .opened =>
      if character = '!' || character = '^' then
        .ok ⟨.inClass ⟨true, [], true, false⟩, some character, state.draft⟩
      else stepClass state ⟨false, [], true, false⟩ character
  | .inClass group => stepClass state group character
  | .oneStar before =>
      if character = '*' then .ok ⟨.twoStars before, some character, state.draft⟩
      else stepPlain (.after '*' (state.draft.push .star)) character
  | .twoStars before =>
      match placeStars state.draft before (some character) with
      | (draft, true) => .ok (.after character draft)
      | (draft, false) => stepPlain (.after '*' draft) character

def finishDraft (draft : Draft) : Except GlobFault (List GlobToken) :=
  if draft.groups.isEmpty then .ok draft.current.reverse else .error .unclosedAlternates

def finish (state : State) : Except GlobFault (List GlobToken) :=
  match state.place with
  | .plain => finishDraft state.draft
  | .escape => .error .danglingEscape
  | .opened => .error .unclosedClass
  | .inClass _ => .error .unclosedClass
  | .oneStar _ => finishDraft (state.draft.push .star)
  | .twoStars before => finishDraft (placeStars state.draft before none).1

def parse (pattern : List Char) : Except GlobFault (List GlobToken) :=
  match pattern.foldlM step ⟨.plain, none, ⟨[], []⟩⟩ with
  | .ok state => finish state
  | .error fault => .error fault

end GlobToken

structure Glob where
  pattern : String
  tokens : List GlobToken

structure GlobError where
  pattern : String
  fault : GlobFault
  deriving DecidableEq

def GlobError.message (error : GlobError) : String :=
  "error parsing glob '" ++ error.pattern ++ "': " ++ error.fault.message

def Glob.parse (pattern : String) : Except GlobError Glob :=
  match GlobToken.parse pattern.toList with
  | .ok tokens => .ok ⟨pattern, tokens⟩
  | .error fault => .error ⟨pattern, fault⟩

end IssueReport

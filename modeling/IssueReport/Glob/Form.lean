import IssueReport.Glob.Pattern
/-!
Forms of patterns. A pattern that gives all of a path, or how it starts or ends, is compared with the
path as a text. One that gives the name of a file or its extension looks at the name alone. A pattern
that ends in an extension is tried only on files with that extension. A path whose last component is
two dots has no file name.
-/

namespace IssueReport

/-- What of a path decides whether a pattern matches. -/
inductive GlobForm where
  | textual
  | fileName
  | extension
  | general
  deriving DecidableEq

namespace GlobForm

def literal? : GlobToken → Option Char
  | .literal character => some character
  | _ => none

def literals? (tokens : List GlobToken) : Option (List Char) :=
  tokens.mapM literal?

def isText (tokens : List GlobToken) : Bool :=
  (literals? tokens).any (· ≠ [])

def isLongText (tokens : List GlobToken) : Bool :=
  (literals? tokens).any fun letters => letters ≠ [] && letters ≠ ['/']

def isExtensionCharacter (character : Char) : Bool :=
  character ≠ '.' && character ≠ '/'

def isFileName : List GlobToken → Bool
  | .anywhere :: name => (literals? name).any fun letters => letters ≠ [] && !letters.contains '/'
  | _ => false

def isExtension : List GlobToken → Bool
  | .anywhere :: .star :: .literal '.' :: rest => isRest rest
  | .star :: .literal '.' :: rest => isRest rest
  | _ => false
where
  /-- The parts may follow the dot of an extension. -/
  isRest (tokens : List GlobToken) : Bool :=
    (literals? tokens).any fun letters => letters.all isExtensionCharacter

def isStart (tokens : List GlobToken) : Bool :=
  match tokens.getLast? with
  | some .star => isText tokens.dropLast
  | some .within => (literals? tokens.dropLast).isSome
  | _ => false

def isEnd : List GlobToken → Bool
  | .anywhere :: .star :: rest => isLongText rest
  | .anywhere :: rest => isText rest
  | .star :: rest => isLongText rest
  | _ => false

def endsInExtension (tokens : List GlobToken) : Bool :=
  let atDot := tokens.reverse.dropWhile fun token => (literal? token).any isExtensionCharacter
  atDot.head?.bind literal? = some '.'

def ofTokens (tokens : List GlobToken) : GlobForm :=
  if isFileName tokens || isExtension tokens then .fileName
  else if isText tokens || isStart tokens || isEnd tokens then .textual
  else if endsInExtension tokens then .extension
  else .general

/-- Patterns of the form match only paths that have a file name. -/
def needsFileName : GlobForm → Bool
  | .fileName => true
  | .extension => true
  | _ => false

end GlobForm

end IssueReport

import IssueReport.Glob.Depth
import IssueReport.Glob.Expression
/-!
Sets of patterns. A path is excluded if it matches one of them. Patterns that end in an extension are
prepared one by one, and after them those of no special form together. Where one nests too deeply, the
first kind is told by its expression and the other by its place in its kind.
-/

namespace IssueReport

structure Exclusions where
  globs : List Glob

/-- Why there is no set of some patterns. Places are counted from zero. -/
inductive ExclusionsError where
  | faulty (error : GlobError)
  | deepExpression (expression : String)
  | deepPattern (place : Nat)
  deriving DecidableEq

namespace ExclusionsError

def placeMessage (place : Nat) : String :=
  "error parsing pattern " ++ toString place

def message : ExclusionsError → String
  | .faulty error => error.message
  | .deepExpression expression =>
      "error parsing glob '" ++ expression ++ "': " ++ placeMessage 0
  | .deepPattern place => placeMessage place

end ExclusionsError

namespace Exclusions

def none : Exclusions := ⟨[]⟩

def ofForm (form : GlobForm) (globs : List Glob) : List Glob :=
  globs.filter fun glob => GlobForm.ofTokens glob.tokens = form

def tooDeep? (globs : List Glob) : Option ExclusionsError :=
  match (ofForm .extension globs).find? Glob.isTooDeep with
  | some glob => some (.deepExpression glob.expression)
  | Option.none =>
      ((ofForm .general globs).findIdx? Glob.isTooDeep).map ExclusionsError.deepPattern

def ofGlobs (globs : List Glob) : Except ExclusionsError Exclusions :=
  match tooDeep? globs with
  | some error => .error error
  | Option.none => .ok ⟨globs⟩

def ofPatterns (patterns : List String) : Except ExclusionsError Exclusions :=
  match patterns.mapM Glob.parse with
  | .ok globs => ofGlobs globs
  | .error error => .error (.faulty error)

def excludes (exclusions : Exclusions) (path : String) : Bool :=
  exclusions.globs.any fun glob => glob.matchesPath path

end Exclusions

end IssueReport

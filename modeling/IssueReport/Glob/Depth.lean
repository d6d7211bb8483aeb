import IssueReport.Glob.Match
/-!
How deeply patterns nest. A sequence of several parts, a group, its alternatives, a repetition and a
class each count as a level, and so do the members of a class if there are several. A pattern is run
only if it has at most 250 levels.
-/

namespace IssueReport

namespace Glob

def depthLimit : Nat := 250

/-- The level of a collection, which only counts if it has several members. -/
def levelOf (members : Nat) : Nat :=
  if members ≤ 1 then 0 else 1

def partCount : GlobToken → Nat
  | .literal character => (Text.utf8 character.toString).length
  | .within => 2
  | .choice branches => if areVoid branches then 0 else 1
  | _ => 1

mutual

/-- The levels of a part. Two stars stand for alternatives that are sequences with repetitions. -/
def depthOf : GlobToken → Nat
  | .literal _ => 0
  | .any => 0
  | .star => 1
  | .anywhere => 4
  | .within => 1
  | .between => 4
  | .oneOf _ ranges => 1 + levelOf (ranges.flatMap byteRanges).length
  | .choice branches =>
      let kept := branches.filter fun branch => !isVoidBranch branch
      if kept.isEmpty then 0 else 1 + levelOf kept.length + depthOfBranches branches

def depthOfTokens : List GlobToken → Nat
  | [] => 0
  | token :: tokens => max (depthOf token) (depthOfTokens tokens)

def depthOfBranches : List (List GlobToken) → Nat
  | [] => 0
  | branch :: branches =>
      max (levelOf (branch.map partCount).sum + depthOfTokens branch) (depthOfBranches branches)

end

def depth (glob : Glob) : Nat :=
  1 + depthOfTokens glob.tokens

def isTooDeep (glob : Glob) : Bool :=
  depthLimit < glob.depth

end Glob

end IssueReport

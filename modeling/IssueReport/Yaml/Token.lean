import IssueReport.Yaml.Mark
/-!
The tokens of a YAML text: the marks that are written, and the starts and ends of block collections
that indentation implies.
-/

namespace IssueReport.Yaml

inductive ScalarStyle where
  | plain
  | quoted
  | literal
  | folded
  deriving DecidableEq

structure WrittenTag where
  handle : String
  suffix : String
  deriving DecidableEq

inductive Token where
  | version (major minor : Nat)
  | tagDirective (handle replacement : String)
  | documentStart
  | documentEnd
  | blockSequenceStart
  | blockMappingStart
  | blockEnd
  | flowSequenceStart
  | flowSequenceEnd
  | flowMappingStart
  | flowMappingEnd
  | blockEntry
  | flowEntry
  | key
  | value
  | alias (name : String)
  | anchor (name : String)
  | tag (written : WrittenTag)
  | scalar (style : ScalarStyle) (text : String)
  deriving DecidableEq

end IssueReport.Yaml

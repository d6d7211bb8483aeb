import IssueReport.Config
import IssueReport.Yaml.Node
/-!
Reading configurations from YAML. Scalars are read as text with their own spelling whatever they
look like; unknown keys are passed over with their values, and a known key may be written once. The
number of aliases that are followed is bounded by the size of the document, so that a short document
does not stand for a huge configuration.
-/

namespace IssueReport

inductive ConfigShapeFault where
  | notMapping
  | notList
  | notText
  | notBoolean
  | notNull
  | repetition
  | missingField (name : String)
  | repeatedField (name : String)
  deriving DecidableEq

inductive ConfigReadError where
  | unreadable
  | encoding
  | syntaxError (error : Yaml.SyntaxError)
  | shape (fault : ConfigShapeFault)
  deriving DecidableEq

def ConfigShapeFault.message : ConfigShapeFault → String
  | .notMapping => "expected a mapping"
  | .notList => "expected a sequence"
  | .notText => "expected a string"
  | .notBoolean => "expected a boolean"
  | .notNull => "expected null"
  | .repetition => "repetition limit exceeded"
  | .missingField name => "missing field `" ++ name ++ "`"
  | .repeatedField name => "duplicate field `" ++ name ++ "`"

def ConfigReadError.message : ConfigReadError → String
  | .unreadable => "the file cannot be read"
  | .encoding => "stream did not contain valid UTF-8"
  | .syntaxError _ => "the text is not valid YAML"
  | .shape fault => fault.message

namespace Config

open Yaml (Node Graph)

/-- What is read, with the number of aliases that may still be followed. -/
abbrev Decoded := StateT Nat (Except ConfigShapeFault)

def nullTag : String := "tag:yaml.org,2002:null"

def booleanTag : String := "tag:yaml.org,2002:bool"

def isNullText (text : String) : Bool :=
  ["~", "null", "Null", "NULL"].contains text

def boolean? (text : String) : Option Bool :=
  if ["true", "True", "TRUE"].contains text then some true
  else if ["false", "False", "FALSE"].contains text then some false
  else none

/-! ### Nodes that are no aliases -/

/-- Only a plain scalar can be null, and only if no tag says that it is something else. -/
def isNull : Node → Except ConfigShapeFault Bool
  | .scalar none .plain text => .ok (text = "" || isNullText text)
  | .scalar (some tag) .plain text =>
      if tag ≠ nullTag then .ok false
      else if isNullText text then .ok true
      else .error .notNull
  | _ => .ok false

def textOf : Node → Except ConfigShapeFault String
  | .scalar _ _ text => .ok text
  | _ => .error .notText

/-- A boolean is plain, or a literal scalar with its tag. -/
def booleanOf (node : Node) : Except ConfigShapeFault Bool :=
  let found :=
    match node with
    | .scalar _ .plain text => boolean? text
    | .scalar (some tag) .literal text => if tag = booleanTag then boolean? text else none
    | _ => none
  match found with
  | some value => .ok value
  | none => .error .notBoolean

/-- A list may also be an empty plain scalar. -/
def itemsOf : Node → Except ConfigShapeFault (List Node)
  | .sequence items => .ok items
  | .scalar _ .plain "" => .ok []
  | _ => .error .notList

def entriesOf : Node → Except ConfigShapeFault (List (Node × Node))
  | .mapping entries => .ok entries
  | .scalar _ .plain "" => .ok []
  | _ => .error .notMapping

/-! ### Values -/

variable (graph : Graph)

/-- The node itself, or the one that it is an alias of. -/
def follow (node : Node) : Decoded Node := do
  match node with
  | .alias number =>
      match ← get with
      | 0 => throw .repetition
      | left + 1 =>
          set left
          return (graph.target? number).getD node
  | _ => return node

def decodeText (node : Node) : Decoded String := do
  textOf (← follow graph node)

def decodeBoolean (node : Node) : Decoded Bool := do
  booleanOf (← follow graph node)

def decodeOptional {Value : Type} (decode : Node → Decoded Value) (node : Node) :
    Decoded (Option Value) := do
  let target ← follow graph node
  if ← isNull target then return none else return some (← decode target)

def decodeList {Value : Type} (decode : Node → Decoded Value) (node : Node) :
    Decoded (List Value) := do
  (← itemsOf (← follow graph node)).mapM decode

def decodeEntries (node : Node) : Decoded (List (Node × Node)) := do
  entriesOf (← follow graph node)

def once {Value : Type} (name : String) (field : Option Value) (value : Decoded Value) :
    Decoded (Option Value) :=
  match field with
  | some _ => throw (.repeatedField name)
  | none => some <$> value

def require {Value : Type} (name : String) : Option Value → Decoded Value
  | some value => return value
  | none => throw (.missingField name)

structure PluginDraft where
  name : Option String := none
  command : Option String := none
  arguments : Option (List String) := none

def addPluginField (draft : PluginDraft) (entry : Node × Node) : Decoded PluginDraft := do
  match ← decodeText graph entry.1 with
  | "name" =>
      return { draft with name := ← once "name" draft.name (decodeText graph entry.2) }
  | "command" =>
      return { draft with
        command := ← once "command" draft.command (decodeText graph entry.2) }
  | "args" =>
      return { draft with
        arguments := ← once "args" draft.arguments
          (decodeList graph (decodeText graph) entry.2) }
  | _ => return draft

def decodePlugin (node : Node) : Decoded CommandPlugin := do
  let entries ← decodeEntries graph node
  let draft ← entries.foldlM (addPluginField graph) {}
  return ⟨← require "name" draft.name, ← require "command" draft.command,
    draft.arguments.getD []⟩

structure Draft where
  plugins : Option (List CommandPlugin) := none
  diagnosticCode : Option (Option String) := none
  excludedPaths : Option (List String) := none
  localCheck : Option (Option Bool) := none

def addField (draft : Draft) (entry : Node × Node) : Decoded Draft := do
  match ← decodeText graph entry.1 with
  | "plugins" =>
      return { draft with
        plugins := ← once "plugins" draft.plugins
          (decodeList graph (decodePlugin graph) entry.2) }
  | "diagnostic_code" =>
      return { draft with
        diagnosticCode := ← once "diagnostic_code" draft.diagnosticCode
          (decodeOptional graph (decodeText graph) entry.2) }
  | "excluded_paths" =>
      return { draft with
        excludedPaths := ← once "excluded_paths" draft.excludedPaths
          (decodeList graph (decodeText graph) entry.2) }
  | "local_check" =>
      return { draft with
        localCheck := ← once "local_check" draft.localCheck
          (decodeOptional graph (decodeBoolean graph) entry.2) }
  | _ => return draft

def decodeConfig (node : Node) : Decoded Config := do
  let entries ← decodeEntries graph node
  let draft ← entries.foldlM (addField graph) {}
  return ⟨draft.plugins.getD [], draft.diagnosticCode.getD none, draft.excludedPaths.getD [],
    draft.localCheck.getD none⟩

def decode : Except ConfigShapeFault Config :=
  match graph.root with
  | none => .ok default
  | some node => (decodeConfig graph node).run' graph.aliasLimit

def parse (content : List UInt8) : Except ConfigReadError Config :=
  match Text.decode? content with
  | none => .error .encoding
  | some text =>
      match Graph.parse text with
      | .error error => .error (.syntaxError error)
      | .ok graph =>
          match decode graph with
          | .error fault => .error (.shape fault)
          | .ok config => .ok config

end Config

end IssueReport

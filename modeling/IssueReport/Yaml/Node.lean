import IssueReport.Yaml.Lexer
/-!
The nodes of a YAML document. An alias names an anchored node by its number, so that a document may
refer to a collection from inside it.
-/

namespace IssueReport.Yaml

inductive Node where
  | scalar (tag : Option String) (style : ScalarStyle) (text : String)
  | sequence (items : List Node)
  | mapping (entries : List (Node × Node))
  | alias (number : Nat)

/-- What a document holds: its node, if it has one, and the anchored nodes with their numbers, in the
order in which they start, last ones first. Two anchored nodes may have the same number. -/
structure Graph where
  root : Option Node
  anchored : List (Nat × Node)

def Node.empty : Node := .scalar none .plain ""

namespace Node

/-! ### Reading -/

/-- The reader: the tokens that are left, the replacements of tag handles, the number that each
anchor's name has now, and the anchored nodes that have started, last ones first. A node that is not
finished is empty. -/
structure State where
  tokens : List Token
  handles : List (String × String)
  names : List (String × Nat)
  anchored : List (Nat × Node)

abbrev Reader := StateT State (Except SyntaxError)

def refuse {Result : Type} : Reader Result := throw .grammar

def peek : Reader (Option Token) := do
  return (← get).tokens.head?

def skip : Reader Unit :=
  modify fun state => { state with tokens := state.tokens.drop 1 }

def take (token : Token) : Reader Bool := do
  if (← peek) = some token then
    skip
    return true
  else
    return false

def stopsAt (stops : List Token) : Reader Bool := do
  match ← peek with
  | some token => return stops.contains token
  | none => return false

structure Properties where
  anchor : Option String
  tag : Option WrittenTag

def readAnchor : Reader (Option String) := do
  match ← peek with
  | some (.anchor name) =>
      skip
      return some name
  | _ => return none

def readTag : Reader (Option WrittenTag) := do
  match ← peek with
  | some (.tag written) =>
      skip
      return some written
  | _ => return none

def readProperties : Reader Properties := do
  match ← readAnchor with
  | some anchor => return ⟨some anchor, ← readTag⟩
  | none =>
      let tag ← readTag
      if tag.isSome then return ⟨← readAnchor, tag⟩ else return ⟨none, none⟩

def resolveTag : Option WrittenTag → Reader (Option String)
  | none => return none
  | some written =>
      if written.handle = "" then return some written.suffix
      else do
        match (← get).handles.find? fun entry => entry.1 = written.handle with
        | some (_, replacement) => return some (replacement ++ written.suffix)
        | none => throw .tag

/-- Starts an anchored node. Its number counts the names that there have been before, so that a name
that is taken again shares its number with the next new one. -/
def State.openAnchor (state : State) (name : String) : State :=
  let number := state.names.length
  { state with
    names := (name, number) :: state.names.filter fun entry => entry.1 ≠ name
    anchored := (number, Node.empty) :: state.anchored }

def openAnchor : Option String → Reader (Option Nat)
  | none => return none
  | some name => do
      let place := (← get).anchored.length
      modify fun state => state.openAnchor name
      return some place

def finishAt (place : Nat) (node : Node) (anchored : List (Nat × Node)) : List (Nat × Node) :=
  anchored.modify (anchored.length - 1 - place) fun entry => (entry.1, node)

def closeAnchor (place : Option Nat) (node : Node) : Reader Node := do
  match place with
  | none => return node
  | some place =>
      modify fun state => { state with anchored := finishAt place node state.anchored }
      return node

/-- An alias has the number that its name has now. -/
def readAlias (name : String) : Reader Node := do
  match (← get).names.find? fun entry => entry.1 = name with
  | some (_, number) => return .alias number
  | none => throw .anchor

/-- The context of a node: whether it may be a block collection, and whether it may be a sequence
whose entries are not indented. -/
inductive Context where
  | block
  | blockEntry
  | flow
  deriving DecidableEq

mutual

/-- A node. Where only an anchor or a tag is written, it is empty. -/
def read : (bound : Nat) → Context → Reader Node
  | 0, _ => refuse
  | bound + 1, context => do
      match ← peek with
      | some (.alias name) =>
          skip
          readAlias name
      | _ =>
          let properties ← readProperties
          let tag ← resolveTag properties.tag
          let place ← openAnchor properties.anchor
          match ← peek, context with
          | some .blockEntry, .blockEntry =>
              closeAnchor place (.sequence (← readIndentless bound))
          | some (.scalar style text), _ =>
              skip
              closeAnchor place (.scalar tag style text)
          | some .flowSequenceStart, _ =>
              skip
              closeAnchor place (.sequence (← readFlowSequence bound true))
          | some .flowMappingStart, _ =>
              skip
              closeAnchor place (.mapping (← readFlowMapping bound true))
          | some .blockSequenceStart, .block =>
              skip
              closeAnchor place (.sequence (← readBlockSequence bound))
          | some .blockSequenceStart, .blockEntry =>
              skip
              closeAnchor place (.sequence (← readBlockSequence bound))
          | some .blockMappingStart, .block =>
              skip
              closeAnchor place (.mapping (← readBlockMapping bound))
          | some .blockMappingStart, .blockEntry =>
              skip
              closeAnchor place (.mapping (← readBlockMapping bound))
          | _, _ =>
              if properties.anchor.isSome || properties.tag.isSome then
                closeAnchor place (.scalar tag .plain "")
              else refuse

def readUnless : (bound : Nat) → Context → List Token → Reader Node
  | 0, _, _ => refuse
  | bound + 1, context, stops => do
      if ← stopsAt stops then return Node.empty else read bound context

def readBlockSequence : (bound : Nat) → Reader (List Node)
  | 0 => refuse
  | bound + 1 => do
      if ← take .blockEntry then
        let item ← readUnless bound .block [.blockEntry, .blockEnd]
        return item :: (← readBlockSequence bound)
      else if ← take .blockEnd then return []
      else refuse

def readIndentless : (bound : Nat) → Reader (List Node)
  | 0 => refuse
  | bound + 1 => do
      if ← take .blockEntry then
        let item ← readUnless bound .block [.blockEntry, .key, .value, .blockEnd]
        return item :: (← readIndentless bound)
      else return []

def readBlockMapping : (bound : Nat) → Reader (List (Node × Node))
  | 0 => refuse
  | bound + 1 => do
      if ← take .blockEnd then return []
      else if ← take .key then
        let key ← readUnless bound .blockEntry [.key, .value, .blockEnd]
        let value ← readBlockValue bound
        return (key, value) :: (← readBlockMapping bound)
      else refuse

def readBlockValue : (bound : Nat) → Reader Node
  | 0 => refuse
  | bound + 1 => do
      if ← take .value then readUnless bound .blockEntry [.key, .value, .blockEnd]
      else return Node.empty

def readFlowSequence : (bound : Nat) → (first : Bool) → Reader (List Node)
  | 0, _ => refuse
  | bound + 1, first => do
      if ← take .flowSequenceEnd then return []
      else
        if !first then
          if !(← take .flowEntry) then refuse
        if ← take .flowSequenceEnd then return []
        else if ← take .key then
          let entry ← readFlowPair bound
          return .mapping [entry] :: (← readFlowSequence bound false)
        else
          let item ← read bound .flow
          return item :: (← readFlowSequence bound false)

/-- A key and a value in a flow sequence. Where the key is left out, so is the token after it. -/
def readFlowPair : (bound : Nat) → Reader (Node × Node)
  | 0 => refuse
  | bound + 1 => do
      let absent ← stopsAt [.value, .flowEntry, .flowSequenceEnd]
      let key ←
        if absent then
          skip
          pure Node.empty
        else read bound .flow
      if ← take .value then
        return (key, ← readUnless bound .flow [.flowEntry, .flowSequenceEnd])
      else return (key, Node.empty)

def readFlowMapping : (bound : Nat) → (first : Bool) → Reader (List (Node × Node))
  | 0, _ => refuse
  | bound + 1, first => do
      if ← take .flowMappingEnd then return []
      else
        if !first then
          if !(← take .flowEntry) then refuse
        if ← take .flowMappingEnd then return []
        else if ← take .key then
          let key ← readUnless bound .flow [.value, .flowEntry, .flowMappingEnd]
          let value ← readFlowValue bound
          return (key, value) :: (← readFlowMapping bound false)
        else
          let key ← read bound .flow
          return (key, Node.empty) :: (← readFlowMapping bound false)

def readFlowValue : (bound : Nat) → Reader Node
  | 0 => refuse
  | bound + 1 => do
      if ← take .value then readUnless bound .flow [.flowEntry, .flowMappingEnd]
      else return Node.empty

end

end Node

namespace Graph

open Node (Reader peek skip)

def defaultHandles : List (String × String) :=
  [("!", "!"), ("!!", "tag:yaml.org,2002:")]

/-- Reads directives. There may be one version, which must be known, and one replacement of each
handle. -/
def readDirectives : (bound : Nat) → (versioned : Bool) → (handles : List (String × String)) →
    Reader (List (String × String))
  | 0, _, handles => return handles
  | bound + 1, versioned, handles => do
      match ← peek with
      | some (.version major minor) =>
          if versioned || major ≠ 1 || (minor ≠ 1 && minor ≠ 2) then throw .directive
          skip
          readDirectives bound true handles
      | some (.tagDirective handle replacement) =>
          if handles.any fun entry => entry.1 = handle then throw .directive
          skip
          readDirectives bound versioned (handles ++ [(handle, replacement)])
      | _ => return handles

def isDirective : Token → Bool
  | .version _ _ => true
  | .tagDirective _ _ => true
  | _ => false

def readContent (bound : Nat) : Reader Node := do
  match ← peek with
  | none => return Node.empty
  | some token =>
      if isDirective token || token = .documentStart || token = .documentEnd then
        return Node.empty
      else Node.read bound .block

def dropEnds (tokens : List Token) : List Token :=
  tokens.dropWhile (· = Token.documentEnd)

def readOnly (bound : Nat) : Reader (Option Node) := do
  match ← peek with
  | none => return none
  | some token =>
      let root ←
        if isDirective token || token = .documentStart then do
          let handles ← readDirectives bound false []
          modify fun state => { state with handles := handles ++ defaultHandles }
          if !(← Node.take .documentStart) then throw .documents
          readContent bound
        else Node.read bound .block
      if (dropEnds (← get).tokens).isEmpty then return some root else throw .documents

def parse (text : String) : Except SyntaxError Graph := do
  let found ← Yaml.tokens text.toList
  let (root, state) ← (readOnly (4 * found.length + 4)).run ⟨found, defaultHandles, [], []⟩
  return ⟨root, state.anchored⟩

mutual

/-- The number of things that a node is written with: scalars, aliases, and the starts and ends of
collections. -/
def size : Node → Nat
  | .scalar _ _ _ => 1
  | .alias _ => 1
  | .sequence items => sizeOfItems items + 2
  | .mapping entries => sizeOfEntries entries + 2

def sizeOfItems : List Node → Nat
  | [] => 0
  | item :: items => size item + sizeOfItems items

def sizeOfEntries : List (Node × Node) → Nat
  | [] => 0
  | (key, value) :: entries => size key + size value + sizeOfEntries entries

end

variable (graph : Graph)

/-- The number of aliases that a reader of a document may follow: a hundred for each thing in it. -/
def aliasLimit : Nat :=
  100 * (graph.root.map size).getD 0

/-- The node that aliases with a number stand for: the last one that starts with it, even if it starts
after the alias. -/
def target? (number : Nat) : Option Node :=
  (graph.anchored.find? fun entry => entry.1 = number).map (·.2)

end Graph

end IssueReport.Yaml

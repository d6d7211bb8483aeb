import IssueReport.FileTree.Basic
/-!
Projects: modules and their documents. Modules and documents are identified by their positions.
-/

namespace IssueReport

structure ModuleId where
  index : Nat
  deriving DecidableEq

structure DocumentId where
  module : ModuleId
  index : Nat
  deriving DecidableEq

/-- A source file. Its location is a path under the root of its project and may lead through
links. -/
structure Document where
  id : DocumentId
  name : String
  location : Location
  deriving DecidableEq

structure Module where
  id : ModuleId
  name : String
  documents : List Document
  deriving DecidableEq

inductive ProjectKind where
  | singleFile
  | package
  deriving DecidableEq

structure Project where
  root : Location
  kind : ProjectKind
  modules : List Module
  deriving DecidableEq

/-- The path of a document as seen from a root: relative if it is below the root. -/
inductive SeenPath where
  | relative (names : List String)
  | absolute (location : Location)
  deriving DecidableEq

def SeenPath.text : SeenPath → String
  | .relative names => String.intercalate "/" names
  | .absolute location => location.text

namespace Location

def below? : (root location : Location) → Option (List String)
  | [], location => some location
  | _ :: _, [] => none
  | name :: root, first :: location => if name = first then below? root location else none

theorem below?_eq_some_iff {root location names : Location} :
    below? root location = some names ↔ root ++ names = location := by
  induction root generalizing location with
  | nil => simp [below?, eq_comm]
  | cons name root ih =>
      cases location with
      | nil => simp [below?]
      | cons first location =>
          by_cases same : name = first
          · simp [below?, same, ih]
          · simp [below?, same]

end Location

def Document.path (document : Document) : String :=
  document.location.text

def Module.document? (module : Module) (id : DocumentId) : Option Document :=
  if id.module = module.id then module.documents[id.index]? else none

namespace Project

variable (project : Project)

def module? (id : ModuleId) : Option Module :=
  project.modules[id.index]?

def document? (id : DocumentId) : Option Document :=
  (project.module? id.module).bind fun module => module.document? id

def seenPath (document : Document) : SeenPath :=
  match Location.below? project.root document.location with
  | some names => .relative names
  | none => .absolute document.location

end Project

end IssueReport

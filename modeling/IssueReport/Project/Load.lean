import IssueReport.FileTree.Resolve
import IssueReport.Project.Basic
/-!
Loading projects. A path leads to a source, which is a project of its own, or to the directory of a
package with a manifest. The sources of a package are those directly in its directory and those
directly in the directories of its modules, all in ascending order of their names. Links are
neither modules nor documents, but the directory of all modules may be one. All these directories
must let themselves be listed.
-/

namespace IssueReport

inductive ProjectFault where
  | unsuited (location : Location)
  | unlisted (directory : Location) (error : LookupError)
  deriving DecidableEq

def ProjectFault.message : ProjectFault → String
  | .unsuited location =>
      location.text ++ " is neither a Ballerina source file nor a package directory"
  | .unlisted directory error =>
      "cannot enumerate " ++ directory.text ++ ": IO error for operation on " ++ directory.text ++
        ": " ++ error.message

/-- Why a path is not loaded: it cannot be resolved, it leads to no source and no package, or to a
package one of whose directories cannot be listed. -/
inductive LoadError where
  | unresolved (path : String) (error : LookupError)
  | notProject (fault : ProjectFault)
  deriving DecidableEq

def LoadError.message : LoadError → String
  | .unresolved path error => "cannot resolve project path " ++ path ++ ": " ++ error.message
  | .notProject fault => fault.message

namespace Project

def manifest : String := "Ballerina.toml"

def modulesDirectory : String := "modules"

def lastName (location : Location) : String :=
  location.getLast?.getD ""

def documentsOf (module : ModuleId) (location : Location) (names : List String) : List Document :=
  names.mapIdx fun index name => ⟨⟨module, index⟩, name, location ++ [name]⟩

def ofSource (location : Location) : Project where
  root := location.dropLast
  kind := .singleFile
  modules := [⟨⟨0⟩, Path.stem (lastName location),
    [⟨⟨⟨0⟩, 0⟩, lastName location, location⟩]⟩]

variable (tree : FileTree)

def sourceNames (directory : Location) : List String :=
  (tree.namesIn directory).filter fun name =>
    Path.isSourceName name &&
      match tree.node? (directory ++ [name]) with
      | some (.file _) => true
      | _ => false

def directoryNames (directory : Location) : List String :=
  (tree.namesIn directory).filter fun name =>
    tree.node? (directory ++ [name]) = some .directory

/-- The directory that really holds the modules beside the default one. -/
def modulesHolder? (root : Location) : Option Location :=
  match tree.resolve root modulesDirectory with
  | .ok location => if tree.node? location = some .directory then some location else none
  | .error _ => none

def moduleNames (root : Location) : Location × List String :=
  match modulesHolder? tree root with
  | some holder => (holder, directoryNames tree holder)
  | none => ([], [])

def packageModules (root : Location) : List Module :=
  let default : Module :=
    ⟨⟨0⟩, lastName root, documentsOf ⟨0⟩ root (sourceNames tree root)⟩
  let (holder, names) := moduleNames tree root
  default :: names.mapIdx fun index name =>
    ⟨⟨index + 1⟩, lastName root ++ "." ++ name,
      documentsOf ⟨index + 1⟩ (root ++ [modulesDirectory, name])
        (sourceNames tree (holder ++ [name]))⟩

def ofPackage (root : Location) : Project where
  root := root
  kind := .package
  modules := packageModules tree root

/-- The directories that are listed for a package, in their order: each as it is asked for, and where
it really is. -/
def listings (root : Location) : List (Location × Location) :=
  let modules :=
    match modulesHolder? tree root with
    | some holder =>
        (root ++ [modulesDirectory], holder) :: (directoryNames tree holder).map fun name =>
          (root ++ [modulesDirectory, name], holder ++ [name])
    | none => []
  (root, root) :: modules

def unlisted? (root : Location) : Option ProjectFault :=
  (listings tree root).findSome? fun (path, directory) =>
    (tree.refusal? path directory).map (.unlisted path)

def loadPackage (root : Location) : Except ProjectFault Project :=
  if tree.isFileIn root manifest then
    match unlisted? tree root with
    | some fault => .error fault
    | none => .ok (ofPackage tree root)
  else .error (.unsuited root)

def load (here : Location) (path : String) : Except LoadError Project :=
  match tree.canonicalize here path with
  | .error error => .error (.unresolved path error)
  | .ok location =>
      match tree.nodeAt? location with
      | some (.file _) =>
          if Path.isSourceName (lastName location) then .ok (ofSource location)
          else .error (.notProject (.unsuited location))
      | _ => (loadPackage tree location).mapError .notProject

end Project

end IssueReport

import IssueReport.FileTree.Path
/-!
File trees: directories, files, links and other nodes at locations. The names in a directory are
listed in ascending order, each once, whatever the order in which they were made.
-/

namespace IssueReport

/-- What is at a location. A device is neither a directory nor a regular file. -/
inductive FileTree.Node where
  | directory
  | file (content : List UInt8)
  | link (target : String)
  | device
  deriving DecidableEq

/-- What the nodes are, and which directories the system refuses to list. Every directory may be
entered. -/
structure FileTree where
  entries : List (Location × FileTree.Node)
  sealed : List Location

namespace FileTree

def empty : FileTree := ⟨[], []⟩

/-- The node at a location, links not followed. The root is a directory. -/
def node? (tree : FileTree) (location : Location) : Option Node :=
  if location = [] then some .directory
  else (tree.entries.find? fun entry => entry.1 = location).map (·.2)

def insert (tree : FileTree) (location : Location) (node : Node) : FileTree :=
  { tree with entries := (location, node) :: tree.entries.filter fun entry => entry.1 ≠ location }

def erase (tree : FileTree) (location : Location) : FileTree :=
  { tree with entries := tree.entries.filter fun entry => entry.1 ≠ location }

def nameIn? (directory location : Location) : Option String :=
  if location.dropLast = directory then location.getLast? else none

def insertName (name : String) : List String → List String
  | [] => [name]
  | first :: names =>
      if name < first then name :: first :: names
      else if name = first then first :: names
      else first :: insertName name names

/-- The names in a directory in ascending order. -/
def namesIn (tree : FileTree) (directory : Location) : List String :=
  (tree.entries.filterMap fun entry => nameIn? directory entry.1).foldr insertName []

end FileTree

end IssueReport

import IssueReport.FileTree.Resolve
/-!
Changing a file tree by paths: writing and removing files, making directories and links.
-/

namespace IssueReport.FileTree

def splitLast? (path : String) : Option (List String × String) :=
  match (Path.steps path).reverse with
  | last :: before => some (before.reverse, last)
  | [] => none

def startOf (here : Location) (path : String) : Location :=
  if Path.isAbsolute path then [] else here

/-- The place of the last step of a path, which need not be there. -/
def placeOf? (tree : FileTree) (here : Location) (path : String) : Option Location :=
  match splitLast? path with
  | none => none
  | some (before, last) =>
      match tree.walk linkLimit (startOf here path) before with
      | .error _ => none
      | .ok directory =>
          if tree.node? directory ≠ some .directory || last = "." || last = ".." then none
          else some (directory ++ [last])

/-- Where writing to a path would put the content: links at the last step are followed. -/
def targetOf? (tree : FileTree) : (links : Nat) → Location → String → Option Location
  | 0, _, _ => none
  | links + 1, here, path =>
      match tree.placeOf? here path with
      | none => none
      | some place =>
          match tree.node? place with
          | some (.link target) => targetOf? tree links place.dropLast target
          | _ => some place

def write? (tree : FileTree) (here : Location) (path : String) (content : List UInt8) :
    Option FileTree :=
  match tree.targetOf? linkLimit here path with
  | none => none
  | some place =>
      match tree.node? place with
      | some .directory => none
      | some .device => some tree
      | _ => some (tree.insert place (.file content))

def remove? (tree : FileTree) (here : Location) (path : String) : Option FileTree :=
  match tree.placeOf? here path with
  | none => none
  | some place =>
      match tree.node? place with
      | none => none
      | some .directory => none
      | some _ => some (tree.erase place)

def makeDirectories (tree : FileTree) (place : Location) : List String → FileTree
  | [] => tree
  | step :: steps =>
      match tree.walk linkLimit place [step] with
      | .ok next => makeDirectories tree next steps
      | .error _ =>
          makeDirectories (tree.insert (place ++ [step]) .directory) (place ++ [step]) steps

def makeDirectory (tree : FileTree) (here : Location) (path : String) : FileTree :=
  tree.makeDirectories (startOf here path) (Path.steps path)

def makeParents (tree : FileTree) (here : Location) (path : String) : FileTree :=
  match splitLast? path with
  | some (before, _) => tree.makeDirectories (startOf here path) before
  | none => tree

def link? (tree : FileTree) (here : Location) (path target : String) : Option FileTree :=
  match tree.placeOf? here path with
  | none => none
  | some place =>
      match tree.node? place with
      | none => some (tree.insert place (.link target))
      | some _ => none

end IssueReport.FileTree

import IssueReport.FileTree.Basic
/-!
Following paths through a file tree. Every step but the last must start in a directory; links are
followed wherever they stand, up to a limit. The system takes one step after the other. The search
for the location without links asks for every place on the way by its absolute path, so that these
must not be too long either.
-/

namespace IssueReport

inductive LookupError where
  | notFound
  | notDirectory
  | nameTooLong
  | tooManyLinks
  | denied
  | nulByte
  deriving DecidableEq

def LookupError.message : LookupError → String
  | .notFound => "No such file or directory (os error 2)"
  | .notDirectory => "Not a directory (os error 20)"
  | .nameTooLong => "File name too long (os error 36)"
  | .tooManyLinks => "Too many levels of symbolic links (os error 40)"
  | .denied => "Permission denied (os error 13)"
  | .nulByte => "file name contained an unexpected NUL byte"

namespace FileTree

def linkLimit : Nat := 40

def nameLimit : Nat := 255

/-- The number of bytes in the longest path that can be looked up in one go. -/
def pathLimit : Nat := 4095

/-- How steps are taken: the number of bytes that a name stands for, and whether a place can be asked
for with the steps that are left behind it. -/
structure Lookup where
  size : String → Nat
  asks : Location → List String → Bool

def Lookup.stepwise (reading : Path.Reading) : Lookup := ⟨reading.size, fun _ _ => true⟩

/-- The steps lead on only from a directory, although no name is taken in it at once. -/
def needsDirectory (steps : List String) : Bool :=
  match steps.dropWhile (· = ".") with
  | [] => !steps.isEmpty
  | step :: _ => step = ".."

/-- Places are asked for by their absolute paths, with a slash if they must be directories. -/
def Lookup.absolute : Lookup where
  size := String.utf8ByteSize
  asks place steps :=
    place.text.utf8ByteSize + (if needsDirectory steps then 1 else 0) ≤ pathLimit

variable (tree : FileTree)

/-- Takes steps from a location. `follow` goes on where a link points. -/
def walkWith (lookup : Lookup) (follow : Location → List String → Except LookupError Location) :
    Location → List String → Except LookupError Location
  | place, [] => .ok place
  | place, step :: steps =>
      if tree.node? place ≠ some .directory then .error .notDirectory
      else if step = "." then walkWith lookup follow place steps
      else if step = ".." then walkWith lookup follow place.dropLast steps
      else if nameLimit < lookup.size step || !lookup.asks (place ++ [step]) [] then
        .error .nameTooLong
      else
        match tree.node? (place ++ [step]) with
        | none => .error .notFound
        | some (.link target) =>
            follow (if Path.isAbsolute target then [] else place) (Path.steps target ++ steps)
        | some _ =>
            if lookup.asks (place ++ [step]) steps then
              walkWith lookup follow (place ++ [step]) steps
            else .error .nameTooLong

def walkBy (lookup : Lookup) : (links : Nat) → Location → List String → Except LookupError Location
  | 0 => tree.walkWith lookup fun _ _ => .error .tooManyLinks
  | links + 1 => tree.walkWith lookup (walkBy lookup links)

def walk : (links : Nat) → Location → List String → Except LookupError Location :=
  tree.walkBy (.stepwise .utf8)

/-- The location that a path leads to, itself no link, starting from a directory. -/
def resolveBy (lookup : Lookup) (here : Location) (path : String) : Except LookupError Location :=
  if path.toList.contains '\x00' then .error .nulByte
  else if path = "" then .error .notFound
  else
    tree.walkBy lookup linkLimit (if Path.isAbsolute path then [] else here) (Path.steps path)

def resolve : Location → String → Except LookupError Location :=
  tree.resolveBy (.stepwise .utf8)

def canonicalize : Location → String → Except LookupError Location :=
  tree.resolveBy .absolute

def atBy (reading : Path.Reading) (here : Location) (path : String) : Option Node :=
  if pathLimit < reading.size path then none
  else
    match tree.resolveBy (.stepwise reading) here path with
    | .ok location => tree.node? location
    | .error _ => none

def isFileBy (reading : Path.Reading) (here : Location) (path : String) : Bool :=
  match tree.atBy reading here path with
  | some (.file _) => true
  | _ => false

def at? : Location → String → Option Node := tree.atBy .utf8

def isFile : Location → String → Bool := tree.isFileBy .utf8

def exists? (here : Location) (path : String) : Bool :=
  (tree.at? here path).isSome

/-- The content of a file. A device gives none, and a directory cannot be read. -/
def read? (here : Location) (path : String) : Option (List UInt8) :=
  match tree.at? here path with
  | some (.file content) => some content
  | some .device => some []
  | _ => none

/-! ### Absolute paths -/

/-- The node at a location without links, asked for by its absolute path. -/
def nodeAt? (location : Location) : Option Node :=
  if pathLimit < location.text.utf8ByteSize then none else tree.node? location

def isFileIn (directory : Location) (name : String) : Bool :=
  (Location.text (directory ++ [name])).utf8ByteSize ≤ pathLimit && tree.isFile directory name

/-- Why the names in a directory cannot be listed, if they cannot. It is asked for by an absolute
path, which may lead there over a link. -/
def refusal? (path directory : Location) : Option LookupError :=
  if pathLimit < path.text.utf8ByteSize then some .nameTooLong
  else if directory ∈ tree.sealed then some .denied
  else none

end FileTree

end IssueReport

import IssueReport.Text.Utf8
/-!
Paths. A location names a place from the root of a file tree by the names on the way to it. A path
text is what users and files write: names separated by slashes, relative or not.
-/

namespace IssueReport

/-- The names on the way from the root. -/
abbrev Location := List String

def Location.text (location : Location) : String :=
  match location with
  | [] => "/"
  | _ => String.join (location.map fun name => "/" ++ name)

namespace Path

def pieces : List Char → List (List Char)
  | [] => [[]]
  | character :: rest =>
      if character = '/' then [] :: pieces rest
      else
        match pieces rest with
        | [] => [[character]]
        | piece :: others => (character :: piece) :: others

def ofPieces : List (List Char) → List Char
  | [] => []
  | [piece] => piece
  | piece :: others => piece ++ '/' :: ofPieces others

def isAbsolute (path : String) : Bool :=
  path.toList.head? = some '/'

/-- The steps that a path takes: its names, with a last step on the spot if it ends in a slash. -/
def steps (path : String) : List String :=
  let pieces := pieces path.toList
  ((pieces.filter (· ≠ [])) ++ (if pieces.getLast? = some [] then [['.']] else [])).map
    String.ofList

def isIdle (piece : List Char) : Bool :=
  piece = [] || piece = ['.']

/-- What stands before the names of a path: the slash of an absolute one, or the dot of one that
says that it starts here. -/
def splitStart (path : List Char) : List Char × List Char :=
  match path with
  | '/' :: rest => (['/'], rest)
  | ['.'] => (['.'], [])
  | '.' :: '/' :: rest => (['.'], '/' :: rest)
  | _ => ([], path)

def names (path : String) : List (List Char) :=
  (pieces (splitStart path.toList).2).filter fun piece => !isIdle piece

def lastName? (path : String) : Option (List Char) :=
  match (names path).getLast? with
  | some ['.', '.'] => none
  | found => found

def parent? (path : String) : Option String :=
  let (start, body) := splitStart path.toList
  match (pieces body).reverse.dropWhile isIdle with
  | [] => if start = ['.'] then some "" else none
  | _ :: before => some (String.ofList (start ++ ofPieces (before.dropWhile isIdle).reverse))

def join (directory name : String) : String :=
  if isAbsolute name || directory = "" then name
  else if directory.toList.getLast? = some '/' then directory ++ name
  else directory ++ "/" ++ name

def sameNames (left right : String) : Bool :=
  (splitStart left.toList).1 = (splitStart right.toList).1 && names left = names right

/-! ### Bytes -/

/-- How the texts of paths stand for the bytes of the system: the number of bytes, and the text in
which what is not UTF-8 has been replaced. -/
structure Reading where
  size : String → Nat
  shown : String → String

/-- Every text is its own bytes. -/
def Reading.utf8 : Reading := ⟨String.utf8ByteSize, id⟩

def ofBytes (bytes : List UInt8) : String :=
  String.ofList (bytes.map fun byte => Char.ofNat byte.toNat)

/-- Every character is one byte, so that all names that the system can have are texts. -/
def Reading.bytes : Reading where
  size := String.length
  shown path :=
    ofBytes (Text.utf8 (Text.decodeLossy (path.toList.map fun byte => UInt8.ofNat byte.toNat)))

/-! ### Extensions -/

/-- A name cut at its last point, if there is one after the first character. -/
def splitExtension? (name : List Char) : Option (List Char × List Char) :=
  let extension := name.reverse.takeWhile (· ≠ '.')
  match name.reverse.drop extension.length with
  | _ :: stem@(_ :: _) => some (stem.reverse, extension.reverse)
  | _ => none

def stem (name : String) : String :=
  match splitExtension? name.toList with
  | some (stem, _) => String.ofList stem
  | none => name

def sourceExtension : List Char := ['b', 'a', 'l']

def isSourceName (name : String) : Bool :=
  (splitExtension? name.toList).any fun parts => parts.2 = sourceExtension

def isSource (path : String) : Bool :=
  (lastName? path).any fun name => isSourceName (String.ofList name)

end Path

end IssueReport

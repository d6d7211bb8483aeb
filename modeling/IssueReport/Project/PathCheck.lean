import IssueReport.Project.Load
/-!
Checking the path that a user gives: it must lead to a source or to the directory of a package.
-/

namespace IssueReport

inductive PathError where
  | notFound (path : String)
  | invalidFormat (path : String)
  | invalidPackage (path : String)
  deriving DecidableEq

namespace PathError

def message : PathError → String
  | .notFound _ =>
      "No such file or directory exists!\n Please check the file path and then re-run the command."
  | .invalidFormat _ =>
      "Invalid file format received!\n File format should be of type '.bal'"
  | .invalidPackage path =>
      "ballerina: Invalid Ballerina package directory: " ++ path ++
        ", cannot find 'Ballerina.toml' file."

def path : PathError → String
  | .notFound path => path
  | .invalidFormat path => path
  | .invalidPackage path => path

end PathError

namespace Path

/-- A path without a dot and a slash or backslash at its start. They are looked for in the text that
is shown for the path, and what stands behind them there is the result. -/
def dropHere (reading : Reading) (path : String) : String :=
  match (reading.shown path).toList with
  | '.' :: '/' :: rest => String.ofList rest
  | '.' :: '\\' :: rest => String.ofList rest
  | _ => path

variable (tree : FileTree) (here : Location)

def given (argument : Option String) : String :=
  argument.getD here.text

def checkBy (reading : Reading) (argument : Option String) : Except PathError String :=
  let path := given here argument
  match tree.atBy reading here path with
  | none => .error (.notFound path)
  | some (.file _) =>
      if isSource path then .ok (dropHere reading path) else .error (.invalidFormat path)
  | some _ =>
      if tree.isFileBy reading here (join path Project.manifest) then .ok path
      else .error (.invalidPackage path)

def check : Option String → Except PathError String :=
  checkBy tree here .utf8

end Path

end IssueReport

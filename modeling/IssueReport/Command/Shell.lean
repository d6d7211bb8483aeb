import IssueReport.Command.Program
import IssueReport.Command.Script
import IssueReport.Text.Utf8
/-!
Running scripts. Words are expanded, streams are led to other streams and to files, commands run one
after the other, and a script ends with the status of its last command unless it is ended before.
-/

namespace IssueReport.Command

structure Invocation where
  name : String
  arguments : List String
  surroundings : Surroundings

structure Progress where
  tree : FileTree
  output : List UInt8
  complaints : List UInt8
  status : Nat

def processName : String := "1"

namespace Shell

variable (invocation : Invocation)

/-! ### Expansion -/

/-- What a parameter stands for, as one text or, if it is all arguments, one for each. -/
def parameter (status : Nat) (name : List Char) : List String :=
  match name with
  | ['#'] => [toString invocation.arguments.length]
  | ['$'] => [processName]
  | ['?'] => [toString status]
  | ['0'] => [invocation.name]
  | ['@'] => invocation.arguments
  | ['*'] => [String.intercalate " " invocation.arguments]
  | ['P', 'W', 'D'] => [invocation.surroundings.here.text]
  | _ =>
      match (String.ofList name).toNat? with
      | some position => [invocation.arguments[position - 1]?.getD ""]
      | none =>
          let found := invocation.surroundings.environment.find? fun entry =>
            entry.1 = String.ofList name
          [(found.map (·.2)).getD ""]

/-- Fields that are being made of a word: the finished ones, and the one that is open. -/
structure Fields where
  finished : List String
  current : Option (List Char)

namespace Fields

def append (fields : Fields) (text : List Char) : Fields :=
  { fields with current := some (fields.current.getD [] ++ text) }

def close (fields : Fields) : Fields :=
  match fields.current with
  | some text => ⟨fields.finished ++ [String.ofList text], none⟩
  | none => fields

def appendSplit (fields : Fields) (text : List Char) : Fields :=
  text.foldl (fun fields character =>
    if [' ', '\t', '\n'].contains character then fields.close else fields.append [character])
    fields

/-- Adds texts, each of which after the first starts a field. -/
def appendEach (fields : Fields) (quoted : Bool) : List String → Fields
  | [] => fields
  | text :: texts =>
      let add (fields : Fields) (text : String) :=
        if quoted then fields.append text.toList else fields.appendSplit text.toList
      texts.foldl (fun fields text => add fields.close text) (add fields text)

end Fields

/-- Runs a script inside another: what it writes, and where the run stands after it. -/
abbrev Nested := List Char → Progress → List UInt8 × Progress

def withoutLineEnds (output : List UInt8) : String :=
  Text.decodeLossy (output.reverse.dropWhile (· = 0x0A)).reverse

def expandPiece (nested : Nested) (state : Fields × Progress) (piece : Piece) :
    Fields × Progress :=
  let (fields, progress) := state
  match piece with
  | .text characters => (fields.append characters, progress)
  | .parameter name quoted =>
      (fields.appendEach quoted (parameter invocation progress.status name), progress)
  | .output script quoted =>
      let (written, next) := nested script progress
      (fields.appendEach quoted [withoutLineEnds written], next)

/-- The fields of a word. A quoted word that is empty is a field, too. -/
def expandWord (nested : Nested) (progress : Progress) (word : Word) : List String × Progress :=
  let start : Fields := ⟨[], if word.isEmpty then some [] else none⟩
  let (fields, next) := word.foldl (expandPiece invocation nested) (start, progress)
  (fields.close.finished, next)

def expandWords (nested : Nested) (progress : Progress) : List Word → List String × Progress
  | [] => ([], progress)
  | word :: words =>
      let (fields, next) := expandWord invocation nested progress word
      let (others, last) := expandWords nested next words
      (fields ++ others, last)

/-! ### Commands -/

structure Effect where
  result : Result
  ends : Option Ending

def caller : String := invocation.name ++ ": 1: "

def exit (progress : Progress) (arguments : List String) : Effect :=
  let status :=
    match arguments with
    | [] => some progress.status
    | text :: _ => text.toNat?
  match status with
  | some status =>
      ⟨Program.quiet progress.tree [] (status % 256), some (.exit (status % 256))⟩
  | none =>
      let complaint :=
        Program.line (caller invocation ++ "exit: Illegal number: " ++ arguments.headD "")
      ⟨⟨progress.tree, [], complaint, .exit 2⟩, some (.exit 2)⟩

def kill (tree : FileTree) (arguments : List String) : Effect :=
  let signal :=
    match arguments with
    | [flag, target] =>
        if target = processName && flag.startsWith "-" then
          Program.signalNumber? (flag.drop 1).toString
        else none
    | ["-s", name, target] =>
        if target = processName then Program.signalNumber? name else none
    | [target] => if target = processName then some 15 else none
    | _ => none
  match signal with
  | some 0 => ⟨Program.quiet tree [] 0, none⟩
  | some number => ⟨Program.quiet tree [] 0, some (.signal number)⟩
  | none => ⟨⟨tree, [], Program.line "kill: No such process", .exit 1⟩, none⟩

def run (progress : Progress) (input : List UInt8) (name : String) (arguments : List String) :
    Effect :=
  let tree := progress.tree
  let here := invocation.surroundings.here
  let plain (result : Result) : Effect := ⟨result, none⟩
  match name with
  | ":" => plain (Program.quiet tree [] 0)
  | "true" => plain (Program.quiet tree [] 0)
  | "false" => plain (Program.quiet tree [] 1)
  | "cat" => plain (Program.cat tree here input arguments)
  | "echo" => plain (Program.echo tree arguments)
  | "printf" => plain (Program.printf tree (caller invocation) arguments)
  | "pwd" => plain (Program.quiet tree (Program.line here.text) 0)
  | "rm" => plain (Program.remove tree here arguments)
  | "test" => plain (Program.test tree here arguments)
  | "[" => plain (Program.test tree here arguments.dropLast)
  | "exit" => exit invocation progress arguments
  | "kill" => kill tree arguments
  | _ =>
      plain ⟨tree, [],
        Program.line (caller invocation ++ name ++ ": not found"), .exit 127⟩

/-! ### Streams -/

inductive Destination where
  | stream (stream : Stream)
  | file (path : String)
  deriving DecidableEq

structure Routing where
  output : Destination
  complaints : Destination
  input : List UInt8

namespace Routing

def start : Routing := ⟨.stream .output, .stream .complaints, []⟩

def destination (routing : Routing) : Stream → Destination
  | .output => routing.output
  | .complaints => routing.complaints

def send (routing : Routing) (stream : Stream) (destination : Destination) : Routing :=
  match stream with
  | .output => { routing with output := destination }
  | .complaints => { routing with complaints := destination }

end Routing

/-- Makes a file ready to be written: empty, unless what is written is added to it. -/
def openFile? (tree : FileTree) (here : Location) (path : String) (appending : Bool) :
    Option FileTree :=
  if appending && tree.isFile here path then some tree
  else tree.write? here path []

def appendTo (tree : FileTree) (here : Location) (path : String) (bytes : List UInt8) : FileTree :=
  (tree.write? here path (((tree.read? here path).getD []) ++ bytes)).getD tree

def pathOf (nested : Nested) (progress : Progress) (word : Word) : String × Progress :=
  let (fields, next) := expandWord invocation nested progress word
  (String.intercalate " " fields, next)

def createFault (tree : FileTree) (here : Location) (path : String) : String :=
  if tree.exists? here path then "Is a directory" else "Directory nonexistent"

/-- Prepares the streams of a command. If a file cannot be opened, a complaint is given back. -/
def redirect (nested : Nested) (routing : Routing) (progress : Progress) :
    List Redirection → Except (String × Progress) (Routing × Progress)
  | [] => .ok (routing, progress)
  | .copy stream source :: rest =>
      redirect nested (routing.send stream (routing.destination source)) progress rest
  | .write stream word appending :: rest =>
      let (path, next) := pathOf invocation nested progress word
      match openFile? next.tree invocation.surroundings.here path appending with
      | some tree =>
          redirect nested (routing.send stream (.file path)) { next with tree := tree } rest
      | none =>
          .error ("cannot create " ++ path ++ ": " ++
            createFault next.tree invocation.surroundings.here path, next)
  | .read word :: rest =>
      let (path, next) := pathOf invocation nested progress word
      match next.tree.read? invocation.surroundings.here path with
      | some content => redirect nested { routing with input := content } next rest
      | none => .error ("cannot open " ++ path ++ ": No such file", next)

def deliver (progress : Progress) (destination : Destination) (bytes : List UInt8) : Progress :=
  match destination with
  | .stream .output => { progress with output := progress.output ++ bytes }
  | .stream .complaints => { progress with complaints := progress.complaints ++ bytes }
  | .file path =>
      { progress with
        tree := appendTo progress.tree invocation.surroundings.here path bytes }

def statusOf : Ending → Nat
  | .exit status => status
  | .signal number => 128 + number

def advance (progress : Progress) (routing : Routing) (result : Result) : Progress :=
  let left := { progress with tree := result.tree, status := statusOf result.ending }
  let told := deliver invocation left routing.output result.output
  deliver invocation told routing.complaints result.complaints

def blocked (progress : Progress) (complaint : String) : Progress :=
  { progress with
    complaints := progress.complaints ++ Program.line (caller invocation ++ complaint)
    status := 2 }

def isDue (condition : Condition) (status : Nat) : Bool :=
  match condition with
  | .always => true
  | .onSuccess => status = 0
  | .onFailure => status ≠ 0

def runSteps (nested : Nested) (progress : Progress) : List Step → Progress × Ending
  | [] => (progress, .exit progress.status)
  | step :: steps =>
      if isDue step.condition progress.status then
        let (words, expanded) := expandWords invocation nested progress step.words
        match redirect invocation nested Routing.start expanded step.redirections, words with
        | .error (complaint, next), _ =>
            runSteps nested (blocked invocation next complaint) steps
        | .ok (_, next), [] => runSteps nested next steps
        | .ok (routing, next), name :: arguments =>
            let effect := run invocation next routing.input name arguments
            let after := advance invocation next routing effect.result
            match effect.ends with
            | some ending => (after, ending)
            | none => runSteps nested after steps
      else runSteps nested progress steps

def runScript (nested : Nested) (script : List Char) (progress : Progress) : Progress × Ending :=
  match Script.parse script with
  | .ok steps => runSteps invocation nested progress steps
  | .error error =>
      ({ progress with
          complaints := progress.complaints ++
            Program.line (caller invocation ++ error.message) }, .exit 2)

/-- Runs scripts inside scripts to a depth. What the inner one writes is taken by the outer one. -/
def nestedTo : (depth : Nat) → Nested
  | 0, _, progress => ([], progress)
  | depth + 1, script, progress =>
      let (after, ending) :=
        runScript invocation (nestedTo depth) script { progress with output := [] }
      (after.output, { after with output := progress.output, status := statusOf ending })

end Shell

open Shell in
/-- Runs a script with its name, arguments and surroundings. Scripts inside it are shorter, so its
length bounds their depth. -/
def runShell (invocation : Invocation) (tree : FileTree) (script : String) : Result :=
  let characters := script.toList
  let (after, ending) := runScript invocation (nestedTo invocation characters.length) characters
    ⟨tree, [], [], 0⟩
  ⟨after.tree, after.output, after.complaints, ending⟩

end IssueReport.Command

/-!
The arguments of the command line: a path, the option for a configuration, and flags for help and
the version. Arguments are taken from left to right. An option takes effect when the next one
starts, or at the end.
-/

namespace IssueReport

structure Arguments where
  path : Option String
  config : Option String
  help : Bool
  deriving DecidableEq

inductive UsageError where
  | unknownArgument (argument : String)
  | conflict (option : String)
  | invalidValue (option : String)
  | tooManyValues (option : String)
  deriving DecidableEq

def UsageError.message : UsageError → String
  | .unknownArgument argument => "unexpected argument '" ++ argument ++ "' found"
  | .conflict option => "the argument '" ++ option ++ "' cannot be used multiple times"
  | .invalidValue option => "a value is required for '" ++ option ++ "' but none was supplied"
  | .tooManyValues option => "unexpected value for '" ++ option ++ "' found; no more were expected"

inductive Request where
  | version
  | run (arguments : Arguments)
  deriving DecidableEq

namespace Arguments

def none : Arguments := ⟨.none, .none, false⟩

def pathName : String := "[PATH]"

def configName : String := "--config <CONFIG>"

def helpName : String := "--help"

/-- What has been read but has not taken effect. The value of the option may still be missing. -/
inductive Pending where
  | config (value : Option String)
  | path (value : String)

/-- The reader: what has taken effect, what is pending, whether an option waits for its value,
whether only paths may follow, and whether there has been one. -/
structure State where
  arguments : Arguments
  pending : Option Pending
  awaiting : Bool
  onlyPaths : Bool
  hasPath : Bool

def State.start : State := ⟨Arguments.none, .none, false, false, false⟩

/-- Gives the option its value. It may be given once, and not without text. -/
def setConfig (arguments : Arguments) (value : String) : Except UsageError Arguments :=
  if arguments.config.isSome then .error (.conflict configName)
  else if value = "" then .error (.invalidValue configName)
  else .ok { arguments with config := some value }

def setPath (arguments : Arguments) (value : String) : Except UsageError Arguments :=
  if value = "" then .error (.invalidValue pathName)
  else .ok { arguments with path := some value }

namespace State

def settle (state : State) : Except UsageError State :=
  match state.pending with
  | .none => .ok { state with awaiting := false }
  | some (.config .none) => .error (.invalidValue configName)
  | some (.config (some value)) => do
      return { state with
        arguments := ← setConfig state.arguments value, pending := .none, awaiting := false }
  | some (.path value) => do
      return { state with
        arguments := ← setPath state.arguments value, pending := .none, awaiting := false }

def setHelp (state : State) : Except UsageError State := do
  let settled ← state.settle
  if settled.arguments.help then .error (.conflict helpName)
  else return { settled with arguments := { settled.arguments with help := true } }

def attachConfig (state : State) (value : String) : Except UsageError State := do
  let settled ← state.settle
  return { settled with arguments := ← setConfig settled.arguments value }

def awaitConfig (state : State) : Except UsageError State := do
  let settled ← state.settle
  return { settled with pending := some (.config .none), awaiting := true }

def addPath (state : State) (argument : String) : Except UsageError State :=
  if state.hasPath then .error (.unknownArgument argument)
  else do
    let settled ← state.settle
    return { settled with pending := some (.path argument), hasPath := true }

end State

inductive Effect where
  | next (state : State)
  | version

def takeLong (state : State) (argument : String) (name : List Char) (value : Option String) :
    Except UsageError Effect :=
  match String.ofList name, value with
  | "config", .none => return .next (← state.awaitConfig)
  | "config", some value => return .next (← state.attachConfig value)
  | "help", .none => return .next (← state.setHelp)
  | "help", some _ => .error (.tooManyValues helpName)
  | "version", .none => do
      let _ ← state.settle
      return .version
  | "version", some _ => .error (.tooManyValues "--version")
  | _, _ => .error (.unknownArgument argument)

/-- The letters of short options. What follows the letter of the option is its value. -/
def takeShort (state : State) : List Char → Except UsageError Effect
  | [] => .ok (.next state)
  | 'h' :: letters => do
      let next ← state.setHelp
      takeShort next letters
  | 'V' :: _ => do
      let _ ← state.settle
      return .version
  | ['c'] => return .next (← state.awaitConfig)
  | 'c' :: '=' :: value => return .next (← state.attachConfig (String.ofList value))
  | 'c' :: value => return .next (← state.attachConfig (String.ofList value))
  | letter :: _ => .error (.unknownArgument (String.ofList ['-', letter]))

def takeValue (state : State) (argument : String) : Except UsageError Effect :=
  if state.awaiting && !state.onlyPaths then
    .ok (.next { state with pending := some (.config (some argument)), awaiting := false })
  else return .next (← state.addPath argument)

def take (state : State) (argument : String) : Except UsageError Effect :=
  if state.onlyPaths then takeValue state argument
  else
    match argument.toList with
    | ['-', '-'] => .ok (.next { state with onlyPaths := true })
    | '-' :: '-' :: option =>
        let name := option.takeWhile (· ≠ '=')
        let value :=
          match option.drop name.length with
          | _ :: value => some (String.ofList value)
          | [] => .none
        takeLong state argument name value
    | '-' :: letter :: letters => takeShort state (letter :: letters)
    | _ => takeValue state argument

def takeAll (state : State) : List String → Except UsageError Request
  | [] => do
      let settled ← state.settle
      return .run settled.arguments
  | argument :: rest =>
      match take state argument with
      | .error error => .error error
      | .ok .version => .ok .version
      | .ok (.next next) => takeAll next rest

def parse (arguments : List String) : Except UsageError Request :=
  takeAll State.start arguments

end Arguments

end IssueReport

import IssueReport.CommandLine.Run
/-!
The program: takes a picture of the files that the arguments lead to, runs on it, and writes what
the run leaves.
-/

namespace IssueReport.Program

def locationOf (path : String) : Location :=
  (Path.names path).map String.ofList

def addAbove (tree : FileTree) (location : Location) : FileTree :=
  (List.range location.length).foldl (fun tree length =>
    if (tree.node? (location.take length)).isSome then tree
    else tree.insert (location.take length) .directory) tree

/-- Adds what is at a location, with everything in it, and what its links lead to. -/
partial def picture (tree : FileTree) (location : Location) : IO FileTree := do
  if (tree.node? location).isSome && !location.isEmpty then
    return tree
  let path := (← IO.currentDir) / location.text
  let kind := (← path.symlinkMetadata).type
  let known := addAbove tree location
  match kind with
  | .file => return known.insert location (.file (← IO.FS.readBinFile path).data.toList)
  | .symlink =>
      let target := (← IO.FS.realPath path).toString
      let linked := known.insert location (.link target)
      try
        picture linked (locationOf target)
      catch _ => return linked
  | .dir =>
      let mut next := known.insert location .directory
      for entry in ← path.readDir do
        try
          next ← picture next (location ++ [entry.fileName])
        catch _ => pure ()
      return next
  | .other => return known.insert location .device

def addPath (tree : FileTree) (path : String) : IO FileTree := do
  try
    let found := (← IO.currentDir) / path
    let location := locationOf (← IO.FS.realPath found).toString
    let parent := location.dropLast
    let beside ← (if (← found.isDir) then pure tree else picture tree parent)
    picture beside location
  catch _ => return tree

def fieldText : FieldValue → String
  | .text value => value
  | .count value => toString value

def eventText (event : Event) : String :=
  let reason := ((event.reason?.map fun reason => ": " ++ reason).getD "")
  event.level.name ++ " " ++ event.title ++ reason ++
    String.join (event.fields.map fun field => " " ++ field.1 ++ "=" ++ fieldText field.2)

def removedFiles (before after : FileTree) : List Location :=
  (before.entries.filter fun entry => (after.node? entry.1).isNone).map (·.1)

def writtenFiles (before after : FileTree) : List (Location × List UInt8) :=
  after.entries.filterMap fun (location, node) =>
    match node with
    | .file content =>
        if before.node? location = some node then none else some (location, content)
    | _ => none

def runWith (arguments : Arguments) : IO UInt32 := do
  let here := locationOf (← IO.currentDir).toString
  let given := "." :: (arguments.path.toList ++ arguments.config.toList)
  let tree ← given.foldlM addPath FileTree.empty
  let outcome := CommandLine.run tree here arguments
  for event in outcome.events do
    if event.level = .warn then IO.eprintln (eventText event)
  match outcome.failure with
  | none => pure ()
  | some (.pathRejected _) => pure ()
  | some failure => IO.eprintln ("Error: " ++ failure.message)
  for location in removedFiles tree outcome.tree do
    IO.FS.removeFile location.text
  for (location, content) in writtenFiles tree outcome.tree do
    IO.FS.writeBinFile location.text ⟨content.toArray⟩
  let output ← IO.getStdout
  output.putStr outcome.output
  output.flush
  return outcome.code.toUInt32

end IssueReport.Program

open IssueReport in
def main (arguments : List String) : IO UInt32 := do
  match Arguments.parse arguments with
  | .error error =>
      IO.eprintln ("error: " ++ error.message)
      return CommandLine.errorCode.toUInt32
  | .ok .version =>
      IO.print CommandLine.versionText
      return 0
  | .ok (.run given) => Program.runWith given

/-
The program on a real disk. The directories that a run may look at are captured
as a file tree, the command line is run over it, and the files that differ
afterwards are written back. All decisions are made by the run; this layer only
copies.
-/

import Std.Time.Format
import SwiftSlice.Command.Run
import SwiftSlice.Grammar.Tree

namespace SwiftSlice.Program

open Text

/-! ### Capturing directories -/

/-- The names that lead from the root to an absolute path. -/
def locationOf (text : String) : Location :=
  (Path.parse text).names

/-- The absolute path of a location. -/
def textOf (location : Location) : String :=
  "/" ++ "/".intercalate location

/-- Places a directory and those above it. -/
def placeDirectories (tree : FileTree) (location : Location) : FileTree :=
  (List.range location.length).foldl
    (fun tree depth => tree.put (location.take (depth + 1)) .directory) tree

mutual

/-- Captures what stands at a location whose directory is in the tree already. A link is kept with
the place that it leads to, which is captured as well; what cannot be read is left out. -/
partial def capture (tree : FileTree) (location : Location) : IO FileTree := do
  let place := (← IO.currentDir) / textOf location
  try
    match (← place.symlinkMetadata).type with
    | .dir =>
      let mut filled := tree.put location .directory
      for entry in ← place.readDir do
        filled ← capture filled (location ++ [entry.fileName])
      return filled
    | .file =>
      let content ← IO.FS.readBinFile place
      return tree.put location (.file content.toList)
    | .symlink =>
      let target := locationOf (toString (← IO.FS.realPath place))
      if target = location then return tree
      else captureFrom (tree.put location (.link (textOf target))) target
    | .other => return tree
  catch _ => return tree

/-- Captures what stands at a location, unless the tree holds it already. -/
partial def captureFrom (tree : FileTree) (location : Location) : IO FileTree := do
  if (tree.entry? location).isSome then return tree
  else capture (placeDirectories tree location.dropLast) location

end

/-- The paths that an argument may stand for: the whole of it, or the value behind its sign. -/
def pathsIn (argument : String) : List Path :=
  [Path.parse argument,
    Path.parse (String.ofList ((argument.toList.dropWhile (· != '=')).drop 1))]

/-- The real location of the nearest directory that a path leads through. -/
partial def directoryOf (path : Path) : IO Location := do
  let place := (← IO.currentDir) / path.text
  if ← place.isDir then return locationOf (toString (← IO.FS.realPath place))
  else if path.names.isEmpty then return locationOf (toString (← IO.currentDir))
  else directoryOf path.parent

/-- The disk that a run starts from: the working directory and the directories that the arguments
name, with all that is below them. -/
def captureDisk (arguments : List String) : IO Disk := do
  let directory := locationOf (toString (← IO.currentDir))
  let home := locationOf ((← IO.getEnv "HOME").getD "/")
  let mut disk : Disk := { tree := ← captureFrom ∅ directory, directory, home }
  for path in arguments.flatMap pathsIn do
    if let .ok expanded := disk.expandHome path then
      let location ← directoryOf expanded
      unless location.isEmpty do
        disk := { disk with tree := ← captureFrom disk.tree location }
  return disk

/-! ### Writing back -/

/-- Writes the directories and files that are new or changed. -/
def store (before after : FileTree) : IO Unit := do
  for (location, entry) in after.entries do
    if before.entry? location ≠ some entry then
      match entry with
      | .directory => IO.FS.createDirAll (textOf location)
      | .file content => IO.FS.writeBinFile (textOf location) ⟨content.toArray⟩
      | .link _ => pure ()

/-- How the program is called. -/
def usage : String :=
  "usage: " ++ Command.program ++ " [-h] \x7b" ++
    ",".intercalate (Command.commands.map (·.name)) ++ "\x7d ...\n"

/-- Prints the end of a run and gives its exit code. -/
def finish : Command.Ending → IO UInt32
  | .exit code => return UInt32.ofNat code
  | .stopped .help => do
    (← IO.getStdout).putStr usage
    return 0
  | .stopped (.mistake program mistake) => do
    (← IO.getStderr).putStr (usage ++ program ++ ": error: " ++ mistake.message ++ "\n")
    return 2
  | .failed failure => do
    (← IO.getStderr).putStr (failure.message ++ "\n")
    return 1

end SwiftSlice.Program

open SwiftSlice in
def main (arguments : List String) : IO UInt32 := do
  let now ← Std.Time.PlainDateTime.now
  let disk ← Program.captureDisk arguments
  let report := Command.run { disk with grammar := Grammar.readTree }
    (now.format "uuuu-MM-dd HH:mm:ss,SSS") arguments
  Program.store disk.tree report.disk.tree
  (← IO.getStdout).putStr report.output
  (← IO.getStderr).putStr report.errors
  Program.finish report.ending

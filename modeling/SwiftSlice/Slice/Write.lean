/-
Writing a slice, and checking a slice that was written before. The files of a
slice are written one after the other, and what was written before a failure
stays. A check renders the slice anew and compares it with the files that are
found.
-/

import SwiftSlice.Slice.Basic

namespace SwiftSlice

open Text

/-! ### Writing -/

namespace Disk

/-- Writes files into a directory until one is refused. -/
def writeFiles (disk : Disk) (directory : Path) : List (String × Bytes) → Disk × Except Failure Unit
  | [] => (disk, .ok ())
  | (name, content) :: rest =>
    match disk.write (directory.child name) content with
    | .ok written => written.writeFiles directory rest
    | .error failure => (disk, .error failure)

/-- Writes the files of a slice into a directory, which is made if it is missing. -/
def writeSlice (disk : Disk) (directory : Path) (slice : Slice) : Disk × Except Failure Unit :=
  match disk.makeDirectories directory with
  | (made, .ok ()) => made.writeFiles directory slice.artifacts
  | (made, .error failure) => (made, .error failure)

end Disk

/-- The paths of the files of a slice. -/
def Slice.paths (slice : Slice) (directory : Path) : List Path :=
  slice.artifacts.map fun artifact => directory.child artifact.1

/-- What was written for a slice. -/
structure SliceReport where
  resolvedDeclarations : Int
  totalDeclarations : Int
  contributingFileCount : Nat
  artifacts : List String
deriving DecidableEq, Repr

/-- The report on a slice that was written into a directory. -/
def Slice.report (slice : Slice) (directory : Path) : SliceReport where
  resolvedDeclarations := slice.selection.resolvedDeclarations
  totalDeclarations := slice.selection.totalDeclarations
  contributingFileCount := slice.selection.contributingFiles.length
  artifacts := (slice.paths directory).map Path.text

/-- The messages about a slice that was written. -/
def Slice.announce (slice : Slice) : Logged Unit := do
  Logged.say .info <|
    "Resolver: " ++ toString slice.selection.resolvedDeclarations ++ " declarations from " ++
      toString slice.selection.contributingFiles.length ++ " files"
  Logged.say .debug <|
    "Contributing files: " ++
      ", ".intercalate (slice.selection.contributingFiles.map fun path => (Path.parse path).name)

namespace Workspace

/-- The directory that a slice is written into: the one that is given, or else the one that the
configuration names. -/
def outputDirectory (workspace : Workspace) (root : Path) (config : Config) :
    Option Path → Except Failure Path
  | some directory => .ok directory
  | none => Config.placeOutput workspace.toDisk root config.outputDir

/-- Cuts a slice and tells where it goes. -/
def prepareSlice (workspace : Workspace) (request : SliceRequest) (config : Option Config)
    (outDir : Option Path) : Logged (Slice × Path) := do
  let config ← workspace.configFor request.root config
  let directory ← workspace.outputDirectory request.root config outDir
  let slice ← workspace.buildSlice request config
  return (slice, directory)

/-- Cuts a slice and writes it. -/
def generateSlice (workspace : Workspace) (request : SliceRequest) (config : Option Config)
    (outDir : Option Path) : Disk × Logged SliceReport :=
  let prepared := workspace.prepareSlice request config outDir
  match prepared.outcome with
  | .error failure => (workspace.toDisk, ⟨prepared.log, .error failure⟩)
  | .ok (slice, directory) =>
    let (disk, outcome) := workspace.writeSlice directory slice
    (disk, do
      let _ ← prepared
      let () ← (outcome : Except Failure Unit)
      slice.announce
      return slice.report directory)

/-! ### Checking -/

end Workspace

/-- How the files of a directory differ from those of a slice. -/
structure Difference where
  mismatches : List String
  missing : List String
  extra : List String
deriving DecidableEq, Repr

/-- Holds when nothing differs. -/
def Difference.isNone (difference : Difference) : Bool :=
  difference.missing.isEmpty && difference.extra.isEmpty && difference.mismatches.isEmpty

namespace Workspace

/-- The files below a directory, links to files among them, by the text of what leads to them. -/
def filesBelow (disk : Disk) (directory : Path) : Except Failure NameSet := do
  let relatives := (disk.below directory).map fun item => (⟨.relative, item.1⟩ : Path)
  let files ← relatives.filterM fun relative => disk.isFile (directory ++ relative)
  return NameSet.ofList (files.map Path.text)

/-- Compares the files below a directory with those of a slice. -/
def compareSlice (disk : Disk) (directory : Path) (slice : Slice) :
    Except Failure Difference := do
  let found ← filesBelow disk directory
  let rendered := NameSet.ofList (slice.artifacts.map (·.1))
  return {
    mismatches := rendered.toList.filter fun name =>
      found.contains name &&
        (disk.read (directory.child name)).toOption != slice.artifacts.lookup name
    missing := (found \ rendered).toList
    extra := (rendered \ found).toList }

/-- Renders a slice anew and compares it with a directory of files. -/
def verifySlice (workspace : Workspace) (request : SliceRequest) (config : Option Config)
    (artifactsDir : Path) : Logged Difference := do
  if !(← workspace.pathExists artifactsDir) then
    Logged.fail (.artifactsMissing artifactsDir.text)
  else if !(← workspace.isDirectory artifactsDir) then
    Logged.fail (.artifactsNotDirectory artifactsDir.text)
  else
    let config ← workspace.configFor request.root config
    let slice ← workspace.buildSlice request config
    slice.announce
    compareSlice workspace.toDisk artifactsDir slice

end Workspace

end SwiftSlice

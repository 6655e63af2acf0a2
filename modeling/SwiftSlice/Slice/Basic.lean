/-
A slice is what the build step needs to show a preview: the declarations that the
preview uses and an application around its body. It is rendered completely before
anything is written. The module that a file belongs to and the directory in which
its sources are kept are told from paths.
-/

import SwiftSlice.Artifact.Source
import SwiftSlice.Slice.Sources
import SwiftSlice.Snippet

namespace SwiftSlice

open Text

/-! ### The layout of a project -/

/-- The directories whose subdirectories are modules, in the order in which they are tried. -/
def moduleContainers : List String :=
  ["Modules", "Sources"]

/-- The name that follows the first occurrence of a container. -/
def nameAfter? (container : String) (names : List String) : Option String :=
  (names.dropWhile (· != container))[1]?

/-- The module that owns a file: the directory after the first container on the way to it. Inside
a project only the way from its root counts. -/
def moduleName? (file : Path) (project : Option Path) : Option String :=
  let relative := (project.bind file.relativeTo?).getD file
  moduleContainers.findSome? fun container => nameAfter? container relative.parts.dropLast

/-- The directory right below the project's root on the way to a file, if there is one. -/
def Disk.sourcesDir? (disk : Disk) (file project : Path) : Except Failure (Option Path) := do
  let root ← disk.normalize project
  let place ← disk.normalize file
  match place.relativeTo? root with
  | some ⟨_, first :: _ :: _⟩ =>
    let candidate := root.child first
    return if ← disk.isDirectory candidate then some candidate else none
  | _ => .ok none

/-! ### Slices -/

/-- A rendered slice. -/
structure Slice where
  selection : Selection
  snippetBody : String
  seeds : NameSet
  hostApp : String

namespace Slice

/-- The summary of a slice. -/
def summary (slice : Slice) : Data :=
  slice.selection.summary slice.seeds

/-- The files of a slice, in the order in which they are written. -/
def artifacts (slice : Slice) : List (String × Bytes) :=
  [(Artifact.generatedSource, encode slice.selection.source),
    (Artifact.hostApp, encode slice.hostApp),
    (Artifact.summary, encode (slice.summary.json 0 ++ "\n"))]

end Slice

/-- What a slice is made for. -/
structure SliceRequest where
  startFile : Path
  root : Path
  sourcesDir : Option Path := none
  extraSeeds : List String := []
  moduleName : Option String := none

namespace Workspace

/-- The directory of the sources, found below the root if it is not given. -/
def locateSources (workspace : Workspace) (start : Path) (request : SliceRequest) :
    Logged (Option Path) := do
  match request.sourcesDir with
  | some directory => return some directory
  | none =>
    match ← workspace.sourcesDir? start request.root with
    | some directory =>
      Logged.say .info ("Running declaration resolver on " ++ directory.text)
      return some directory
    | none =>
      Logged.say .info ("No sources directory detected; resolving " ++ start.name ++ " alone")
      return none

/-- The module whose sources are compiled in: the one that is named, or else the one that owns the
file. -/
def appModule (start : Path) (request : SliceRequest) : Option String :=
  match request.moduleName with
  | some "" | none => moduleName? start (some request.root)
  | some name => some name

/-- Cuts the slice of a preview. -/
def buildSlice (workspace : Workspace) (request : SliceRequest) (config : Config) :
    Logged Slice := do
  let start ← workspace.normalize request.startFile
  let snippetBody ← workspace.extractSnippet start
  let seeds := workspace.referencedTypes snippetBody ∪ NameSet.ofList request.extraSeeds
  Logged.say .debug ("Preview references: " ++ ", ".intercalate seeds.toList)
  let sourcesDir ← workspace.locateSources start request
  let selection ← workspace.select start sourcesDir seeds config
  let modules ← workspace.extractImports start
  return {
    selection
    snippetBody
    seeds
    hostApp :=
      SwiftSlice.hostApp snippetBody modules.toList (appModule start request) config.testableModules }

/-- The configuration that is given, or else that of the root. -/
def configFor (workspace : Workspace) (root : Path) : Option Config → Except Failure Config
  | some config => .ok config
  | none => Config.load workspace.toDisk root

end Workspace

end SwiftSlice

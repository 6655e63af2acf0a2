/-
Finding the Swift files of a directory. The scan looks at everything below the
directory without passing through links, and leaves out the output directory,
build products and dependencies, what the ignore files name, and what the
patterns of the configuration leave out.
-/

import SwiftSlice.Discovery.Ignore
import SwiftSlice.FileTree.Resolve

namespace SwiftSlice

open Text

/-- What a scan leaves out. -/
structure ScanRules where
  outputDir : String := ".previewslice"
  includePatterns : List String := []
  excludePatterns : List String := []
  nestedGitignore : Bool := false
  skipBuildDirs : Bool := true

/-- The directories of build products and dependencies. -/
def buildDirectories : List String :=
  [".build", "DerivedData", "Pods", "Carthage"]

/-- The endings of project bundles. -/
def bundleSuffixes : List String :=
  [".xcodeproj", ".xcworkspace"]

def isBuildDirectory (name : String) : Bool :=
  buildDirectories.contains name || bundleSuffixes.any (endsWith name ·)

namespace ScanRules

/-- Whether the rules of a scan other than the ignore files let a relative path in. -/
def admits (rules : ScanRules) (relative : Path) : Bool :=
  let shown := relative.text
  (rules.includePatterns.isEmpty || rules.includePatterns.any (matchesWildcard · shown)) &&
    !rules.excludePatterns.any (matchesWildcard · shown)

/-- Whether a relative path leads into the output directory or a build directory. -/
def skips (rules : ScanRules) (relative : Path) : Bool :=
  (rules.outputDir != "" && relative.names.head? == some rules.outputDir) ||
    (rules.skipBuildDirs && relative.names.dropLast.any isBuildDirectory)

end ScanRules

/-- The ignore files that a scan obeys, or nothing if there is none. One alone, that of the
scanned directory, must have a say on every path. -/
inductive IgnorePolicy
  | none
  | single (file : IgnoreFile)
  | nested (files : List IgnoreFile)

namespace IgnorePolicy

/-- Whether the ignore files take a path out. -/
def ignores (directory : Location) (path : String) : IgnorePolicy → Except Failure Bool
  | .none => .ok false
  | .single file => file.ignores directory path
  | .nested files => IgnoreFile.anyIgnores directory path files

end IgnorePolicy

namespace Disk

/-- Sorts paths below a base by the text of what leads to them from there. -/
def sortBelow (base : Path) (paths : List Path) : List Path :=
  paths.mergeSort fun left right =>
    !(((right.relativeTo? base).getD right).text < ((left.relativeTo? base).getD left).text : Bool)

/-- The ignore files at and below a directory. -/
def ignorePaths (disk : Disk) (directory : Path) : Except Failure (List Path) := do
  let inner := (disk.below directory).filterMap fun item =>
    if item.2 = .directory then some (directory ++ ⟨.relative, item.1⟩) else none
  return sortBelow directory
    (← ((directory :: inner).map (·.child ".gitignore")).filterM disk.isFile)

/-- Reads the ignore files of a scan. -/
def ignorePolicy (disk : Disk) (directory : Path) (nested : Bool) :
    Except Failure IgnorePolicy := do
  if nested then
    match ← disk.ignorePaths directory with
    | [] => return .none
    | paths => return .nested (← paths.mapM (IgnoreFile.load disk))
  else if ← disk.isFile (directory.child ".gitignore") then
    return .single (← IgnoreFile.load disk (directory.child ".gitignore"))
  else return .none

/-- Whether the real location of a path lies inside that of a directory. -/
def staysWithin (disk : Disk) (path directory : Path) : Except Failure Bool := do
  let root ← disk.resolve directory
  let place ← disk.resolve path
  return (place.relativeTo? root).isSome

/-- Whether a scan of a directory takes a path. -/
def includes (disk : Disk) (directory : Path) (rules : ScanRules) (policy : IgnorePolicy)
    (path : Path) : Except Failure Bool := do
  if !(← disk.isFile path) || disk.isLink path then return false
  if !(← disk.staysWithin path directory) then return false
  match path.relativeTo? directory with
  | none => return false
  | some relative =>
    if rules.skips relative then return false
    if ← policy.ignores disk.directory path.text then return false
    return rules.admits relative

/-- The paths below a directory with the ending of Swift files. -/
def swiftPaths (disk : Disk) (directory : Path) : List Path :=
  (disk.below directory).filterMap fun item =>
    if endsWith (item.1.getLastD "") ".swift" then some (directory ++ ⟨.relative, item.1⟩)
    else none

/-- The Swift files of a directory, sorted by what leads to them from there. -/
def swiftFiles (disk : Disk) (directory : Path) (rules : ScanRules) :
    Except Failure (List Path) := do
  if !(← disk.isDirectory directory) then return []
  else
    let policy ← disk.ignorePolicy directory rules.nestedGitignore
    let found ← (disk.swiftPaths directory).filterM (disk.includes directory rules policy)
    return sortBelow directory found

end Disk

end SwiftSlice

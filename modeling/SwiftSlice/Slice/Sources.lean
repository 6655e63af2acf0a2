/-
The sources that a slice is cut from: every Swift file that the scan of a
directory finds, and the start file, which is added at the end if the scan does
not find it. A file that cannot be read is passed over with a warning, unless it
is the start file. Declarations are numbered across the files.
-/

import SwiftSlice.Builtin
import SwiftSlice.Collect
import SwiftSlice.Config
import SwiftSlice.Discovery.SourceFiles
import SwiftSlice.Reference.FileSelection
import SwiftSlice.Reference.Selection

namespace SwiftSlice

/-! ### Scanning -/

/-- The name that the scan leaves out on account of the output directory. -/
def Config.outputName (config : Config) : String :=
  (Path.parse config.outputDir).parts.headD ""

/-- What a scan leaves out under a configuration. -/
def Config.scanRules (config : Config) : ScanRules where
  outputDir := config.outputName
  includePatterns := config.includePatterns
  excludePatterns := config.excludePatterns
  nestedGitignore := config.nestedGitignore

/-- The files that a scan finds; none without a directory. -/
def Disk.candidateFiles (disk : Disk) (sourcesDir : Option Path) (config : Config) :
    Except Failure (List Path) :=
  match sourcesDir with
  | some directory => disk.swiftFiles directory config.scanRules
  | none => .ok []

/-- The number of declarations in some records. -/
def countDeclarations (records : List FileRecord) : Nat :=
  (records.flatMap (·.declarations)).length

namespace Workspace

/-! ### Collecting -/

/-- Collects some files one after the other, numbering their declarations from the given index. -/
def collectFiles (workspace : Workspace) (startIndex : Int) : List Path → Logged (List FileRecord)
  | [] => return []
  | file :: rest => do
    let path ← workspace.normalize file
    match ← workspace.collectFile path startIndex with
    | none =>
      Logged.say .warning ("Could not read: " ++ path.text)
      workspace.collectFiles startIndex rest
    | some record =>
      return record :: (← workspace.collectFiles (startIndex + record.declarations.length) rest)

/-- Collects the files of a directory and the start file. -/
def collectSources (workspace : Workspace) (startFile : Path) (sourcesDir : Option Path)
    (config : Config) : Logged (List FileRecord) := do
  let start ← workspace.normalize startFile
  let files ← workspace.candidateFiles sourcesDir config
  let scanned ← workspace.collectFiles 0 files
  let records ←
    if scanned.any (·.path == start.text) then pure scanned
    else
      match ← workspace.collectFile start (countDeclarations scanned) with
      | some record => pure (scanned ++ [record])
      | none => Logged.fail (.startUnreadable start.text)
  Logged.say .debug <|
    "Collected " ++ toString (countDeclarations records) ++ " declarations from " ++
      toString records.length ++ " files"
  return records

/-! ### Selecting -/

/-- The declarations that a start file and some seed names need. -/
def select (workspace : Workspace) (startFile : Path) (sourcesDir : Option Path) (seeds : NameSet)
    (config : Config) : Logged Selection := do
  let records ← workspace.collectSources startFile sourcesDir config
  let start ← workspace.normalize startFile
  let selection := (ReferenceIndex.ofRecords records).select
    (isBuiltinType config.extraBuiltinTypes) start.text seeds
  Logged.say .debug <|
    "Resolved " ++ toString selection.resolvedDeclarations ++ " of " ++
      toString selection.totalDeclarations ++ " declarations from " ++
      toString selection.contributingFiles.length ++ " files"
  return selection

/-- The files that a start file needs. -/
def selectFiles (workspace : Workspace) (startFile : Path) (sourcesDir : Option Path)
    (config : Config) : Logged FileSelection := do
  let records ← workspace.collectSources startFile sourcesDir config
  let start ← workspace.normalize startFile
  return (FileIndex.ofRecords records).select (isBuiltinType config.extraBuiltinTypes) start.text

end Workspace

end SwiftSlice

/-
Running a command line over a workspace. A run gives the disk that it leaves, what
it printed, and how it ended: with an exit code, with a refused command line, or
with a failure that the command does not report itself. Messages go to the error
output from a level on, and to a log file if one is named.
-/

import SwiftSlice.Command.Specs
import SwiftSlice.Slice.Write

namespace SwiftSlice.Command

open Text

/-! ### Outcomes -/

/-- How a run ended. -/
inductive Ending
  | exit (code : Nat)
  | stopped (stop : Stop)
  | failed (failure : Failure)
deriving DecidableEq, Repr

/-- What a command did: its messages, the disk it leaves, what it printed itself, and its end. -/
structure Effect where
  log : List Message
  disk : Disk
  output : String := ""
  errors : String := ""
  ending : Ending

/-- What a run left behind. -/
structure Report where
  disk : Disk
  output : String
  errors : String
  ending : Ending

/-- The path that a failure is reported under, if the command reports it. -/
def reportedUnder? (file : Path) : Failure → Option String
  | .snippetUnreadable path _ | .noSnippet path | .emptySnippet path => some path
  | .configSyntax _ | .configData _ _ | .emptyOutputDir | .foreignOutputDir
  | .escapingOutputDir _ | .startUnreadable _ => some file.text
  | _ => none

/-- A reported reason. -/
def reason (path text : String) : String :=
  path ++ ": " ++ text ++ "\n"

/-- The end of a command that failed. -/
def failedEffect (disk : Disk) (log : List Message) (file : Path) (failure : Failure) : Effect :=
  match reportedUnder? file failure with
  | some path => { log, disk, errors := reason path failure.message, ending := .exit 1 }
  | none => { log, disk, ending := .failed failure }

/-- The path that an argument stands for; an option without a value stands for none. -/
def pathOf (workspace : Workspace) : Option String → Except Failure Path
  | some argument => workspace.normalize (Path.parse argument)
  | none => .error .noPath

/-- The path of an option, if it was given. -/
def optionalPath (workspace : Workspace) (parsed : Parsed) (name : String) :
    Except Failure (Option Path) :=
  match parsed.value? name with
  | some argument => some <$> pathOf workspace argument
  | none => .ok none

/-- The names that an option was given with. One without a value is an error, but only once the
preview is known to have a body. -/
def seedNames (workspace : Workspace) (parsed : Parsed) (file : Path) :
    Except Failure (List String) := do
  let given := parsed.valuesOf "--seed"
  if given.contains none then
    discard <| workspace.extractSnippet (← workspace.normalize file)
    .error .noName
  else .ok (given.filterMap id)

/-- Names on lines of their own. -/
def nameLines (names : List String) : String :=
  String.join (names.map (· ++ "\n"))

/-! ### Commands -/

/-- Prints the body of a preview, its types, or the imports of the file. -/
def extract (workspace : Workspace) (parsed : Parsed) (file : Path) : Effect :=
  let disk := workspace.toDisk
  if parsed.gave "--imports" then
    let modules := workspace.extractImports file
    match modules.outcome with
    | .ok names =>
      { log := modules.log, disk, output := nameLines names.toList, ending := .exit 0 }
    | .error failure => { log := modules.log, disk, ending := .failed failure }
  else
    match workspace.extractSnippet file with
    | .error failure => failedEffect disk [] file failure
    | .ok body =>
      let output :=
        if parsed.gave "--types" then nameLines (workspace.referencedTypes body).toList
        else body ++ "\n"
      { log := [], disk, output, ending := .exit 0 }

/-- The message about a slice that was written. -/
def writtenMessages (slice : Slice) (directory : Path) : List Message :=
  ⟨.info, "Resolved " ++ toString slice.selection.resolvedDeclarations ++ " of " ++
    toString slice.selection.totalDeclarations ++ " declarations from " ++
    toString slice.selection.contributingFiles.length ++ " files"⟩ ::
  (slice.paths directory).map fun path => ⟨.debug, "Wrote " ++ path.text⟩

/-- Writes the sources that a preview needs, or prints the generated one. -/
def slice (workspace : Workspace) (parsed : Parsed) (root file : Path) : Effect :=
  let disk := workspace.toDisk
  let built : Logged (Config × Slice) := do
    let config ← Config.load disk root
    let sourcesDir ← optionalPath workspace parsed "--sources-dir"
    let extraSeeds ← seedNames workspace parsed file
    let slice ← workspace.buildSlice
      { startFile := file, root, sourcesDir, extraSeeds,
        moduleName := (parsed.value? "--module").join } config
    return (config, slice)
  match built.outcome with
  | .error failure => failedEffect disk built.log file failure
  | .ok (config, slice) =>
    if parsed.gave "--stdout" then
      { log := built.log, disk, output := slice.selection.source, ending := .exit 0 }
    else
      let directory : Except Failure Path := do
        let given ← optionalPath workspace parsed "--out-dir"
        workspace.outputDirectory root config given
      match directory with
      | .error failure => failedEffect disk built.log file failure
      | .ok directory =>
        match disk.writeSlice directory slice with
        | (written, .ok ()) =>
          { log := built.log ++ writtenMessages slice directory, disk := written, ending := .exit 0 }
        | (written, .error (.access errno _)) =>
          { log := built.log, disk := written, errors := reason directory.text errno.reason,
            ending := .exit 1 }
        | (written, .error failure) => { log := built.log, disk := written, ending := .failed failure }

/-- The printed form of a file selection. -/
def fileSelectionData (selection : FileSelection) : Data :=
  .object
    [("resolvedFiles", .list (selection.resolvedFiles.map .string)),
      ("excludedEntryPoints", .list (selection.excludedEntryPoints.map .string)),
      ("stats", .object
        [("totalScanned", .int selection.totalScanned),
          ("resolved", .int selection.resolvedFiles.length)])]

/-- Prints the files that a start file needs. -/
def resolve (workspace : Workspace) (start sourcesDir : Path) : Effect :=
  let disk := workspace.toDisk
  let selected := workspace.selectFiles start (some sourcesDir) {}
  match selected.outcome with
  | .error failure => failedEffect disk selected.log start failure
  | .ok selection =>
    { log := selected.log, disk, output := (fileSelectionData selection).json 0 ++ "\n",
      ending := .exit 0 }

/-- The lines about a difference. -/
def differenceLines (difference : Difference) : String :=
  nameLines <| difference.missing.map ("missing: " ++ ·) ++
    difference.extra.map ("extra: " ++ ·) ++ difference.mismatches.map ("mismatches: " ++ ·)

/-- Checks that written sources are reproduced. -/
def verify (workspace : Workspace) (parsed : Parsed) (root file artifactsDir : Path) : Effect :=
  let disk := workspace.toDisk
  let compared : Logged Difference := do
    let sourcesDir ← optionalPath workspace parsed "--sources-dir"
    workspace.verifySlice { startFile := file, root, sourcesDir } none artifactsDir
  match compared.outcome with
  | .ok difference =>
    if difference.isNone then { log := compared.log, disk, ending := .exit 0 }
    else { log := compared.log, disk, errors := differenceLines difference, ending := .exit 1 }
  | .error failure =>
    match failure with
    | .artifactsMissing _ | .artifactsNotDirectory _ | .access .noEntry _
    | .access .notDirectory _ =>
      { log := compared.log, disk,
        errors := reason "artifacts-dir" artifactsDir.text ++ reason "error" failure.message,
        ending := .exit 2 }
    | _ => failedEffect disk compared.log file failure

/-! ### Logging -/

/-- A message on the error output. -/
def consoleLine (message : Message) : String :=
  "[" ++ program ++ "] " ++ message.level.text ++ " " ++ message.text ++ "\n"

/-- A message in a log file. -/
def logFileLine (stamp : String) (message : Message) : String :=
  stamp ++ " " ++ message.level.text ++ " " ++ program ++ ".cli: " ++ message.text ++ "\n"

/-- The messages from a level on. -/
def messagesFrom (level : Level) (log : List Message) : List Message :=
  log.filter fun message => level.rank ≤ message.level.rank

/-- Some messages as text. -/
def logText (line : Message → String) (log : List Message) : String :=
  String.join (log.map line)

/-- A run that ended before its command did anything. -/
def failedReport (disk : Disk) (failure : Failure) : Report where
  disk
  output := ""
  errors := ""
  ending := .failed failure

/-- Turns what a command did into a report, and writes the log file. -/
def report (level : Level) (stamp : String) (logFile : Option Path) (effect : Effect) : Report :=
  let log := messagesFrom level effect.log
  let disk := match logFile with
    | some path =>
      ((effect.disk.append path (encode (logText (logFileLine stamp) log))).toOption).getD effect.disk
    | none => effect.disk
  { disk, output := effect.output, errors := logText consoleLine log ++ effect.errors,
    ending := effect.ending }

/-! ### Runs -/

/-- Runs a command with its logging set up: the log file is there before the command starts. -/
def logged (workspace : Workspace) (stamp : String) (parsed : Parsed)
    (command : Workspace → Except Failure Effect) : Report :=
  let level := if parsed.gave "--verbose" then Level.debug else Level.info
  match optionalPath workspace parsed "--log-file" with
  | .error failure => failedReport workspace.toDisk failure
  | .ok logFile =>
    let opened := match logFile with
      | some path => workspace.append path []
      | none => .ok workspace.toDisk
    match opened with
    | .error failure => failedReport workspace.toDisk failure
    | .ok disk =>
      match command { workspace with toDisk := disk } with
      | .error failure => failedReport disk failure
      | .ok effect => report level stamp logFile effect

/-- Runs a chosen command. Without logging only warnings are printed, as they are. -/
def runCommand (workspace : Workspace) (stamp : String) (spec : CommandSpec) (parsed : Parsed) :
    Report :=
  let file := parsed.file
  let value (name : String) := (parsed.value? name).join
  let root := (parsed.value? "--root").getD (some ".")
  if spec.name = "extract" then
    match pathOf workspace file with
    | .error failure => failedReport workspace.toDisk failure
    | .ok path =>
      let effect := extract workspace parsed path
      { disk := effect.disk, output := effect.output,
        errors := logText (·.text ++ "\n") (messagesFrom .warning effect.log) ++ effect.errors,
        ending := effect.ending }
  else if spec.name = "slice" then
    logged workspace stamp parsed fun workspace => do
      let root ← pathOf workspace root
      return slice workspace parsed root (← pathOf workspace file)
  else if spec.name = "resolve" then
    logged workspace stamp parsed fun workspace => do
      let start ← pathOf workspace (value "--start")
      return resolve workspace start (← pathOf workspace (value "--sources-dir"))
  else
    logged workspace stamp parsed fun workspace => do
      let root ← pathOf workspace root
      let path ← pathOf workspace file
      return verify workspace parsed root path (← pathOf workspace (value "--artifacts-dir"))

/-- Runs a command line; `stamp` stands for the time in log files. -/
def run (workspace : Workspace) (stamp : String) (arguments : List String) : Report :=
  match parse program commands arguments with
  | .error stop =>
    { disk := workspace.toDisk, output := "", errors := "", ending := .stopped stop }
  | .ok (spec, parsed) => runCommand workspace stamp spec parsed

end SwiftSlice.Command

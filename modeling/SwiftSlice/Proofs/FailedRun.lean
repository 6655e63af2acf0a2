/-
What a failed run leaves. A command opens its log file, works, and writes what it
logged behind what the log file holds. Nothing else is changed unless a slice is
written, and a slice is written only once it is complete. So whatever step of a run
fails before, everything but the log file is as it was. The files of a slice are
written one after the other, though, and what was written before one is refused
stays.
-/

import SwiftSlice.Command.Run
import SwiftSlice.Proofs.Overwriting
import SwiftSlice.Proofs.Reproduction

namespace SwiftSlice

open Text

/-! ### The log file -/

namespace FileTree

/-- Holds of two trees with the same entries, but for the one of a log file. -/
def SameApart (log : Option Location) (tree later : FileTree) : Prop :=
  ∀ location, log ≠ some location → later.entry? location = tree.entry? location

namespace SameApart

variable {log : Option Location} {tree middle later : FileTree}

theorem refl (log : Option Location) (tree : FileTree) : tree.SameApart log tree :=
  fun _ _ => rfl

theorem trans (first : tree.SameApart log middle) (second : middle.SameApart log later) :
    tree.SameApart log later :=
  fun location apart => (second location apart).trans (first location apart)

end SameApart

end FileTree

namespace Disk

variable {disk later : Disk} {path : Path} {content : Bytes}

/-- Holds of a path that leads to a place whatever is written from now on. -/
def StaysAt (disk : Disk) (path : Path) (location : Location) : Prop :=
  ∀ later : Disk, disk.tree.Keeps later.tree → later.place? path = some location

theorem exists_write_of_append (isAppended : disk.append path content = .ok later) :
    ∃ whole, disk.write path whole = .ok later := by
  rw [append] at isAppended
  split at isAppended
  · next old _ => exact ⟨old ++ content, isAppended⟩
  · exact ⟨content, isAppended⟩

/-- Writing at the end of a file changes nothing else, and its path goes on leading to it. -/
theorem of_append (isAbsolute : path.isAbsolute = true)
    (isAppended : disk.append path content = .ok later) :
    ∃ location, disk.place? path = some location ∧ disk.tree.Keeps later.tree ∧
      disk.tree.SameApart (some location) later.tree ∧ later.StaysAt path location := by
  obtain ⟨whole, isWritten⟩ := exists_write_of_append isAppended
  obtain ⟨location, isPlace, overwritable, rfl, held⟩ := of_write isAbsolute isWritten
  have keeps := FileTree.Keeps.put_file overwritable whole
  refine ⟨location, isPlace, keeps, fun other apart => FileTree.entry?_put_of_ne _ ?_,
    fun last keepsLast => ?_⟩
  · rintro rfl
    exact apart rfl
  · exact place?_of_keeps isAbsolute (keeps.trans keepsLast) isPlace (keepsLast.overwritable held)

end Disk

namespace Command

variable {workspace : Workspace} {parsed : Parsed} {root file : Path}

/-! ### Commands -/

theorem isAbsolute_of_optionalPath {name : String} {found : Option Path}
    (isFound : optionalPath workspace parsed name = .ok found) :
    ∀ path ∈ found, path.isAbsolute = true := by
  intro path isPath
  obtain rfl := Option.mem_def.1 isPath
  rw [optionalPath] at isFound
  split at isFound
  · next argument isGiven =>
    cases argument with
    | none => cases isFound
    | some argument =>
      cases normalized : workspace.normalize (Path.parse argument) with
      | error failure =>
        rw [pathOf, normalized] at isFound
        cases isFound
      | ok resolved =>
        rw [pathOf, normalized] at isFound
        obtain rfl := Option.some.inj (Except.ok.inj isFound)
        obtain ⟨location, rfl⟩ := Disk.exists_pathOf_of_normalize normalized
        rfl
  · cases isFound

theorem failedEffect_disk (disk : Disk) (log : List Message) (failure : Failure) :
    (failedEffect disk log file failure).disk = disk := by
  rw [failedEffect]
  split <;> rfl

theorem extract_disk : (extract workspace parsed file).disk = workspace.toDisk := by
  rw [extract]
  split
  · dsimp only
    split <;> rfl
  · split
    · exact failedEffect_disk _ _ _
    · rfl

theorem resolve_disk {start sourcesDir : Path} :
    (resolve workspace start sourcesDir).disk = workspace.toDisk := by
  rw [resolve]
  split
  · exact failedEffect_disk _ _ _
  · rfl

theorem verify_disk {artifactsDir : Path} :
    (verify workspace parsed root file artifactsDir).disk = workspace.toDisk := by
  rw [verify]
  split
  · split <;> rfl
  · split
    · rfl
    · rfl
    · rfl
    · rfl
    · exact failedEffect_disk _ _ _

/-- The directory that a command line asks to write into. -/
def chosenDirectory (workspace : Workspace) (parsed : Parsed) (root : Path) (config : Config) :
    Except Failure Path := do
  let given ← optionalPath workspace parsed "--out-dir"
  workspace.outputDirectory root config given

theorem isAbsolute_of_chosenDirectory {config : Config} {directory : Path}
    (isDirectory : chosenDirectory workspace parsed root config = .ok directory) :
    directory.isAbsolute = true := by
  obtain ⟨given, isGiven, isDirectory⟩ := bind_eq_ok_iff.1 isDirectory
  cases given with
  | some path =>
    obtain rfl := Except.ok.inj isDirectory
    exact isAbsolute_of_optionalPath isGiven path rfl
  | none =>
    obtain ⟨_, _, _, isPlaced, _⟩ := Disk.of_placeOutput isDirectory
    obtain ⟨location, rfl⟩ := Disk.exists_pathOf_of_resolve isPlaced
    rfl

/-- The slice that a command line asks for, with the configuration of its root. -/
def requested (workspace : Workspace) (parsed : Parsed) (root file : Path) :
    Logged (Config × Slice) := do
  let config ← Config.load workspace.toDisk root
  let sourcesDir ← optionalPath workspace parsed "--sources-dir"
  let extraSeeds ← seedNames workspace parsed file
  let slice ← workspace.buildSlice
    { startFile := file, root, sourcesDir, extraSeeds,
      moduleName := (parsed.value? "--module").join } config
  return (config, slice)

theorem outcome_requested (workspace : Workspace) (parsed : Parsed) (root file : Path) :
    (requested workspace parsed root file).outcome = do
      let config ← Config.load workspace.toDisk root
      let sourcesDir ← optionalPath workspace parsed "--sources-dir"
      let extraSeeds ← seedNames workspace parsed file
      let slice ← (workspace.buildSlice
        { startFile := file, root, sourcesDir, extraSeeds,
          moduleName := (parsed.value? "--module").join } config).outcome
      return (config, slice) := by
  rw [requested, Logged.outcome_bind, Logged.outcome_liftM]
  refine bind_congr fun config => ?_
  rw [Logged.outcome_bind, Logged.outcome_liftM]
  refine bind_congr fun sourcesDir => ?_
  rw [Logged.outcome_bind, Logged.outcome_liftM]
  refine bind_congr fun extraSeeds => ?_
  rw [Logged.outcome_bind]
  rfl

/-- A slice command that has what was asked for and does not print it ends as the writing does. -/
theorem slice_of_requested {config : Config} {cut : Slice} {directory : Path}
    (isRequested : (requested workspace parsed root file).outcome = .ok (config, cut))
    (notPrinted : ¬ parsed.gave "--stdout" = true)
    (isDirectory : chosenDirectory workspace parsed root config = .ok directory) :
    (slice workspace parsed root file).disk = (workspace.writeSlice directory cut).1 ∧
      (slice workspace parsed root file).ending =
        match (workspace.writeSlice directory cut).2 with
        | .ok () => .exit 0
        | .error (.access _ _) => .exit 1
        | .error failure => .failed failure := by
  unfold slice
  dsimp only
  split
  · next failure isFailure => cases isRequested.symm.trans isFailure
  · next found slice isFound =>
    obtain ⟨rfl, rfl⟩ := Prod.mk.inj (Except.ok.inj (isRequested.symm.trans isFound))
    rw [if_neg notPrinted]
    split
    · next failure isFailure => cases isDirectory.symm.trans isFailure
    · next chosen isChosen =>
      obtain rfl := Except.ok.inj (isDirectory.symm.trans isChosen)
      split
      · next written isWritten => exact ⟨by rw [isWritten], by rw [isWritten]⟩
      · next written errno place isWritten => exact ⟨by rw [isWritten], by rw [isWritten]⟩
      · next written failure notAccess isWritten =>
        refine ⟨by rw [isWritten], ?_⟩
        rw [isWritten]
        cases failure with
        | access errno place => exact absurd rfl (notAccess errno place)
        | _ => rfl

/-- Holds of a slice and a directory when the command line asks for the slice to be written there,
and every step up to the writing succeeds: the configuration, the body of the preview, the sources
and the directory are found and accepted. -/
structure AsksFor (workspace : Workspace) (spec : CommandSpec) (parsed : Parsed) (directory : Path)
    (cut : Slice) : Prop where
  isSlice : spec.name = "slice"
  notPrinted : ¬ parsed.gave "--stdout" = true
  isFound : ∃ root file config,
    pathOf workspace ((parsed.value? "--root").getD (some ".")) = .ok root ∧
    pathOf workspace parsed.file = .ok file ∧
    (requested workspace parsed root file).outcome = .ok (config, cut) ∧
    chosenDirectory workspace parsed root config = .ok directory

theorem AsksFor.isAbsolute {spec : CommandSpec} {directory : Path} {cut : Slice}
    (asks : AsksFor workspace spec parsed directory cut) : directory.isAbsolute = true := by
  obtain ⟨_, _, _, _, _, _, isDirectory⟩ := asks.isFound
  exact isAbsolute_of_chosenDirectory isDirectory

/-- A slice command that fails has left everything as it was, or was refused to write the slice that
it was asked for. -/
theorem slice_disk {spec : CommandSpec} (isSlice : spec.name = "slice")
    (isRoot : pathOf workspace ((parsed.value? "--root").getD (some ".")) = .ok root)
    (isFile : pathOf workspace parsed.file = .ok file)
    (failed : (slice workspace parsed root file).ending ≠ .exit 0) :
    (slice workspace parsed root file).disk = workspace.toDisk ∨
      ∃ directory cut done, AsksFor workspace spec parsed directory cut ∧
        workspace.RefusedWriting directory cut.artifacts
          (slice workspace parsed root file).disk done := by
  -- Everything up to the writing succeeds, or nothing is written at all.
  by_cases writes : ∃ config cut directory,
      (requested workspace parsed root file).outcome = .ok (config, cut) ∧
      ¬ parsed.gave "--stdout" = true ∧
      chosenDirectory workspace parsed root config = .ok directory
  · obtain ⟨config, cut, directory, isRequested, notPrinted, isDirectory⟩ := writes
    obtain ⟨isDisk, isEnding⟩ := slice_of_requested isRequested notPrinted isDirectory
    rw [isEnding] at failed
    cases outcome : (workspace.writeSlice directory cut).2 with
    | ok _ =>
      rw [outcome] at failed
      exact absurd rfl failed
    | error failure =>
      obtain ⟨done, refused⟩ := Disk.refusedWriting_of_writeSlice (Prod.ext rfl outcome)
      refine .inr ⟨directory, cut, done, ⟨isSlice, notPrinted, root, file, config, isRoot, isFile,
        isRequested, isDirectory⟩, ?_⟩
      rw [isDisk]
      exact refused
  · left
    unfold slice
    dsimp only
    split
    · exact failedEffect_disk _ _ _
    · next config cut isRequested =>
      split
      · rfl
      · next notPrinted =>
        split
        · exact failedEffect_disk _ _ _
        · next directory isDirectory =>
          exact absurd ⟨config, cut, directory, isRequested, notPrinted, isDirectory⟩ writes

/-! ### What is left -/

/-- The place of the log file that is named on a command line. -/
def logFilePlace? (workspace : Workspace) (parsed : Parsed) : Option Location := do
  let path ← (optionalPath workspace parsed "--log-file").toOption.join
  workspace.place? path

/-- What is left of a workspace, apart from the log file, when the slice that a command line asks
for cannot be written whole: directories on the way, and the files of the slice that come before the
refused one, each of them complete. -/
structure PartlyWritten (workspace : Workspace) (spec : CommandSpec) (parsed : Parsed) (left : Disk)
    (directory : Path) (cut : Slice) (done : List (String × Bytes)) : Prop where
  refused : ∃ opened written,
    workspace.tree.SameApart (logFilePlace? workspace parsed) opened.tree ∧
    AsksFor (workspace.onDisk opened) spec parsed directory cut ∧
    opened.RefusedWriting directory cut.artifacts written done ∧
    written.tree.SameApart (logFilePlace? workspace parsed) left.tree
  changes : ∀ location, logFilePlace? workspace parsed ≠ some location →
    left.tree.entry? location = workspace.tree.entry? location ∨
      workspace.tree.entry? location = none ∧ left.tree.entry? location = some .directory ∨
      ∃ file ∈ done, left.place? (directory.child file.1) = some location ∧
        left.tree.entry? location = some (.file file.2)

theorem AsksFor.partlyWritten {spec : CommandSpec} {opened written left : Disk} {directory : Path}
    {cut : Slice} {done : List (String × Bytes)}
    (asks : AsksFor (workspace.onDisk opened) spec parsed directory cut)
    (refused : opened.RefusedWriting directory cut.artifacts written done)
    (before : workspace.tree.SameApart (logFilePlace? workspace parsed) opened.tree)
    (after : written.tree.SameApart (logFilePlace? workspace parsed) left.tree)
    (keepsAfter : written.tree.Keeps left.tree) :
    PartlyWritten workspace spec parsed left directory cut done where
  refused := ⟨opened, written, before, asks, refused, after⟩
  changes location apart := by
    rw [after location apart, ← before location apart]
    rcases (refused.changes asks.isAbsolute).2 location with same | isMade |
      ⟨file, member, isPlace, isFile⟩
    · exact .inl same
    · exact .inr (.inl isMade)
    · refine .inr (.inr ⟨file, member, ?_, isFile⟩)
      exact Disk.place?_of_keeps asks.isAbsolute keepsAfter isPlace
        (.inr ⟨file.2, (after location apart).trans isFile⟩)

/-! ### Runs -/

/-- What a failed command leaves: everything but the log file as it was, or a slice that is written
in part. In any case every directory and every link is still there, and every file is still a
file. -/
def FailureLeaves (workspace : Workspace) (spec : CommandSpec) (parsed : Parsed) (left : Disk) :
    Prop :=
  workspace.tree.Keeps left.tree ∧
    (workspace.tree.SameApart (logFilePlace? workspace parsed) left.tree ∨
      ∃ directory cut done, PartlyWritten workspace spec parsed left directory cut done)

theorem FailureLeaves.refl (workspace : Workspace) (spec : CommandSpec) (parsed : Parsed) :
    FailureLeaves workspace spec parsed workspace.toDisk :=
  ⟨.refl _, .inl (.refl _ _)⟩

/-- Opening the log file, if there is one, changes nothing else, and its path goes on leading to
it. -/
theorem of_opened {logFile : Option Path} {opened : Disk}
    (areAbsolute : ∀ path ∈ logFile, path.isAbsolute = true)
    (isOpened : (match logFile with
      | some path => workspace.append path []
      | none => .ok workspace.toDisk) = .ok opened) :
    workspace.tree.Keeps opened.tree ∧
      workspace.tree.SameApart (logFile.bind workspace.place?) opened.tree ∧
      ∀ path ∈ logFile, ∃ location, logFile.bind workspace.place? = some location ∧
        opened.StaysAt path location := by
  cases logFile with
  | none =>
    obtain rfl := Except.ok.inj isOpened
    exact ⟨.refl _, .refl _ _, by simp⟩
  | some path =>
    obtain ⟨location, isPlace, keeps, same, stays⟩ :=
      Disk.of_append (areAbsolute path rfl) isOpened
    rw [Option.bind_some, isPlace]
    refine ⟨keeps, same, ?_⟩
    intro other isOther
    obtain rfl := Option.some.inj isOther
    exact ⟨location, rfl, stays⟩

/-- Writing the log changes nothing else. -/
theorem report_disk {logFile : Option Path} {log : Option Location} {opened : Disk} {level : Level}
    {stamp : String} {effect : Effect} (areAbsolute : ∀ path ∈ logFile, path.isAbsolute = true)
    (stays : ∀ path ∈ logFile, ∃ location, log = some location ∧ opened.StaysAt path location)
    (keeps : opened.tree.Keeps effect.disk.tree) :
    effect.disk.tree.Keeps (report level stamp logFile effect).disk.tree ∧
      effect.disk.tree.SameApart log (report level stamp logFile effect).disk.tree := by
  unfold report
  cases logFile with
  | none => exact ⟨.refl _, .refl _ _⟩
  | some path =>
    dsimp only
    cases isAppended : effect.disk.append path
        (encode (logText (logFileLine stamp) (messagesFrom level effect.log))) with
    | error failure => exact ⟨.refl _, .refl _ _⟩
    | ok last =>
      -- Whatever the command wrote, the log goes where it was opened.
      obtain ⟨location, isLog, staysAt⟩ := stays path rfl
      obtain ⟨place, isPlace, keepsLast, same, _⟩ :=
        Disk.of_append (areAbsolute path rfl) isAppended
      obtain rfl := Option.some.inj ((staysAt effect.disk keeps).symm.trans isPlace)
      rw [isLog]
      exact ⟨keepsLast, same⟩

/-- A command that fails with its logging set up leaves what it left without, apart from the log
file. -/
theorem logged_failureLeaves {stamp : String} {spec : CommandSpec}
    {command : Workspace → Except Failure Effect}
    (leaves : ∀ opened effect, command (workspace.onDisk opened) = .ok effect →
      effect.ending ≠ .exit 0 → effect.disk = opened ∨ ∃ directory cut done,
        AsksFor (workspace.onDisk opened) spec parsed directory cut ∧
          opened.RefusedWriting directory cut.artifacts effect.disk done)
    (failed : (logged workspace stamp parsed command).ending ≠ .exit 0) :
    FailureLeaves workspace spec parsed (logged workspace stamp parsed command).disk := by
  unfold logged at failed ⊢
  dsimp only at failed ⊢
  cases isLogFile : optionalPath workspace parsed "--log-file" with
  | error failure => exact .refl workspace spec parsed
  | ok logFile =>
    rw [isLogFile] at failed
    dsimp only at failed ⊢
    have areAbsolute := isAbsolute_of_optionalPath isLogFile
    have isLog : logFilePlace? workspace parsed = logFile.bind workspace.place? := by
      rw [logFilePlace?, isLogFile]
      rfl
    split
    · exact .refl workspace spec parsed
    · next opened isOpened =>
      rw [isOpened] at failed
      dsimp only at failed
      obtain ⟨keeps, same, stays⟩ := of_opened areAbsolute isOpened
      rw [← isLog] at same stays
      split
      · exact ⟨keeps, .inl same⟩
      · next effect isEffect =>
        rw [isEffect] at failed
        rcases leaves opened effect isEffect failed with
          untouched | ⟨directory, cut, done, asks, refused⟩
        · have keepsEffect : opened.tree.Keeps effect.disk.tree := by
            rw [untouched]
            exact .refl _
          obtain ⟨keepsLast, sameLast⟩ := report_disk areAbsolute stays keepsEffect
          rw [untouched] at keepsLast sameLast
          exact ⟨keeps.trans keepsLast, .inl (same.trans sameLast)⟩
        · have keepsEffect := (refused.changes asks.isAbsolute).1
          obtain ⟨keepsLast, sameLast⟩ := report_disk areAbsolute stays keepsEffect
          exact ⟨(keeps.trans keepsEffect).trans keepsLast,
            .inr ⟨directory, cut, done, asks.partlyWritten refused same sameLast keepsLast⟩⟩

theorem runCommand_failureLeaves {stamp : String} {spec : CommandSpec}
    (failed : (runCommand workspace stamp spec parsed).ending ≠ .exit 0) :
    FailureLeaves workspace spec parsed (runCommand workspace stamp spec parsed).disk := by
  unfold runCommand at failed ⊢
  dsimp only at failed ⊢
  split
  · split
    · exact .refl workspace spec parsed
    · dsimp only
      rw [extract_disk]
      exact .refl workspace spec parsed
  · next notExtract =>
    rw [if_neg notExtract] at failed
    split
    · next isSlice =>
      rw [if_pos isSlice] at failed
      refine logged_failureLeaves ?_ failed
      intro opened effect isEffect
      obtain ⟨root, isRoot, isEffect⟩ := bind_eq_ok_iff.1 isEffect
      obtain ⟨file, isFile, isEffect⟩ := bind_eq_ok_iff.1 isEffect
      obtain rfl := Except.ok.inj isEffect
      exact slice_disk isSlice isRoot isFile
    · next notSlice =>
      rw [if_neg notSlice] at failed
      split
      · next isResolve =>
        rw [if_pos isResolve] at failed
        refine logged_failureLeaves ?_ failed
        intro opened effect isEffect _
        obtain ⟨_, _, isEffect⟩ := bind_eq_ok_iff.1 isEffect
        obtain ⟨_, _, isEffect⟩ := bind_eq_ok_iff.1 isEffect
        obtain rfl := Except.ok.inj isEffect
        exact .inl resolve_disk
      · next notResolve =>
        rw [if_neg notResolve] at failed
        refine logged_failureLeaves ?_ failed
        intro opened effect isEffect _
        obtain ⟨_, _, isEffect⟩ := bind_eq_ok_iff.1 isEffect
        obtain ⟨_, _, isEffect⟩ := bind_eq_ok_iff.1 isEffect
        obtain ⟨_, _, isEffect⟩ := bind_eq_ok_iff.1 isEffect
        obtain rfl := Except.ok.inj isEffect
        exact .inl verify_disk

/-- The place of the log file that a command line names. -/
def logPlace? (workspace : Workspace) (arguments : List String) : Option Location := do
  let (_, parsed) ← (parse program commands arguments).toOption
  logFilePlace? workspace parsed

/-- A run that does not succeed keeps every directory, every link and the files as such, and leaves
everything but its log file as it was, unless the slice that it was asked for was complete and could
not be written whole: then the files of the slice before the refused one are there. -/
theorem run_failureLeaves (workspace : Workspace) (stamp : String) (arguments : List String)
    (failed : (run workspace stamp arguments).ending ≠ .exit 0) :
    let left := (run workspace stamp arguments).disk
    workspace.tree.Keeps left.tree ∧
      (workspace.tree.SameApart (logPlace? workspace arguments) left.tree ∨
        ∃ spec parsed directory cut done, parse program commands arguments = .ok (spec, parsed) ∧
          PartlyWritten workspace spec parsed left directory cut done) := by
  intro left
  dsimp only [left]
  rw [logPlace?]
  rw [run] at failed ⊢
  cases isParsed : parse program commands arguments with
  | error stop => exact ⟨.refl _, .inl (.refl _ _)⟩
  | ok chosen =>
    obtain ⟨spec, parsed⟩ := chosen
    rw [isParsed] at failed
    obtain ⟨keeps, leaves⟩ := runCommand_failureLeaves failed
    refine ⟨keeps, leaves.imp_right ?_⟩
    rintro ⟨directory, cut, done, isWritten⟩
    exact ⟨spec, parsed, directory, cut, done, rfl, isWritten⟩

/-! ### A directory in the place of a file -/

/-- A slice command line without a log file does what the command does. -/
theorem run_of_slice (stamp : String) {arguments : List String}
    (isParsed : parse program commands arguments = .ok (sliceSpec, parsed))
    (noLog : parsed.value? "--log-file" = none)
    (isRoot : pathOf workspace ((parsed.value? "--root").getD (some ".")) = .ok root)
    (isFile : pathOf workspace parsed.file = .ok file) :
    (run workspace stamp arguments).disk = (slice workspace parsed root file).disk ∧
      (run workspace stamp arguments).ending = (slice workspace parsed root file).ending := by
  have noPath : optionalPath workspace parsed "--log-file" = .ok none := by
    rw [optionalPath, noLog]
  rw [run, isParsed]
  dsimp only
  rw [runCommand, if_neg (by decide), if_pos (show sliceSpec.name = "slice" from rfl), logged,
    noPath]
  dsimp only
  rw [isRoot, isFile]
  exact ⟨rfl, rfl⟩

end Command

namespace Blocked

open Command

/-- A tree with a file to slice, and an output directory where a directory has the name of a file of
the slice. -/
def tree : FileTree where
  entries := [(["A.swift"], .file LinkedConfig.source), (["out"], .directory),
    (["out", Artifact.hostApp], .directory)]
  distinct := by decide
  named := by
    simp
    decide
  rooted := by simp [DirectoryIn]

/-- The workspace of the tree. -/
def workspace : Workspace where
  tree := tree
  directory := []
  home := []
  grammar := fun _ => LinkedConfig.file

def out : Path :=
  Disk.pathOf ["out"]

def arguments : List String :=
  ["slice", "/A.swift", "--root", "/", "--out-dir", "/out"]

def parsed : Parsed where
  file := some "/A.swift"
  values := [("--root", some "/"), ("--out-dir", some "/out")]

theorem parse_arguments : parse program commands arguments = .ok (sliceSpec, parsed) := by
  rfl

theorem isResolved {names : List String}
    (named : ∀ name ∈ names, IsFileName name ∧ name.utf8ByteSize ≤ nameLimit) :
    tree.IsResolved (Disk.pathOf names) :=
  Disk.isResolved_of_linkFree (by simp [tree]) named

theorem entry?_start : tree.entry? ["A.swift"] = some (.file LinkedConfig.source) := by
  decide

theorem isIn : LinkedConfig.IsIn workspace (Disk.pathOf []) where
  grammar := rfl
  isRoot := .root tree
  found := entry?_start
  checked := by decide

/-- There is no configuration. -/
theorem load_root : Config.load workspace.toDisk (Disk.pathOf []) = .ok {} := by
  refine Disk.load_of_no_file ?_
  have probed : workspace.probe (Disk.pathOf [Config.fileName]) = .ok none := by
    rw [Disk.probe_of_isResolved (isResolved (by decide)) (by decide)]
    decide
  rw [Disk.isFile]
  show (workspace.probe (Disk.pathOf [Config.fileName]) >>= _) = _
  rw [probed]
  rfl

theorem pathOf_root : pathOf workspace (some "/") = .ok (Disk.pathOf []) :=
  Disk.normalize_of_isResolved (.root tree)

theorem pathOf_start : pathOf workspace (some "/A.swift") = .ok (Disk.pathOf ["A.swift"]) := by
  rw [pathOf, show Path.parse "/A.swift" = Disk.pathOf ["A.swift"] by decide]
  exact isIn.normalize

theorem optionalPath_out : optionalPath workspace parsed "--out-dir" = .ok (some out) := by
  have normalized : pathOf workspace (some "/out") = .ok out := by
    rw [pathOf, show Path.parse "/out" = out by decide]
    exact Disk.normalize_of_isResolved (isResolved (by decide))
  rw [optionalPath, show parsed.value? "--out-dir" = some (some "/out") by decide]
  dsimp only
  rw [normalized]
  rfl

/-- The slice can be cut. -/
theorem exists_requested : ∃ slice, (requested workspace parsed (Disk.pathOf [])
    (Disk.pathOf ["A.swift"])).outcome = .ok ({}, slice) := by
  have isRoot : LinkedConfig.request.root = Disk.pathOf [] := rfl
  obtain ⟨slice, isCut⟩ := isIn.exists_buildSlice isRoot rfl rfl {}
  refine ⟨slice, ?_⟩
  rw [outcome_requested, load_root]
  show ((workspace.buildSlice LinkedConfig.request {}).outcome >>= _) = _
  rw [isCut]
  rfl

/-- What is left of the workspace when a slice is written there. -/
def left (slice : Slice) : Disk where
  tree := tree.put ["out", Artifact.generatedSource] (.file (encode slice.selection.source))
  directory := []
  home := []

theorem free : tree.entry? ["out", Artifact.generatedSource] = none := by
  decide

theorem canPut : tree.CanPut ["out", Artifact.generatedSource] :=
  FileTree.canPut_of_free free (by decide) (by decide)

/-- Writing a slice ends at the directory in the place of its second file. -/
theorem writeSlice_out (slice : Slice) : workspace.writeSlice out slice =
    (left slice, .error (.access .isDirectory "/out/PreviewHostApp.swift")) := by
  have isMade : workspace.makeDirectories out = (workspace.toDisk, .ok ()) :=
    Disk.makeDirectories_of_present (isResolved (by decide)) (by decide) (by decide)
      (by decide) (by decide)
  have isFirst : workspace.write (out.child Artifact.generatedSource)
      (encode slice.selection.source) = .ok (left slice) := by
    rw [Disk.write_of_free (isResolved (by decide)) (by decide) (by decide),
      show Disk.checkPath (out.child Artifact.generatedSource) = .ok () by decide]
    rfl
  have isSecond : (left slice).write (out.child Artifact.hostApp) (encode slice.hostApp) =
      .error (.access .isDirectory "/out/PreviewHostApp.swift") := by
    refine Disk.write_of_directory (Disk.isResolved_of_linkFree ?_ (by decide)) ?_
      (by decide) _
    · rw [left, FileTree.entries_put canPut, FileTree.others_eq_of_free (by simp) free]
      simp [tree]
    · rw [left, FileTree.entry?_put canPut, if_neg (by decide)]
      decide
  rw [Disk.writeSlice, isMade]
  dsimp only
  rw [Slice.artifacts, Disk.writeFiles, isFirst]
  dsimp only
  rw [Disk.writeFiles, isSecond]

/-- The run fails, and leaves the first file of the slice. -/
theorem run_arguments (stamp : String) : ∃ slice,
    (run workspace stamp arguments).ending = .exit 1 ∧
      (run workspace stamp arguments).disk = left slice := by
  obtain ⟨slice, isRequested⟩ := exists_requested
  have isDirectory : chosenDirectory workspace parsed (Disk.pathOf []) {} = .ok out := by
    rw [chosenDirectory, optionalPath_out]
    rfl
  obtain ⟨isDisk, isEnding⟩ := slice_of_requested isRequested (by decide) isDirectory
  obtain ⟨runDisk, runEnding⟩ :=
    run_of_slice stamp parse_arguments (by decide) pathOf_root pathOf_start
  rw [writeSlice_out] at isDisk isEnding
  exact ⟨slice, runEnding.trans isEnding, runDisk.trans isDisk⟩

theorem entry?_left (slice : Slice) :
    FileTree.entry? (left slice).tree ["out", Artifact.generatedSource] =
      some (.file (encode slice.selection.source)) := by
  rw [left, FileTree.entry?_put canPut, if_pos rfl]

/-- The first file of the slice was not there before. -/
theorem not_sameApart (slice : Slice) :
    ¬ workspace.tree.SameApart (logPlace? workspace arguments) (left slice).tree := by
  intro same
  have noLog : logPlace? workspace arguments = none := by
    rw [logPlace?, parse_arguments]
    rfl
  have absent := same ["out", Artifact.generatedSource] (by rw [noLog]; simp)
  rw [entry?_left] at absent
  cases absent.trans free

end Blocked

namespace Command

/-- Where a directory has the name of the second file of a slice, the first is left. -/
theorem run_failureLeaves_blocked :
    let workspace := Blocked.workspace
    let report := run workspace "" Blocked.arguments
    report.ending = .exit 1 ∧
      (∃ cut : Slice, report.disk.tree.entry? ["out", Artifact.generatedSource] =
        some (.file (encode cut.selection.source))) ∧
      workspace.tree.Keeps report.disk.tree ∧
      ∃ spec parsed directory cut done,
        parse program commands Blocked.arguments = .ok (spec, parsed) ∧
          PartlyWritten workspace spec parsed report.disk directory cut done := by
  intro workspace report
  obtain ⟨cut, isEnding, isLeft⟩ := Blocked.run_arguments ""
  have failed : report.ending ≠ .exit 0 := by
    rw [isEnding]
    simp
  obtain ⟨keeps, leaves⟩ := run_failureLeaves workspace "" Blocked.arguments failed
  refine ⟨isEnding, ⟨cut, ?_⟩, keeps, leaves.resolve_left ?_⟩
  · rw [isLeft, Blocked.entry?_left]
  · rw [isLeft]
    exact Blocked.not_sameApart cut

/-- It is not so that a slice command which ends with an error code has left everything but its log
file as it was. -/
theorem failed_slice_not_unchanged :
    ¬ ∀ (workspace : Workspace) (stamp : String) (arguments : List String) (parsed : Parsed)
      (code : Nat), parse program commands arguments = .ok (sliceSpec, parsed) →
      (run workspace stamp arguments).ending = .exit code → code ≠ 0 →
      workspace.tree.SameApart (logPlace? workspace arguments)
        (run workspace stamp arguments).disk.tree := by
  intro law
  obtain ⟨cut, isEnding, isLeft⟩ := Blocked.run_arguments ""
  have same := law Blocked.workspace "" Blocked.arguments Blocked.parsed 1
    Blocked.parse_arguments isEnding (by simp)
  rw [isLeft] at same
  exact Blocked.not_sameApart cut same

end Command

end SwiftSlice

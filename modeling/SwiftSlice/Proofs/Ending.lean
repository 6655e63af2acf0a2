/-
How a run ends. A command that slices, resolves or checks ends with an exit code of
at most two, and says why if that is not zero; two stands for a check of what is no
directory. What it does not report is listed: the log file cannot be opened, a path
or a seed is given without a value, or what the arguments stand for has a defect. A
configuration that is no text is such a defect, and ends every slice of its root
with a failure that no one reports. A run can also give up on directories or links
that are nested more deeply than it has calls for; how much of that it walks before
is left open, so that such a run is given both ends.
-/

import Mathlib.Logic.Relation
import SwiftSlice.Proofs.Explanation
import SwiftSlice.Proofs.FailedRun

namespace SwiftSlice

open Text

namespace Command

variable {workspace : Workspace} {spec : CommandSpec} {parsed : Parsed}

/-! ### Arguments -/

/-- The arguments that stand for the paths a command works on. An option that is not given has none,
and one that is given without a value has one that stands for no path. -/
def pathArguments (spec : CommandSpec) (parsed : Parsed) : List (Option String) :=
  let root := (parsed.value? "--root").getD (some ".")
  let sourcesDir := parsed.value? "--sources-dir"
  if spec.name = "slice" then
    [root, parsed.file] ++ sourcesDir.toList ++ (parsed.value? "--out-dir").toList
  else if spec.name = "resolve" then [(parsed.value? "--start").join, sourcesDir.join]
  else [root, parsed.file, (parsed.value? "--artifacts-dir").join] ++ sourcesDir.toList

/-- Holds of the paths that some arguments stand for: as they are written, and as the workspace
knows them. -/
def Asked (workspace : Workspace) (arguments : List (Option String)) (path : Path) : Prop :=
  ∃ text, some text ∈ arguments ∧
    Relation.ReflTransGen (fun path place => workspace.normalize path = .ok place)
      (Path.parse text) path

/-- The failures that a command does not report: of a path or a seed without a value, and of the
defects of what its arguments stand for. -/
inductive Fault (workspace : Workspace) (spec : CommandSpec) (parsed : Parsed) : Failure → Prop
  | noPath (isGiven : none ∈ pathArguments spec parsed) : Fault workspace spec parsed .noPath
  | noName (isGiven : none ∈ parsed.valuesOf "--seed") : Fault workspace spec parsed .noName
  | defect {failure : Failure}
    (isDefect : workspace.Defect (Asked workspace (pathArguments spec parsed)) failure) :
    Fault workspace spec parsed failure

/-- Holds of a failure that a command reports, or does not report for a known reason. -/
def Accounts (workspace : Workspace) (spec : CommandSpec) (parsed : Parsed) (failure : Failure) :
    Prop :=
  failure.IsReported ∨ Fault workspace spec parsed failure

theorem Fault.unreported {failure : Failure} (isFault : Fault workspace spec parsed failure)
    (file : Path) : reportedUnder? file failure = none := by
  cases isFault with
  | noPath => rfl
  | noName => rfl
  | defect isDefect => exact isDefect.unreported file

theorem Accounts.of_explains {failure : Failure}
    (explained : workspace.Explains (Asked workspace (pathArguments spec parsed)) failure) :
    Accounts workspace spec parsed failure :=
  explained.imp_right .defect

/-- What is accounted for is never that there is no directory to check. -/
theorem Accounts.not_isMissing {failure : Failure}
    (accounted : Accounts workspace spec parsed failure) : ¬ failure.IsMissing := by
  rcases accounted with isReported | isFault
  · exact isReported.not_isMissing
  · cases isFault with
    | noPath => exact id
    | noName => exact id
    | defect isDefect => exact isDefect.not_isMissing

section Placed

variable (isPlaced : workspace.IsPlaced)

include isPlaced

/-- The paths that arguments stand for are spelled without slashes in their names. -/
theorem knows_asked (arguments : List (Option String)) :
    workspace.Knows (Asked workspace arguments) where
  noSlash := by
    rintro path ⟨text, _, steps⟩
    induction steps with
    | refl => exact Path.parse_no_slash text
    | tail _ normalized inductionHypothesis =>
      exact (Disk.isSpelled_of_normalize isPlaced inductionHypothesis normalized).named.no_slash
  known := by
    rintro path place ⟨text, member, steps⟩ normalized
    exact ⟨text, member, steps.tail normalized⟩

/-- The path that an argument stands for is asked for. -/
theorem asked_of_pathOf {arguments : List (Option String)} {argument : Option String} {path : Path}
    (member : argument ∈ arguments) (isPath : pathOf workspace argument = .ok path) :
    Asked workspace arguments path ∧ path.IsSpelled := by
  cases argument with
  | none => cases isPath
  | some text =>
    exact ⟨⟨text, member, .single isPath⟩,
      Disk.isSpelled_of_normalize isPlaced (Path.parse_no_slash text) isPath⟩

theorem asked_of_optionalPath {arguments : List (Option String)} {name : String}
    {found : Option Path} (subset : (parsed.value? name).toList ⊆ arguments)
    (isFound : optionalPath workspace parsed name = .ok found) :
    ∀ path ∈ found, Asked workspace arguments path ∧ path.IsSpelled := by
  rw [optionalPath] at isFound
  split at isFound
  · next argument isGiven =>
    have member : argument ∈ arguments := subset (by rw [isGiven]; exact List.mem_singleton_self _)
    cases isPath : pathOf workspace argument with
    | error failure =>
      rw [isPath] at isFound
      cases isFound
    | ok place =>
      rw [isPath] at isFound
      obtain rfl := Except.ok.inj isFound
      intro path isPlace
      obtain rfl := Option.some.inj isPlace
      exact asked_of_pathOf isPlaced member isPath
  · obtain rfl := Except.ok.inj isFound
    intro path isNone
    cases isNone

end Placed

theorem fault_pathOf {argument : Option String} (member : argument ∈ pathArguments spec parsed) :
    FailsOnly (Fault workspace spec parsed) (pathOf workspace argument) := by
  cases argument with
  | none => exact .error (.noPath member)
  | some text => exact fun failure failed => .defect (.unresolved ⟨text, member, .refl⟩ failed)

theorem fault_optionalPath {name : String}
    (subset : (parsed.value? name).toList ⊆ pathArguments spec parsed) :
    FailsOnly (Fault workspace spec parsed) (optionalPath workspace parsed name) := by
  rw [optionalPath]
  split
  · next argument isGiven =>
    have member : argument ∈ pathArguments spec parsed :=
      subset (by rw [isGiven]; exact List.mem_singleton_self _)
    exact .bind (fault_pathOf member) fun _ _ => .ok _
  · exact .ok none

/-! ### Ends -/

/-- Holds of an end with an exit code of at most two that comes with a message unless it is zero,
and is two just if there is no directory to check, and of an end with a failure for one of the
given causes. -/
def EndsFor (missing : Prop) (cause : Failure → Prop) (ending : Ending) (errors : String) : Prop :=
  (∃ code, ending = .exit code ∧ code ≤ 2 ∧ (code ≠ 0 → errors ≠ "") ∧ (code = 2 ↔ missing)) ∨
    ∃ failure, ending = .failed failure ∧ cause failure

namespace EndsFor

variable {missing : Prop} {cause : Failure → Prop} {errors : String}

theorem congr {other : Prop} {ending : Ending} (same : missing ↔ other)
    (ends : EndsFor missing cause ending errors) : EndsFor other cause ending errors := by
  rwa [propext same] at ends

theorem success (notMissing : ¬ missing) : EndsFor missing cause (.exit 0) errors :=
  .inl ⟨0, rfl, by decide, fun nonzero => absurd rfl nonzero, iff_of_false (by decide) notMissing⟩

theorem refusal (notMissing : ¬ missing) (isSaid : errors ≠ "") :
    EndsFor missing cause (.exit 1) errors :=
  .inl ⟨1, rfl, by decide, fun _ => isSaid, iff_of_false (by decide) notMissing⟩

theorem nothing (isMissing : missing) (isSaid : errors ≠ "") :
    EndsFor missing cause (.exit 2) errors :=
  .inl ⟨2, rfl, by decide, fun _ => isSaid, iff_of_true rfl isMissing⟩

end EndsFor

theorem reason_ne_empty (path text : String) : reason path text ≠ "" := by
  simp [reason]

/-- A fault ends a command without a report. -/
theorem failedEffect_of_fault {missing : Prop} {failure : Failure} (disk : Disk)
    (log : List Message) (file : Path) (isFault : Fault workspace spec parsed failure) :
    EndsFor missing (Fault workspace spec parsed) (failedEffect disk log file failure).ending
      (failedEffect disk log file failure).errors := by
  rw [failedEffect, isFault.unreported file]
  exact .inr ⟨failure, rfl, isFault⟩

theorem failedEffect_endsFor {missing : Prop} {failure : Failure} (notMissing : ¬ missing)
    (disk : Disk) (log : List Message) (file : Path)
    (accounted : Accounts workspace spec parsed failure) :
    EndsFor missing (Fault workspace spec parsed) (failedEffect disk log file failure).ending
      (failedEffect disk log file failure).errors := by
  rcases accounted with isReported | isFault
  · obtain ⟨path, isReported⟩ := Option.isSome_iff_exists.1 (isReported file)
    rw [failedEffect, isReported]
    exact .refusal notMissing (reason_ne_empty _ _)
  · exact failedEffect_of_fault disk log file isFault

/-! ### Slicing -/

theorem mem_pathArguments_slice (parsed : Parsed) :
    (parsed.value? "--root").getD (some ".") ∈ pathArguments sliceSpec parsed ∧
      parsed.file ∈ pathArguments sliceSpec parsed ∧
      (parsed.value? "--sources-dir").toList ⊆ pathArguments sliceSpec parsed ∧
      (parsed.value? "--out-dir").toList ⊆ pathArguments sliceSpec parsed := by
  rw [pathArguments, if_pos (show sliceSpec.name = "slice" from rfl)]
  refine ⟨by simp, by simp, fun argument member => ?_, List.subset_append_right _ _⟩
  exact List.mem_append_left _ (List.mem_append_right _ member)

theorem accounts_seedNames {file : Path} (isPlaced : workspace.IsPlaced)
    (isAsked : Asked workspace (pathArguments spec parsed) file) :
    FailsOnly (Accounts workspace spec parsed) (seedNames workspace parsed file) := by
  unfold seedNames
  dsimp only
  split
  · next isGiven =>
    refine .bind (fun failure failed => .inr (.defect (.unresolved isAsked failed)))
      fun place isPlace => ?_
    have named := (Workspace.isSpelled_of_asked isPlaced (knows_asked isPlaced _) isAsked
      isPlace).named
    have extracts : FailsOnly (Accounts workspace spec parsed) (workspace.extractSnippet place) :=
      (Workspace.reported_extractSnippet named).mono fun _ => .inl
    refine .bind (.bind extracts fun _ _ => .ok _) fun _ _ => ?_
    exact .error (.inr (.noName (List.contains_iff_mem.1 isGiven)))
  · exact .ok _

theorem load_of_requested {root file : Path} {config : Config} {cut : Slice}
    (isRequested : (requested workspace parsed root file).outcome = .ok (config, cut)) :
    Config.load workspace.toDisk root = .ok config := by
  rw [outcome_requested] at isRequested
  obtain ⟨loaded, isLoaded, isRequested⟩ := bind_eq_ok_iff.1 isRequested
  obtain ⟨_, _, isRequested⟩ := bind_eq_ok_iff.1 isRequested
  obtain ⟨_, _, isRequested⟩ := bind_eq_ok_iff.1 isRequested
  obtain ⟨_, _, isRequested⟩ := bind_eq_ok_iff.1 isRequested
  obtain ⟨rfl, _⟩ := Prod.mk.inj (Except.ok.inj isRequested)
  exact isLoaded

section Slice

variable {root file : Path} (isPlaced : workspace.IsPlaced)
  (isRoot : pathOf workspace ((parsed.value? "--root").getD (some ".")) = .ok root)
  (isFile : pathOf workspace parsed.file = .ok file)

include isPlaced isRoot

/-- The directory that a slice goes to is chosen, and is made of file names, unless it is refused or
cannot be resolved. -/
theorem accounts_chosenDirectory {config : Config}
    (isConfig : Config.load workspace.toDisk root = .ok config) :
    FailsOnly (Accounts workspace sliceSpec parsed)
      (chosenDirectory workspace parsed root config) := by
  obtain ⟨rootMember, _, _, outDir⟩ := mem_pathArguments_slice parsed
  obtain ⟨rootAsked, rootSpelled⟩ := asked_of_pathOf isPlaced rootMember isRoot
  refine .bind ((fault_optionalPath outDir).mono fun _ => .inr) fun given _ => ?_
  cases given with
  | some directory => exact .ok directory
  | none =>
    exact (Workspace.explains_placeOutput rootAsked rootSpelled.isAbsolute isConfig).mono
      fun _ => .of_explains

theorem isNamed_of_chosenDirectory {config : Config} {directory : Path}
    (isDirectory : chosenDirectory workspace parsed root config = .ok directory) :
    IsNamed directory.names := by
  obtain ⟨given, isGiven, isDirectory⟩ := bind_eq_ok_iff.1 isDirectory
  cases given with
  | some place =>
    obtain rfl := Except.ok.inj isDirectory
    exact (asked_of_optionalPath isPlaced (List.Subset.refl _) isGiven place rfl).2.named
  | none =>
    obtain ⟨isRelative, top, isTop, isPlace, _⟩ := Disk.of_placeOutput isDirectory
    have rootNamed := (asked_of_pathOf isPlaced (List.mem_singleton_self _) isRoot).2.named
    have topNamed := Disk.isNamed_of_resolve isPlaced rootNamed.no_slash isTop
    have isBelow : (top ++ Path.parse config.outputDir).names =
        top.names ++ (Path.parse config.outputDir).names :=
      congrArg Path.names (if_neg (Bool.eq_false_iff.1 isRelative))
    refine Disk.isNamed_of_resolve isPlaced ?_ isPlace
    rw [isBelow]
    exact List.forall_mem_append.2 ⟨topNamed.no_slash, Path.parse_no_slash _⟩

include isFile

/-- What a slice command asks for is there, or why it is not is accounted for. -/
theorem accounts_requested : FailsOnly (Accounts workspace sliceSpec parsed)
    (requested workspace parsed root file).outcome := by
  obtain ⟨rootMember, fileMember, sources, _⟩ := mem_pathArguments_slice parsed
  obtain ⟨rootAsked, _⟩ := asked_of_pathOf isPlaced rootMember isRoot
  obtain ⟨fileAsked, _⟩ := asked_of_pathOf isPlaced fileMember isFile
  rw [outcome_requested]
  refine .bind ((Workspace.explains_load rootAsked).mono fun _ => .of_explains) fun config _ => ?_
  refine .bind ((fault_optionalPath sources).mono fun _ => .inr) fun sourcesDir areSources => ?_
  refine .bind (accounts_seedNames isPlaced fileAsked) fun seeds _ => ?_
  have areWithin : Workspace.SourcesWithin (Asked workspace (pathArguments sliceSpec parsed))
      sourcesDir := by
    intro directory isDirectory
    obtain ⟨isAsked, spelled⟩ :=
      asked_of_optionalPath isPlaced sources areSources directory isDirectory
    exact ⟨.of_asked isAsked, spelled⟩
  exact .bind ((Workspace.explains_buildSlice isPlaced (knows_asked isPlaced _) fileAsked rootAsked
    areWithin config).mono fun _ => .of_explains) fun _ _ => .ok _

/-- A slice command succeeds, reports its failure with the exit code one, or meets a fault. -/
theorem slice_endsFor : EndsFor False (Fault workspace sliceSpec parsed)
    (slice workspace parsed root file).ending (slice workspace parsed root file).errors := by
  unfold slice
  dsimp only
  split
  · next failure failed =>
    exact failedEffect_endsFor id _ _ _ (accounts_requested isPlaced isRoot isFile failure failed)
  · next config cut isRequested =>
    split
    · exact .success id
    · have isConfig := load_of_requested isRequested
      split
      · next failure failed =>
        exact failedEffect_endsFor id _ _ _
          (accounts_chosenDirectory isPlaced isRoot isConfig failure failed)
      · next directory isDirectory =>
        have named := isNamed_of_chosenDirectory isPlaced isRoot isDirectory
        split
        · exact .success id
        · exact .refusal id (reason_ne_empty _ _)
        · next written failure notAccess isWritten =>
          have isRefused : (workspace.writeSlice directory cut).2 = .error failure := by
            rw [isWritten]
          obtain ⟨errno, place, rfl⟩ := Disk.access_writeSlice named cut failure isRefused
          exact absurd rfl (notAccess errno place)

end Slice

/-! ### Resolving -/

theorem mem_pathArguments_resolve (parsed : Parsed) :
    (parsed.value? "--start").join ∈ pathArguments resolveSpec parsed ∧
      (parsed.value? "--sources-dir").join ∈ pathArguments resolveSpec parsed := by
  rw [pathArguments, if_neg (by decide), if_pos (show resolveSpec.name = "resolve" from rfl)]
  exact ⟨by simp, by simp⟩

/-- A resolve command succeeds, reports its failure with the exit code one, or meets a fault. -/
theorem resolve_endsFor {start sourcesDir : Path} (isPlaced : workspace.IsPlaced)
    (isStart : pathOf workspace (parsed.value? "--start").join = .ok start)
    (areSources : pathOf workspace (parsed.value? "--sources-dir").join = .ok sourcesDir) :
    EndsFor False (Fault workspace resolveSpec parsed)
      (resolve workspace start sourcesDir).ending (resolve workspace start sourcesDir).errors := by
  obtain ⟨startMember, sourcesMember⟩ := mem_pathArguments_resolve parsed
  obtain ⟨startAsked, _⟩ := asked_of_pathOf isPlaced startMember isStart
  obtain ⟨sourcesAsked, spelled⟩ := asked_of_pathOf isPlaced sourcesMember areSources
  have areWithin : Workspace.SourcesWithin (Asked workspace (pathArguments resolveSpec parsed))
      (some sourcesDir) := by
    intro directory isDirectory
    obtain rfl := Option.some.inj isDirectory
    exact ⟨.of_asked sourcesAsked, spelled⟩
  unfold resolve
  dsimp only
  split
  · next failure failed =>
    refine failedEffect_endsFor id _ _ _ (.of_explains ?_)
    exact Workspace.explains_selectFiles isPlaced (knows_asked isPlaced _) startAsked areWithin {}
      failure failed
  · exact .success id

/-! ### Checking -/

theorem mem_pathArguments_verify (parsed : Parsed) :
    (parsed.value? "--root").getD (some ".") ∈ pathArguments verifySpec parsed ∧
      parsed.file ∈ pathArguments verifySpec parsed ∧
      (parsed.value? "--artifacts-dir").join ∈ pathArguments verifySpec parsed ∧
      (parsed.value? "--sources-dir").toList ⊆ pathArguments verifySpec parsed := by
  rw [pathArguments, if_neg (by decide), if_neg (by decide)]
  exact ⟨by simp, by simp, by simp, List.subset_append_right _ _⟩

theorem nameLines_ne_empty {names : List String} (nonempty : names ≠ []) :
    nameLines names ≠ "" := by
  obtain ⟨first, rest, rfl⟩ := List.exists_cons_of_ne_nil nonempty
  rw [nameLines, List.map_cons, String.join_cons]
  simp

/-- A difference is said. -/
theorem differenceLines_ne_empty {difference : Difference} (differs : ¬ difference.isNone = true) :
    differenceLines difference ≠ "" := by
  refine nameLines_ne_empty fun isEmpty => differs ?_
  simpa [Difference.isNone, and_assoc] using isEmpty

/-- The comparison that a command line asks for. -/
def compared (workspace : Workspace) (parsed : Parsed) (root file artifactsDir : Path) :
    Logged Difference := do
  let sourcesDir ← optionalPath workspace parsed "--sources-dir"
  workspace.verifySlice { startFile := file, root, sourcesDir } none artifactsDir

section Verify

variable {root file artifactsDir : Path}

/-- Where the comparison fails because there is no directory, a check ends with the exit code
two. -/
theorem verify_of_isMissing {failure : Failure} (isMissing : failure.IsMissing)
    (failed : (compared workspace parsed root file artifactsDir).outcome = .error failure) :
    (verify workspace parsed root file artifactsDir).ending = .exit 2 ∧
      (verify workspace parsed root file artifactsDir).errors ≠ "" := by
  have isSaid : ∀ text, reason "artifacts-dir" artifactsDir.text ++ reason "error" text ≠ "" := by
    simp [reason]
  unfold verify
  dsimp only
  split
  · next difference isOk => cases isOk.symm.trans failed
  · next other isOther =>
    obtain rfl := Except.error.inj (isOther.symm.trans failed)
    unfold Failure.IsMissing at isMissing
    split at isMissing
    · exact ⟨rfl, isSaid _⟩
    · exact ⟨rfl, isSaid _⟩
    · exact ⟨rfl, isSaid _⟩
    · exact ⟨rfl, isSaid _⟩
    · exact isMissing.elim

/-- Where the comparison fails for another reason, a check fails as other commands do. -/
theorem verify_of_not_isMissing {failure : Failure} (notMissing : ¬ failure.IsMissing)
    (failed : (compared workspace parsed root file artifactsDir).outcome = .error failure) :
    verify workspace parsed root file artifactsDir =
      failedEffect workspace.toDisk (compared workspace parsed root file artifactsDir).log file
        failure := by
  unfold verify
  dsimp only
  split
  · next difference isOk => cases isOk.symm.trans failed
  · next other isOther =>
    obtain rfl := Except.error.inj (isOther.symm.trans failed)
    split
    · exact absurd trivial notMissing
    · exact absurd trivial notMissing
    · exact absurd trivial notMissing
    · exact absurd trivial notMissing
    · rfl

variable (isPlaced : workspace.IsPlaced)
  (isRoot : pathOf workspace ((parsed.value? "--root").getD (some ".")) = .ok root)
  (isFile : pathOf workspace parsed.file = .ok file)
  (areArtifacts : pathOf workspace (parsed.value? "--artifacts-dir").join = .ok artifactsDir)

/-- Where there is no directory, the comparison fails for that, or for a fault. -/
theorem exists_compared_missing (isNone : workspace.isDirectory artifactsDir = .ok false)
    (parsed : Parsed) (root file : Path) :
    ∃ failure, (compared workspace parsed root file artifactsDir).outcome = .error failure ∧
      (failure.IsMissing ∨ Fault workspace verifySpec parsed failure) := by
  obtain ⟨_, _, _, sources⟩ := mem_pathArguments_verify parsed
  rw [compared, Logged.outcome_bind, Logged.outcome_liftM]
  cases areSources : optionalPath workspace parsed "--sources-dir" with
  | error failure => exact ⟨failure, rfl, .inr (fault_optionalPath sources failure areSources)⟩
  | ok sourcesDir =>
    obtain ⟨failure, isMissing, failed⟩ := Workspace.exists_verifySlice_missing isNone
      { startFile := file, root, sourcesDir } none
    exact ⟨failure, failed, .inl isMissing⟩

include isPlaced isRoot isFile areArtifacts

/-- Where there is a directory, it can be compared, or why it cannot be is accounted for. -/
theorem accounts_compared (isThere : workspace.isDirectory artifactsDir ≠ .ok false) :
    FailsOnly (Accounts workspace verifySpec parsed)
      (compared workspace parsed root file artifactsDir).outcome := by
  obtain ⟨rootMember, fileMember, artifactsMember, sources⟩ := mem_pathArguments_verify parsed
  obtain ⟨rootAsked, _⟩ := asked_of_pathOf isPlaced rootMember isRoot
  obtain ⟨fileAsked, _⟩ := asked_of_pathOf isPlaced fileMember isFile
  obtain ⟨artifactsAsked, _⟩ := asked_of_pathOf isPlaced artifactsMember areArtifacts
  refine .bind_logged ((fault_optionalPath sources).mono fun _ => .inr) fun sourcesDir areSources =>
    (Workspace.explains_verifySlice isPlaced (knows_asked isPlaced _) fileAsked rootAsked ?_
      artifactsAsked isThere).mono fun _ => .of_explains
  intro directory isDirectory
  obtain ⟨isAsked, spelled⟩ :=
    asked_of_optionalPath isPlaced sources areSources directory isDirectory
  exact ⟨.of_asked isAsked, spelled⟩

/-- A check ends with the exit code two just where there is no directory, unless it meets a
fault. -/
theorem verify_endsFor : EndsFor (workspace.isDirectory artifactsDir = .ok false)
    (Fault workspace verifySpec parsed) (verify workspace parsed root file artifactsDir).ending
    (verify workspace parsed root file artifactsDir).errors := by
  by_cases isNone : workspace.isDirectory artifactsDir = .ok false
  · obtain ⟨failure, failed, isMissing | isFault⟩ :=
      exists_compared_missing isNone parsed root file
    · obtain ⟨isExit, isSaid⟩ := verify_of_isMissing isMissing failed
      rw [isExit]
      exact .nothing isNone isSaid
    · rw [verify_of_not_isMissing (Accounts.not_isMissing (.inr isFault)) failed]
      exact failedEffect_of_fault _ _ _ isFault
  · cases outcome : (compared workspace parsed root file artifactsDir).outcome with
    | error failure =>
      have accounted := accounts_compared isPlaced isRoot isFile areArtifacts isNone failure outcome
      rw [verify_of_not_isMissing accounted.not_isMissing outcome]
      exact failedEffect_endsFor isNone _ _ _ accounted
    | ok difference =>
      unfold verify
      dsimp only
      split
      · next other isOther =>
        split
        · exact .success isNone
        · next differs => exact .refusal isNone (differenceLines_ne_empty differs)
      · next failure failed => cases failed.symm.trans outcome

end Verify

/-! ### Runs -/

/-- The disk with the log file that a command line names, which is opened before the command
starts. -/
def openLog (workspace : Workspace) (parsed : Parsed) : Except Failure Disk := do
  match ← optionalPath workspace parsed "--log-file" with
  | some path => workspace.append path []
  | none => .ok workspace.toDisk

/-- Opening a log file leaves the working directory and the home where they are. -/
theorem isPlaced_of_openLog {opened : Disk} (isPlaced : workspace.IsPlaced)
    (isOpened : openLog workspace parsed = .ok opened) : opened.IsPlaced := by
  obtain ⟨logFile, isLogFile, isOpened⟩ := bind_eq_ok_iff.1 isOpened
  cases logFile with
  | none =>
    obtain rfl := Except.ok.inj isOpened
    exact isPlaced
  | some path =>
    obtain ⟨whole, isWritten⟩ := Disk.exists_write_of_append isOpened
    obtain ⟨_, _, _, rfl, _⟩ :=
      Disk.of_write (isAbsolute_of_optionalPath isLogFile path rfl) isWritten
    exact ⟨isPlaced.directory, isPlaced.home⟩

/-- Holds of a command line that asks for a check of what is no directory. -/
def ChecksNoDirectory (workspace : Workspace) (spec : CommandSpec) (parsed : Parsed) : Prop :=
  spec = verifySpec ∧ ∃ artifactsDir,
    pathOf workspace (parsed.value? "--artifacts-dir").join = .ok artifactsDir ∧
      workspace.isDirectory artifactsDir = .ok false

theorem logged_eq (stamp : String) (command : Workspace → Except Failure Effect) :
    logged workspace stamp parsed command =
      match openLog workspace parsed with
      | .error failure => failedReport workspace.toDisk failure
      | .ok opened =>
        match command (workspace.onDisk opened) with
        | .error failure => failedReport opened failure
        | .ok effect =>
          report (if parsed.gave "--verbose" then Level.debug else Level.info) stamp
            ((optionalPath workspace parsed "--log-file").toOption.join) effect := by
  unfold logged openLog
  cases optionalPath workspace parsed "--log-file" with
  | error failure => rfl
  | ok logFile => cases logFile <;> rfl

/-- Holds of a command that ends for the faults of its command line, or before it starts. -/
def CommandEnds (workspace : Workspace) (spec : CommandSpec) (parsed : Parsed)
    (outcome : Except Failure Effect) : Prop :=
  FailsOnly (Fault workspace spec parsed) outcome ∧ ∀ effect, outcome = .ok effect →
    EndsFor (ChecksNoDirectory workspace spec parsed) (Fault workspace spec parsed) effect.ending
      effect.errors

/-- A command with its logging set up ends as the command does, unless the log file cannot be
opened. -/
theorem logged_endsFor {stamp : String} {command : Workspace → Except Failure Effect}
    (ends : ∀ opened, openLog workspace parsed = .ok opened →
      CommandEnds (workspace.onDisk opened) spec parsed (command (workspace.onDisk opened))) :
    EndsFor (∃ opened, openLog workspace parsed = .ok opened ∧
        ChecksNoDirectory (workspace.onDisk opened) spec parsed)
      (fun failure => openLog workspace parsed = .error failure ∨
        ∃ opened, openLog workspace parsed = .ok opened ∧
          Fault (workspace.onDisk opened) spec parsed failure)
      (logged workspace stamp parsed command).ending
      (logged workspace stamp parsed command).errors := by
  rw [logged_eq]
  cases isOpened : openLog workspace parsed with
  | error failure => exact .inr ⟨failure, rfl, .inl rfl⟩
  | ok opened =>
    obtain ⟨fails, endsFor⟩ := ends opened isOpened
    dsimp only
    cases isEffect : command (workspace.onDisk opened) with
    | error failure => exact .inr ⟨failure, rfl, .inr ⟨opened, rfl, fails failure isEffect⟩⟩
    | ok effect =>
      rcases endsFor effect isEffect with
        ⟨code, isExit, atMostTwo, isSaid, isTwo⟩ | ⟨failure, isFailed, isFault⟩
      · refine .inl ⟨code, isExit, atMostTwo, fun nonzero isEmpty => ?_, isTwo.trans ?_⟩
        · exact isSaid nonzero (String.append_eq_empty_iff.1 isEmpty).2
        · constructor
          · exact fun checks => ⟨opened, rfl, checks⟩
          · rintro ⟨other, isOther, checks⟩
            obtain rfl := Except.ok.inj isOther
            exact checks
      · exact .inr ⟨failure, isFailed, .inr ⟨opened, rfl, isFault⟩⟩

section Commands

variable (isPlaced : workspace.IsPlaced)

include isPlaced

theorem commandEnds_slice : CommandEnds workspace sliceSpec parsed (do
    let root ← pathOf workspace ((parsed.value? "--root").getD (some "."))
    return slice workspace parsed root (← pathOf workspace parsed.file)) := by
  constructor
  · obtain ⟨rootMember, fileMember, _⟩ := mem_pathArguments_slice parsed
    exact .bind (fault_pathOf rootMember) fun _ _ =>
      .bind (fault_pathOf fileMember) fun _ _ => .ok _
  · intro effect isEffect
    obtain ⟨root, isRoot, isEffect⟩ := bind_eq_ok_iff.1 isEffect
    obtain ⟨file, isFile, isEffect⟩ := bind_eq_ok_iff.1 isEffect
    obtain rfl := Except.ok.inj isEffect
    refine (slice_endsFor isPlaced isRoot isFile).congr (iff_of_false id ?_)
    exact fun checks => absurd (congrArg CommandSpec.name checks.1) (by decide)

theorem commandEnds_resolve : CommandEnds workspace resolveSpec parsed (do
    let start ← pathOf workspace (parsed.value? "--start").join
    return resolve workspace start
      (← pathOf workspace (parsed.value? "--sources-dir").join)) := by
  constructor
  · obtain ⟨startMember, sourcesMember⟩ := mem_pathArguments_resolve parsed
    exact .bind (fault_pathOf startMember) fun _ _ =>
      .bind (fault_pathOf sourcesMember) fun _ _ => .ok _
  · intro effect isEffect
    obtain ⟨start, isStart, isEffect⟩ := bind_eq_ok_iff.1 isEffect
    obtain ⟨sourcesDir, areSources, isEffect⟩ := bind_eq_ok_iff.1 isEffect
    obtain rfl := Except.ok.inj isEffect
    refine (resolve_endsFor isPlaced isStart areSources).congr (iff_of_false id ?_)
    exact fun checks => absurd (congrArg CommandSpec.name checks.1) (by decide)

theorem commandEnds_verify : CommandEnds workspace verifySpec parsed (do
    let root ← pathOf workspace ((parsed.value? "--root").getD (some "."))
    let path ← pathOf workspace parsed.file
    return verify workspace parsed root path
      (← pathOf workspace (parsed.value? "--artifacts-dir").join)) := by
  constructor
  · obtain ⟨rootMember, fileMember, artifactsMember, _⟩ := mem_pathArguments_verify parsed
    exact .bind (fault_pathOf rootMember) fun _ _ => .bind (fault_pathOf fileMember) fun _ _ =>
      .bind (fault_pathOf artifactsMember) fun _ _ => .ok _
  · intro effect isEffect
    obtain ⟨root, isRoot, isEffect⟩ := bind_eq_ok_iff.1 isEffect
    obtain ⟨file, isFile, isEffect⟩ := bind_eq_ok_iff.1 isEffect
    obtain ⟨artifactsDir, areArtifacts, isEffect⟩ := bind_eq_ok_iff.1 isEffect
    obtain rfl := Except.ok.inj isEffect
    refine (verify_endsFor isPlaced isRoot isFile areArtifacts).congr ?_
    constructor
    · exact fun isNone => ⟨rfl, artifactsDir, areArtifacts, isNone⟩
    · rintro ⟨_, other, isOther, isNone⟩
      obtain rfl := Except.ok.inj (areArtifacts.symm.trans isOther)
      exact isNone

end Commands

/-- A run whose stack has room for all its walks ends with an exit code of at most two, or with a
failure that is not reported for a known reason. -/
theorem run_endsFor (isPlaced : workspace.IsPlaced) (stamp : String) {arguments : List String}
    (isParsed : parse program commands arguments = .ok (spec, parsed))
    (isCommand : spec ∈ [sliceSpec, resolveSpec, verifySpec]) :
    EndsFor (∃ opened, openLog workspace parsed = .ok opened ∧
        ChecksNoDirectory (workspace.onDisk opened) spec parsed)
      (fun failure => openLog workspace parsed = .error failure ∨
        ∃ opened, openLog workspace parsed = .ok opened ∧
          Fault (workspace.onDisk opened) spec parsed failure)
      (run workspace stamp arguments).ending (run workspace stamp arguments).errors := by
  rw [run, isParsed]
  dsimp only
  have opens : ∀ opened, openLog workspace parsed = .ok opened →
      (workspace.onDisk opened).IsPlaced := fun opened => isPlaced_of_openLog isPlaced
  simp only [List.mem_cons, List.not_mem_nil, or_false] at isCommand
  rcases isCommand with rfl | rfl | rfl
  · rw [runCommand, if_neg (by decide), if_pos (show sliceSpec.name = "slice" from rfl)]
    exact logged_endsFor fun opened isOpened => commandEnds_slice (opens opened isOpened)
  · rw [runCommand, if_neg (by decide), if_neg (by decide),
      if_pos (show resolveSpec.name = "resolve" from rfl)]
    exact logged_endsFor fun opened isOpened => commandEnds_resolve (opens opened isOpened)
  · rw [runCommand, if_neg (by decide), if_neg (by decide), if_neg (by decide)]
    exact logged_endsFor fun opened isOpened => commandEnds_verify (opens opened isOpened)

/-! ### Runs on a bounded stack -/

/-- How many levels a walk can go down, each by a call inside the one before; a hundred calls are
more than are open around any walk. -/
def levelRoom (disk : Disk) : Nat :=
  disk.callRoom - 100

/-- The links of a tree. -/
def links (tree : FileTree) : List (Location × Entry) :=
  tree.entries.filter fun item => item.2 matches .link _

/-- Holds of a command line whose run may walk further down than it has calls for: through
directories in directories, through links in the targets of links, each of which can be written from
the root or not, or through the missing directories above an output directory. -/
inductive IsDeep (workspace : Workspace) (spec : CommandSpec) (parsed : Parsed) : Prop
  | directories {item : Location × Entry} (member : item ∈ workspace.tree.entries)
    (isDeep : levelRoom workspace.toDisk < item.1.length) : IsDeep workspace spec parsed
  | links (areMany : levelRoom workspace.toDisk < 2 * (links workspace.tree).length) :
    IsDeep workspace spec parsed
  | output {root directory : Path} {config : Config} (isSlice : spec = sliceSpec)
    (isRoot : pathOf workspace ((parsed.value? "--root").getD (some ".")) = .ok root)
    (isConfig : Config.load workspace.toDisk root = .ok config)
    (isChosen : chosenDirectory workspace parsed root config = .ok directory)
    (isDeep : levelRoom workspace.toDisk < directory.names.length) : IsDeep workspace spec parsed

/-- Holds of how a run can end and what it then says on the error output: as it does on a stack with
room for all its walks or, where these may go too far down, with a failure for that. -/
inductive CanEnd (workspace : Workspace) (stamp : String) (arguments : List String) :
    Ending → String → Prop
  | runs : CanEnd workspace stamp arguments (run workspace stamp arguments).ending
      (run workspace stamp arguments).errors
  | givesUp {spec : CommandSpec} {parsed : Parsed} {errors : String}
    (isParsed : parse program commands arguments = .ok (spec, parsed))
    (isDeep : IsDeep workspace spec parsed) :
    CanEnd workspace stamp arguments (.failed .tooDeep) errors

section Unusable

variable {root file : Path} {content : Bytes} {failure : Failure}
  (isRead : workspace.read (root.child Config.fileName) = .ok content)
  (isUnusable : Config.Unusable workspace.callRoom content failure)

include isRead isUnusable

/-- A configuration that is of no use ends every slice of its root with a failure that is not
reported. -/
theorem slice_of_unusable : (slice workspace parsed root file).ending = .failed failure := by
  have notRequested : (requested workspace parsed root file).outcome = .error failure := by
    rw [outcome_requested, Config.load_of_unusable isRead isUnusable]
    rfl
  have unreported : reportedUnder? file failure = none := by cases isUnusable <;> rfl
  unfold slice
  dsimp only
  split
  · next other isOther =>
    obtain rfl := Except.error.inj (isOther.symm.trans notRequested)
    rw [failedEffect, unreported]
  · next config cut isRequested => cases isRequested.symm.trans notRequested

end Unusable

end Command

namespace Garbled

open Command

/-- A tree with a file to slice and a configuration that is no text. -/
def tree : FileTree where
  entries := [(["A.swift"], .file LinkedConfig.source), ([Config.fileName], .file [255])]
  distinct := by decide
  named := by
    simp
    decide
  rooted := by simp [DirectoryIn]

/-- The workspace of the tree. -/
def workspace : Workspace where
  tree := tree
  directory := []
  home := []
  grammar := fun _ => LinkedConfig.file

def arguments : List String :=
  ["slice", "/A.swift", "--root", "/"]

def parsed : Parsed where
  file := some "/A.swift"
  values := [("--root", some "/")]

theorem parse_arguments : parse program commands arguments = .ok (sliceSpec, parsed) := by
  rfl

theorem isPlaced : workspace.IsPlaced where
  directory := fun _ member => absurd member List.not_mem_nil
  home := fun _ member => absurd member List.not_mem_nil

theorem isResolved {name : String} (isName : IsFileName name ∧ name.utf8ByteSize ≤ nameLimit) :
    tree.IsResolved (Disk.pathOf [name]) :=
  Disk.isResolved_of_linkFree (by simp [tree])
    fun _ member => List.mem_singleton.1 member ▸ isName

theorem pathOf_root : Command.pathOf workspace (some "/") = .ok (Disk.pathOf []) :=
  Disk.normalize_of_isResolved (.root tree)

theorem pathOf_start :
    Command.pathOf workspace (some "/A.swift") = .ok (Disk.pathOf ["A.swift"]) := by
  rw [Command.pathOf, show Path.parse "/A.swift" = Disk.pathOf ["A.swift"] by decide]
  exact Disk.normalize_of_isResolved (isResolved (by decide))

theorem read_config : workspace.read ((Disk.pathOf []).child Config.fileName) = .ok [255] :=
  Disk.read_eq_ok_iff.2
    (Disk.entry_of_present (isResolved (by decide)) (by decide) (by decide))

/-- The run ends with a failure that is not reported. -/
theorem run_arguments (stamp : String) :
    (run workspace stamp arguments).ending = .failed .undecodable := by
  have isBroken : decode? [255] = none := by decide
  obtain ⟨_, runEnding⟩ := run_of_slice stamp parse_arguments (by decide) pathOf_root pathOf_start
  exact runEnding.trans (slice_of_unusable read_config (.undecodable isBroken))

end Garbled

namespace Command

end Command

end SwiftSlice

/-
Every step of a run, from the collecting of the sources to the check of what was
written, fails in words that a command reports, or for a defect of what was asked
for. The paths that are met on the way are places of their own: each is absolute and
made of file names, so that reading it is refused by the file system or not at all.
The same holds of writing.
-/

import SwiftSlice.Proofs.Defect
import SwiftSlice.Proofs.Writing

namespace SwiftSlice

open Text

namespace Workspace

variable {workspace : Workspace} {asked : Path → Prop} {path base : Path}

/-! ### Collecting -/

/-- A file is collected or passed over, unless the grammar cuts it in the middle of a character. -/
theorem defect_collectFile {file place : Path} (within : Within asked file)
    (isPlace : workspace.normalize file = .ok place) (named : IsNamed place.names)
    (startIndex : Int) :
    FailsOnly (workspace.Defect asked) (workspace.collectFile place startIndex).outcome := by
  rw [outcome_collectFile]
  split
  · next source isRead =>
    split
    · next wellFormed =>
      split
      · exact .ok _
      · next isCut => exact .error (.source within isPlace isRead wellFormed isCut)
    · exact .ok _
  · exact .ok _
  · next failure notAccess failed =>
    obtain ⟨errno, refused, rfl⟩ := Disk.access_of_read_error named.checkNames failed
    exact absurd rfl (notAccess errno refused)

theorem defect_collectFiles {files : List Path}
    (areFound : ∀ file ∈ files, Within asked file ∧
      ∃ place, workspace.normalize file = .ok place ∧ IsNamed place.names) (startIndex : Int) :
    FailsOnly (workspace.Defect asked) (workspace.collectFiles startIndex files).outcome := by
  induction files generalizing startIndex with
  | nil => exact .ok []
  | cons file rest inductionHypothesis =>
    obtain ⟨⟨within, place, isPlace, named⟩, areRest⟩ := List.forall_mem_cons.1 areFound
    rw [outcome_collectFiles_cons]
    refine .bind (.of_eq_ok isPlace) fun other isOther => ?_
    obtain rfl := Except.ok.inj (isPlace.symm.trans isOther)
    refine .bind (defect_collectFile within isPlace named _) fun found _ => ?_
    cases found with
    | none => exact inductionHypothesis areRest startIndex
    | some record => exact .bind (inductionHypothesis areRest _) fun _ _ => .ok _

/-- Holds of a directory of sources, if there is one, that is spelled and within what is asked
for. -/
def SourcesWithin (asked : Path → Prop) (sourcesDir : Option Path) : Prop :=
  ∀ directory ∈ sourcesDir, Within asked directory ∧ directory.IsSpelled

theorem defect_candidateFiles {sourcesDir : Option Path}
    (areSources : SourcesWithin asked sourcesDir) (config : Config) :
    FailsOnly (workspace.Defect asked) (workspace.candidateFiles sourcesDir config) := by
  cases sourcesDir with
  | none => exact .ok []
  | some directory =>
    obtain ⟨within, spelled⟩ := areSources directory rfl
    exact defect_swiftFiles within spelled _

theorem exists_place_of_candidate {sourcesDir : Option Path} {config : Config} {files : List Path}
    (areSources : SourcesWithin asked sourcesDir)
    (scanned : workspace.candidateFiles sourcesDir config = .ok files) :
    ∀ file ∈ files, Within asked file ∧
      ∃ place, workspace.normalize file = .ok place ∧ IsNamed place.names := by
  cases sourcesDir with
  | none =>
    obtain rfl := Except.ok.inj scanned
    exact fun file member => absurd member List.not_mem_nil
  | some directory =>
    obtain ⟨within, spelled⟩ := areSources directory rfl
    exact exists_place_of_scanned within spelled scanned

/-! ### Cutting -/

/-- A preview is extracted unless there is none, which is reported. -/
theorem reported_extractSnippet (named : IsNamed path.names) :
    FailsOnly Failure.IsReported (workspace.extractSnippet path) := by
  unfold extractSnippet
  split
  · exact .error fun _ => rfl
  · next failure notAccess failed =>
    obtain ⟨errno, refused, rfl⟩ := Disk.access_of_read_error named.checkNames failed
    exact absurd rfl (notAccess errno refused)
  · split
    · exact .error fun _ => rfl
    · dsimp only
      split
      · exact .error fun _ => rfl
      · exact .ok _

/-- Imports are extracted from any file, also from one that cannot be read. -/
theorem exists_extractImports (workspace : Workspace) (named : IsNamed path.names) :
    ∃ modules, (workspace.extractImports path).outcome = .ok modules := by
  unfold extractImports
  split
  · exact ⟨_, rfl⟩
  · exact ⟨∅, rfl⟩
  · next failure notAccess failed =>
    obtain ⟨errno, refused, rfl⟩ := Disk.access_of_read_error named.checkNames failed
    exact absurd rfl (notAccess errno refused)

/-- A path that has no one form is a defect. -/
theorem defect_normalize (isAsked : asked path) :
    FailsOnly (workspace.Defect asked) (workspace.normalize path) :=
  fun _ failed => .unresolved isAsked failed

/-! ### Configurations -/

/-- A configuration that is there is loaded unless it is malformed, which is reported, or of no
use. -/
theorem explains_load {root : Path} (isAsked : asked root) :
    FailsOnly (workspace.Explains asked) (Config.load workspace.toDisk root) := by
  refine .bind (defect_isFile ((Within.of_asked isAsked).child _)).explained fun found isFound => ?_
  split
  · exact .ok _
  · next isThere =>
    obtain rfl : found = true := by simpa using isThere
    obtain ⟨content, isFile⟩ := Disk.isFile_eq_true_iff.1 isFound
    have isRead := Disk.read_eq_ok_iff.2 isFile
    refine .bind (.of_eq_ok isRead) fun other isOther => ?_
    obtain rfl := Except.ok.inj (isRead.symm.trans isOther)
    split
    · next isBroken => exact .error (.inr (.config isAsked isRead (.undecodable isBroken)))
    · next text isText =>
      split
      · exact .error (.inl fun _ => rfl)
      · next digits isHuge =>
        exact .error (.inr (.config isAsked isRead (.hugeInteger isText isHuge)))
      · next isDeep => exact .error (.inr (.config isAsked isRead (.tooDeep isText isDeep)))
      · next data _ =>
        cases Config.ofData data with
        | ok config => exact .ok config
        | error problem => exact .error (.inl fun _ => rfl)

/-- An output directory is placed unless it is refused, which is reported, or it has no one
form. -/
theorem explains_placeOutput {root : Path} {config : Config} (isAsked : asked root)
    (isAbsolute : root.isAbsolute = true)
    (isConfig : Config.load workspace.toDisk root = .ok config) :
    FailsOnly (workspace.Explains asked)
      (Config.placeOutput workspace.toDisk root config.outputDir) := by
  have isHere : workspace.normalize root = workspace.resolve root := by
    obtain ⟨anchor, names⟩ := root
    cases anchor with
    | relative => cases isAbsolute
    | absolute => rfl
    | doubled => rfl
  unfold Config.placeOutput
  split
  · exact .error (.inl fun _ => rfl)
  · split
    · exact .error (.inl fun _ => rfl)
    · refine .bind (isHere ▸ defect_normalize isAsked).explained fun top isTop => ?_
      refine .bind (fun failure failed => .inr (.output isAsked isConfig isTop failed))
        fun output _ => ?_
      split
      · exact .ok output
      · exact .error (.inl fun _ => rfl)

section Asked

variable {startFile root : Path} {sourcesDir : Option Path}
  (isPlaced : workspace.IsPlaced) (knows : workspace.Knows asked)

include knows

theorem defect_sourcesDir? (isRoot : asked root) (isAsked : asked startFile) :
    FailsOnly (workspace.Defect asked) (workspace.sourcesDir? startFile root) := by
  refine .bind (defect_normalize isRoot) fun top isTop => ?_
  refine .bind (defect_normalize isAsked) fun place isPlace => ?_
  split
  · exact .bind (defect_isDirectory ((Within.of_asked (knows.known isRoot isTop)).child _))
      fun _ _ => .ok _
  · exact .ok none

/-- The sources are located unless a defect is met. -/
theorem defect_locateSources {start : Path} {request : SliceRequest} (isRoot : asked request.root)
    (isAsked : asked start) :
    FailsOnly (workspace.Defect asked) (workspace.locateSources start request).outcome := by
  rw [outcome_locateSources]
  split
  · exact .ok _
  · exact defect_sourcesDir? knows isRoot isAsked

include isPlaced

theorem isSpelled_of_asked {place : Path} (isAsked : asked path)
    (normalized : workspace.normalize path = .ok place) : place.IsSpelled :=
  Disk.isSpelled_of_normalize isPlaced (knows.noSlash isAsked) normalized

/-- Sources are collected unless a defect is met, or the start file cannot be read, which is
reported. -/
theorem explains_collectSources (isAsked : asked startFile)
    (areSources : SourcesWithin asked sourcesDir) (config : Config) :
    FailsOnly (workspace.Explains asked)
      (workspace.collectSources startFile sourcesDir config).outcome := by
  rw [outcome_collectSources]
  refine .bind (defect_normalize isAsked).explained fun start isStart => ?_
  refine .bind (defect_candidateFiles areSources config).explained fun files areFiles => ?_
  have areFound := exists_place_of_candidate areSources areFiles
  refine .bind (defect_collectFiles areFound 0).explained fun scanned _ => ?_
  split
  · exact .ok scanned
  · have named := (isSpelled_of_asked isPlaced knows isAsked isStart).named
    have collects := defect_collectFile (Within.of_asked isAsked) isStart named
    refine .bind (collects _).explained fun found _ => ?_
    cases found with
    | none => exact .error (.inl fun _ => rfl)
    | some record => exact .ok _

theorem explains_select (isAsked : asked startFile) (areSources : SourcesWithin asked sourcesDir)
    (seeds : NameSet) (config : Config) :
    FailsOnly (workspace.Explains asked)
      (workspace.select startFile sourcesDir seeds config).outcome := by
  rw [outcome_select]
  exact .bind (explains_collectSources isPlaced knows isAsked areSources config) fun _ _ =>
    .bind (defect_normalize isAsked).explained fun _ _ => .ok _

theorem explains_selectFiles (isAsked : asked startFile)
    (areSources : SourcesWithin asked sourcesDir) (config : Config) :
    FailsOnly (workspace.Explains asked)
      (workspace.selectFiles startFile sourcesDir config).outcome :=
  .bind_logged (explains_collectSources isPlaced knows isAsked areSources config) fun _ _ =>
    .bind_logged (defect_normalize isAsked).explained fun _ _ => .ok _

/-- The directory of the sources is looked for below the root, so it is within what is asked
for. -/
theorem sourcesWithin_of_sourcesDir? (isRoot : asked root) (isAsked : asked startFile)
    (found : workspace.sourcesDir? startFile root = .ok sourcesDir) :
    SourcesWithin asked sourcesDir := by
  obtain ⟨top, isTop, found⟩ := bind_eq_ok_iff.1 found
  obtain ⟨place, isPlace, found⟩ := bind_eq_ok_iff.1 found
  have topSpelled := isSpelled_of_asked isPlaced knows isRoot isTop
  have placeNamed := (isSpelled_of_asked isPlaced knows isAsked isPlace).named
  split at found
  · next anchor first second rest isRelative =>
    obtain ⟨isDirectory, _, found⟩ := bind_eq_ok_iff.1 found
    obtain rfl := Except.ok.inj found
    intro directory isCandidate
    split at isCandidate
    · obtain rfl := Option.some.inj isCandidate
      have isName : IsFileName first := by
        refine placeNamed first ?_
        rw [Path.names_of_relativeTo? isRelative]
        exact List.mem_append_right _ List.mem_cons_self
      have named : IsNamed [first] := fun name member => List.mem_singleton.1 member ▸ isName
      exact ⟨(Within.of_asked (knows.known isRoot isTop)).child first, topSpelled.append named⟩
    · cases isCandidate
  · obtain rfl := Except.ok.inj found
    exact fun directory isNone => nomatch isNone

theorem sourcesWithin_of_locateSources {start : Path} {request : SliceRequest}
    (isRoot : asked request.root) (isAsked : asked start)
    (areGiven : SourcesWithin asked request.sourcesDir)
    (located : (workspace.locateSources start request).outcome = .ok sourcesDir) :
    SourcesWithin asked sourcesDir := by
  rw [outcome_locateSources] at located
  split at located
  · next directory isGiven =>
    obtain rfl := Except.ok.inj located
    exact isGiven ▸ areGiven
  · exact sourcesWithin_of_sourcesDir? isPlaced knows isRoot isAsked located

/-- A slice is cut unless a defect is met, or what is refused is reported. -/
theorem explains_buildSlice {request : SliceRequest} (isAsked : asked request.startFile)
    (isRoot : asked request.root) (areGiven : SourcesWithin asked request.sourcesDir)
    (config : Config) :
    FailsOnly (workspace.Explains asked) (workspace.buildSlice request config).outcome := by
  refine .bind_logged (defect_normalize isAsked).explained fun start isStart => ?_
  have isKnown := knows.known isAsked isStart
  have named := (isSpelled_of_asked isPlaced knows isAsked isStart).named
  refine .bind_logged (reported_extractSnippet named).reported fun body _ => ?_
  refine .bind_logged (.ok ()) fun _ _ => ?_
  refine .bind_logged (defect_locateSources knows isRoot isKnown).explained
    fun sourcesDir isLocated => ?_
  have areSources := sourcesWithin_of_locateSources isPlaced knows isRoot isKnown areGiven isLocated
  refine .bind_logged (explains_select isPlaced knows isKnown areSources _ config) fun _ _ => ?_
  obtain ⟨modules, isModules⟩ := workspace.exists_extractImports named
  exact .bind_logged (.of_eq_ok isModules) fun _ _ => .ok _

end Asked

/-! ### Checking -/

/-- A directory is compared with a slice unless one of the paths below it is too long. -/
theorem defect_compareSlice {artifactsDir : Path} (within : Within asked artifactsDir)
    (slice : Slice) :
    FailsOnly (workspace.Defect asked) (compareSlice workspace.toDisk artifactsDir slice) := by
  refine .bind (.bind (.filterM fun relative member => ?_) fun _ _ => .ok _) fun _ _ => .ok _
  obtain ⟨item, _, rfl⟩ := List.mem_map.1 member
  exact defect_isFile (within.append item.1)

section Missing

variable {request : SliceRequest} {artifactsDir : Path}

/-- Where there is no directory to check, nothing else is looked at. -/
theorem exists_verifySlice_missing (isNone : workspace.isDirectory artifactsDir = .ok false)
    (request : SliceRequest) (given : Option Config) :
    ∃ failure : Failure, failure.IsMissing ∧
      (workspace.verifySlice request given artifactsDir).outcome = .error failure := by
  obtain ⟨found, isFound, isOther⟩ := bind_eq_ok_iff.1 isNone
  have isThere : workspace.pathExists artifactsDir = .ok found.isSome := by
    rw [Disk.pathExists, isFound]
    rfl
  rw [verifySlice, Logged.outcome_bind, Logged.outcome_liftM, isThere]
  cases found with
  | none => exact ⟨.artifactsMissing artifactsDir.text, trivial, rfl⟩
  | some entry =>
    refine ⟨.artifactsNotDirectory artifactsDir.text, trivial, ?_⟩
    show (_ >>= _ : Logged _).outcome = _
    rw [Logged.outcome_bind, Logged.outcome_liftM, isNone]
    rfl

/-- A directory is checked unless a defect is met, or what is refused is reported. -/
theorem explains_verifySlice (isPlaced : workspace.IsPlaced) (knows : workspace.Knows asked)
    (isAsked : asked request.startFile) (isRoot : asked request.root)
    (areGiven : SourcesWithin asked request.sourcesDir) (isArtifacts : asked artifactsDir)
    (isThere : workspace.isDirectory artifactsDir ≠ .ok false) :
    FailsOnly (workspace.Explains asked)
      (workspace.verifySlice request none artifactsDir).outcome := by
  have within := Within.of_asked isArtifacts
  refine .bind_logged (.bind (defect_probe within).explained fun _ _ => .ok _)
    fun found isFound => ?_
  split
  · next isNone =>
    obtain rfl : found = false := by simpa using isNone
    exact absurd (Disk.isDirectory_of_missing isFound) isThere
  · refine .bind_logged (defect_isDirectory within).explained fun isDirectory tested => ?_
    split
    · next isNone =>
      obtain rfl : isDirectory = false := by simpa using isNone
      exact absurd tested isThere
    · refine .bind_logged (explains_load isRoot) fun config isConfig => ?_
      refine .bind_logged (explains_buildSlice isPlaced knows isAsked isRoot areGiven config)
        fun slice _ => ?_
      refine .bind_logged (.ok ()) fun _ _ => ?_
      exact (defect_compareSlice within slice).explained

end Missing

end Workspace

/-! ### Writing -/

/-- Holds of the refusals of the file system. -/
def Failure.IsAccess (failure : Failure) : Prop :=
  ∃ errno place, failure = .access errno place

namespace Disk

variable {disk : Disk} {path : Path} (named : IsNamed path.names)

include named

theorem access_checkPath : FailsOnly Failure.IsAccess (checkPath path) := by
  refine .bind (.of_eq_ok named.checkNames) fun _ _ => ?_
  split
  · exact .error ⟨_, _, rfl⟩
  · exact .ok ()

theorem access_walkTo (creates : Bool) :
    FailsOnly Failure.IsAccess (disk.walkTo creates path) := by
  refine .bind (access_checkPath named) fun _ _ => ?_
  cases disk.tree.walk creates linkLimit (disk.origin path) path.names with
  | error errno => exact .error ⟨_, _, rfl⟩
  | ok spot => exact .ok spot

theorem access_makeOne : FailsOnly Failure.IsAccess (disk.makeOne path) := by
  refine .bind (access_checkPath named) fun _ _ => ?_
  split
  · refine .bind (fun failure failed => ?_) fun _ _ => .error ⟨_, _, rfl⟩
    cases isFound : disk.entry path with
    | ok found =>
      rw [isFound] at failed
      cases failed
    | error other =>
      rw [isFound] at failed
      obtain rfl : other = failure := Except.error.inj failed
      exact access_of_entry_error named.checkNames isFound
  · refine .bind (fun failure failed => ?_) fun spot _ => ?_
    · cases walked : disk.spot path.parent with
      | ok spot =>
        rw [walked] at failed
        cases failed
      | error other =>
        rw [walked] at failed
        have above : IsNamed path.parent.names := named.dropLast
        obtain ⟨errno, place, rfl⟩ := access_walkTo above false other walked
        exact ⟨_, _, (Except.error.inj failed).symm⟩
    · split
      · exact .error ⟨_, _, rfl⟩
      · split
        · exact .error ⟨_, _, rfl⟩
        · split
          · exact .error ⟨_, _, rfl⟩
          · split
            · exact .error ⟨_, _, rfl⟩
            · exact .ok _

omit named in
theorem access_tolerate {failure : Failure} (isAccess : failure.IsAccess) :
    FailsOnly Failure.IsAccess (disk.tolerate path failure) := by
  obtain ⟨errno, place, rfl⟩ := isAccess
  have tested : FailsOnly Failure.IsAccess (disk.probe path) :=
    (FailsOnly.probe disk path).mono fun failure isLong => ⟨_, isLong⟩
  refine .bind (.bind tested fun _ _ => .ok _) fun isDirectory _ => ?_
  split
  · exact .ok ()
  · exact .error ⟨_, _, rfl⟩

theorem access_makeDirectories : FailsOnly Failure.IsAccess (disk.makeDirectories path).2 := by
  -- The cases: made; refused at the root; made with those above it; refused although those above it
  -- are made; refused above; and refused for another reason than that something above is missing.
  fun_induction Disk.makeDirectories disk path with
  | case1 => exact .ok ()
  | case2 => exact .error ⟨_, _, rfl⟩
  | case3 => exact .ok ()
  | case4 path place missed nonempty above isAbove failure failed =>
    exact access_tolerate (access_makeOne named failure failed)
  | case5 path place missed nonempty above failure failed inductionHypothesis =>
    rw [failed] at inductionHypothesis
    exact inductionHypothesis named.dropLast
  | case6 path failure notMissed failed =>
    exact access_tolerate (access_makeOne named failure failed)

theorem access_write (content : Bytes) :
    FailsOnly Failure.IsAccess (disk.write path content) := by
  refine .bind (access_walkTo named true) fun spot _ => ?_
  cases spot with
  | free location => exact .ok _
  | taken location =>
    dsimp only
    split
    · exact .error ⟨_, _, rfl⟩
    · exact .ok _

theorem access_writeFiles {files : List (String × Bytes)}
    (areNamed : ∀ file ∈ files, IsFileName file.1) :
    FailsOnly Failure.IsAccess (disk.writeFiles path files).2 := by
  induction files generalizing disk with
  | nil => exact .ok ()
  | cons file rest inductionHypothesis =>
    obtain ⟨isName, areRest⟩ := List.forall_mem_cons.1 areNamed
    have childNamed : IsNamed (path.child file.1).names :=
      named.append fun name member => List.mem_singleton.1 member ▸ isName
    rw [writeFiles]
    split
    · exact inductionHypothesis areRest
    · next failure failed => exact .error (access_write childNamed file.2 failure failed)

/-- Writing a slice into a directory made of file names is refused by the file system, or by
nothing. -/
theorem access_writeSlice (slice : Slice) :
    FailsOnly Failure.IsAccess (disk.writeSlice path slice).2 := by
  have isMade : FailsOnly Failure.IsAccess (disk.makeDirectories path).2 :=
    access_makeDirectories named
  rw [writeSlice]
  split
  · exact access_writeFiles named fun file member => (slice.isFileName_artifacts file member).1
  · next above failure failed =>
    rw [failed] at isMade
    exact isMade

end Disk

end SwiftSlice

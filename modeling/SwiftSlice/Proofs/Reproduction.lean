/-
Slices can be reproduced. Cutting a slice reads the configuration, the start file,
and the sources with their ignore files; writing it adds a directory and files
that none of these readings meets. So cutting it again gives the same slice, and a
check of the files that were written finds no difference.
-/

import Mathlib
import SwiftSlice.Proofs.Defect
import SwiftSlice.Proofs.Rescanning

namespace SwiftSlice

open Text

namespace Logged

/-- Two continuations that agree on the value of a computation give the same. -/
theorem bind_congr_of_outcome {first : Logged α} {next other : α → Logged β}
    (same : ∀ value, first.outcome = .ok value → next value = other value) :
    first >>= next = first >>= other := by
  show Logged.bind first next = Logged.bind first other
  unfold Logged.bind
  split
  · rfl
  · next value isValue => rw [same value isValue]

end Logged

namespace Workspace

/-- The workspace with another disk. -/
abbrev onDisk (workspace : Workspace) (disk : Disk) : Workspace :=
  { workspace with toDisk := disk }

variable {workspace : Workspace} {directory : Location} {files : List (String × Bytes)}
  {grown : Disk} (undisturbed : Disk.Undisturbed directory files workspace.toDisk grown)

/-! ### Collecting anew -/

section SameRead

variable {path : Path} (sameRead : grown.read path = workspace.read path)

include sameRead

theorem extractSnippet_eq : (workspace.onDisk grown).extractSnippet path =
    workspace.extractSnippet path := by
  rw [extractSnippet, extractSnippet, sameRead]

theorem extractImports_eq : (workspace.onDisk grown).extractImports path =
    workspace.extractImports path := by
  rw [extractImports, extractImports, sameRead]

theorem collectFile_eq (startIndex : Int) : (workspace.onDisk grown).collectFile path startIndex =
    workspace.collectFile path startIndex := by
  rw [collectFile, collectFile, sameRead]

end SameRead

/-- A file with a preview can be read. -/
theorem exists_read_of_extractSnippet {path : Path} {body : String}
    (extracted : workspace.extractSnippet path = .ok body) :
    ∃ content, workspace.read path = .ok content := by
  rw [extractSnippet] at extracted
  split at extracted
  · cases extracted
  · cases extracted
  · next content isRead => exact ⟨content, isRead⟩

include undisturbed

/-- A path that leads to a file is normalized as before, and what it stands for is read as
before. -/
theorem exists_location_of_entry {location : Location} {found : Entry}
    (isFound : workspace.entry (Disk.pathOf location) = .ok found) :
    ∃ last, workspace.normalize (Disk.pathOf location) = .ok (Disk.pathOf last) ∧
      grown.normalize (Disk.pathOf location) = .ok (Disk.pathOf last) ∧
      grown.read (Disk.pathOf last) = workspace.read (Disk.pathOf last) := by
  obtain ⟨last, resolved, resolvedLater, held⟩ := undisturbed.resolve_of_entry isFound
  refine ⟨last, resolved, resolvedLater, ?_⟩
  exact Disk.Undisturbed.read_eq_of_entry_eq (undisturbed.entry_present_eq (by rw [held]; simp))

theorem collectFiles_eq {paths : List Path}
    (areFiles : ∀ path ∈ paths, ∃ location content, path = Disk.pathOf location ∧
      workspace.entry path = .ok (.file content)) (startIndex : Int) :
    (workspace.onDisk grown).collectFiles startIndex paths =
      workspace.collectFiles startIndex paths := by
  induction paths generalizing startIndex with
  | nil => rfl
  | cons path rest inductionHypothesis =>
    obtain ⟨location, content, rfl, isFound⟩ := areFiles path List.mem_cons_self
    obtain ⟨last, normalized, normalizedLater, sameRead⟩ :=
      exists_location_of_entry undisturbed isFound
    have sameRest := inductionHypothesis fun other member =>
      areFiles other (List.mem_cons_of_mem _ member)
    rw [collectFiles, collectFiles, normalized, normalizedLater]
    refine Logged.bind_congr_of_outcome fun path isPath => ?_
    obtain rfl := Except.ok.inj isPath
    rw [collectFile_eq sameRead]
    simp only [sameRest]

/-- Holds of the directory of the sources, if there is one, when it can be scanned with the same
outcome. -/
def SourcesApart (workspace : Workspace) (grown : Disk) (directory : Location)
    (sourcesDir : Option Path) : Prop :=
  ∀ base ∈ sourcesDir, ∃ location, base = Disk.pathOf location ∧ ¬ location <+: directory ∧
    Disk.Undisturbed.Scannable workspace.toDisk grown location

theorem collectSources_eq {start : Location} {found : Entry} {sourcesDir : Option Path}
    (isStart : workspace.entry (Disk.pathOf start) = .ok found)
    (apart : workspace.SourcesApart grown directory sourcesDir) (config : Config) :
    (workspace.onDisk grown).collectSources (Disk.pathOf start) sourcesDir config =
      workspace.collectSources (Disk.pathOf start) sourcesDir config := by
  obtain ⟨last, normalized, normalizedLater, sameRead⟩ :=
    exists_location_of_entry undisturbed isStart
  have sameFiles : grown.candidateFiles sourcesDir config =
      workspace.candidateFiles sourcesDir config := by
    cases sourcesDir with
    | none => rfl
    | some base =>
      obtain ⟨location, rfl, isApart, scannable⟩ := apart base rfl
      exact undisturbed.swiftFiles_eq isApart scannable _
  rw [collectSources, collectSources, normalized, normalizedLater]
  refine Logged.bind_congr_of_outcome fun path isPath => ?_
  obtain rfl := Except.ok.inj isPath
  rw [sameFiles]
  refine Logged.bind_congr_of_outcome fun paths isPaths => ?_
  have areFiles : ∀ path ∈ paths, ∃ location content, path = Disk.pathOf location ∧
      workspace.entry path = .ok (.file content) := by
    cases sourcesDir with
    | none =>
      obtain rfl := Except.ok.inj isPaths
      exact fun path member => absurd member List.not_mem_nil
    | some base =>
      obtain ⟨location, rfl, _⟩ := apart base rfl
      exact fun path member => Disk.of_mem_swiftFiles isPaths member
  rw [collectFiles_eq undisturbed areFiles]
  simp only [collectFile_eq sameRead]

theorem select_eq {start : Location} {found : Entry} {sourcesDir : Option Path}
    (isStart : workspace.entry (Disk.pathOf start) = .ok found)
    (apart : workspace.SourcesApart grown directory sourcesDir) (seeds : NameSet)
    (config : Config) :
    (workspace.onDisk grown).select (Disk.pathOf start) sourcesDir seeds config =
      workspace.select (Disk.pathOf start) sourcesDir seeds config := by
  obtain ⟨last, normalized, normalizedLater, _⟩ := exists_location_of_entry undisturbed isStart
  rw [select, select, collectSources_eq undisturbed isStart apart, normalized, normalizedLater]

/-! ### Cutting anew -/

theorem locateSources_eq {start : Location} {found : Entry} {request : SliceRequest}
    (isRoot : workspace.tree.IsResolved request.root)
    (isStart : workspace.entry (Disk.pathOf start) = .ok found) :
    (workspace.onDisk grown).locateSources (Disk.pathOf start) request =
      workspace.locateSources (Disk.pathOf start) request := by
  rw [locateSources, locateSources, (undisturbed.sourcesDir?_eq isRoot isStart ⟨start, rfl⟩).1]

/-- The directory of the sources, given or found, can be scanned with the same outcome if the output
is not at or below it. -/
theorem sourcesApart_of_locateSources {start : Location} {found : Entry} {request : SliceRequest}
    {sourcesDir : Option Path} (isRoot : workspace.tree.IsResolved request.root)
    (areSources : ∀ base ∈ request.sourcesDir, workspace.tree.IsResolved base)
    (isStart : workspace.entry (Disk.pathOf start) = .ok found)
    (located : (workspace.locateSources (Disk.pathOf start) request).outcome = .ok sourcesDir)
    (apart : ∀ base ∈ sourcesDir, ¬ base.names <+: directory) :
    workspace.SourcesApart grown directory sourcesDir := by
  rintro base isBase
  obtain rfl := Option.mem_def.1 isBase
  rw [outcome_locateSources] at located
  split at located
  · next given isGiven =>
    obtain rfl := Option.some.inj (Except.ok.inj located)
    have isResolved := areSources given isGiven
    refine ⟨given.names, isResolved.eq_pathOf, apart given rfl, ?_⟩
    exact undisturbed.scannable_of_isResolved (isResolved.eq_pathOf ▸ isResolved) (apart given rfl)
  · obtain ⟨location, rfl, isDirectory⟩ :=
      (undisturbed.sourcesDir?_eq isRoot isStart ⟨start, rfl⟩).2 base located
    exact ⟨location, rfl, apart _ rfl, undisturbed.scannable_of_directory isDirectory⟩

/-- Cutting a slice anew gives the same slice. -/
theorem buildSlice_eq {request : SliceRequest} {config : Config} {slice : Slice}
    (isRoot : workspace.tree.IsResolved request.root)
    (areSources : ∀ base ∈ request.sourcesDir, workspace.tree.IsResolved base)
    (apart : ∀ start sourcesDir, workspace.normalize request.startFile = .ok start →
      (workspace.locateSources start request).outcome = .ok sourcesDir →
      ∀ base ∈ sourcesDir, ¬ base.names <+: directory)
    (built : (workspace.buildSlice request config).outcome = .ok slice) :
    (workspace.onDisk grown).buildSlice request config = workspace.buildSlice request config := by
  rw [buildSlice, Logged.outcome_bind, bind_eq_ok_iff] at built
  obtain ⟨path, normalized, built⟩ := built
  rw [Logged.outcome_liftM] at normalized
  obtain ⟨start, rfl⟩ := Disk.exists_pathOf_of_normalize normalized
  rw [Logged.outcome_bind, bind_eq_ok_iff] at built
  obtain ⟨body, extracted, _⟩ := built
  rw [Logged.outcome_liftM] at extracted
  obtain ⟨content, isRead⟩ := exists_read_of_extractSnippet extracted
  have isStart := Disk.read_eq_ok_iff.1 isRead
  have sameEntry := (undisturbed.entry_eq_ok isStart).trans isStart.symm
  have sameRead := Disk.Undisturbed.read_eq_of_entry_eq sameEntry
  have normalizedLater := undisturbed.normalize_eq_ok normalized isStart
  rw [buildSlice, buildSlice, normalized, normalizedLater]
  refine Logged.bind_congr_of_outcome fun path isPath => ?_
  obtain rfl := Except.ok.inj isPath
  rw [extractSnippet_eq sameRead, extractImports_eq sameRead,
    locateSources_eq undisturbed isRoot isStart]
  refine bind_congr fun body => bind_congr fun _ => Logged.bind_congr_of_outcome ?_
  intro sourcesDir located
  have isApart := sourcesApart_of_locateSources undisturbed isRoot areSources isStart located
    (apart _ sourcesDir normalized located)
  rw [select_eq undisturbed isStart isApart]
  rfl

/-! ### Comparing -/

omit undisturbed

theorem text_single (name : String) : (⟨.relative, [name]⟩ : Path).text = name := by
  simp [Path.text, Anchor.text]

/-- The files that are found in a directory that holds a slice and nothing else. -/
theorem filesBelow_eq {out : Path} {slice : Slice}
    (isBelow : grown.below out = slice.artifacts.map fun file => ([file.1], .file file.2))
    (areFiles : ∀ file ∈ slice.artifacts, grown.isFile (out.child file.1) = .ok true) :
    filesBelow grown out = .ok (NameSet.ofList (slice.artifacts.map (·.1))) := by
  have relatives : (grown.below out).map (fun item => (⟨.relative, item.1⟩ : Path)) =
      slice.artifacts.map fun file => ⟨.relative, [file.1]⟩ := by
    rw [isBelow, List.map_map]
    rfl
  have passed : ∀ relative ∈ slice.artifacts.map (fun file => (⟨.relative, [file.1]⟩ : Path)),
      grown.isFile (out ++ relative) = .ok true := by
    intro relative member
    obtain ⟨file, isFile, rfl⟩ := List.mem_map.1 member
    exact areFiles file isFile
  rw [filesBelow, relatives, filterM_of_all passed]
  refine congrArg (fun names => Except.ok (NameSet.ofList names)) ?_
  rw [List.map_map]
  exact List.map_congr_left fun file _ => text_single file.1

/-- A directory that holds a slice and nothing else does not differ from it. -/
theorem compareSlice_eq {out : Path} {slice : Slice}
    (isBelow : grown.below out = slice.artifacts.map fun file => ([file.1], .file file.2))
    (areRead : ∀ file ∈ slice.artifacts, grown.read (out.child file.1) = .ok file.2) :
    compareSlice grown out slice = .ok ⟨[], [], []⟩ := by
  have found : filesBelow grown out = _ := filesBelow_eq isBelow fun file isFile =>
    Disk.isFile_eq_true_iff.2 ⟨file.2, Disk.read_eq_ok_iff.1 (areRead file isFile)⟩
  have noMismatch : (NameSet.ofList (slice.artifacts.map (·.1))).toList.filter (fun name =>
      (NameSet.ofList (slice.artifacts.map (·.1))).contains name &&
        (grown.read (out.child name)).toOption != slice.artifacts.lookup name) = [] := by
    refine List.filter_eq_nil_iff.2 fun name member differs => ?_
    rw [NameSet.mem_toList, NameSet.mem_ofList] at member
    obtain ⟨file, isFile, rfl⟩ := List.mem_map.1 member
    have isContent := (FileTree.lookup_eq_some_iff_mem file.1 file.2 slice.artifacts
      slice.distinct_artifacts).2 isFile
    rw [areRead file isFile, isContent] at differs
    simp [Except.toOption] at differs
  rw [compareSlice, found]
  exact congrArg Except.ok (by rw [Difference.mk.injEq]; exact ⟨noMismatch,
    NameSet.toList_diff_self _, NameSet.toList_diff_self _⟩)

/-! ### Checking what was written -/

/-- A check of a directory compares it with the slice that is cut. -/
theorem outcome_verifySlice {request : SliceRequest} {given : Option Config} {config : Config}
    {out : Path} {slice : Slice} (isDirectory : workspace.entry out = .ok .directory)
    (isConfig : workspace.configFor request.root given = .ok config)
    (built : (workspace.buildSlice request config).outcome = .ok slice) :
    (workspace.verifySlice request given out).outcome =
      compareSlice workspace.toDisk out slice := by
  have isThere : workspace.pathExists out = .ok true := by
    rw [Disk.pathExists, Disk.probe_eq_some_iff.2 isDirectory]
    rfl
  rw [verifySlice, Logged.outcome_bind, Logged.outcome_liftM, isThere]
  show (_ >>= _ : Logged _).outcome = _
  rw [Logged.outcome_bind, Logged.outcome_liftM, Disk.isDirectory_eq_true_iff.2 isDirectory]
  show (_ >>= _ : Logged _).outcome = _
  rw [Logged.outcome_bind, Logged.outcome_liftM, isConfig]
  show (_ >>= _ : Logged _).outcome = _
  rw [Logged.outcome_bind, built]
  rfl

/-- A slice is prepared for the directory that is given, or else for that of the configuration. -/
theorem of_prepareSlice {request : SliceRequest} {given : Option Config} {outDir : Option Path}
    {directory : Path} {slice : Slice}
    (prepared : (workspace.prepareSlice request given outDir).outcome = .ok (slice, directory)) :
    ∃ config, workspace.configFor request.root given = .ok config ∧
      (workspace.buildSlice request config).outcome = .ok slice ∧
      workspace.outputDirectory request.root config outDir = .ok directory := by
  rw [prepareSlice, Logged.outcome_bind, bind_eq_ok_iff] at prepared
  obtain ⟨config, isConfig, prepared⟩ := prepared
  rw [Logged.outcome_bind, bind_eq_ok_iff] at prepared
  obtain ⟨chosen, isChosen, prepared⟩ := prepared
  rw [Logged.outcome_bind, bind_eq_ok_iff] at prepared
  obtain ⟨cut, isCut, prepared⟩ := prepared
  obtain ⟨rfl, rfl⟩ := Prod.mk.inj (Except.ok.inj prepared)
  exact ⟨config, isConfig, isCut, isChosen⟩

/-- What is left of a slice that was cut and written. -/
theorem of_generateSlice {request : SliceRequest} {given : Option Config} {out : Path}
    {report : SliceReport}
    (generated : (workspace.generateSlice request given (some out)).2.outcome = .ok report) :
    ∃ config slice, workspace.configFor request.root given = .ok config ∧
      (workspace.buildSlice request config).outcome = .ok slice ∧
      workspace.writeSlice out slice =
        ((workspace.generateSlice request given (some out)).1, .ok ()) := by
  rw [generateSlice] at generated ⊢
  cases isPrepared : (workspace.prepareSlice request given (some out)).outcome with
  | error failure =>
    rw [isPrepared] at generated
    cases generated
  | ok prepared =>
    obtain ⟨slice, directory⟩ := prepared
    obtain ⟨config, isConfig, built, isDirectory⟩ := of_prepareSlice isPrepared
    obtain rfl := Except.ok.inj isDirectory
    rw [isPrepared] at generated
    refine ⟨config, slice, isConfig, built, ?_⟩
    dsimp only at generated ⊢
    rw [Logged.outcome_bind, isPrepared] at generated
    obtain ⟨_, _, generated⟩ := bind_eq_ok_iff.1 generated
    rw [Logged.outcome_bind] at generated
    obtain ⟨_, written, _⟩ := bind_eq_ok_iff.1 generated
    exact Prod.ext rfl written

/-- The directory that a slice was written into does not differ from the slice. -/
theorem compareSlice_written {out : Path} {slice : Slice} (isOut : grown.tree.IsResolved out)
    (checked : Disk.checkPath out = .ok ())
    (isDirectory : grown.tree.entry? out.names = some .directory)
    (isBelow : grown.tree.below out.names =
      slice.artifacts.map fun file => ([file.1], .file file.2))
    (checkedFiles : ∀ file ∈ slice.artifacts, Disk.checkPath (out.child file.1) = .ok ()) :
    compareSlice grown out slice = .ok ⟨[], [], []⟩ := by
  refine compareSlice_eq ?_ fun file isFile => Disk.read_eq_ok_iff.2 ?_
  · rw [Disk.below, Disk.spot_of_present isOut checked (by rw [isDirectory]; simp)]
    exact isBelow
  · have found : grown.tree.entry? (out.names ++ [file.1]) = some (.file file.2) := by
      have member : ([file.1], Entry.file file.2) ∈ grown.tree.below out.names := by
        rw [isBelow]
        exact List.mem_map.2 ⟨file, isFile, rfl⟩
      exact (FileTree.mem_below_iff.1 member).2
    have isChild := isOut.child (slice.isFileName_artifacts file isFile) (by rw [found]; simp)
    exact Disk.entry_of_present isChild (checkedFiles file isFile) found

/-- A slice that was cut and written can be reproduced: cut anew on the disk that the writing
leaves, it is the same, and a check of the directory finds nothing missing, extra or different. The
root, the directory of the sources if it is given, and the output directory are resolved paths; the
output directory was absent or empty, is not at or below the directory of the sources, and no link
breaks off at it, below it or on the way to it. -/
theorem verifySlice_generateSlice (workspace : Workspace) (request : SliceRequest)
    (config : Option Config) (out : Path) (report : SliceReport)
    (isRoot : workspace.tree.IsResolved request.root)
    (areSources : ∀ base ∈ request.sourcesDir, workspace.tree.IsResolved base)
    (isOut : workspace.tree.IsResolved out) (empty : workspace.tree.below out.names = [])
    (apart : ∀ start sourcesDir, workspace.normalize request.startFile = .ok start →
      (workspace.locateSources start request).outcome = .ok sourcesDir →
      ∀ base ∈ sourcesDir, ¬ base.names <+: out.names)
    (avoided : workspace.tree.LinksAvoid out.names)
    (generated : (workspace.generateSlice request config (some out)).2.outcome = .ok report) :
    ((workspace.onDisk (workspace.generateSlice request config (some out)).1).verifySlice
      request config out).outcome = .ok ⟨[], [], []⟩ := by
  obtain ⟨used, slice, isConfig, built, written⟩ := of_generateSlice generated
  obtain ⟨grows, ⟨checked, isDirectory⟩, isBelow, checkedFiles⟩ :=
    Disk.writeSlice_of_isResolved isOut empty written
  have undisturbed : Disk.Undisturbed out.names slice.artifacts workspace.toDisk
      (workspace.generateSlice request config (some out)).1 := ⟨grows, avoided⟩
  have isOutLater := undisturbed.isResolved isOut
  have configLater : (workspace.onDisk (workspace.generateSlice request config
      (some out)).1).configFor request.root config = .ok used := by
    cases config with
    | some given => exact isConfig
    | none => exact (undisturbed.configLoad_eq isRoot slice.ne_configName_artifacts).trans isConfig
  have builtLater : ((workspace.onDisk (workspace.generateSlice request config
      (some out)).1).buildSlice request used).outcome = .ok slice := by
    rw [buildSlice_eq undisturbed isRoot areSources apart built, built]
  rw [outcome_verifySlice (Disk.entry_of_present isOutLater checked isDirectory) configLater
    builtLater]
  exact compareSlice_written isOutLater checked isDirectory isBelow checkedFiles

/-! ### A configuration behind a link -/

/-- A slice that can be cut and written is generated. -/
theorem generateSlice_succeeds {request : SliceRequest} {given : Option Config} {config : Config}
    {slice : Slice} {out : Path} (isConfig : workspace.configFor request.root given = .ok config)
    (built : (workspace.buildSlice request config).outcome = .ok slice)
    (isWritten : ∃ written, workspace.writeSlice out slice = (written, .ok ())) :
    ∃ report, (workspace.generateSlice request given (some out)).2.outcome = .ok report := by
  obtain ⟨written, isWritten⟩ := isWritten
  have prepared : (workspace.prepareSlice request given (some out)).outcome = .ok (slice, out) := by
    rw [prepareSlice, Logged.outcome_bind, Logged.outcome_liftM, isConfig]
    show (_ >>= _ : Logged _).outcome = _
    rw [Logged.outcome_bind]
    show (_ >>= _ : Logged _).outcome = _
    rw [Logged.outcome_bind, built]
    rfl
  refine ⟨slice.report out, ?_⟩
  rw [generateSlice, prepared]
  dsimp only
  rw [Logged.outcome_bind, prepared, isWritten]
  rfl

end Workspace

namespace LinkedConfig

/-- The source of a file with a preview. -/
def source : Bytes :=
  encode "#Preview \x7bA\x7d"

def token (kind : String) (start stop : Nat) : Node :=
  .branch ⟨kind, none, false, false⟩ start stop []

/-- The syntax tree of the file. -/
def file : Node :=
  .branch ⟨"source_file", none, true, false⟩ 0 12
    [.branch ⟨"macro_invocation", none, true, false⟩ 0 12
      [.branch ⟨"lambda_literal", none, true, false⟩ 9 12 [token "\x7b" 9 10, token "\x7d" 11 12]]]

theorem snippetBody?_file : snippetBody? source file = some "A" := by
  decide +kernel

/-- Holds of a workspace with the file at the top of a project. -/
structure IsIn (workspace : Workspace) (root : Path) : Prop where
  grammar : workspace.grammar source = file
  isRoot : workspace.tree.IsResolved root
  found : workspace.tree.entry? (root.names ++ ["A.swift"]) = some (.file source)
  checked : Disk.checkPath (root.child "A.swift") = .ok ()

namespace IsIn

variable {workspace : Workspace} {root : Path} (isIn : IsIn workspace root)

include isIn

theorem isResolved : workspace.tree.IsResolved (root.child "A.swift") :=
  isIn.isRoot.child (by decide) (by
    intro other
    rw [isIn.found]
    simp)

theorem normalize : workspace.normalize (root.child "A.swift") = .ok (root.child "A.swift") :=
  Disk.normalize_of_isResolved isIn.isResolved

theorem read : workspace.read (root.child "A.swift") = .ok source :=
  Disk.read_eq_ok_iff.2 (Disk.entry_of_present isIn.isResolved isIn.checked isIn.found)

/-- No directory stands between the project and the file. -/
theorem sourcesDir?_eq : workspace.sourcesDir? (root.child "A.swift") root = .ok none := by
  have relative : (root.child "A.swift").relativeTo? root = some ⟨.relative, ["A.swift"]⟩ := by
    rw [Path.relativeTo?, if_pos (by simp [Path.child])]
    simp [Path.child]
  rw [Disk.sourcesDir?, Disk.normalize_of_isResolved isIn.isRoot, isIn.normalize]
  dsimp only [bind, Except.bind]
  rw [relative]

theorem extractSnippet_eq : workspace.extractSnippet (root.child "A.swift") = .ok (dedent "A") := by
  have nonBlank : trim (dedent "A") ≠ "" := by decide
  rw [Workspace.extractSnippet, isIn.read]
  dsimp only
  rw [isIn.grammar, snippetBody?_file]
  exact if_neg nonBlank

/-- No keyword of the file is cut. -/
theorem isReadable :
    (codeUnits source (workspace.grammar source)).all (·.isReadable source) = true := by
  rw [isIn.grammar]
  decide +kernel

variable {request : SliceRequest} (sameRoot : request.root = root)
  (notGiven : request.sourcesDir = none)

include sameRoot notGiven

/-- The file is sliced alone. -/
theorem outcome_locateSources :
    (workspace.locateSources (root.child "A.swift") request).outcome = .ok none := by
  rw [Workspace.outcome_locateSources, notGiven, sameRoot]
  exact isIn.sourcesDir?_eq

/-- The slice of the file can be cut. -/
theorem exists_buildSlice (isStart : request.startFile = root.child "A.swift") (config : Config) :
    ∃ slice, (workspace.buildSlice request config).outcome = .ok slice :=
  Workspace.outcome_buildSlice _ (isStart ▸ isIn.normalize) isIn.read isIn.extractSnippet_eq
    (isIn.outcome_locateSources sameRoot notGiven) fun seeds =>
      ⟨_, Workspace.outcome_select_alone isIn.normalize isIn.read (by decide) isIn.isReadable seeds
        config⟩

end IsIn

/-- The source of a file with a function. -/
def showSource : Bytes :=
  encode "func show() \x7b\x7d"

def showFile : Node :=
  .branch ⟨"source_file", none, true, false⟩ 0 14
    [.branch ⟨"function_declaration", none, true, false⟩ 0 14 []]

/-- A tree with the two files, one of them in a directory, an undecodable file, and a link in the
place of the configuration. -/
def tree (target : String) : FileTree where
  entries := [(["A.swift"], .file source), (["Sources"], .directory),
    (["Sources", "Show.swift"], .file showSource), (["shared"], .file [255]),
    (["previewslice.toml"], .link target)]
  distinct := by simp
  named := by
    simp
    decide
  rooted := by simp [DirectoryIn]

/-- The workspace of the tree. -/
def workspace (target : String) : Workspace where
  tree := tree target
  directory := []
  home := []
  grammar := fun content => if content = showSource then showFile else file

/-- The slice of the file with the preview. -/
def request : SliceRequest where
  startFile := Disk.pathOf ["A.swift"]
  root := Disk.pathOf []

/-- The slice of the file with what is found in the directory. -/
def scanning : SliceRequest :=
  { request with sourcesDir := some (Disk.pathOf ["Sources"]) }

/-- The directory that the slice is written into, inside of one that is missing too. -/
def out : Path :=
  Disk.pathOf ["gen", "out"]

variable (target : String)

theorem entry?_start : FileTree.entry? (tree target) ["A.swift"] = some (.file source) := by
  simp [tree, FileTree.entry?]

theorem entry?_shared : FileTree.entry? (tree target) ["shared"] = some (.file [255]) := by
  simp [tree, FileTree.entry?, List.lookup]

theorem entry?_gen : FileTree.entry? (tree target) ["gen"] = none := by
  simp [tree, FileTree.entry?]

theorem entry?_out : FileTree.entry? (tree target) ["gen", "out"] = none := by
  simp [tree, FileTree.entry?]

theorem entry?_config :
    FileTree.entry? (tree target) ["previewslice.toml"] = some (.link target) := by
  simp [tree, FileTree.entry?, List.lookup]

theorem below_out : (tree target).below ["gen", "out"] = [] := by
  refine List.filterMap_eq_nil_iff.2 ?_
  simp [tree]

/-- The tree has one link. -/
theorem eq_of_link {link : Location} {other : String}
    (isLink : FileTree.entry? (tree target) link = some (.link other)) :
    link = ["previewslice.toml"] := by
  have nonempty : link ≠ [] := by
    rintro rfl
    cases isLink
  have member := (FileTree.entry?_eq_some_iff nonempty _).1 isLink
  simp only [tree, List.mem_cons, Prod.mk.injEq, reduceCtorEq, and_false, false_or,
    List.not_mem_nil, or_false] at member
  exact member.1

/-- Nothing is in the way of the output directory. -/
theorem entry?_of_onTheWay {above : Location} (onTheWay : above <+: out.names) :
    FileTree.entry? (tree target) above = some .directory ∨
      FileTree.entry? (tree target) above = none := by
  have listed : above ∈ out.names.inits := (List.mem_inits _ _).2 onTheWay
  obtain rfl | rfl | rfl : above = [] ∨ above = ["gen"] ∨ above = ["gen", "out"] := by
    simpa [out, Disk.pathOf, List.inits] using listed
  · exact .inl rfl
  · exact .inr (entry?_gen target)
  · exact .inr (entry?_out target)

theorem isResolved_out : (tree target).IsResolved out where
  absolute := rfl
  named := by decide
  unlinked := by
    intro above other onTheWay
    rcases entry?_of_onTheWay target onTheWay with isDirectory | free
    · rw [isDirectory]
      simp
    · rw [free]
      simp

theorem isIn : IsIn (workspace target) (Disk.pathOf []) where
  grammar := by
    show (if source = showSource then showFile else file) = file
    exact if_neg (by decide)
  isRoot := .root (tree target)
  found := entry?_start target
  checked := by decide

theorem below_sources :
    (workspace target).tree.below ["Sources"] = [(["Show.swift"], .file showSource)] := by
  -- Only the names of the locations decide, so that the target is left alone.
  have rests : ["Sources"].isPrefixOf? ["A.swift"] = none ∧
      ["Sources"].isPrefixOf? ["Sources"] = some [] ∧
      ["Sources"].isPrefixOf? ["Sources", "Show.swift"] = some ["Show.swift"] ∧
      ["Sources"].isPrefixOf? ["shared"] = none ∧
      ["Sources"].isPrefixOf? ["previewslice.toml"] = none := by
    decide +kernel
  simp only [workspace, tree, FileTree.below, List.filterMap, rests]
  rfl

/-- The link is not on the way to the directory, nor below it. -/
theorem isPlain_sources : Disk.IsPlain (workspace target).tree ["Sources"] where
  linksAside := by
    rw [below_sources]
    intro item member other isLink
    obtain rfl : item = (["previewslice.toml"], .link target) := by
      simp only [workspace, tree, List.mem_cons, List.not_mem_nil, or_false] at member
      rcases member with rfl | rfl | rfl | rfl | isConfig
      case inr.inr.inr.inr => exact isConfig
      all_goals cases isLink
    show ∀ names ∈ [[], [".gitignore"], ["Show.swift"]],
      ¬ ["previewslice.toml"] <+: ["Sources"] ++ names
    decide
  isDirectory := by simp [workspace, tree, FileTree.entry?, List.lookup]
  noIgnoreFile := by simp [workspace, tree, FileTree.entry?, List.lookup]
  reachable := by
    rw [below_sources]
    decide
  swiftFile := by
    rw [below_sources]
    simp

theorem candidateFiles_sources :
    (workspace target).candidateFiles (some (Disk.pathOf ["Sources"])) {} =
      .ok [Disk.pathOf ["Sources", "Show.swift"]] := by
  have found : (workspace target).swiftFiles (Disk.pathOf ["Sources"]) (Config.scanRules {}) = _ :=
    (isPlain_sources target).swiftFiles_eq rfl
  rw [below_sources] at found
  exact found.trans (congrArg Except.ok (List.mergeSort_singleton _))

/-- What is collected from the file in the directory. -/
theorem collectFile_show :
    (workspace target).normalize (Disk.pathOf ["Sources", "Show.swift"]) =
        .ok (Disk.pathOf ["Sources", "Show.swift"]) ∧
      ((workspace target).collectFile (Disk.pathOf ["Sources", "Show.swift"]) 0).outcome =
        .ok (some (fileRecord showSource showFile "/Sources/Show.swift" 0)) := by
  have isResolved : (tree target).IsResolved (Disk.pathOf ["Sources", "Show.swift"]) :=
    (isPlain_sources target).isResolved (by rw [below_sources]; simp)
  have found : FileTree.entry? (tree target) ["Sources", "Show.swift"] = some (.file showSource) := by
    simp [tree, FileTree.entry?, List.lookup]
  have isRead : (workspace target).read (Disk.pathOf ["Sources", "Show.swift"]) = .ok showSource :=
    Disk.read_eq_ok_iff.2 (Disk.entry_of_present isResolved (by decide) found)
  have isFile : (workspace target).grammar showSource = showFile := by
    show (if showSource = showSource then showFile else file) = showFile
    exact if_pos rfl
  refine ⟨Disk.normalize_of_isResolved isResolved, ?_⟩
  rw [Workspace.outcome_collectFile_of_read isRead (by decide) (by rw [isFile]; decide +kernel),
    isFile]
  rfl

/-- The file with the preview is sliced with what is found in the directory. -/
theorem exists_select (seeds : NameSet) : ∃ selection,
    ((workspace target).select (Disk.pathOf ["A.swift"]) (some (Disk.pathOf ["Sources"])) seeds
      {}).outcome = .ok selection := by
  obtain ⟨normalized, collected⟩ := collectFile_show target
  have collectedAll := (workspace target).outcome_collectSources_beside (isIn target).normalize
    (candidateFiles_sources target)
    ((workspace target).outcome_collectFiles_of_collected normalized collected rfl)
    (by decide +kernel)
    (Workspace.outcome_collectFile_of_read (isIn target).read (by decide)
      (isIn target).isReadable _)
  rw [Workspace.outcome_select]
  exact ⟨_, bind_eq_ok_iff.2 ⟨_, collectedAll, bind_eq_ok_iff.2 ⟨_, (isIn target).normalize, rfl⟩⟩⟩

theorem exists_slice :
    ∃ slice, ((workspace target).buildSlice scanning {}).outcome = .ok slice :=
  Workspace.outcome_buildSlice _ (isIn target).normalize (isIn target).read
    (isIn target).extractSnippet_eq ((workspace target).outcome_locateSources _ scanning)
    (exists_select target)

/-- The link breaks off at the first name of its target, if nothing is there. -/
theorem walk_config (name : String) (isTarget : Path.components target = [name, "..", "shared"])
    (isName : IsFileName name ∧ name.utf8ByteSize ≤ nameLimit)
    (free : FileTree.entry? (tree target) [name] = none) :
    (tree target).walk false linkLimit [] ["previewslice.toml"] = .error .noEntry ∧
      (tree target).linkBreakOff? ["previewslice.toml"] = some [name] := by
  have short : ¬ nameLimit < "previewslice.toml".utf8ByteSize := by decide
  have isRoot : (tree target).isDirectory [] = true := rfl
  constructor
  · rw [FileTree.walk_cons (tree target) linkLimit [] rfl (by decide) (by decide) rfl,
      if_neg short, List.nil_append, entry?_config]
    show (tree target).walk false 39 (if _ then [] else []) (Path.components target ++ []) = _
    rw [ite_self, isTarget, List.append_nil, FileTree.walk_cons (tree target) 39 _ rfl
      isName.1.not_skipped isName.1.not_up rfl, if_neg (Nat.not_lt.2 isName.2), List.nil_append,
      free]
    rfl
  · show (tree target).breakOff? 40 [] ["previewslice.toml"] = some [name]
    rw [FileTree.breakOff?, isRoot, if_neg short, List.nil_append, entry?_config]
    show (tree target).breakOff? 39 (if _ then [] else []) (Path.components target ++ []) = _
    rw [ite_self, isTarget, List.append_nil, FileTree.breakOff?, isRoot,
      if_neg isName.1.not_skipped, if_neg isName.1.not_up, if_neg (Nat.not_lt.2 isName.2),
      List.nil_append, free]
    rfl

/-- The link stands for the file at the end of its target, whether it breaks off or not. -/
theorem resolve_config (name : String) (isTarget : Path.components target = [name, "..", "shared"])
    (isName : IsFileName name)
    (unlinked : ∀ other, FileTree.entry? (tree target) [name] ≠ some (.link other)) :
    (workspace target).resolve (Disk.pathOf ["previewslice.toml"]) =
      .ok (Disk.pathOf ["shared"]) := by
  have followed : follow (tree target) [] ⟨true, []⟩ [.name "previewslice.toml"] =
      .ok (.real ["shared"]) := by
    rw [follow_link (entry?_config target), isTarget]
    show follow _ _ (if _ then ⟨true, []⟩ else ⟨true, []⟩) _ = _
    have isFile : IsFileName "shared" := by decide
    rw [ite_self, List.map_cons, List.cons_append, follow_unlinked isName.not_skipped isName.not_up
      isName.no_nul unlinked, List.map_cons, List.cons_append, follow_up, List.map_cons,
      List.cons_append, follow_unlinked isFile.not_skipped isFile.not_up isFile.no_nul,
      List.map_nil, List.nil_append, follow, follow]
    · rfl
    · intro other isLink
      cases (entry?_shared target).symm.trans isLink
  rw [Disk.resolve]
  show (follow (tree target) [] ⟨true, []⟩ [.name "previewslice.toml"] >>= _) = _
  rw [followed]
  rfl

/-- A slice of the file is generated, if the link breaks off. -/
theorem exists_report (broken : (tree target).walk false linkLimit [] ["previewslice.toml"] =
      .error .noEntry) :
    ∃ report,
      ((workspace target).generateSlice scanning none (some out)).2.outcome = .ok report := by
  have noConfig : (workspace target).isFile (Disk.pathOf ["previewslice.toml"]) = .ok false := by
    have checked : Disk.checkPath (Disk.pathOf ["previewslice.toml"]) = .ok () := by decide
    have refused : (workspace target).entry (Disk.pathOf ["previewslice.toml"]) =
        .error (.access .noEntry "/previewslice.toml") := by
      rw [Disk.entry, Disk.spot, Disk.walkTo, checked]
      show (Disk.blame _ ((tree target).walk false linkLimit [] ["previewslice.toml"]) >>= _) = _
      rw [broken]
      rfl
    rw [Disk.isFile, Disk.probe, refused]
    rfl
  obtain ⟨slice, built⟩ := exists_slice target
  refine Workspace.generateSlice_succeeds (Disk.load_of_no_file noConfig) built ?_
  have checked : ∀ name ∈ Slice.fileNames, Disk.checkPath (out.child name) = .ok () := by
    decide
  refine Disk.writeSlice_succeeds (isResolved_out target) (entry?_out target) ?_
    (below_out target) (by decide) fun file member =>
      checked file.1 (slice.map_fst_artifacts ▸ List.mem_map_of_mem member)
  intro above content onTheWay isFile
  rcases entry?_of_onTheWay target onTheWay with isDirectory | free
  · cases isDirectory.symm.trans isFile
  · cases free.symm.trans isFile

/-- Once there is a directory at the first name of its target, the link leads to a configuration
that cannot be decoded. -/
theorem load_of_directory (name : String)
    (isTarget : Path.components target = [name, "..", "shared"]) {grown : Disk}
    {allowed : Location → Entry → Prop} (grows : FileTree.Grows allowed (tree target) grown.tree)
    (isDirectory : grown.tree.entry? [name] = some .directory)
    (short : name.utf8ByteSize ≤ nameLimit) :
    Config.load grown (Disk.pathOf []) = .error .undecodable := by
  have leads : Leads grown.tree linkLimit [] ["previewslice.toml"] ["shared"] := by
    refine .follows (by decide) (grows.kept (entry?_config target)) ?_
    rw [ite_self, isTarget, List.append_nil]
    exact .enters short isDirectory (by simp) (.rises isDirectory
      (.enters (by decide) (grows.kept (entry?_shared target)) (by simp) (.arrives _ _)))
  have isFound : grown.entry (Disk.pathOf ["previewslice.toml"]) = .ok (.file [255]) :=
    Disk.entry_eq_ok_iff.2 ⟨by decide, ["shared"], leads, grows.kept (entry?_shared target)⟩
  exact Config.load_of_unusable (Disk.read_eq_ok_iff.2 isFound) (.undecodable (by decide))

theorem areSources : ∀ base ∈ scanning.sourcesDir, (tree target).IsResolved base := by
  intro base isGiven
  obtain rfl := Option.some.inj isGiven
  exact (isPlain_sources target).isResolved_top.2

/-- The output is not at or below the directory that is scanned. -/
theorem apart (start : Path) (sourcesDir : Option Path)
    (located : ((workspace target).locateSources start scanning).outcome = .ok sourcesDir) :
    ∀ base ∈ sourcesDir, ¬ base.names <+: out.names := by
  rw [Workspace.outcome_locateSources] at located
  obtain rfl := Except.ok.inj located
  intro base isGiven
  obtain rfl := Option.some.inj isGiven
  decide

end LinkedConfig

namespace Workspace

/-- A link in the place of the configuration that breaks off elsewhere does no harm, and a scan of
the sources finds the same file again. -/
theorem verifySlice_generateSlice_linked :
    let workspace := LinkedConfig.workspace "lost/../shared"
    let generated := workspace.generateSlice LinkedConfig.scanning none (some LinkedConfig.out)
    (∃ report, generated.2.outcome = .ok report) ∧
      workspace.candidateFiles LinkedConfig.scanning.sourcesDir {} =
        .ok [Disk.pathOf ["Sources", "Show.swift"]] ∧
      workspace.tree.linkBreakOff? ["previewslice.toml"] = some ["lost"] ∧
      ((workspace.onDisk generated.1).verifySlice LinkedConfig.scanning none
        LinkedConfig.out).outcome = .ok ⟨[], [], []⟩ := by
  intro workspace generated
  obtain ⟨broken, isBroken⟩ := LinkedConfig.walk_config "lost/../shared" "lost" (by decide +kernel)
    (by decide +kernel) (by decide +kernel)
  have avoided : workspace.tree.LinksAvoid LinkedConfig.out.names := by
    intro link target missed isLink broken
    obtain rfl := LinkedConfig.eq_of_link _ isLink
    obtain rfl := Option.some.inj (isBroken.symm.trans broken)
    exact ⟨by decide, by decide⟩
  obtain ⟨report, isGenerated⟩ := LinkedConfig.exists_report "lost/../shared" broken
  refine ⟨⟨report, isGenerated⟩, LinkedConfig.candidateFiles_sources _, isBroken, ?_⟩
  exact verifySlice_generateSlice workspace LinkedConfig.scanning none LinkedConfig.out report
    (.root _) (LinkedConfig.areSources _) (LinkedConfig.isResolved_out _) (LinkedConfig.below_out _)
    (fun start sourcesDir _ => LinkedConfig.apart _ start sourcesDir) avoided isGenerated

/-- A configuration that cannot be read is not passed over. -/
theorem configFor_of_verifySlice {workspace : Workspace} {request : SliceRequest}
    {given : Option Config} {out : Path} {difference : Difference}
    (verified : (workspace.verifySlice request given out).outcome = .ok difference) :
    ∃ config, workspace.configFor request.root given = .ok config := by
  rw [verifySlice, Logged.outcome_bind] at verified
  obtain ⟨isThere, _, verified⟩ := bind_eq_ok_iff.1 verified
  split at verified
  · cases verified
  · rw [Logged.outcome_bind] at verified
    obtain ⟨isDirectory, _, verified⟩ := bind_eq_ok_iff.1 verified
    split at verified
    · cases verified
    · rw [Logged.outcome_bind] at verified
      obtain ⟨config, isConfig, _⟩ := bind_eq_ok_iff.1 verified
      exact ⟨config, isConfig⟩

/-- It is not enough that no link leads to the output directory or below it: one that leads through
a directory on the way to it, and up again, breaks off before that directory is made and not after,
so that a configuration appears that cannot even be decoded. -/
theorem slice_not_reproduced :
    ¬ ∀ (workspace : Workspace) (request : SliceRequest) (config : Option Config) (out : Path)
      (report : SliceReport), request.extraSeeds = [] → request.moduleName = none →
      workspace.tree.IsResolved request.root →
      (∀ base ∈ request.sourcesDir, workspace.tree.IsResolved base) →
      workspace.tree.IsResolved out → workspace.tree.below out.names = [] →
      (∀ start sourcesDir, workspace.normalize request.startFile = .ok start →
        (workspace.locateSources start request).outcome = .ok sourcesDir →
        ∀ base ∈ sourcesDir, ¬ base.names <+: out.names) →
      (∀ link target place, workspace.tree.entry? link = some (.link target) →
        workspace.resolve (Disk.pathOf link) = .ok place → ¬ out.names <+: place.names) →
      (workspace.generateSlice request config (some out)).2.outcome = .ok report →
      ((workspace.onDisk (workspace.generateSlice request config (some out)).1).verifySlice
        request config out).outcome = .ok ⟨[], [], []⟩ := by
  intro law
  have notTarget : ∀ link target place,
      (LinkedConfig.workspace "gen/../shared").tree.entry? link = some (.link target) →
      (LinkedConfig.workspace "gen/../shared").resolve (Disk.pathOf link) = .ok place →
      ¬ LinkedConfig.out.names <+: place.names := by
    intro link target place isLink resolved
    obtain rfl := LinkedConfig.eq_of_link _ isLink
    have isPlace : (LinkedConfig.workspace "gen/../shared").resolve
        (Disk.pathOf ["previewslice.toml"]) = .ok (Disk.pathOf ["shared"]) :=
      LinkedConfig.resolve_config _ "gen" (by decide +kernel) (by decide +kernel)
        (by rw [LinkedConfig.entry?_gen]; simp)
    obtain rfl := Except.ok.inj (isPlace.symm.trans resolved)
    decide
  have broken := (LinkedConfig.walk_config "gen/../shared" "gen" (by decide +kernel)
    (by decide +kernel) (LinkedConfig.entry?_gen _)).1
  obtain ⟨report, generated⟩ := LinkedConfig.exists_report "gen/../shared" broken
  have verified := law (LinkedConfig.workspace "gen/../shared") LinkedConfig.scanning none
    LinkedConfig.out report rfl rfl (.root _) (LinkedConfig.areSources _)
    (LinkedConfig.isResolved_out _) (LinkedConfig.below_out _)
    (fun start sourcesDir _ => LinkedConfig.apart _ start sourcesDir) notTarget generated
  obtain ⟨_, slice, _, _, written⟩ := of_generateSlice generated
  obtain ⟨grows, ⟨_, isDirectory⟩, _⟩ := Disk.writeSlice_of_isResolved
    (LinkedConfig.isResolved_out _) (LinkedConfig.below_out _) written
  have isDirectoryAbove := FileTree.directory_above isDirectory
  have unreadable := LinkedConfig.load_of_directory _ "gen" (by decide +kernel) grows.tree
    isDirectoryAbove (by decide +kernel)
  obtain ⟨config, isConfig⟩ := configFor_of_verifySlice verified
  cases unreadable.symm.trans isConfig

end Workspace

end SwiftSlice

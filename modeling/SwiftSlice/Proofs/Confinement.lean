/-
Where a slice is written if the configuration names the output directory. The
directory is resolved once and must be inside of the root; the files are written
later, along the paths of their names in it. A path that resolves without meeting
a loop gives a real location: no link stands on the way to it, so what is written
there along a name that is no link either ends up directly in it. All else stays
as it was, whether the slice is written or refused, but for directories that were
missing.

This is as far as the check of the directory goes. Behind a loop the names of the
path are taken as they are written, and a link among them, or one in the place of
a file of the slice, is followed when the file is written, out of the root too.
-/

import SwiftSlice.Proofs.OutputDirectory
import SwiftSlice.Proofs.Overwriting
import SwiftSlice.Proofs.Reproduction

namespace SwiftSlice

open Text

/-! ### Real locations -/

/-- A walk along names that are steps down and stand for no link ends at their location, if it
ends. -/
theorem FileTree.location_of_walk {tree : FileTree} {creates : Bool} {budget : Nat}
    {here : Location} {names : List String} {spot : Spot}
    (steps : ∀ name ∈ names, ¬ (name = "" || name = ".") = true ∧ name ≠ "..")
    (unlinked : ∀ above target, above <+: here ++ names → tree.entry? above ≠ some (.link target))
    (walked : tree.walk creates budget here names = .ok spot) : spot.location = here ++ names := by
  fun_induction tree.walk creates budget here names with
  | case1 budget here =>
    obtain rfl := Except.ok.inj walked
    rw [List.append_nil]
    rfl
  | case3 budget here name rest _ skipped => exact absurd skipped (steps _ List.mem_cons_self).1
  | case4 budget here rest => exact absurd rfl (steps _ List.mem_cons_self).2
  | case7 budget here name rest _ _ _ _ _ free isLast =>
    obtain rfl := Except.ok.inj walked
    rw [List.isEmpty_iff.1 isLast]
    rfl
  | case10 here name rest _ _ _ _ _ target found =>
    rw [List.append_cons here name rest] at unlinked
    exact absurd found (unlinked _ target (List.prefix_append _ _))
  | case11 budget here name rest _ _ _ _ _ entry noLink found inductionHypothesis =>
    rw [List.append_cons here name rest] at unlinked ⊢
    exact inductionHypothesis (List.forall_mem_cons.1 steps).2 unlinked walked
  | _ => cases walked

/-! ### Writing into a real directory -/

namespace Disk

variable {disk later : Disk} {path directory : Path} {location : Location}

/-- Holds of an absolute path that resolves without meeting a loop. -/
def MeetsNoLoop (disk : Disk) (path : Path) : Prop :=
  ∃ location, follow disk.tree [] ⟨true, []⟩ (path.names.map .name) = .ok (.real location)

/-- A path that meets no loop resolves to a real location. -/
theorem isReal_of_resolve (isAbsolute : path.isAbsolute = true) (noLoop : disk.MeetsNoLoop path)
    (resolved : disk.resolve path = .ok directory) : disk.tree.IsReal directory.names := by
  obtain ⟨location, followed⟩ := noLoop
  rw [resolve, if_pos isAbsolute, followed] at resolved
  obtain rfl := Except.ok.inj resolved
  exact isReal_of_follow (by simp [LinkLog.IsReal]) (.root disk.tree) followed

/-- Writing files keeps what is there, in vain or not. -/
theorem keeps_writeFiles {files : List (String × Bytes)} (isAbsolute : directory.isAbsolute = true) :
    disk.tree.Keeps (disk.writeFiles directory files).1.tree := by
  cases isOutcome : (disk.writeFiles directory files).2 with
  | ok => exact (of_writeFiles isAbsolute (Prod.ext rfl isOutcome)).1
  | error failure =>
    obtain ⟨done, _, _, _, isDone, _⟩ := writeFiles_error (Prod.ext rfl isOutcome)
    exact (of_writeFiles isAbsolute isDone).1

/-- What was written before a refusal belongs to the files that were to be written. -/
theorem RefusedWriting.subset {files done : List (String × Bytes)} {written : Disk}
    (refused : RefusedWriting disk directory files written done) : done ⊆ files := by
  cases refused with
  | directory => exact List.nil_subset files
  | file _ isSplit => exact isSplit ▸ List.subset_append_left _ _

/-- Writing a slice, in vain or not, keeps what is there; what it changes are directories that were
missing, and the places that the paths of its files lead to, where these files are whole. -/
theorem changes_of_writeSlice {slice : Slice} {outcome : Except Failure Unit}
    (isAbsolute : directory.isAbsolute = true)
    (isWritten : disk.writeSlice directory slice = (later, outcome)) :
    disk.tree.Keeps later.tree ∧ ∀ location,
      later.tree.entry? location = disk.tree.entry? location ∨
      disk.tree.entry? location = none ∧ later.tree.entry? location = some .directory ∨
      ∃ file ∈ slice.artifacts, later.place? (directory.child file.1) = some location ∧
        later.tree.entry? location = some (.file file.2) := by
  cases outcome with
  | error failure =>
    obtain ⟨done, refused⟩ := refusedWriting_of_writeSlice isWritten
    obtain ⟨keeps, changes⟩ := refused.changes isAbsolute
    refine ⟨keeps, fun location => (changes location).imp_right (Or.imp_right ?_)⟩
    rintro ⟨file, isDone, isPlace⟩
    exact ⟨file, refused.subset isDone, isPlace⟩
  | ok =>
    have adds := addsDirectories_makeDirectories disk directory
    rw [writeSlice] at isWritten
    split at isWritten
    · next made isMade =>
      rw [isMade] at adds
      obtain ⟨keeps, changes⟩ := of_writeFiles isAbsolute isWritten
      refine ⟨adds.keeps.trans keeps, fun location => ?_⟩
      rcases changes location with same | isFile
      · rw [same]
        exact (adds location).imp_right .inl
      · exact .inr (.inr isFile)
    · cases (Prod.mk.inj isWritten).2

/-- A file of a slice that is written into a real directory is directly in it, if no link has its
name there. -/
theorem place_of_isReal {slice : Slice} {outcome : Except Failure Unit} {name : String}
    (isAbsolute : directory.isAbsolute = true) (isReal : disk.tree.IsReal directory.names)
    (isWritten : disk.writeSlice directory slice = (later, outcome))
    (isName : name ∈ Slice.fileNames)
    (noLink : ∀ target, disk.tree.entry? (directory.names ++ [name]) ≠ some (.link target))
    (isPlace : later.place? (directory.child name) = some location) :
    location = directory.names ++ [name] := by
  have step : ∀ name ∈ Slice.fileNames, ¬ (name = "" || name = ".") = true ∧ name ≠ ".." := by
    decide
  have isRealChild := isReal.concat (step name isName).1 (step name isName).2 noLink
  have changes := (changes_of_writeSlice isAbsolute isWritten).2
  -- Writing makes no links, so there is none on the way afterwards.
  have unlinked : ∀ above target, above <+: directory.names ++ [name] →
      later.tree.entry? above ≠ some (.link target) := by
    intro above target onTheWay isLink
    rcases changes above with same | ⟨_, isDirectory⟩ | ⟨_, _, _, isFile⟩
    · exact isRealChild.unlinked above target onTheWay (same.symm.trans isLink)
    · cases isDirectory.symm.trans isLink
    · cases isFile.symm.trans isLink
  obtain ⟨spot, walked, rfl⟩ := place?_eq_some_iff.1 isPlace
  obtain ⟨_, walked⟩ := walkTo_eq_ok_iff.1 walked
  have childAbsolute : (directory.child name).isAbsolute = true := isAbsolute
  rw [origin_of_isAbsolute childAbsolute] at walked
  show spot.location = [] ++ (directory.names ++ [name])
  exact FileTree.location_of_walk isRealChild.steps unlinked walked

end Disk

/-! ### Slices without an output directory -/

namespace Workspace

variable {workspace : Workspace}

/-- A slice that is generated for no given directory, in vain or not, keeps what is there. It makes
directories that were missing, and the files of the slice at the places that their paths lead to in
the directory of the configuration, which is spelled inside of the resolved root. If the way to that
directory meets no loop, it is a real location, and a file of the slice is directly in it unless a
link was in its place. Nothing else changes. -/
theorem generateSlice_confined (workspace : Workspace) (request : SliceRequest)
    (given : Option Config) :
    workspace.tree.Keeps (workspace.generateSlice request given none).1.tree ∧ ∀ location,
      (workspace.generateSlice request given none).1.tree.entry? location =
        workspace.tree.entry? location ∨
      workspace.tree.entry? location = none ∧
        (workspace.generateSlice request given none).1.tree.entry? location = some .directory ∨
      ∃ config slice top output name content,
        workspace.configFor request.root given = .ok config ∧
        (workspace.buildSlice request config).outcome = .ok slice ∧
        workspace.resolve request.root = .ok top ∧
        Config.placeOutput workspace.toDisk request.root config.outputDir = .ok output ∧
        output.isInside top = true ∧ (name, content) ∈ slice.artifacts ∧
        (workspace.generateSlice request given none).1.place? (output.child name) =
          some location ∧
        (workspace.generateSlice request given none).1.tree.entry? location =
          some (.file content) ∧
        (workspace.MeetsNoLoop (top ++ Path.parse config.outputDir) →
          workspace.tree.IsReal output.names ∧
          ((∀ target, workspace.tree.entry? (output.names ++ [name]) ≠ some (.link target)) →
            location = output.names ++ [name])) := by
  rw [generateSlice]
  cases isPrepared : (workspace.prepareSlice request given none).outcome with
  | error failure => exact ⟨.refl workspace.tree, fun _ => .inl rfl⟩
  | ok prepared =>
    obtain ⟨slice, output⟩ := prepared
    obtain ⟨config, isConfig, built, accepted⟩ := of_prepareSlice isPrepared
    obtain ⟨isRelative, top, isTop, isOutput, isInside⟩ := Disk.of_placeOutput accepted
    have topAbsolute : (top ++ Path.parse config.outputDir).isAbsolute = true := by
      obtain ⟨location, rfl⟩ := Disk.exists_pathOf_of_resolve isTop
      show (Path.append _ _).isAbsolute = true
      rw [Path.append, isRelative]
      rfl
    have outputAbsolute : output.isAbsolute = true := by
      obtain ⟨location, rfl⟩ := Disk.exists_pathOf_of_resolve isOutput
      rfl
    obtain ⟨keeps, changes⟩ := Disk.changes_of_writeSlice outputAbsolute
      (Prod.ext rfl rfl : workspace.writeSlice output slice = (_, _))
    refine ⟨keeps, fun location => (changes location).imp_right (Or.imp_right ?_)⟩
    rintro ⟨file, isFile, isPlace, isThere⟩
    refine ⟨config, slice, top, output, file.1, file.2, isConfig, built, isTop, accepted, isInside,
      isFile, isPlace, isThere, fun noLoop => ?_⟩
    have isReal := Disk.isReal_of_resolve topAbsolute noLoop isOutput
    have isName : file.1 ∈ Slice.fileNames := slice.map_fst_artifacts ▸ List.mem_map_of_mem isFile
    exact ⟨isReal, fun noLink => Disk.place_of_isReal outputAbsolute isReal (Prod.ext rfl rfl) isName
      noLink isPlace⟩

end Workspace

namespace Looped

/-- A project with a link that leads to itself, and one that leads out of the project. -/
def tree : FileTree where
  entries := [(["proj"], .directory), (["proj", "A.swift"], .file LinkedConfig.source),
    (["proj", "loop"], .link "loop"), (["proj", "out"], .link "/elsewhere"),
    (["elsewhere"], .directory)]
  distinct := by decide
  named := by
    simp
    decide
  rooted := by simp [DirectoryIn]

def workspace : Workspace where
  tree := tree
  directory := []
  home := []
  grammar := fun _ => LinkedConfig.file

def start : Path :=
  Disk.pathOf ["proj", "A.swift"]

def root : Path :=
  Disk.pathOf ["proj"]

/-- A slice of the file. -/
def request : SliceRequest where
  startFile := start
  root

/-- An output directory behind the loop. -/
def config : Config where
  outputDir := "loop/../out"

def out : Path :=
  Disk.pathOf ["proj", "out"]

theorem isResolved_root : tree.IsResolved root :=
  (FileTree.IsResolved.root tree).child (by decide) (by
    intro target
    rw [show tree.entry? ((Disk.pathOf []).names ++ ["proj"]) = some .directory by decide]
    simp)

theorem exists_slice : ∃ slice, (workspace.buildSlice request config).outcome = .ok slice :=
  have isIn : LinkedConfig.IsIn workspace root := ⟨rfl, isResolved_root, by decide, by decide⟩
  isIn.exists_buildSlice rfl rfl rfl config

theorem entry?_loop : tree.entry? ["proj", "loop"] = some (.link "loop") := by decide

theorem entry?_out : tree.entry? ["proj", "out"] = some (.link "/elsewhere") := by decide

/-- The path of the output directory leads out of the project. -/
theorem leads_out : Leads tree linkLimit [] ["proj", "out"] ["elsewhere"] := by
  refine .enters (by decide) (show tree.entry? ["proj"] = some .directory by decide)
    (by simp) (.follows (by decide) entry?_out ?_)
  rw [if_pos (by decide), List.append_nil,
    show Path.components "/elsewhere" = ["", "elsewhere"] by decide]
  exact .stays rfl (.inl rfl) (.enters (by decide)
    (show tree.entry? ["elsewhere"] = some .directory by decide) (by simp) (.arrives _ _))

/-- At the loop the names that are left are taken as they are written. -/
theorem follow_loop : follow tree [] ⟨true, []⟩
    [.name "proj", .name "loop", .name "..", .name "out"] =
      .ok (.looping ["proj", "loop", "..", "out"]) := by
  have isName : IsFileName "proj" := by decide
  have unlinked : ∀ target, tree.entry? (Standing.child ⟨true, []⟩ "proj").location ≠
      some (.link target) := by
    intro target
    rw [show tree.entry? (Standing.child ⟨true, []⟩ "proj").location = some .directory by
      decide]
    simp
  rw [follow_unlinked isName.not_skipped isName.not_up isName.no_nul unlinked,
    follow_link entry?_loop]
  show follow tree _ (if _ then ⟨true, []⟩ else ⟨true, ["proj"]⟩)
    ((Path.components "loop").map .name ++ _) = _
  rw [if_neg (by decide), show Path.components "loop" = ["loop"] by decide]
  show follow tree _ ⟨true, ["proj"]⟩ (.name "loop" :: _) = _
  rw [follow_link entry?_loop]
  rfl

/-- The output directory is accepted, with the link out of the project left in its path. -/
theorem placeOutput_root : Config.placeOutput workspace.toDisk root config.outputDir = .ok out := by
  have parsed : root ++ Path.parse config.outputDir =
      Disk.pathOf ["proj", "loop", "..", "out"] := by decide
  have resolved : workspace.resolve (root ++ Path.parse config.outputDir) = .ok out := by
    have settled : Disk.pathOf (Path.foldDots (["proj", "loop", "..", "out"].filter (· != "."))) =
        out := by decide
    have walked : workspace.tree.walk false linkLimit [] out.names = .ok (.taken ["elsewhere"]) :=
      leads_out.walk_eq
    rw [parsed, Disk.resolve]
    refine bind_eq_ok_iff.2 ⟨.looping ["proj", "loop", "..", "out"], follow_loop, ?_⟩
    dsimp only
    rw [settled]
    refine bind_eq_ok_iff.2 ⟨(), by decide, ?_⟩
    rw [walked]
  rw [Config.placeOutput, if_neg (by decide), if_neg (by decide),
    Disk.resolve_of_isResolved isResolved_root]
  show (workspace.resolve (root ++ Path.parse config.outputDir) >>= _) = _
  rw [resolved]
  rfl

/-- A file at the place that the first file of a slice is written at, outside of the project. -/
def astray : Location :=
  ["elsewhere", Artifact.generatedSource]

/-- The directory is there already, behind the link. -/
theorem makeDirectories_out : workspace.makeDirectories out = (workspace.toDisk, .ok ()) := by
  have isDirectory : workspace.isDirectory out = .ok true :=
    Disk.isDirectory_eq_true_iff.2 (Disk.entry_eq_ok_iff.2
      ⟨by decide, ["elsewhere"], leads_out, by decide⟩)
  have toRoot : workspace.spot out.parent = .ok (.taken ["proj"]) :=
    Disk.spot_of_present isResolved_root (by decide) (by decide)
  have refused : workspace.makeOne out = .error (.access .alreadyExists "/proj/out") := by
    rw [Disk.makeOne, show Disk.checkPath out = .ok () by decide, toRoot]
    rfl
  rw [Disk.makeDirectories, refused]
  show (workspace.toDisk, Disk.tolerate workspace.toDisk out _) = _
  rw [Disk.tolerate, isDirectory]
  rfl

theorem canPut : tree.CanPut astray :=
  FileTree.canPut_of_free (by decide) (by decide) (by decide)

/-- The first file is written outside of the project. -/
theorem write_first (content : Bytes) : workspace.write (out.child Artifact.generatedSource) content =
    .ok { workspace.toDisk with tree := tree.put astray (.file content) } := by
  have walked : tree.walk true linkLimit [] ["proj", "out", Artifact.generatedSource] =
      .ok (.free astray) := by
    rw [FileTree.walk_cons tree linkLimit ["out", Artifact.generatedSource] rfl (by decide)
      (by decide) (by decide), if_neg (by decide), List.nil_append,
      show tree.entry? ["proj"] = some .directory by decide]
    show tree.walk true linkLimit ["proj"] ["out", Artifact.generatedSource] = _
    rw [FileTree.walk_cons tree linkLimit [Artifact.generatedSource]
      (show tree.entry? ["proj"] = some .directory by decide) (by decide) (by decide)
      (by decide), if_neg (by decide), List.singleton_append, entry?_out]
    show tree.walk true 39 (if _ then [] else ["proj"]) (Path.components "/elsewhere" ++ _) = _
    rw [if_pos (by decide),
      show Path.components "/elsewhere" = ["", "elsewhere"] by decide]
    have isDirectory : tree.entry? ["elsewhere"] = some .directory := by decide
    have toEnd : tree.walk true 39 [] (["elsewhere"] ++ [Artifact.generatedSource]) = _ :=
      FileTree.walk_append_present isDirectory (by simp) (by decide)
    rw [if_pos (by decide)] at toEnd
    show tree.walk true 39 [] ("" :: ["elsewhere", Artifact.generatedSource]) = _
    rw [FileTree.walk, if_neg (by decide), if_pos (by decide)]
    refine toEnd.trans ?_
    show tree.walk true 39 ["elsewhere"] [Artifact.generatedSource] = _
    rw [FileTree.walk_cons tree 39 [] isDirectory (by decide) (by decide) (by decide),
      if_neg (by decide)]
    rfl
  rw [Disk.write, Disk.walkTo,
    show Disk.checkPath (out.child Artifact.generatedSource) = .ok () by decide]
  show (Disk.blame _ (tree.walk true linkLimit [] ["proj", "out", Artifact.generatedSource]) >>= _) = _
  rw [walked]
  rfl

/-- A slice of the file leaves a file outside of the project, however the writing ends. -/
theorem exists_astray : ∃ content,
    (workspace.generateSlice request (some config) none).1.tree.entry? astray =
      some (.file content) := by
  obtain ⟨slice, built⟩ := exists_slice
  have prepared : (workspace.prepareSlice request (some config) none).outcome =
      .ok (slice, out) := by
    rw [Workspace.prepareSlice, Logged.outcome_bind]
    refine bind_eq_ok_iff.2 ⟨config, rfl, ?_⟩
    rw [Logged.outcome_bind]
    refine bind_eq_ok_iff.2 ⟨out, placeOutput_root, ?_⟩
    rw [Logged.outcome_bind]
    exact bind_eq_ok_iff.2 ⟨slice, built, rfl⟩
  rw [Workspace.generateSlice, prepared]
  dsimp only
  rw [Disk.writeSlice, makeDirectories_out]
  dsimp only
  rw [Slice.artifacts, Disk.writeFiles, write_first]
  refine (Disk.keeps_writeFiles rfl).file astray (encode slice.selection.source) ?_
  rw [FileTree.entry?_put canPut, if_pos rfl]

end Looped

namespace Workspace

/-- A slice for which no directory is given does not always stay in the directory of the
configuration: behind a loop a link in its path is overlooked, and the slice is written to where the
link leads, outside of the root. -/
theorem generateSlice_not_confined :
    ¬ ∀ (workspace : Workspace) (request : SliceRequest) (given : Option Config)
      (location : Location) (content : Bytes),
      (workspace.generateSlice request given none).1.tree.entry? location = some (.file content) →
      workspace.tree.entry? location = some (.file content) ∨
      ∃ config output name, workspace.configFor request.root given = .ok config ∧
        Config.placeOutput workspace.toDisk request.root config.outputDir = .ok output ∧
        name ∈ Slice.fileNames ∧ location = output.names ++ [name] := by
  intro law
  obtain ⟨content, isThere⟩ := Looped.exists_astray
  rcases law _ _ _ _ _ isThere with before | ⟨config, output, name, isConfig, isOutput, _, isPlace⟩
  · have free : Looped.tree.entry? Looped.astray = none := by decide
    cases free.symm.trans before
  · obtain rfl := Except.ok.inj isConfig
    obtain rfl := Except.ok.inj (Looped.placeOutput_root.symm.trans isOutput)
    simp [Looped.astray, Looped.out, Disk.pathOf] at isPlace

end Workspace

end SwiftSlice

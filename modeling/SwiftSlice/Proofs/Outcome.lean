/-
The outcomes of the operations on files, without their messages. Each equation
says what an operation comes to when nothing is logged; what follows looks at
these equations and not at the messages in between.
-/

import SwiftSlice.Proofs.CodeUnit
import SwiftSlice.Slice.Write

namespace SwiftSlice

open Text

namespace Workspace

variable (workspace : Workspace)

/-! ### Collecting -/

theorem outcome_collectFile (path : Path) (startIndex : Int) :
    (workspace.collectFile path startIndex).outcome =
      match workspace.read path with
      | .ok source =>
        if isWellFormed source then
          if (codeUnits source (workspace.grammar source)).all (·.isReadable source) then
            .ok (some (fileRecord source (workspace.grammar source) path.text startIndex))
          else .error .undecodable
        else .ok none
      | .error (.access _ _) => .ok none
      | .error failure => .error failure := by
  unfold collectFile
  cases workspace.read path with
  | error failure => cases failure <;> rfl
  | ok source =>
    dsimp only
    split
    · rw [Logged.outcome_bind, outcome_collect]
      split <;> rfl
    · rfl

theorem outcome_collectFiles_cons (startIndex : Int) (file : Path) (rest : List Path) :
    (workspace.collectFiles startIndex (file :: rest)).outcome = do
      let path ← workspace.normalize file
      match ← (workspace.collectFile path startIndex).outcome with
      | none => (workspace.collectFiles startIndex rest).outcome
      | some record =>
        let others ←
          (workspace.collectFiles (startIndex + record.declarations.length) rest).outcome
        return record :: others := by
  rw [collectFiles, Logged.outcome_bind, Logged.outcome_liftM]
  refine bind_congr fun path => ?_
  rw [Logged.outcome_bind]
  refine bind_congr fun found => ?_
  cases found with
  | none => rw [Logged.outcome_bind, Logged.outcome_say]; rfl
  | some record => rw [Logged.outcome_bind]; rfl

/-- The record of a file stands in front of those of the further files. -/
theorem outcome_collectFiles_of_collected {startIndex : Int} {file path : Path} {rest : List Path}
    {record : FileRecord} {others : List FileRecord}
    (normalized : workspace.normalize file = .ok path)
    (collected : (workspace.collectFile path startIndex).outcome = .ok (some record))
    (further : (workspace.collectFiles (startIndex + record.declarations.length) rest).outcome =
      .ok others) :
    (workspace.collectFiles startIndex (file :: rest)).outcome = .ok (record :: others) := by
  rw [outcome_collectFiles_cons]
  exact bind_eq_ok_iff.2 ⟨path, normalized,
    bind_eq_ok_iff.2 ⟨some record, collected, bind_eq_ok_iff.2 ⟨others, further, rfl⟩⟩⟩

theorem outcome_collectSources (startFile : Path) (sourcesDir : Option Path) (config : Config) :
    (workspace.collectSources startFile sourcesDir config).outcome = do
      let start ← workspace.normalize startFile
      let files ← workspace.candidateFiles sourcesDir config
      let scanned ← (workspace.collectFiles 0 files).outcome
      if scanned.any (·.path == start.text) then return scanned
      else
        match ← (workspace.collectFile start (countDeclarations scanned)).outcome with
        | none => .error (.startUnreadable start.text)
        | some record => return scanned ++ [record] := by
  rw [collectSources, Logged.outcome_bind, Logged.outcome_liftM]
  refine bind_congr fun start => ?_
  rw [Logged.outcome_bind, Logged.outcome_liftM]
  refine bind_congr fun files => ?_
  rw [Logged.outcome_bind]
  refine bind_congr fun scanned => ?_
  dsimp only
  split
  · rfl
  · rw [Logged.outcome_bind]
    refine bind_congr fun found => ?_
    cases found <;> rfl

/-- The record of a start file that is not scanned stands behind those of the scanned files. -/
theorem outcome_collectSources_beside {startFile start : Path} {sourcesDir : Option Path}
    {config : Config} {files : List Path} {scanned : List FileRecord} {record : FileRecord}
    (normalized : workspace.normalize startFile = .ok start)
    (scannedFiles : workspace.candidateFiles sourcesDir config = .ok files)
    (collectedFiles : (workspace.collectFiles 0 files).outcome = .ok scanned)
    (beside : scanned.any (·.path == start.text) = false)
    (collected : (workspace.collectFile start (countDeclarations scanned)).outcome =
      .ok (some record)) :
    (workspace.collectSources startFile sourcesDir config).outcome = .ok (scanned ++ [record]) := by
  rw [outcome_collectSources]
  refine bind_eq_ok_iff.2 ⟨start, normalized, bind_eq_ok_iff.2 ⟨files, scannedFiles,
    bind_eq_ok_iff.2 ⟨scanned, collectedFiles, ?_⟩⟩⟩
  rw [if_neg (Bool.eq_false_iff.1 beside)]
  exact bind_eq_ok_iff.2 ⟨some record, collected, rfl⟩

theorem outcome_select (startFile : Path) (sourcesDir : Option Path) (seeds : NameSet)
    (config : Config) :
    (workspace.select startFile sourcesDir seeds config).outcome = do
      let records ← (workspace.collectSources startFile sourcesDir config).outcome
      let start ← workspace.normalize startFile
      return (ReferenceIndex.ofRecords records).select (isBuiltinType config.extraBuiltinTypes)
        start.text seeds := by
  rw [select, Logged.outcome_bind]
  refine bind_congr fun records => ?_
  rw [Logged.outcome_bind, Logged.outcome_liftM]
  rfl

/-! ### A file alone -/

section Alone

variable {workspace} {path : Path} {source : Bytes}
  (normalized : workspace.normalize path = .ok path) (isRead : workspace.read path = .ok source)
  (wellFormed : isWellFormed source = true)
  (readable : (codeUnits source (workspace.grammar source)).all (·.isReadable source) = true)

include isRead wellFormed readable

theorem outcome_collectFile_of_read (startIndex : Int) :
    (workspace.collectFile path startIndex).outcome =
      .ok (some (fileRecord source (workspace.grammar source) path.text startIndex)) := by
  rw [outcome_collectFile, isRead]
  dsimp only
  rw [if_pos wellFormed, if_pos readable]

include normalized

/-- Without a directory of sources the start file is all that is collected. -/
theorem outcome_collectSources_alone (config : Config) :
    (workspace.collectSources path none config).outcome =
      .ok [fileRecord source (workspace.grammar source) path.text 0] := by
  rw [outcome_collectSources, normalized]
  show ((workspace.collectFile path (countDeclarations [])).outcome >>= fun found =>
    match found with
    | none => .error (.startUnreadable path.text)
    | some record => pure ([] ++ [record])) = _
  rw [outcome_collectFile_of_read isRead wellFormed readable]
  rfl

/-- Without a directory of sources the start file is all that is selected from. -/
theorem outcome_select_alone (seeds : NameSet) (config : Config) :
    (workspace.select path none seeds config).outcome =
      .ok ((ReferenceIndex.ofRecords
        [fileRecord source (workspace.grammar source) path.text 0]).select
          (isBuiltinType config.extraBuiltinTypes) path.text seeds) := by
  rw [outcome_select, outcome_collectSources_alone normalized isRead wellFormed readable,
    normalized]
  rfl

end Alone

/-! ### Cutting -/

theorem outcome_locateSources (start : Path) (request : SliceRequest) :
    (workspace.locateSources start request).outcome =
      match request.sourcesDir with
      | some directory => .ok (some directory)
      | none => workspace.sourcesDir? start request.root := by
  rw [locateSources]
  cases request.sourcesDir with
  | some directory => rfl
  | none =>
    dsimp only
    rw [Logged.outcome_bind, Logged.outcome_liftM]
    cases workspace.sourcesDir? start request.root with
    | error failure => rfl
    | ok found => cases found <;> rfl

theorem outcome_extractImports_of_read {path : Path} {source : Bytes}
    (isRead : workspace.read path = .ok source) :
    (workspace.extractImports path).outcome =
      .ok (importedModules source (workspace.grammar source)) := by
  rw [extractImports, isRead]
  rfl

/-- A slice is cut if each of the steps has a value. -/
theorem outcome_buildSlice {request : SliceRequest} {config : Config} {start : Path}
    {body : String} {sourcesDir : Option Path} {source : Bytes}
    (normalized : workspace.normalize request.startFile = .ok start)
    (isRead : workspace.read start = .ok source)
    (extracted : workspace.extractSnippet start = .ok body)
    (located : (workspace.locateSources start request).outcome = .ok sourcesDir)
    (selected : ∀ seeds, ∃ selection,
      (workspace.select start sourcesDir seeds config).outcome = .ok selection) :
    ∃ slice, (workspace.buildSlice request config).outcome = .ok slice := by
  obtain ⟨selection, isSelection⟩ := selected
    (workspace.referencedTypes body ∪ NameSet.ofList request.extraSeeds)
  rw [buildSlice, Logged.outcome_bind, Logged.outcome_liftM, normalized]
  show ∃ slice, (_ >>= _ : Logged _).outcome = .ok slice
  rw [Logged.outcome_bind, Logged.outcome_liftM, extracted]
  show ∃ slice, (_ >>= _ : Logged _).outcome = .ok slice
  rw [Logged.outcome_bind, Logged.outcome_say]
  show ∃ slice, (_ >>= _ : Logged _).outcome = .ok slice
  rw [Logged.outcome_bind, located]
  show ∃ slice, (_ >>= _ : Logged _).outcome = .ok slice
  rw [Logged.outcome_bind, isSelection]
  show ∃ slice, (_ >>= _ : Logged _).outcome = .ok slice
  rw [Logged.outcome_bind, workspace.outcome_extractImports_of_read isRead]
  exact ⟨_, rfl⟩

end Workspace

end SwiftSlice

/-
Unselected code does not matter. Records are pruned by deleting declarations, and
then records that have none left. If every selected declaration is kept, then the
selection from the pruned records is the same: the same declarations in the same
order, the same files, the same imports, and so the same text.

Positions shift when declarations are deleted, but what is needed is said of
declarations and not of positions. A needed declaration is led to by needed ones
only, all of which are kept, so it stays needed; and less code makes no more of it
needed.
-/

import SwiftSlice.Artifact.Source
import SwiftSlice.Proofs.Selection

namespace SwiftSlice

/-! ### Pruning -/

/-- Deletes the declarations that are not kept. -/
def FileRecord.prune (keep : Declaration → Bool) (record : FileRecord) : FileRecord :=
  { record with declarations := record.declarations.filter keep }

/-- Deletes the declarations that are not kept, and then the records without declarations whose
paths are not kept. -/
def pruneRecords (keep : Declaration → Bool) (keepPath : String → Bool)
    (records : List FileRecord) : List FileRecord :=
  (records.map (·.prune keep)).filter fun record =>
    !record.declarations.isEmpty || keepPath record.path

variable (keep : Declaration → Bool) (keepPath : String → Bool) (records : List FileRecord)

/-- A deleted record has no declarations, so the declarations that are left are those kept. -/
theorem declarations_pruneRecords :
    (ReferenceIndex.ofRecords (pruneRecords keep keepPath records)).declarations =
      (ReferenceIndex.ofRecords records).declarations.filter keep := by
  show (pruneRecords keep keepPath records).flatMap (·.declarations) =
    (records.flatMap (·.declarations)).filter keep
  induction records with
  | nil => rfl
  | cons record rest inductionHypothesis =>
    rw [pruneRecords, List.map_cons, List.filter_cons, List.flatMap_cons, List.filter_append,
      ← inductionHypothesis]
    split
    · rfl
    · rename_i dropped
      have empty : record.declarations.filter keep = [] := by
        simp only [Bool.or_eq_true, not_or, Bool.not_eq_true', Bool.not_eq_false] at dropped
        exact List.isEmpty_iff.1 dropped.1
      rw [empty, List.nil_append]
      rfl

/-- A record with a kept declaration is left, with the same path and imports. -/
theorem prune_mem_pruneRecords {record : FileRecord} (member : record ∈ records)
    {declaration : Declaration} (held : declaration ∈ record.declarations)
    (kept : keep declaration = true) :
    record.prune keep ∈ pruneRecords keep keepPath records := by
  refine List.mem_filter.2 ⟨List.mem_map_of_mem member, ?_⟩
  have filled : declaration ∈ (record.prune keep).declarations :=
    List.mem_filter.2 ⟨held, kept⟩
  rw [List.isEmpty_eq_false_iff_exists_mem.2 ⟨declaration, filled⟩]
  rfl

theorem nodup_paths_pruneRecords (distinct : (records.map (·.path)).Nodup) :
    ((pruneRecords keep keepPath records).map (·.path)).Nodup := by
  refine List.Nodup.sublist (List.filter_sublist.map _) ?_
  rw [List.map_map]
  exact distinct

/-! ### What is needed -/

section

variable {declarations fewer : List Declaration} {isBuiltin : String → Bool} {startFile : String}
  {seedNames : NameSet} {declaration : Declaration}

/-- More code makes no less needed. -/
theorem Needed.mono (sub : fewer ⊆ declarations)
    (needed : Needed fewer isBuiltin startFile seedNames declaration) :
    Needed declarations isBuiltin startFile seedNames declaration := by
  induction needed with
  | inStartFile member plain here => exact .inStartFile (sub member) plain here
  | seeded seed followed member plain answers =>
    exact .seeded seed followed (sub member) plain answers
  | referenced _ refers followed member plain answers inductionHypothesis =>
    exact .referenced inductionHypothesis refers followed (sub member) plain answers
  | extending _ declares member plain extended inductionHypothesis =>
    exact .extending inductionHypothesis declares (sub member) plain extended

/-- What is needed stays needed when all that is needed is left. -/
theorem Needed.restrict
    (left : ∀ other, Needed declarations isBuiltin startFile seedNames other → other ∈ fewer)
    (needed : Needed declarations isBuiltin startFile seedNames declaration) :
    Needed fewer isBuiltin startFile seedNames declaration := by
  have inFewer := left _ needed
  induction needed with
  | inStartFile _ plain here => exact .inStartFile inFewer plain here
  | seeded seed followed _ plain answers => exact .seeded seed followed inFewer plain answers
  | referenced needed refers followed _ plain answers inductionHypothesis =>
    exact .referenced (inductionHypothesis (left _ needed)) refers followed inFewer plain answers
  | extending needed declares _ plain extended inductionHypothesis =>
    exact .extending (inductionHypothesis (left _ needed)) declares inFewer plain extended

theorem needed_filter_iff (kept : ∀ other,
      Needed declarations isBuiltin startFile seedNames other → keep other = true) :
    Needed (declarations.filter keep) isBuiltin startFile seedNames declaration ↔
      Needed declarations isBuiltin startFile seedNames declaration := by
  refine ⟨Needed.mono List.filter_sublist.subset, Needed.restrict ?_⟩
  exact fun other needed => List.mem_filter.2 ⟨needed.mem, kept other needed⟩

/-- Deleting what is not wanted leaves the same declarations wanted. -/
theorem wanted_filter_iff (kept : ∀ other,
      Wanted declarations isBuiltin startFile seedNames other → keep other = true) :
    Wanted (declarations.filter keep) isBuiltin startFile seedNames declaration ↔
      Wanted declarations isBuiltin startFile seedNames declaration := by
  have sameNeeded (other : Declaration) :
      Needed (declarations.filter keep) isBuiltin startFile seedNames other ↔
        Needed declarations isBuiltin startFile seedNames other :=
    needed_filter_iff keep fun another needed => kept another (.inl needed)
  refine or_congr (sameNeeded declaration) ?_
  constructor
  · rintro ⟨member, plain, free, other, needed, sameFile⟩
    exact ⟨(List.mem_filter.1 member).1, plain, free, other, (sameNeeded other).1 needed, sameFile⟩
  · rintro ⟨member, plain, free, other, needed, sameFile⟩
    have isKept := kept declaration (.inr ⟨member, plain, free, other, needed, sameFile⟩)
    exact ⟨List.mem_filter.2 ⟨member, isKept⟩, plain, free, other, (sameNeeded other).2 needed,
      sameFile⟩

end

/-! ### The selection from pruned records -/

namespace ReferenceIndex

variable (isBuiltin : String → Bool) (startFile : String) (seedNames : NameSet)

/-- The selected declarations are the same, in the same order. -/
theorem declarations_select_pruneRecords
    (kept : ∀ declaration ∈
      ((ofRecords records).select isBuiltin startFile seedNames).declarations,
        keep declaration = true) :
    ((ofRecords (pruneRecords keep keepPath records)).select isBuiltin startFile
        seedNames).declarations =
      ((ofRecords records).select isBuiltin startFile seedNames).declarations := by
  classical
  have keptWanted (declaration : Declaration)
      (wanted : Wanted (ofRecords records).declarations isBuiltin startFile seedNames declaration) :
      keep declaration = true :=
    kept declaration ((mem_select_iff records isBuiltin startFile seedNames declaration).2 wanted)
  let wanted (declaration : Declaration) : Bool :=
    decide (Wanted (ofRecords records).declarations isBuiltin startFile seedNames declaration)
  have before := filterMap_selected records isBuiltin startFile seedNames wanted
    fun declaration => decide_eq_true_iff
  have after := filterMap_selected (pruneRecords keep keepPath records) isBuiltin startFile
    seedNames wanted fun declaration => by
      rw [declarations_pruneRecords, wanted_filter_iff keep keptWanted]
      exact decide_eq_true_iff
  rw [declarations_pruneRecords keep keepPath records, List.filter_filter] at after
  have sameFilter : (ofRecords records).declarations.filter
      (fun declaration => wanted declaration && keep declaration) =
        (ofRecords records).declarations.filter wanted := by
    refine List.filter_congr fun declaration _ => ?_
    rw [Bool.and_eq_left_iff_imp]
    exact fun isWanted => keptWanted declaration (of_decide_eq_true isWanted)
  rw [sameFilter, ← before, ← declarations_pruneRecords keep keepPath records] at after
  exact congrArg (List.mergeSort · _) after

/-- A file that contributes has the same imports. -/
theorem importsOf_pruneRecords (distinct : (records.map (·.path)).Nodup)
    (origins : ∀ record ∈ records, ∀ declaration ∈ record.declarations,
      declaration.originFile = record.path)
    {declaration : Declaration} (member : declaration ∈ (ofRecords records).declarations)
    (kept : keep declaration = true) :
    (ofRecords (pruneRecords keep keepPath records)).importsOf declaration.originFile =
      (ofRecords records).importsOf declaration.originFile := by
  obtain ⟨record, inRecords, held⟩ := List.mem_flatMap.1 member
  rw [origins record inRecords declaration held, importsOf_path records distinct record inRecords]
  exact importsOf_path _ (nodup_paths_pruneRecords keep keepPath records distinct)
    (record.prune keep) (prune_mem_pruneRecords keep keepPath records inRecords held kept)

/-- Deleting declarations that are not selected, and records without declarations, changes neither
the selection nor the text that it is written as. -/
theorem select_pruneRecords (records : List FileRecord) (isBuiltin : String → Bool)
    (startFile : String) (seedNames : NameSet) (keep : Declaration → Bool)
    (keepPath : String → Bool) (distinct : (records.map (·.path)).Nodup)
    (origins : ∀ record ∈ records, ∀ declaration ∈ record.declarations,
      declaration.originFile = record.path)
    (kept : ∀ declaration ∈
      ((ofRecords records).select isBuiltin startFile seedNames).declarations,
        keep declaration = true) :
    let before := (ofRecords records).select isBuiltin startFile seedNames
    let after :=
      (ofRecords (pruneRecords keep keepPath records)).select isBuiltin startFile seedNames
    after.declarations = before.declarations ∧
      after.contributingFiles = before.contributingFiles ∧
      after.imports = before.imports ∧
      after.source = before.source := by
  intro before after
  have sameDeclarations : after.declarations = before.declarations :=
    declarations_select_pruneRecords keep keepPath records isBuiltin startFile seedNames kept
  have sameFiles : after.contributingFiles = before.contributingFiles :=
    congrArg (fun declarations : List Declaration =>
      (NameSet.ofList (declarations.map Declaration.originFile)).toList) sameDeclarations
  have sameImports : after.imports = before.imports := by
    show NameSet.unions (after.contributingFiles.map _) =
      NameSet.unions (before.contributingFiles.map _)
    rw [sameFiles]
    refine congrArg NameSet.unions (List.map_congr_left fun file contributes => ?_)
    obtain ⟨declaration, isSelected, rfl⟩ :=
      (mem_contributingFiles_select isBuiltin startFile seedNames _ file).1 contributes
    have wanted := (mem_select_iff records isBuiltin startFile seedNames declaration).1 isSelected
    exact importsOf_pruneRecords keep keepPath records distinct origins
      wanted.mem (kept declaration isSelected)
  have sameCount : after.resolvedDeclarations = before.resolvedDeclarations :=
    congrArg (fun declarations : List Declaration => (declarations.length : Int)) sameDeclarations
  refine ⟨sameDeclarations, sameFiles, sameImports, ?_⟩
  rw [Selection.source, Selection.source, Selection.ordered, Selection.ordered, sameDeclarations,
    sameFiles, sameImports, sameCount]

/-- Slicing a slice: of three files two are left, and the selection from them is the same. -/
theorem select_pruneRecords_stray :
    let before := (ofRecords Stray.records).select noBuiltins "Screen.swift" ∅
    let slice := pruneRecords before.declarations.contains (fun _ => false) Stray.records
    let after := (ofRecords slice).select noBuiltins "Screen.swift" ∅
    slice.map (·.path) = ["Screen.swift", "Card.swift"] ∧
      after.declarations = before.declarations ∧
      after.contributingFiles = before.contributingFiles ∧
      after.imports = before.imports ∧
      after.source = before.source := by
  refine ⟨by cbv, ?_⟩
  exact select_pruneRecords Stray.records _ _ _ _ _ (by decide) (by decide)
    fun _ isSelected => List.contains_iff_mem.2 isSelected

end ReferenceIndex

end SwiftSlice

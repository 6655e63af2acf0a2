/-
What a generated source is made of. The declarations of all files are numbered in
the order of the records, so that the selected ones ascend by their numbers as they
stand, and neither of the two sorts moves any of them. What is emitted is therefore
what is wanted of each record, one record after the other, and nothing comes twice.

A file contributes if it holds something that is wanted. The list of the files, the
imports and both counts are taken from the emitted declarations alone, and agree
with the records since each declaration is of the file of its record.
-/

import SwiftSlice.Proofs.Companion
import SwiftSlice.Proofs.Importing

namespace SwiftSlice

open Text

/-! ### Order -/

/-- Holds of declarations in the order of their numbers, each of which is used once. -/
def AscendByNumber (declarations : List Declaration) : Prop :=
  declarations.Pairwise fun before after => before.discoveryIndex < after.discoveryIndex

namespace AscendByNumber

variable {declarations : List Declaration}

/-- Sorting by number changes nothing. -/
theorem mergeSort_eq (ascend : AscendByNumber declarations) :
    (declarations.mergeSort fun left right => left.discoveryIndex ≤ right.discoveryIndex) =
      declarations :=
  List.mergeSort_of_pairwise <| ascend.imp fun before => decide_eq_true (Int.le_of_lt before)

theorem filter (ascend : AscendByNumber declarations) (keep : Declaration → Bool) :
    AscendByNumber (declarations.filter keep) :=
  List.Pairwise.filter keep ascend

end AscendByNumber

/-- The numbers of what is collected ascend. -/
theorem Workspace.IsNumbering.ascendByNumber {workspace : Workspace} {start : Path}
    {places : List Path} {records : List FileRecord}
    (isNumbering : workspace.IsNumbering start places records) :
    AscendByNumber (records.flatMap (·.declarations)) := by
  have numbers : ((records.flatMap (·.declarations)).map (·.discoveryIndex)).Pairwise (· < ·) := by
    rw [isNumbering.numbered]
    exact List.pairwise_map.2 (List.pairwise_lt_range.imp Int.ofNat_lt.2)
  exact List.pairwise_map.1 numbers

/-! ### What is cut from some records -/

/-- Holds of a file that holds something that is wanted. -/
def FileRecord.Contributes (wanted : Declaration → Prop) (record : FileRecord) : Prop :=
  ∃ declaration ∈ record.declarations, wanted declaration

/-- Holds of a selection that has what is wanted of some records, in their order, with the files
that contribute and what these import. -/
structure Selection.IsCutFrom (records : List FileRecord) (wanted : Declaration → Prop)
    (selection : Selection) : Prop where
  inOrder : ∃ keep : Declaration → Bool,
    (∀ declaration, keep declaration = true ↔ wanted declaration) ∧
      selection.declarations = records.flatMap fun record => record.declarations.filter keep
  once : AscendByNumber selection.declarations
  filesAscend : selection.contributingFiles.Pairwise (· < ·)
  files : ∀ path, path ∈ selection.contributingFiles ↔
    ∃ record ∈ records, record.path = path ∧ record.Contributes wanted
  importsAscend : selection.imports.toList.Pairwise (· < ·)
  imports : ∀ name, name ∈ selection.imports ↔
    ∃ record ∈ records, record.Contributes wanted ∧ name ∈ record.imports
  count : selection.resolvedDeclarations = selection.declarations.length

namespace ReferenceIndex

variable {records : List FileRecord} (isBuiltin : String → Bool) (startFile : String)
  (seedNames : NameSet)

/-- The selected declarations are the wanted ones of each record, for any test that decides which
ones these are. -/
theorem declarations_select_eq (ascend : AscendByNumber (records.flatMap (·.declarations)))
    (keep : Declaration → Bool)
    (decides : ∀ declaration, keep declaration = true ↔
      Wanted (records.flatMap (·.declarations)) isBuiltin startFile seedNames declaration) :
    ((ofRecords records).select isBuiltin startFile seedNames).declarations =
      records.flatMap fun record => record.declarations.filter keep := by
  rw [select, selectionOf, filterMap_selected records isBuiltin startFile seedNames keep decides,
    ← List.filter_flatMap]
  exact (ascend.filter keep).mergeSort_eq

/-- The files that contribute to a selection. -/
theorem mem_contributingFiles_select_iff (own : ∀ record ∈ records, record.IsOwn)
    (path : String) :
    path ∈ ((ofRecords records).select isBuiltin startFile seedNames).contributingFiles ↔
      ∃ record ∈ records, record.path = path ∧ record.Contributes
        (Wanted (records.flatMap (·.declarations)) isBuiltin startFile seedNames) := by
  rw [mem_contributingFiles_select]
  constructor
  · rintro ⟨declaration, emitted, rfl⟩
    have wanted := (mem_select_iff records isBuiltin startFile seedNames declaration).1 emitted
    obtain ⟨record, inRecords, held⟩ := List.mem_flatMap.1 wanted.mem
    exact ⟨record, inRecords, (own record inRecords declaration held).symm, declaration, held,
      wanted⟩
  · rintro ⟨record, inRecords, rfl, declaration, held, wanted⟩
    exact ⟨declaration, (mem_select_iff records isBuiltin startFile seedNames declaration).2 wanted,
      own record inRecords declaration held⟩

/-- The imports of a selection are those of the files that contribute. -/
theorem mem_imports_select_iff (distinct : (records.map (·.path)).Nodup)
    (own : ∀ record ∈ records, record.IsOwn) (name : String) :
    name ∈ ((ofRecords records).select isBuiltin startFile seedNames).imports ↔
      ∃ record ∈ records, record.Contributes
        (Wanted (records.flatMap (·.declarations)) isBuiltin startFile seedNames) ∧
          name ∈ record.imports := by
  have united : name ∈ ((ofRecords records).select isBuiltin startFile seedNames).imports ↔
      ∃ path ∈ ((ofRecords records).select isBuiltin startFile seedNames).contributingFiles,
        name ∈ (ofRecords records).importsOf path :=
    NameSet.mem_unions_map _ _ name
  rw [united]
  simp only [mem_contributingFiles_select_iff isBuiltin startFile seedNames own]
  constructor
  · rintro ⟨_, ⟨record, inRecords, rfl, contributes⟩, imported⟩
    rw [importsOf_path records distinct record inRecords] at imported
    exact ⟨record, inRecords, contributes, imported⟩
  · rintro ⟨record, inRecords, contributes, imported⟩
    refine ⟨record.path, ⟨record, inRecords, rfl, contributes⟩, ?_⟩
    rwa [importsOf_path records distinct record inRecords]

/-- A selection from numbered records is cut from them. -/
theorem select_isCutFrom (distinct : (records.map (·.path)).Nodup)
    (own : ∀ record ∈ records, record.IsOwn)
    (ascend : AscendByNumber (records.flatMap (·.declarations))) :
    ((ofRecords records).select isBuiltin startFile seedNames).IsCutFrom records
      (Wanted (records.flatMap (·.declarations)) isBuiltin startFile seedNames) := by
  classical
  have inOrder := declarations_select_eq isBuiltin startFile seedNames ascend
    (fun declaration => decide (Wanted _ isBuiltin startFile seedNames declaration))
    fun declaration => decide_eq_true_iff
  refine ⟨⟨_, fun _ => decide_eq_true_iff, inOrder⟩, ?_, (NameSet.ofList _).ascending,
    mem_contributingFiles_select_iff isBuiltin startFile seedNames own,
    (NameSet.unions _).ascending, mem_imports_select_iff isBuiltin startFile seedNames distinct own,
    rfl⟩
  rw [inOrder, ← List.filter_flatMap]
  exact ascend.filter _

end ReferenceIndex

/-! ### The text -/

/-- The lines of a generated source: two lines of header with the counts, the imports and the texts
of the declarations, where an empty line comes after the header, after the imports if there are any,
and after each declaration. -/
def generatedLines (texts imports : List String) (files : Nat) : List String :=
  ["// Auto-generated by previewslice",
    "// Resolved " ++ toString texts.length ++ " declarations from " ++ toString files ++ " files",
    ""] ++
    imports.map ("import " ++ ·) ++ (if imports = [] then [] else [""]) ++
    texts.flatMap fun text => [text, ""]

/-- A text of lines that all end in a line feed. -/
def endedLines (lines : List String) : String :=
  String.join (lines.map (· ++ "\n"))

theorem endedLines_cons (line : String) (lines : List String) :
    endedLines (line :: lines) = line ++ "\n" ++ endedLines lines :=
  String.join_cons

theorem endedLines_append (lines more : List String) :
    endedLines (lines ++ more) = endedLines lines ++ endedLines more := by
  rw [endedLines, List.map_append, String.join_append, endedLines, endedLines]

theorem importBlock_eq (names : List String) :
    importBlock names = endedLines (names.map ("import " ++ ·)) ++
      endedLines (if names = [] then [] else [""]) := by
  cases names with
  | nil => rfl
  | cons first rest =>
    rw [importBlock, endedLines, List.map_map]
    rfl

theorem join_texts (declarations : List Declaration) :
    String.join (declarations.map fun declaration => declaration.sourceText ++ "\n\n") =
      endedLines ((declarations.map (·.sourceText)).flatMap fun text => [text, ""]) := by
  induction declarations with
  | nil => rfl
  | cons first rest inductionHypothesis =>
    have twoLines : endedLines [first.sourceText, ""] = first.sourceText ++ "\n\n" := by
      rw [endedLines_cons, String.append_assoc]
      rfl
    rw [List.map_cons, String.join_cons, inductionHypothesis, List.map_cons, List.flatMap_cons,
      endedLines_append, twoLines]

/-- Where the sort moves nothing, a selection is written as its lines. -/
theorem Selection.source_eq {selection : Selection}
    (ascend : AscendByNumber selection.declarations)
    (count : selection.resolvedDeclarations = selection.declarations.length) :
    selection.source = endedLines (generatedLines (selection.declarations.map (·.sourceText))
      selection.imports.toList selection.contributingFiles.length) := by
  have header : endedLines ["// Auto-generated by previewslice",
      "// Resolved " ++ toString (selection.declarations.map (·.sourceText)).length ++
        " declarations from " ++ toString selection.contributingFiles.length ++ " files", ""] =
      Artifact.generatedHeader ++ "\n// Resolved " ++ toString selection.resolvedDeclarations ++
        " declarations from " ++ toString selection.contributingFiles.length ++ " files\n\n" := by
    have opening : "\n// Resolved " = "\n" ++ "// Resolved " := rfl
    have closing : " files\n\n" = " files" ++ ("\n" ++ ("" ++ ("\n" ++ ""))) := rfl
    rw [count, List.length_map, opening, closing, endedLines_cons, endedLines_cons, endedLines_cons]
    simp only [String.append_assoc]
    rfl
  rw [generatedLines, endedLines_append, endedLines_append, endedLines_append, header,
    Selection.source, Selection.ordered, ascend.mergeSort_eq, importBlock_eq, join_texts]
  simp only [String.append_assoc]

example : endedLines (generatedLines ["struct A \x7b\x7d"] ["SwiftUI"] 1) =
    "// Auto-generated by previewslice\n// Resolved 1 declarations from 1 files\n\n" ++
      "import SwiftUI\n\nstruct A \x7b\x7d\n\n" := by
  decide

/-! ### Slices of a workspace -/

namespace Workspace

/-- Holds of a record whose declarations are made by the segments with code of its file, one by
each and in their order. Where the grammar puts the children of the root in order, the segments
follow one another in the source. -/
def IsInSourceOrder (workspace : Workspace) (record : FileRecord) : Prop :=
  ∃ path source, workspace.IsRecordOf path source record ∧
    List.Forall₂ (Segment.IsRecordedAs source record.path)
      (codeSegments source (workspace.grammar source)) record.declarations ∧
    (InOrder (workspace.grammar source).children →
      (codeSegments source (workspace.grammar source)).Pairwise fun before after =>
        before.stop ≤ after.start)

theorem IsRecordOf.isInSourceOrder {workspace : Workspace} {path : Path} {source : Bytes}
    {record : FileRecord} (isRecord : workspace.IsRecordOf path source record) :
    workspace.IsInSourceOrder record := by
  refine ⟨path, source, isRecord, ?_, fun ordered => ordered.pairwise_segments.filter _⟩
  obtain ⟨_, startIndex, rfl⟩ := isRecord
  exact forall₂_declarations source (workspace.grammar source) path.text startIndex

/-- What a successful selection is written as. The records are those of the scanned files that hold
text, in the order of the scan, with the start file behind them if it is not among them, and the
declarations of each record stand in the order of its source. The selection has what is wanted of
these records, in this order and each declaration once; the files that it names are those that hold
a wanted declaration, its imports are those of these files, and both ascend. It is written as a
header with the number of the declarations and that of the files, a line for each import, and the
text of each declaration; and the summary tells the same number, files and imports. -/
theorem select_rendered (workspace : Workspace) (startFile : Path) (sourcesDir : Option Path)
    (isAbsolute : ∀ base ∈ sourcesDir, base.isAbsolute = true) (seeds : NameSet)
    (config : Config) (selection : Selection)
    (selected : (workspace.select startFile sourcesDir seeds config).outcome = .ok selection) :
    ∃ start files places records, workspace.normalize startFile = .ok start ∧
      workspace.candidateFiles sourcesDir config = .ok files ∧
      files.mapM workspace.normalize = .ok places ∧
      workspace.IsNumbering start places records ∧
      (∀ record ∈ records, workspace.IsInSourceOrder record) ∧
      selection.IsCutFrom records (Wanted (records.flatMap (·.declarations))
        (isBuiltinType config.extraBuiltinTypes) start.text seeds) ∧
      selection.source = endedLines (generatedLines (selection.declarations.map (·.sourceText))
        selection.imports.toList selection.contributingFiles.length) ∧
      ∀ names,
        (selection.summary names).field? "resolved_declarations" =
            some (.int selection.declarations.length) ∧
          (selection.summary names).field? "contributing_files" =
            some (.list (selection.contributingFiles.map .string)) ∧
          (selection.summary names).field? "resolved_imports" =
            some (.list (selection.imports.toList.map .string)) := by
  rw [outcome_select, bind_eq_ok_iff] at selected
  obtain ⟨records, collected, selected⟩ := selected
  obtain ⟨start, normalized, isSelection⟩ := bind_eq_ok_iff.1 selected
  obtain rfl := Except.ok.inj isSelection
  obtain ⟨same, files, places, alsoNormalized, scanned, arePlaces, isNumbering⟩ :=
    isNumbering_of_collectSources isAbsolute collected
  obtain rfl := Except.ok.inj (normalized.symm.trans alsoNormalized)
  have isCut := ReferenceIndex.select_isCutFrom (isBuiltinType config.extraBuiltinTypes) start.text
    seeds isNumbering.distinct isNumbering.own isNumbering.ascendByNumber
  refine ⟨start, files, places, records, normalized, scanned, arePlaces, isNumbering,
    fun record member => ?_, isCut, Selection.source_eq isCut.once isCut.count,
    fun names => ⟨rfl, rfl, rfl⟩⟩
  obtain ⟨path, source, isRecord⟩ := isRecordOf_of_collectSources collected record member
  exact isRecord.isInSourceOrder

end Workspace

namespace Gallery

/-- A file with a badge, which nothing refers to. -/
def badgeSource : Bytes :=
  encode "import Extras\nstruct Badge \x7b\x7d"

def badgeFile : Node :=
  Guarded.sourceFile 29
    [Imported.importNode 0 13, NestedApp.typeNode [] 14 21 29 (NestedApp.bodyNode 27 29 [])]

/-- A file with a card. -/
def cardSource : Bytes :=
  encode "import Kit\nstruct Card \x7b\x7d"

def cardFile : Node :=
  Guarded.sourceFile 25
    [Imported.importNode 0 10, NestedApp.typeNode [] 11 18 25 (NestedApp.bodyNode 23 25 [])]

/-- A file with a screen that refers to the card, and a row. -/
def screenSource : Bytes :=
  encode "import SwiftUI\nstruct Screen \x7b let card: Card \x7d\nstruct Row \x7b\x7d"

def screenFile : Node :=
  Guarded.sourceFile 61
    [Imported.importNode 0 14,
      NestedApp.typeNode [] 15 22 47
        (NestedApp.bodyNode 29 47 [Imported.leaf "type_identifier" 41 45]),
      NestedApp.typeNode [] 48 55 61 (NestedApp.bodyNode 59 61 [])]

/-- The workspace of the files. The one with the screen is beside the directory of the others. -/
def workspace : Workspace where
  tree :=
    { entries := [(["Sources"], .directory), (["Sources", "Badge.swift"], .file badgeSource),
        (["Sources", "Card.swift"], .file cardSource), (["Screen.swift"], .file screenSource)]
      distinct := by decide
      named := by decide
      rooted := by decide }
  directory := []
  home := []
  grammar := fun source =>
    if source = badgeSource then badgeFile
    else if source = cardSource then cardFile
    else screenFile

def sources : Path :=
  Disk.pathOf ["Sources"]

def start : Path :=
  Disk.pathOf ["Screen.swift"]

def badge : Declaration :=
  ⟨"struct Badge \x7b\x7d", .type, .ofList ["Badge"], ∅, ∅, none, false, "/Sources/Badge.swift", 0,
    2, 2⟩

def card : Declaration :=
  ⟨"struct Card \x7b\x7d", .type, .ofList ["Card"], ∅, ∅, none, false, "/Sources/Card.swift", 1, 2,
    2⟩

def screen : Declaration :=
  ⟨"struct Screen \x7b let card: Card \x7d", .type, .ofList ["Screen"], ∅, .ofList ["Card"], none,
    false, "/Screen.swift", 2, 2, 2⟩

def row : Declaration :=
  ⟨"struct Row \x7b\x7d", .type, .ofList ["Row"], ∅, ∅, none, false, "/Screen.swift", 3, 3, 3⟩

def badgeRecord : FileRecord :=
  ⟨"/Sources/Badge.swift", .ofList ["Extras"], [badge], ∅⟩

def cardRecord : FileRecord :=
  ⟨"/Sources/Card.swift", .ofList ["Kit"], [card], ∅⟩

def screenRecord : FileRecord :=
  ⟨"/Screen.swift", .ofList ["SwiftUI"], [screen, row], ∅⟩

theorem below_sources : workspace.tree.below ["Sources"] =
    [(["Badge.swift"], .file badgeSource), (["Card.swift"], .file cardSource)] := by
  decide

theorem isPlain_sources : Disk.IsPlain workspace.tree ["Sources"] where
  linksAside := by simp [workspace]
  isDirectory := by decide
  noIgnoreFile := by decide
  reachable := by decide
  swiftFile := by
    rw [below_sources]
    simp

theorem candidateFiles_sources : workspace.candidateFiles (some sources) {} =
    .ok [Disk.pathOf ["Sources", "Badge.swift"], Disk.pathOf ["Sources", "Card.swift"]] := by
  have found : workspace.swiftFiles sources (Config.scanRules {}) = _ :=
    isPlain_sources.swiftFiles_eq rfl
  rw [below_sources] at found
  refine found.trans (congrArg Except.ok (List.mergeSort_of_pairwise ?_))
  decide +kernel

theorem isResolved {location : Location}
    (named : ∀ name ∈ location, IsFileName name ∧ name.utf8ByteSize ≤ nameLimit) :
    workspace.tree.IsResolved (Disk.pathOf location) :=
  Disk.isResolved_of_linkFree (by simp [workspace]) named

/-- A file of the workspace is collected under the path that it is found at. -/
theorem collectFile_of_entry (location : Location) (content : Bytes) (record : FileRecord)
    (startIndex : Int)
    (named : ∀ name ∈ location, IsFileName name ∧ name.utf8ByteSize ≤ nameLimit)
    (checked : Disk.checkPath (Disk.pathOf location) = .ok ())
    (found : workspace.tree.entry? location = some (.file content))
    (wellFormed : isWellFormed content = true)
    (readable : (codeUnits content (workspace.grammar content)).all (·.isReadable content) = true)
    (recorded : fileRecord content (workspace.grammar content) (Disk.pathOf location).text
      startIndex = record) :
    workspace.normalize (Disk.pathOf location) = .ok (Disk.pathOf location) ∧
      (workspace.collectFile (Disk.pathOf location) startIndex).outcome = .ok (some record) := by
  have isRead : workspace.read (Disk.pathOf location) = .ok content :=
    Disk.read_eq_ok_iff.2 (Disk.entry_of_present (isResolved named) checked found)
  refine ⟨Disk.normalize_of_isResolved (isResolved named), ?_⟩
  rw [Workspace.outcome_collectFile_of_read isRead wellFormed readable, recorded]

/-- The scan finds two files, and the start file comes after them. -/
theorem outcome_collectSources_sources :
    (workspace.collectSources start (some sources) {}).outcome =
      .ok [badgeRecord, cardRecord, screenRecord] := by
  obtain ⟨normalizedBadge, collectedBadge⟩ := collectFile_of_entry ["Sources", "Badge.swift"]
    badgeSource badgeRecord 0 (by decide) (by decide) (by decide) (by decide) (by decide +kernel)
    (by decide +kernel)
  obtain ⟨normalizedCard, collectedCard⟩ := collectFile_of_entry ["Sources", "Card.swift"]
    cardSource cardRecord 1 (by decide) (by decide) (by decide) (by decide) (by decide +kernel)
    (by decide +kernel)
  obtain ⟨normalizedScreen, collectedScreen⟩ := collectFile_of_entry ["Screen.swift"]
    screenSource screenRecord 2 (by decide) (by decide) (by decide) (by decide) (by decide +kernel)
    (by decide +kernel)
  have scanned : (workspace.collectFiles 0
      [Disk.pathOf ["Sources", "Badge.swift"], Disk.pathOf ["Sources", "Card.swift"]]).outcome =
        .ok [badgeRecord, cardRecord] :=
    workspace.outcome_collectFiles_of_collected normalizedBadge collectedBadge
      (workspace.outcome_collectFiles_of_collected normalizedCard collectedCard rfl)
  exact workspace.outcome_collectSources_beside normalizedScreen candidateFiles_sources scanned
    (by decide) collectedScreen

/-- What is selected from the files. -/
def selection : Selection :=
  (ReferenceIndex.ofRecords [badgeRecord, cardRecord, screenRecord]).select Workshop.isBuiltin
    start.text ∅

theorem outcome_select_sources :
    (workspace.select start (some sources) ∅ {}).outcome = .ok selection := by
  have normalized : workspace.normalize start = .ok start :=
    Disk.normalize_of_isResolved (isResolved (by decide))
  rw [Workspace.outcome_select, outcome_collectSources_sources]
  exact bind_eq_ok_iff.2 ⟨_, rfl, bind_eq_ok_iff.2 ⟨_, normalized, rfl⟩⟩

/-- All but the badge is wanted. -/
theorem wanted_iff (declaration : Declaration) :
    Wanted [badge, card, screen, row] Workshop.isBuiltin start.text ∅ declaration ↔
      declaration ∈ [card, screen, row] := by
  have needed_screen : Needed [badge, card, screen, row] Workshop.isBuiltin start.text ∅ screen :=
    .inStartFile (by simp) rfl rfl
  constructor
  · intro wanted
    rcases List.mem_cons.1 wanted.mem with rfl | inRest
    · rcases wanted with needed | ⟨_, _, free, _⟩
      · exact absurd needed (not_needed_of_unmentioned (by decide) rfl (by decide))
      · exact absurd free (by decide)
    · exact inRest
  · intro member
    refine .inl ?_
    simp only [List.mem_cons, List.not_mem_nil, or_false] at member
    rcases member with rfl | rfl | rfl
    · exact .referenced needed_screen (by decide : "Card" ∈ screen.referencedTypes)
        Workshop.isBuiltin_card (by simp) rfl (.inl (by decide))
    · exact needed_screen
    · exact .inStartFile (by simp) rfl rfl

theorem declarations_selection : selection.declarations = [card, screen, row] := by
  have ascend : AscendByNumber
      ([badgeRecord, cardRecord, screenRecord].flatMap (·.declarations)) := by
    rw [AscendByNumber]
    decide
  refine (ReferenceIndex.declarations_select_eq Workshop.isBuiltin start.text ∅ ascend
    (fun declaration => [card, screen, row].contains declaration) fun declaration =>
      List.contains_iff_mem.trans (wanted_iff declaration).symm).trans ?_
  decide +kernel

theorem contributingFiles_selection :
    selection.contributingFiles = ["/Screen.swift", "/Sources/Card.swift"] := by
  show (NameSet.ofList (selection.declarations.map (·.originFile))).toList = _
  rw [declarations_selection]
  decide +kernel

theorem imports_selection : selection.imports = .ofList ["Kit", "SwiftUI"] := by
  show NameSet.unions (selection.contributingFiles.map (ReferenceIndex.importsOf _)) = _
  rw [contributingFiles_selection]
  decide +kernel

end Gallery

namespace Workspace

/-- The start file comes after the scanned ones. The file that nothing refers to does not appear, is
not counted, and adds no import. -/
theorem select_rendered_gallery :
    (∀ base ∈ some Gallery.sources, base.isAbsolute = true) ∧
      (Gallery.workspace.select Gallery.start (some Gallery.sources) ∅ {}).outcome =
        .ok Gallery.selection ∧
      Gallery.selection.declarations = [Gallery.card, Gallery.screen, Gallery.row] ∧
      Gallery.selection.source =
        "// Auto-generated by previewslice\n// Resolved 3 declarations from 2 files\n\n" ++
          "import Kit\nimport SwiftUI\n\nstruct Card \x7b\x7d\n\n" ++
          "struct Screen \x7b let card: Card \x7d\n\nstruct Row \x7b\x7d\n\n" ∧
      ∀ names, (Gallery.selection.summary names).field? "resolved_declarations" = some (.int 3) ∧
        (Gallery.selection.summary names).field? "contributing_files" =
          some (.list [.string "/Screen.swift", .string "/Sources/Card.swift"]) ∧
        (Gallery.selection.summary names).field? "resolved_imports" =
          some (.list [.string "Kit", .string "SwiftUI"]) := by
  have isAbsolute : ∀ base ∈ some Gallery.sources, base.isAbsolute = true := by
    rintro _ ⟨⟩
    rfl
  obtain ⟨_, _, _, _, _, _, _, _, _, _, isSource, summarized⟩ := select_rendered Gallery.workspace
    Gallery.start (some Gallery.sources) isAbsolute ∅ {} _ Gallery.outcome_select_sources
  rw [Gallery.declarations_selection, Gallery.contributingFiles_selection,
    Gallery.imports_selection] at isSource summarized
  exact ⟨isAbsolute, Gallery.outcome_select_sources, Gallery.declarations_selection,
    isSource.trans (by decide +kernel), summarized⟩

end Workspace

end SwiftSlice

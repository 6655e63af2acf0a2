/-
Entry points never reach the output, from the files of a disk to the selection. A
walk visits everything at and below a node, so a unit of code is marked if there
is an entry point anywhere inside of one of its items, however deep. Every
declaration of a selection comes from a unit of a file that was read, and each of
the ways into the selection asks for declarations that are not marked.
-/

import SwiftSlice.Proofs.Outcome
import SwiftSlice.Proofs.Resolving
import SwiftSlice.Proofs.Selection

namespace SwiftSlice

open Text

/-! ### Nodes inside of others -/

/-- Holds of a node that stands at or below another one. -/
def Node.IsWithin (node top : Node) : Prop :=
  Relation.ReflTransGen (fun parent child : Node => child ∈ parent.children) top node

namespace Node

/-- The loop over a stack visits what stands at or below the nodes on it. -/
theorem mem_walkStack_iff (stack : List Node) (node : Node) :
    node ∈ walkStack stack ↔ ∃ top ∈ stack, node.IsWithin top := by
  fun_induction walkStack stack with
  | case1 => simp
  | case2 top rest inductionHypothesis =>
    rw [List.mem_cons, inductionHypothesis, List.exists_mem_cons_iff]
    -- What is below the top is the top itself, or is below one of its children.
    have split : node.IsWithin top ↔
        node = top ∨ ∃ child ∈ top.children, node.IsWithin child := by
      rw [IsWithin, Relation.ReflTransGen.cases_head_iff, eq_comm]
      rfl
    rw [split, or_assoc]
    refine or_congr_right ⟨?_, ?_⟩
    · rintro ⟨other, member, within⟩
      rcases List.mem_append.1 member with isChild | waits
      · exact .inl ⟨other, isChild, within⟩
      · exact .inr ⟨other, waits, within⟩
    · rintro (⟨child, isChild, within⟩ | ⟨other, waits, within⟩)
      · exact ⟨child, List.mem_append_left _ isChild, within⟩
      · exact ⟨other, List.mem_append_right _ waits, within⟩

theorem mem_walk_iff (top node : Node) : node ∈ top.walk ↔ node.IsWithin top := by
  rw [walk, mem_walkStack_iff]
  simp

end Node

/-! ### Entry points -/

/-- Holds of a declaration node with an attribute of the given name, right below it or among its
modifiers. -/
def CarriesAttribute (source : Bytes) (name : String) (node : Node) : Prop :=
  ∃ mark : Node, mark.kind = "attribute" ∧ attributeName source mark = name ∧
    (mark ∈ node.children ∨
      ∃ modifiers ∈ node.children, modifiers.kind = "modifiers" ∧ mark ∈ modifiers.children)

/-- Holds of a type declaration, no extension, with an attribute that makes it an entry point. -/
structure IsEntryPointType (source : Bytes) (node : Node) : Prop where
  isClass : node.kind = "class_declaration"
  noExtension : keyword? source node ≠ some "extension"
  marked : ∃ name ∈ ["main", "UIApplicationMain", "NSApplicationMain"],
    CarriesAttribute source name node

theorem mem_attributePlaces_iff (node mark : Node) (isAttribute : mark.kind = "attribute") :
    mark ∈ attributePlaces node ↔
      mark ∈ node.children ∨
        ∃ modifiers ∈ node.children, modifiers.kind = "modifiers" ∧ mark ∈ modifiers.children := by
  rw [attributePlaces, List.mem_flatMap]
  constructor
  · rintro ⟨child, isChild, place⟩
    split at place
    · exact .inr ⟨child, isChild, ‹_›, place⟩
    · rw [List.mem_singleton.1 place]
      exact .inl isChild
  · rintro (isChild | ⟨modifiers, isChild, sort, place⟩)
    · refine ⟨mark, isChild, ?_⟩
      rw [if_neg (by rw [isAttribute]; decide)]
      exact List.mem_singleton_self mark
    · exact ⟨modifiers, isChild, by rwa [if_pos sort]⟩

theorem hasEntryAttribute_iff (source : Bytes) (node : Node) :
    hasEntryAttribute source node = true ↔
      ∃ name ∈ ["main", "UIApplicationMain", "NSApplicationMain"],
        CarriesAttribute source name node := by
  rw [hasEntryAttribute, List.any_eq_true]
  constructor
  · rintro ⟨mark, place, isEntry⟩
    obtain ⟨sort, listed⟩ := (Bool.and_eq_true _ _).mp isEntry
    have isAttribute : mark.kind = "attribute" := eq_of_beq sort
    exact ⟨attributeName source mark, List.contains_iff_mem.1 listed, mark, isAttribute, rfl,
      (mem_attributePlaces_iff node mark isAttribute).1 place⟩
  · rintro ⟨name, listed, mark, isAttribute, rfl, place⟩
    refine ⟨mark, (mem_attributePlaces_iff node mark isAttribute).2 place, ?_⟩
    rw [isAttribute, Bool.and_eq_true]
    exact ⟨beq_self_eq_true _, List.contains_iff_mem.2 listed⟩

theorem isEntryPoint_iff (source : Bytes) (node : Node) :
    isEntryPoint source node = true ↔ IsEntryPointType source node := by
  rw [isEntryPoint, Bool.and_eq_true, Bool.and_eq_true, hasEntryAttribute_iff, Bool.not_eq_true']
  constructor
  · rintro ⟨⟨sort, plain⟩, marked⟩
    refine ⟨eq_of_beq sort, fun extension => ?_, marked⟩
    rw [isExtensionNode, sort, extension] at plain
    exact absurd plain (by decide)
  · rintro ⟨isClass, noExtension, marked⟩
    refine ⟨⟨beq_of_eq isClass, ?_⟩, marked⟩
    rw [isExtensionNode, beq_false_of_ne noExtension, Bool.and_false]

/-- A unit of code is marked if there is an entry point inside of one of its items. -/
theorem hasEntryPoint_declaration_iff (source : Bytes) (unit : CodeUnit) (path : String)
    (index : Int) :
    (unit.declaration source path index).hasEntryPoint = true ↔
      ∃ item ∈ unit.items, ∃ node, node.IsWithin item ∧ IsEntryPointType source node := by
  show unit.items.any (entryPointWithin source) = true ↔ _
  simp only [List.any_eq_true, entryPointWithin, Node.mem_walk_iff, isEntryPoint_iff]

/-! ### Where declarations come from -/

namespace Workspace

variable (workspace : Workspace)

/-- Holds of the record of a file that can be read, whatever its declarations are numbered from. -/
def IsRecordOf (path : Path) (source : Bytes) (record : FileRecord) : Prop :=
  workspace.read path = .ok source ∧
    ∃ startIndex, record = fileRecord source (workspace.grammar source) path.text startIndex

variable {workspace}

theorem isRecordOf_of_collectFile {path : Path} {startIndex : Int} {record : FileRecord}
    (collected : (workspace.collectFile path startIndex).outcome = .ok (some record)) :
    ∃ source, workspace.IsRecordOf path source record := by
  rw [outcome_collectFile] at collected
  split at collected
  · rename_i source isRead
    split at collected
    · split at collected
      · have isRecord := Option.some.inj (Except.ok.inj collected)
        exact ⟨source, isRead, startIndex, isRecord.symm⟩
      · exact absurd collected nofun
    · exact absurd collected nofun
  · exact absurd collected nofun
  · exact absurd collected nofun

theorem isRecordOf_of_collectFiles {startIndex : Int} {files : List Path}
    {records : List FileRecord}
    (collected : (workspace.collectFiles startIndex files).outcome = .ok records) :
    ∀ record ∈ records, ∃ path source, workspace.IsRecordOf path source record := by
  induction files generalizing startIndex records with
  | nil =>
    obtain rfl : [] = records := Except.ok.inj collected
    exact fun record member => absurd member List.not_mem_nil
  | cons file rest inductionHypothesis =>
    rw [outcome_collectFiles_cons, bind_eq_ok_iff] at collected
    obtain ⟨path, _, collected⟩ := collected
    obtain ⟨found, isFound, collected⟩ := bind_eq_ok_iff.1 collected
    cases found with
    | none => exact inductionHypothesis collected
    | some first =>
      obtain ⟨others, collectedOthers, isWhole⟩ := bind_eq_ok_iff.1 collected
      obtain rfl : first :: others = records := Except.ok.inj isWhole
      intro record member
      rcases List.mem_cons.1 member with rfl | inOthers
      · exact ⟨path, isRecordOf_of_collectFile isFound⟩
      · exact inductionHypothesis collectedOthers record inOthers

/-- The records that a slice is cut from are those of files that can be read. -/
theorem isRecordOf_of_collectSources {startFile : Path} {sourcesDir : Option Path}
    {config : Config} {records : List FileRecord}
    (collected : (workspace.collectSources startFile sourcesDir config).outcome = .ok records) :
    ∀ record ∈ records, ∃ path source, workspace.IsRecordOf path source record := by
  rw [outcome_collectSources, bind_eq_ok_iff] at collected
  obtain ⟨start, _, collected⟩ := collected
  obtain ⟨files, _, collected⟩ := bind_eq_ok_iff.1 collected
  obtain ⟨scanned, collectedFiles, collected⟩ := bind_eq_ok_iff.1 collected
  have fromScan := isRecordOf_of_collectFiles collectedFiles
  split at collected
  · obtain rfl : scanned = records := Except.ok.inj collected
    exact fromScan
  · obtain ⟨found, isFound, collected⟩ := bind_eq_ok_iff.1 collected
    cases found with
    | none => exact absurd collected nofun
    | some last =>
      obtain rfl : scanned ++ [last] = records := Except.ok.inj collected
      intro record member
      rcases List.mem_append.1 member with inScan | isLast
      · exact fromScan record inScan
      · rw [List.mem_singleton.1 isLast]
        exact ⟨start, isRecordOf_of_collectFile isFound⟩

/-- Holds of a unit of code of a file that can be read, and of the declaration that it makes. -/
def Makes (workspace : Workspace) (source : Bytes) (unit : CodeUnit) (declaration : Declaration) :
    Prop :=
  ∃ path index, workspace.read path = .ok source ∧
    unit ∈ codeUnits source (workspace.grammar source) ∧
    declaration = unit.declaration source path.text index

theorem IsRecordOf.makes {path : Path} {source : Bytes} {record : FileRecord}
    (isRecord : workspace.IsRecordOf path source record) {declaration : Declaration}
    (held : declaration ∈ record.declarations) :
    ∃ unit, workspace.Makes source unit declaration := by
  obtain ⟨isRead, startIndex, rfl⟩ := isRecord
  obtain ⟨offset, atOffset⟩ := List.mem_iff_getElem?.1 held
  rw [getElem?_declarations_fileRecord] at atOffset
  obtain ⟨unit, atUnit, made⟩ := Option.map_eq_some_iff.1 atOffset
  exact ⟨unit, path, _, isRead, List.mem_of_getElem? atUnit, made.symm⟩

end Workspace

/-! ### Entry points in selections -/

/-- None of the ways into a selection lets an entry point through. -/
theorem Wanted.plain {declarations : List Declaration} {isBuiltin : String → Bool}
    {startFile : String} {seedNames : NameSet} {declaration : Declaration}
    (wanted : Wanted declarations isBuiltin startFile seedNames declaration) :
    declaration.hasEntryPoint = false := by
  rcases wanted with needed | ⟨_, plain, _⟩
  · cases needed <;> assumption
  · exact plain

namespace Workspace

/-- Every declaration of a selection is made by a unit of code of a file that was read, and there is
no entry point at or below any item of a unit that makes it, whatever the start file holds. -/
theorem select_entryPointFree (workspace : Workspace) (startFile : Path)
    (sourcesDir : Option Path) (seeds : NameSet) (config : Config) (selection : Selection)
    (selected : (workspace.select startFile sourcesDir seeds config).outcome = .ok selection)
    (declaration : Declaration) (emitted : declaration ∈ selection.declarations) :
    (∃ source unit, workspace.Makes source unit declaration) ∧
      ∀ source unit, workspace.Makes source unit declaration →
        ∀ item ∈ unit.items, ∀ node : Node, node.IsWithin item →
          ¬ IsEntryPointType source node := by
  rw [outcome_select, bind_eq_ok_iff] at selected
  obtain ⟨records, collected, selected⟩ := selected
  obtain ⟨start, _, isSelection⟩ := bind_eq_ok_iff.1 selected
  obtain rfl := Except.ok.inj isSelection
  have wanted := (ReferenceIndex.mem_select_iff records _ _ _ declaration).1 emitted
  constructor
  · obtain ⟨record, inRecords, held⟩ := List.mem_flatMap.1 wanted.mem
    obtain ⟨path, source, isRecord⟩ := isRecordOf_of_collectSources collected record inRecords
    exact ⟨source, isRecord.makes held⟩
  · rintro source unit ⟨path, index, _, _, rfl⟩ item inItems node within isEntry
    have marked := (hasEntryPoint_declaration_iff source unit path.text index).2
      ⟨item, inItems, node, within, isEntry⟩
    exact Bool.false_ne_true (wanted.plain.symm.trans marked)

end Workspace

namespace NestedApp

/-- An application inside of another type, and a view beside them. -/
def source : Bytes :=
  encode "struct Root \x7b @main struct App \x7b\x7d \x7d\nstruct Card \x7b\x7d"

def bodyNode (start stop : Nat) (members : List Node) : Node :=
  .branch ⟨"class_body", none, true, false⟩ start stop members

/-- A type declaration with one blank between its parts. -/
def typeNode (marks : List Node) (start name stop : Nat) (body : Node) : Node :=
  .branch ⟨"class_declaration", none, true, false⟩ ((marks.head?.map Node.start).getD start) stop
    (marks ++
      [.branch ⟨"struct", some .declarationKind, false, false⟩ start (name - 1) [],
        .branch ⟨"type_identifier", some .name, true, false⟩ name (body.start - 1) [], body])

/-- The application, with the attribute among its modifiers. -/
def app : Node :=
  typeNode
    [.branch ⟨"modifiers", none, true, false⟩ 14 19
      [.branch ⟨"attribute", none, true, false⟩ 14 19 []]] 20 27 33 (bodyNode 31 33 [])

def root : Node :=
  typeNode [] 0 7 35 (bodyNode 12 35 [app])

/-- The syntax tree of the file. -/
def file : Node :=
  .branch ⟨"source_file", none, true, false⟩ 0 50 [root, typeNode [] 36 43 50 (bodyNode 48 50 [])]

def workspace : Workspace where
  tree :=
    { entries := [(["App.swift"], .file source)]
      distinct := by simp
      named := by
        simp
        decide
      rooted := by simp [DirectoryIn] }
  directory := []
  home := []
  grammar := fun _ => file

def start : Path :=
  Disk.pathOf ["App.swift"]

theorem isEntryPointType_app : IsEntryPointType source app :=
  (isEntryPoint_iff source app).1 (by decide)

theorem app_isWithin_root : app.IsWithin root := by
  have inRoot : bodyNode 12 35 [app] ∈ root.children := by simp [root, typeNode, Node.children]
  have inBody : app ∈ (bodyNode 12 35 [app]).children := List.mem_singleton_self app
  exact .head inRoot (.single inBody)

theorem isResolved_start : workspace.tree.IsResolved start :=
  (FileTree.IsResolved.root workspace.tree).child (by decide) (by
    intro target
    simp [workspace, FileTree.entry?, Disk.pathOf])

theorem read_start : workspace.read start = .ok source :=
  Disk.read_eq_ok_iff.2
    (Disk.entry_of_present isResolved_start (by decide) (by decide))

/-- The view is a plain declaration of the file. -/
theorem exists_view : ∃ view ∈ (fileRecord source file start.text 0).declarations,
    view.sourceText = "struct Card \x7b\x7d" ∧ view.hasEntryPoint = false ∧
      view.originFile = start.text := by
  decide +kernel

/-- A selection from the file has the view. -/
theorem exists_selection : ∃ selection,
    (workspace.select start none ∅ {}).outcome = .ok selection ∧
      ∃ view ∈ selection.declarations, view.sourceText = "struct Card \x7b\x7d" := by
  obtain ⟨view, inFile, isText, plain, here⟩ := exists_view
  refine ⟨_, Workspace.outcome_select_alone (Disk.normalize_of_isResolved isResolved_start)
    read_start (by decide +kernel) (show (codeUnits source file).all _ = true by decide +kernel)
    ∅ {}, view, (ReferenceIndex.mem_select_iff _ _ _ _ view).2 ?_, isText⟩
  exact .inl (.inStartFile (List.mem_flatMap.2 ⟨_, List.mem_singleton_self _, inFile⟩) plain here)

end NestedApp

namespace Workspace

/-- The start file holds an application inside of another type; the view beside them is selected. -/
theorem select_entryPointFree_nested :
    NestedApp.app.IsWithin NestedApp.root ∧ IsEntryPointType NestedApp.source NestedApp.app ∧
      ∃ selection view, (NestedApp.workspace.select NestedApp.start none ∅ {}).outcome =
          .ok selection ∧
        view ∈ selection.declarations ∧ view.sourceText = "struct Card \x7b\x7d" ∧
        (∃ source unit, NestedApp.workspace.Makes source unit view) ∧
        ∀ source unit, NestedApp.workspace.Makes source unit view →
          ∀ item ∈ unit.items, ∀ node : Node, node.IsWithin item →
            ¬ IsEntryPointType source node := by
  refine ⟨NestedApp.app_isWithin_root, NestedApp.isEntryPointType_app, ?_⟩
  obtain ⟨selection, selected, view, emitted, isText⟩ := NestedApp.exists_selection
  exact ⟨selection, view, selected, emitted, isText, select_entryPointFree NestedApp.workspace
    NestedApp.start none ∅ {} selection selected view emitted⟩

end Workspace

end SwiftSlice

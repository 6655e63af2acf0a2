/-
The two readings of imports. A record has the modules that a file imports at its
top level, outside of every conditional block; what the host application imports
is read from the whole syntax tree. Both read a module off a node in one way, so
the first reading gives no module that the second does not give, and they differ
only by the imports inside of blocks and of other nodes.
-/

import SwiftSlice.Proofs.Reordering
import SwiftSlice.Proofs.Segmentation

namespace SwiftSlice

open Text

/-! ### Imports -/

/-- Holds of an import and the module that it names. -/
structure IsImportOf (source : Bytes) (name : String) (node : Node) : Prop where
  sort : node.kind = "import_declaration"
  named : importedModule? source node = some name
  nonempty : name ≠ ""

/-- Holds of a named child of the root outside of every run from an `#if` to its `#endif`: where the
children of the root are cut, it stands alone. -/
structure StandsAlone (source : Bytes) (root node : Node) : Prop where
  isNamed : node.isNamed = true
  outside : ∃ cut, CutInto source root.children cut ∧ Segment.single node ∈ cut

theorem standsAlone_iff {source : Bytes} {root node : Node} :
    StandsAlone source root node ↔
      node.isNamed = true ∧ Segment.single node ∈ segments source root.children := by
  constructor
  · rintro ⟨isNamed, cut, isCut, inCut⟩
    exact ⟨isNamed, (cutInto_iff source root.children cut).1 isCut ▸ inCut⟩
  · rintro ⟨isNamed, inCut⟩
    exact ⟨isNamed, _, cutInto_segments source root.children, inCut⟩

/-- What stands alone is a child of the root. -/
theorem StandsAlone.isWithin {source : Bytes} {root node : Node}
    (alone : StandsAlone source root node) : node.IsWithin root := by
  have isChild := (exists_segment_iff source root.children node).1
    ⟨_, (standsAlone_iff.1 alone).2, List.mem_singleton_self node⟩
  exact Relation.ReflTransGen.single isChild

theorem itemKind_eq_importing_iff (source : Bytes) (node : Node) :
    itemKind source node = .importing ↔ node.kind = "import_declaration" := by
  rw [itemKind]
  constructor
  · intro importing
    by_contra other
    rw [if_neg other] at importing
    split_ifs at importing
  · exact fun sort => if_pos sort

/-- An import is an item if it is named. -/
theorem isItem_of_import {node : Node} (sort : node.kind = "import_declaration") :
    isItem node = node.isNamed := by
  rw [isItem, sort]
  exact Bool.and_true _

theorem module?_importing_eq_some_iff {found : Option String} {name : String} :
    (Content.importing found).module? = some name ↔ found = some name ∧ name ≠ "" := by
  cases found with
  | none => simp [Content.module?]
  | some other =>
    rw [Content.module?, Option.ite_none_left_eq_some, Option.some_inj, and_comm]
    exact and_congr_right fun same => by rw [same]

/-- A block imports nothing, whatever it holds. -/
theorem module?_content_block (source : Bytes) (first : Node) (rest : List Node) :
    ((Segment.block first rest).content source).module? = none := by
  rw [Segment.content]
  split_ifs <;> rfl

/-- A segment imports a module exactly if it is a named import of it that stands alone. -/
theorem module?_content_eq_some_iff {source : Bytes} {segment : Segment} {name : String} :
    (segment.content source).module? = some name ↔
      ∃ node, segment = .single node ∧ node.isNamed = true ∧ IsImportOf source name node := by
  cases segment with
  | block first rest =>
    rw [module?_content_block]
    simp
  | single node =>
    simp only [Segment.single.injEq, exists_eq_left']
    rw [Segment.content]
    cases sort : itemKind source node with
    | importing =>
      have isImport := (itemKind_eq_importing_iff _ _).1 sort
      rw [isItem_of_import isImport]
      cases node.isNamed with
      | false => simp [Content.module?]
      | true =>
        refine module?_importing_eq_some_iff.trans ?_
        constructor
        · rintro ⟨named, nonempty⟩
          exact ⟨rfl, isImport, named, nonempty⟩
        · rintro ⟨_, imports⟩
          exact ⟨imports.named, imports.nonempty⟩
    | _ =>
      have noImport : ¬ node.kind = "import_declaration" := by
        rw [← itemKind_eq_importing_iff source, sort]
        simp
      refine iff_of_false ?_ fun found => noImport found.2.sort
      cases isItem node <;> simp [Content.module?]

/-! ### The two readings -/

theorem mem_imports_iff {source : Bytes} {root : Node} {path : String} {startIndex : Int}
    {name : String} :
    name ∈ (fileRecord source root path startIndex).imports ↔
      ∃ node, StandsAlone source root node ∧ IsImportOf source name node := by
  simp only [fileRecord, contents, NameSet.mem_ofList, List.mem_filterMap, List.mem_map,
    exists_exists_and_eq_and, module?_content_eq_some_iff, standsAlone_iff]
  constructor
  · rintro ⟨_, inCut, node, rfl, isNamed, imports⟩
    exact ⟨node, ⟨isNamed, inCut⟩, imports⟩
  · rintro ⟨node, ⟨isNamed, inCut⟩, imports⟩
    exact ⟨_, inCut, node, rfl, isNamed, imports⟩

theorem mem_importedModules_iff {source : Bytes} {root : Node} {name : String} :
    name ∈ importedModules source root ↔
      ∃ node : Node, node.IsWithin root ∧ IsImportOf source name node := by
  rw [importedModules, NameSet.mem_ofList, List.mem_filterMap]
  refine exists_congr fun node => ?_
  rw [List.mem_filter, Node.mem_walk_iff, beq_iff_eq, Option.filter_eq_some_iff, bne_iff_ne,
    and_assoc]
  refine and_congr_right fun _ => ⟨?_, ?_⟩
  · rintro ⟨sort, named, nonempty⟩
    exact ⟨sort, named, nonempty⟩
  · rintro ⟨sort, named, nonempty⟩
    exact ⟨sort, named, nonempty⟩

/-- A record has the modules that are imported by named nodes at the top level, outside of every
block, and reading the imports of the file gives the modules that are imported anywhere in the tree.
So what the record has is among what is read; and if every import stands at the top level outside of
blocks, the two are the same. The record is the one that collecting the source gives, unless the
grammar gives a type declaration a keyword that is not well-formed text. -/
theorem imports_agree (workspace : Workspace) (file : Path) (source : Bytes) (path : String)
    (startIndex : Int) (isRead : workspace.read file = .ok source) :
    let root := workspace.grammar source
    let record := fileRecord source root path startIndex
    ((collect source root path startIndex).outcome = .ok record ∨
        (collect source root path startIndex).outcome = .error .undecodable ∧
          ∃ item ∈ root.children, ∃ node : Node, node.IsWithin item ∧
            keywordReadable source node = false) ∧
      ∃ modules, (workspace.extractImports file).outcome = .ok modules ∧
        (∀ name, name ∈ record.imports ↔
          ∃ node, StandsAlone source root node ∧ IsImportOf source name node) ∧
        (∀ name, name ∈ modules ↔
          ∃ node : Node, node.IsWithin root ∧ IsImportOf source name node) ∧
        (∀ name ∈ record.imports, name ∈ modules) ∧
        ((∀ node : Node, node.IsWithin root → node.kind = "import_declaration" →
          StandsAlone source root node) → record.imports = modules) := by
  intro root record
  have among (name : String) (isImported : name ∈ record.imports) :
      name ∈ importedModules source root := by
    obtain ⟨node, alone, imports⟩ := mem_imports_iff.1 isImported
    exact mem_importedModules_iff.2 ⟨node, alone.isWithin, imports⟩
  refine ⟨outcome_collect_cases source root path startIndex, importedModules source root,
    workspace.outcome_extractImports_of_read isRead, fun name => mem_imports_iff,
    fun name => mem_importedModules_iff, among, fun allAlone => ?_⟩
  refine NameSet.eq_of_mem_iff fun name => ⟨among name, fun isImported => ?_⟩
  obtain ⟨node, within, imports⟩ := mem_importedModules_iff.1 isImported
  exact mem_imports_iff.2 ⟨node, allAlone node within imports.sort, imports⟩

namespace Imported

/-- A node without children. -/
def leaf (kind : String) (start stop : Nat) : Node :=
  .branch ⟨kind, none, true, false⟩ start stop []

def importNode (start stop : Nat) : Node :=
  .branch ⟨"import_declaration", none, true, false⟩ start stop
    [leaf "identifier" (start + 7) stop]

/-- An import in front of a block with a constant in it. -/
def source : Bytes :=
  encode "import Kit\n#if A\nlet x = 1\n#endif"

def file : Node :=
  .branch ⟨"source_file", none, true, false⟩ 0 33
    [importNode 0 10, leaf "directive" 11 16, leaf "property_declaration" 17 26,
      leaf "directive" 27 33]

def workspace : Workspace where
  tree :=
    { entries := [(["A.swift"], .file source)]
      distinct := by decide
      named := by decide
      rooted := by decide }
  directory := []
  home := []
  grammar := fun _ => file

theorem read_file : workspace.read (Disk.pathOf ["A.swift"]) = .ok source := by
  have isResolved : workspace.tree.IsResolved (Disk.pathOf ["A.swift"]) :=
    Disk.isResolved_of_linkFree (by simp [workspace]) (by decide)
  exact Disk.read_eq_ok_iff.2 (Disk.entry_of_present isResolved (by decide) (by decide))

/-- The import of the file stands alone. -/
theorem standsAlone_of_import (node : Node) (within : node.IsWithin file)
    (sort : node.kind = "import_declaration") : StandsAlone source file node := by
  have inWalk := (Node.mem_walk_iff file node).2 within
  simp only [Node.walk, Node.walkStack, file, importNode, leaf, Node.children, List.append_nil,
    List.cons_append, List.nil_append, List.mem_cons, List.not_mem_nil, or_false] at inWalk
  obtain rfl | isImport | rfl | rfl | rfl | rfl := inWalk
  · exact absurd sort (by decide)
  · refine standsAlone_iff.2 ⟨by rw [isImport]; rfl, ?_⟩
    rw [file, Node.children, segments, if_neg (by decide), isImport]
    exact List.mem_cons_self
  all_goals exact absurd sort (by decide)

end Imported

/-- The module imported in front of a block is recorded, and nothing else is read. -/
theorem imports_agree_plain :
    Imported.workspace.read (Disk.pathOf ["A.swift"]) = .ok Imported.source ∧
      (fileRecord Imported.source Imported.file "A.swift" 0).imports = .ofList ["Kit"] ∧
      (Imported.workspace.extractImports (Disk.pathOf ["A.swift"])).outcome =
        .ok (.ofList ["Kit"]) := by
  obtain ⟨_, modules, read, _, _, _, same⟩ := imports_agree Imported.workspace
    (Disk.pathOf ["A.swift"]) Imported.source "A.swift" 0 Imported.read_file
  have recorded : (fileRecord Imported.source Imported.file "A.swift" 0).imports =
      .ofList ["Kit"] := by decide +kernel
  obtain rfl := (same Imported.standsAlone_of_import).symm.trans recorded
  exact ⟨Imported.read_file, recorded, read⟩

/-- An import inside of a block is read but not recorded. -/
example :
    let source := encode "#if A\nimport B\n#endif"
    let file := Node.branch ⟨"source_file", none, true, false⟩ 0 21
      [Imported.leaf "directive" 0 5, Imported.importNode 6 14, Imported.leaf "directive" 15 21]
    importedModules source file = .ofList ["B"] ∧
      (fileRecord source file "A.swift" 0).imports = ∅ := by
  decide +kernel

end SwiftSlice

/-
The units of code of a file. Cutting the children of the root into segments loses
none of them and keeps their order, so every item that declares something stands
in a unit of code; and a unit is one of two things, an item on its own or all the
items between an `#if` and the `#endif` that closes it. The declarations of a file
are made from its units, one from each.

The names of a declaration come from the items of its unit by one distinction. A
unit is recorded as an extension or it is not: in the first case nothing is declared
outside of the extensions in it, and what is declared inside of them are its members;
in the second case there are no members, and all that is declared anywhere is
declared by the unit.
-/

import Mathlib.Data.List.Basic
import SwiftSlice.Collect

namespace SwiftSlice

open Text

/-! ### Segments -/

/-- The segments have all the nodes, in order. -/
theorem flatMap_segments (source : Bytes) (nodes : List Node) :
    (segments source nodes).flatMap (·.nodes) = nodes := by
  fun_induction segments source nodes with
  | case1 => rfl
  | case2 node rest opens inductionHypothesis =>
    rw [List.flatMap_cons, inductionHypothesis, Segment.nodes, List.cons_append,
      takeBlock_append]
  | case3 node rest other inductionHypothesis =>
    rw [List.flatMap_cons, inductionHypothesis, Segment.nodes, List.singleton_append]

/-- A node is among some nodes exactly if a segment of these has it. -/
theorem exists_segment_iff (source : Bytes) (nodes : List Node) (node : Node) :
    (∃ segment ∈ segments source nodes, node ∈ segment.nodes) ↔ node ∈ nodes := by
  refine List.mem_flatMap.symm.trans ?_
  rw [flatMap_segments]

/-- A node on its own is a unit of code if it is an item that declares something. -/
theorem content_single_eq_code_iff (source : Bytes) (node : Node) (unit : CodeUnit) :
    (Segment.single node).content source = .code unit ↔
      isItem node = true ∧ ∃ kind, itemKind source node = .declaring kind ∧
        unit = ⟨[node], kind, node, node⟩ := by
  rw [Segment.content]
  cases item : isItem node with
  | false => simp
  | true => cases sort : itemKind source node <;> simp [eq_comm]

/-- A conditional block is a unit of code if it has an item that is no preview. -/
theorem content_block_eq_code_iff (source : Bytes) (first : Node) (rest : List Node)
    (unit : CodeUnit) :
    (Segment.block first rest).content source = .code unit ↔
      (∃ item ∈ (first :: rest).filter isItem, itemKind source item ≠ .snippet) ∧
        unit = ⟨(first :: rest).filter isItem, .other, first, rest.getLastD first⟩ := by
  rw [Segment.content]
  generalize (first :: rest).filter isItem = items
  by_cases previews : ∃ item ∈ items, itemKind source item ≠ .snippet
  · obtain ⟨item, member, noPreview⟩ := previews
    have filled : items.isEmpty = false := List.isEmpty_eq_false_iff_exists_mem.2 ⟨item, member⟩
    have mixed : (items.all fun item => itemKind source item == .snippet) = false :=
      List.all_eq_false.2 ⟨item, member, by simpa using noPreview⟩
    simp only [filled, mixed, Bool.false_eq_true, if_false, Content.code.injEq]
    exact ⟨fun same => ⟨⟨item, member, noPreview⟩, same.symm⟩, fun same => same.2.symm⟩
  · have only : (items.all fun item => itemKind source item == .snippet) = true := by
      simpa using previews
    refine iff_of_false ?_ fun code => previews code.1
    rw [only]
    split <;> simp

/-! ### Units -/

theorem mem_codeUnits_iff (source : Bytes) (root : Node) (unit : CodeUnit) :
    unit ∈ codeUnits source root ↔
      ∃ segment ∈ segments source root.children, segment.content source = .code unit := by
  have code (content : Content) : content.unit? = some unit ↔ content = .code unit := by
    cases content <;> simp [Content.unit?]
  simp only [codeUnits, contents, List.mem_filterMap, List.mem_map, code,
    exists_exists_and_eq_and]

/-- A unit of code is an item on its own, of the unit's sort, or the items of a conditional
block. -/
theorem codeUnit_cases {source : Bytes} {root : Node} {unit : CodeUnit}
    (member : unit ∈ codeUnits source root) :
    (∃ item, unit.items = [item] ∧ itemKind source item = .declaring unit.kind) ∨
      unit.kind = .other := by
  obtain ⟨segment, _, code⟩ := (mem_codeUnits_iff source root unit).1 member
  cases segment with
  | single node =>
    obtain ⟨_, kind, sort, rfl⟩ := (content_single_eq_code_iff source node unit).1 code
    exact .inl ⟨node, rfl, sort⟩
  | block first rest =>
    obtain ⟨_, rfl⟩ := (content_block_eq_code_iff source first rest unit).1 code
    exact .inr rfl

/-- Every item among the children of the root that declares something stands in a unit. -/
theorem exists_codeUnit_of_item {source : Bytes} {root item : Node} {kind : DeclarationKind}
    (member : item ∈ root.children) (isAnItem : isItem item = true)
    (sort : itemKind source item = .declaring kind) :
    ∃ unit ∈ codeUnits source root, item ∈ unit.items := by
  obtain ⟨segment, inSegments, inNodes⟩ :=
    (exists_segment_iff source root.children item).2 member
  cases segment with
  | single node =>
    obtain rfl : item = node := List.mem_singleton.1 inNodes
    have code := (content_single_eq_code_iff source item _).2 ⟨isAnItem, kind, sort, rfl⟩
    exact ⟨_, (mem_codeUnits_iff source root _).2 ⟨_, inSegments, code⟩, List.mem_singleton_self _⟩
  | block first rest =>
    have inItems : item ∈ (first :: rest).filter isItem := List.mem_filter.2 ⟨inNodes, isAnItem⟩
    have noPreview : itemKind source item ≠ .snippet := by
      rw [sort]
      exact ItemKind.noConfusion
    have code := (content_block_eq_code_iff source first rest _).2
      ⟨⟨item, inItems, noPreview⟩, rfl⟩
    exact ⟨_, (mem_codeUnits_iff source root _).2 ⟨_, inSegments, code⟩, inItems⟩

namespace CodeUnit

variable {source : Bytes} {unit : CodeUnit}

/-! ### Names of the items -/

theorem mem_declared_iff (name : String) :
    name ∈ unit.declared source ↔ ∃ item ∈ unit.items,
      itemKind source item ≠ .declaring .extension ∧ name ∈ typesWithin source item := by
  rw [declared, NameSet.mem_unions_map]
  simp only [ordinary, List.mem_filter, bne_iff_ne, and_assoc]

theorem mem_members_iff (name : String) :
    name ∈ unit.members source ↔ ∃ item ∈ unit.items,
      itemKind source item = .declaring .extension ∧ name ∈ typesWithin source item := by
  rw [members, NameSet.mem_unions_map]
  simp only [extensions, List.mem_filter, beq_iff_eq, and_assoc]

/-- A type is declared inside of the items of a unit, in extensions or out of them. -/
theorem mem_declared_or_members_iff (name : String) :
    name ∈ unit.declared source ∨ name ∈ unit.members source ↔
      ∃ item ∈ unit.items, name ∈ typesWithin source item := by
  rw [mem_declared_iff, mem_members_iff]
  constructor
  · rintro (⟨item, inItems, _, declares⟩ | ⟨item, inItems, _, declares⟩)
    · exact ⟨item, inItems, declares⟩
    · exact ⟨item, inItems, declares⟩
  · rintro ⟨item, inItems, declares⟩
    by_cases extending : itemKind source item = .declaring .extension
    · exact .inr ⟨item, inItems, extending, declares⟩
    · exact .inl ⟨item, inItems, extending, declares⟩

theorem mem_extended_iff (name : String) :
    name ∈ unit.extended source ↔ ∃ item ∈ unit.items,
      itemKind source item = .declaring .extension ∧ declaredName? source item = some name := by
  rw [extended, NameSet.mem_ofList, List.mem_filterMap]
  simp only [extensions, List.mem_filter, beq_iff_eq, and_assoc]

/-! ### Units that are recorded as extensions -/

/-- A unit is recorded as an extension exactly if its declaration is of this kind. -/
theorem kind_declaration_iff (path : String) (index : Int) :
    (unit.declaration source path index).kind = .extension ↔
      unit.isExtensionUnit source = true := by
  show (if unit.isExtensionUnit source && !(unit.extended source).isEmpty then
    DeclarationKind.extension else unit.kind) = .extension ↔ _
  constructor
  · intro extending
    by_contra notExtension
    rw [Bool.eq_false_iff.2 notExtension, Bool.false_and, if_neg Bool.false_ne_true] at extending
    exact notExtension (by rw [isExtensionUnit, extending]; rfl)
  · intro asExtension
    cases nameless : (unit.extended source).isEmpty with
    | false => rw [asExtension]; rfl
    | true =>
      -- A block without an extended name is no extension, so the unit was one from the start.
      rw [Bool.not_true, Bool.and_false, if_neg Bool.false_ne_true]
      rw [NameSet.isEmpty, List.isEmpty_iff] at nameless
      rw [isExtensionUnit, nameless] at asExtension
      simpa using asExtension

/-- A unit of extensions that was one from the start is a single extension. -/
theorem exists_extension_of_kind {root : Node} (inUnits : unit ∈ codeUnits source root)
    (extending : unit.kind = .extension) :
    ∃ item, unit.items = [item] ∧ itemKind source item = .declaring .extension := by
  rcases codeUnit_cases inUnits with ⟨item, alone, sort⟩ | conditional
  · exact ⟨item, alone, by rw [sort, extending]⟩
  · rw [conditional] at extending
    exact absurd extending (by decide)

/-- A unit that is recorded as an extension declares nothing outside of the extensions in it. -/
theorem not_mem_declared {root : Node} (inUnits : unit ∈ codeUnits source root)
    (asExtension : unit.isExtensionUnit source = true) (name : String) :
    ¬ name ∈ unit.declared source := by
  rw [isExtensionUnit, Bool.or_eq_true] at asExtension
  rcases asExtension with extending | conditional
  · rw [mem_declared_iff]
    rintro ⟨item, inItems, ordinary, _⟩
    obtain ⟨same, alone, sort⟩ := exists_extension_of_kind inUnits (eq_of_beq extending)
    rw [alone, List.mem_singleton] at inItems
    rw [inItems] at ordinary
    exact ordinary sort
  · rw [Bool.and_eq_true, Bool.and_eq_true] at conditional
    exact (NameSet.isEmpty_iff _).1 conditional.1.2 name

/-- A unit extends a type if it is recorded as an extension with a name. -/
theorem extendedType_eq_some_iff (path : String) (index : Int) (name : String) :
    (unit.declaration source path index).extendedType = some name ↔
      unit.isExtensionUnit source = true ∧ (unit.extended source).toList.head? = some name := by
  show (if unit.isExtensionUnit source then (unit.extended source).toList.head? else none) = _ ↔ _
  cases unit.isExtensionUnit source <;> simp

/-! ### Names of the declaration -/

section Names

variable {root : Node} (inUnits : unit ∈ codeUnits source root) (path : String) (index : Int)

include inUnits in
/-- A unit that is no extension declares all that is declared inside of it. -/
theorem mem_declaredTypes_iff (name : String) :
    name ∈ (unit.declaration source path index).declaredTypes ↔
      unit.isExtensionUnit source = false ∧ ∃ item ∈ unit.items, name ∈ typesWithin source item := by
  rw [← mem_declared_or_members_iff]
  show name ∈ (if unit.isExtensionUnit source then unit.declared source
    else unit.declared source ∪ unit.members source) ↔ _
  cases asExtension : unit.isExtensionUnit source with
  | true => simpa using not_mem_declared inUnits asExtension name
  | false => simp

include inUnits in
/-- The members of an extension are the types declared inside of it, but for the extended type. -/
theorem mem_memberTypes_iff (name : String) :
    name ∈ (unit.declaration source path index).memberTypes ↔
      unit.isExtensionUnit source = true ∧
        (unit.declaration source path index).extendedType ≠ some name ∧
        ∃ item ∈ unit.items, name ∈ typesWithin source item := by
  rw [← mem_declared_or_members_iff]
  show name ∈ (unit.declaration source path index).extendedType.elim
    (if unit.isExtensionUnit source then unit.members source else ∅)
    (if unit.isExtensionUnit source then unit.members source else ∅).erase ↔ _
  cases asExtension : unit.isExtensionUnit source with
  | false =>
    have nothing : ¬ name ∈ (∅ : NameSet) := NameSet.not_mem_empty name
    cases (unit.declaration source path index).extendedType <;> simp [nothing]
  | true =>
    have notDeclared := not_mem_declared inUnits asExtension name
    cases (unit.declaration source path index).extendedType with
    | none => simp [notDeclared]
    | some target => simp [notDeclared, and_comm, eq_comm]

/-- A declaration refers to what it mentions, but for all that is declared inside of it. -/
theorem mem_referencedTypes_iff (name : String) :
    name ∈ (unit.declaration source path index).referencedTypes ↔
      name ∈ unit.mentioned source ∧ ¬ ∃ item ∈ unit.items, name ∈ typesWithin source item := by
  rw [← mem_declared_or_members_iff, not_or]
  show name ∈ (unit.mentioned source \ (if unit.isExtensionUnit source then unit.declared source
    else unit.declared source ∪ unit.members source)) \
      (if unit.isExtensionUnit source then unit.members source else ∅) ↔ _
  have nothing : ¬ name ∈ (∅ : NameSet) := NameSet.not_mem_empty name
  cases unit.isExtensionUnit source <;> simp [nothing, and_assoc]

end Names

end CodeUnit

/-! ### Declarations -/

/-- The declaration at a place of a file is made from the unit at that place. -/
theorem getElem?_declarations_fileRecord (source : Bytes) (root : Node) (path : String)
    (startIndex : Int) (offset : Nat) :
    (fileRecord source root path startIndex).declarations[offset]? =
      (codeUnits source root)[offset]?.map (·.declaration source path (startIndex + offset)) :=
  List.getElem?_mapIdx

/-- Collecting a file gives its record if the keywords of its types can be read. -/
theorem outcome_collect (source : Bytes) (root : Node) (path : String) (startIndex : Int) :
    (collect source root path startIndex).outcome =
      if (codeUnits source root).all (·.isReadable source) then
        .ok (fileRecord source root path startIndex)
      else .error .undecodable := by
  unfold collect
  cases root.hasError <;> cases (codeUnits source root).all (·.isReadable source) <;> rfl

end SwiftSlice

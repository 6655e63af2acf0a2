/-
What the names of a declaration promise each other. A name that is declared, be it
in an extension, is not referred to; only an extension has members, and a unit that
extends a type is recorded as an extension that declares nothing, the extended type
not among its members. So a declaration is free-standing exactly if it extends no
type and none is declared inside of it, an extension without a name excepted.

All of it comes from what is recorded as an extension: there every type is declared
inside of the extensions, elsewhere every type is declared by the unit itself.
-/

import SwiftSlice.Proofs.Extension
import SwiftSlice.Proofs.Segmentation

namespace SwiftSlice

open Text

/-! ### Types inside of items -/

/-- Holds of a declaration of a type with a name, no extension. -/
structure IsTypeNamed (source : Bytes) (name : String) (node : Node) : Prop where
  sort : node.kind ∈ typeDeclarationKinds
  noExtension : isExtensionNode source node = false
  named : declaredName? source node = some name

theorem mem_typesWithin_iff (source : Bytes) (item : Node) (name : String) :
    name ∈ typesWithin source item ↔
      ∃ node : Node, node.IsWithin item ∧ IsTypeNamed source name node := by
  rw [typesWithin, NameSet.mem_ofList, List.mem_filterMap]
  refine exists_congr fun node => and_congr (Node.mem_walk_iff item node) ?_
  rw [typeName?, Option.ite_none_right_eq_some, Bool.and_eq_true, Bool.not_eq_true',
    List.contains_iff_mem]
  exact ⟨fun ⟨⟨sort, noExtension⟩, named⟩ => ⟨sort, noExtension, named⟩,
    fun ⟨sort, noExtension, named⟩ => ⟨⟨sort, noExtension⟩, named⟩⟩

/-- Holds of an extension whose extended type has no name that can be read. -/
def IsNamelessExtension (source : Bytes) (item : Node) : Prop :=
  itemKind source item = .declaring .extension ∧ declaredName? source item = none

/-! ### Consistent declarations -/

/-- What the names of a declaration promise each other. -/
structure Declaration.IsConsistent (declaration : Declaration) : Prop where
  declaredApart : ∀ name ∈ declaration.declaredTypes, ¬ name ∈ declaration.referencedTypes
  membersApart : ∀ name ∈ declaration.memberTypes, ¬ name ∈ declaration.referencedTypes
  extending : ∀ name, declaration.extendedType = some name →
    declaration.kind = .extension ∧ declaration.declaredTypes.isEmpty = true ∧
      ¬ name ∈ declaration.memberTypes
  members : ∀ name ∈ declaration.memberTypes, declaration.kind = .extension

theorem CodeUnit.isConsistent_declaration {source : Bytes} {root : Node} {unit : CodeUnit}
    (inUnits : unit ∈ codeUnits source root) (path : String) (index : Int) :
    (unit.declaration source path index).IsConsistent where
  declaredApart := fun name declares refers =>
    ((mem_referencedTypes_iff path index name).1 refers).2
      ((mem_declaredTypes_iff inUnits path index name).1 declares).2
  membersApart := fun name isMember refers =>
    ((mem_referencedTypes_iff path index name).1 refers).2
      ((mem_memberTypes_iff inUnits path index name).1 isMember).2.2
  extending := fun name extended => by
    have asExtension := ((extendedType_eq_some_iff path index name).1 extended).1
    refine ⟨(kind_declaration_iff path index).2 asExtension, ?_, fun isMember => ?_⟩
    · refine (NameSet.isEmpty_iff _).2 fun other declares => ?_
      have ordinary := ((mem_declaredTypes_iff inUnits path index other).1 declares).1
      exact Bool.false_ne_true (ordinary.symm.trans asExtension)
    · exact ((mem_memberTypes_iff inUnits path index name).1 isMember).2.1 extended
  members := fun name isMember =>
    (kind_declaration_iff path index).2 ((mem_memberTypes_iff inUnits path index name).1 isMember).1

/-- A declaration is free-standing if it extends no type and no type is declared inside of it, other
than in an extension without a name that is recorded as such. -/
theorem CodeUnit.isFreeStanding_declaration_iff {source : Bytes} {root : Node} {unit : CodeUnit}
    (inUnits : unit ∈ codeUnits source root) (path : String) (index : Int) :
    (unit.declaration source path index).isFreeStanding = true ↔
      (unit.declaration source path index).extendedType = none ∧
        ∀ item ∈ unit.items, ∀ name ∈ typesWithin source item,
          IsNamelessExtension source item ∧
            (unit.declaration source path index).kind = .extension := by
  rw [Declaration.isFreeStanding, Bool.and_eq_true, NameSet.isEmpty_iff, Bool.not_eq_true',
    Declaration.isExtension, Option.isSome_eq_false_iff, Option.isNone_iff_eq_none, and_comm]
  refine and_congr_right fun noTarget => ?_
  constructor
  · intro nothing item inItems name declares
    have asExtension : unit.isExtensionUnit source = true := by
      by_contra ordinary
      exact nothing name ((mem_declaredTypes_iff inUnits path index name).2
        ⟨Bool.eq_false_iff.2 ordinary, item, inItems, declares⟩)
    have isExtension : itemKind source item = .declaring .extension := by
      by_contra ordinary
      exact not_mem_declared inUnits asExtension name
        ((mem_declared_iff name).2 ⟨item, inItems, ordinary, declares⟩)
    refine ⟨⟨isExtension, ?_⟩, (kind_declaration_iff path index).2 asExtension⟩
    -- A readable name would be the first of the extended ones, and the declaration has none.
    by_contra hasName
    obtain ⟨target, named⟩ := Option.ne_none_iff_exists'.1 hasName
    have isExtended := (mem_extended_iff target).2 ⟨item, inItems, isExtension, named⟩
    have isFirst := List.head?_eq_some_head (List.ne_nil_of_mem isExtended)
    have hasTarget := (extendedType_eq_some_iff path index _).2 ⟨asExtension, isFirst⟩
    exact Option.some_ne_none _ (hasTarget.symm.trans noTarget)
  · intro only name declares
    obtain ⟨ordinary, item, inItems, within⟩ :=
      (mem_declaredTypes_iff inUnits path index name).1 declares
    have asExtension := (kind_declaration_iff path index).1 (only item inItems name within).2
    exact Bool.false_ne_true (ordinary.symm.trans asExtension)

/-- The declaration at a place of a collected file is made by the segment with code at that place. -/
theorem CollectedFile.exists_codeSegment {file : CollectedFile} {offset : Nat}
    {declaration : Declaration} (made : file.record.declarations[offset]? = some declaration) :
    ∃ segment unit, (codeSegments file.source file.root)[offset]? = some segment ∧
      unit.items = segment.nodes.filter isItem ∧ unit ∈ codeUnits file.source file.root ∧
      declaration = unit.declaration file.source file.path (file.startIndex + offset) := by
  rw [file.record_eq] at made
  obtain ⟨segment, unit, atOffset, code, inUnits, isMade⟩ := exists_codeSegment_of_declaration made
  exact ⟨segment, unit, atOffset, (Segment.unit_of_content code).1, inUnits, isMade⟩

/-- Every declaration that collecting a file gives is consistent, and it is free-standing exactly if
it extends no type and no item of its segment has a named type inside of it, other than an extension
without a name that is recorded as such. -/
theorem declarations_consistent (file : CollectedFile) (offset : Nat) (declaration : Declaration)
    (made : file.record.declarations[offset]? = some declaration) :
    declaration.IsConsistent ∧
      ∃ segment, (codeSegments file.source file.root)[offset]? = some segment ∧
        (declaration.isFreeStanding = true ↔
          declaration.extendedType = none ∧
            ∀ item ∈ segment.nodes, isItem item = true →
              (∃ name node, node.IsWithin item ∧ IsTypeNamed file.source name node) →
              IsNamelessExtension file.source item ∧ declaration.kind = .extension) := by
  obtain ⟨segment, unit, atOffset, items, inUnits, rfl⟩ := CollectedFile.exists_codeSegment made
  refine ⟨CodeUnit.isConsistent_declaration inUnits file.path _, segment, atOffset, ?_⟩
  rw [CodeUnit.isFreeStanding_declaration_iff inUnits, items]
  simp only [List.mem_filter, mem_typesWithin_iff, and_imp, forall_exists_index]

namespace Nameless

/-- An extension with a type inside, and one that lacks the name of what it extends. -/
def file : CollectedFile :=
  .ofReadable "Card.swift"
    (encode ("extension Card \x7b struct Part \x7b\x7d \x7d\n" ++
      "extension \x7b struct Badge \x7b\x7d \x7d"))
    (Guarded.sourceFile 63
      [NestedApp.typeNode [] 0 10 33 (NestedApp.bodyNode 15 33
          [NestedApp.typeNode [] 17 24 31 (NestedApp.bodyNode 29 31 [])]),
        .branch ⟨"class_declaration", none, true, false⟩ 34 63
          [.branch ⟨"extension", some .declarationKind, false, false⟩ 34 43 [],
            NestedApp.bodyNode 44 63
              [NestedApp.typeNode [] 46 53 61 (NestedApp.bodyNode 59 61 [])]]])
    0 (by decide +kernel)

def cards : Declaration :=
  ⟨"extension Card \x7b struct Part \x7b\x7d \x7d", .extension, ∅, .ofList ["Part"],
    .ofList ["Card"], some "Card", false, "Card.swift", 0, 1, 1⟩

def badges : Declaration :=
  ⟨"extension \x7b struct Badge \x7b\x7d \x7d", .extension, ∅, .ofList ["Badge"], ∅, none, false,
    "Card.swift", 1, 2, 2⟩

theorem file_record : file.record = ⟨"Card.swift", ∅, [cards, badges], ∅⟩ := by decide +kernel

end Nameless

/-- Both extensions are consistent; the one without a name is free-standing with a type inside. -/
theorem declarations_consistent_nameless :
    Nameless.file.record.declarations[0]? = some Nameless.cards ∧
      Nameless.cards.IsConsistent ∧ Nameless.cards.isFreeStanding = false ∧
      Nameless.file.record.declarations[1]? = some Nameless.badges ∧
      Nameless.badges.IsConsistent ∧ Nameless.badges.isFreeStanding = true ∧
      ∃ segment, (codeSegments Nameless.file.source Nameless.file.root)[1]? = some segment ∧
        ∀ item ∈ segment.nodes, isItem item = true →
          (∃ name node, node.IsWithin item ∧ IsTypeNamed Nameless.file.source name node) →
          IsNamelessExtension Nameless.file.source item ∧ Nameless.badges.kind = .extension := by
  have first : Nameless.file.record.declarations[0]? = some Nameless.cards := by
    rw [Nameless.file_record]
    rfl
  have second : Nameless.file.record.declarations[1]? = some Nameless.badges := by
    rw [Nameless.file_record]
    rfl
  obtain ⟨consistent, segment, atOffset, free⟩ :=
    declarations_consistent Nameless.file 1 Nameless.badges second
  exact ⟨first, (declarations_consistent Nameless.file 0 Nameless.cards first).1, by decide, second,
    consistent, by decide, segment, atOffset, (free.1 (by decide)).2⟩

end SwiftSlice

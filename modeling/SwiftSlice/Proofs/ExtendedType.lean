/-
What an extension refers to. A declaration that extends a type mentions its name,
and refers to it unless a type of the same name is declared inside of the extension:
all that is declared inside is taken out of what is referred to, the extended name
with it, though it is no member. Where the name stays, a selected extension selects
whatever declares the type, since an extension is never selected along with its
file. Where it is lost, the extension is selected without the type that it extends.
-/

import SwiftSlice.Proofs.Consistency

namespace SwiftSlice

open Text

/-- An extension mentions the type that it extends, whatever stands inside of it. -/
theorem CodeUnit.mem_mentioned_of_extendedType {source : Bytes} {unit : CodeUnit} {path : String}
    {index : Int} {name : String}
    (extended : (unit.declaration source path index).extendedType = some name) :
    name ∈ unit.mentioned source := by
  have isFirst := ((extendedType_eq_some_iff path index name).1 extended).2
  rw [mentioned, NameSet.mem_union]
  exact .inr (List.mem_of_head? isFirst)

/-- Holds of a segment with a declaration of a type of the given name at or below one of its
items. -/
def Segment.HoldsTypeNamed (source : Bytes) (name : String) (segment : Segment) : Prop :=
  ∃ item ∈ segment.nodes, isItem item = true ∧
    ∃ node : Node, node.IsWithin item ∧ IsTypeNamed source name node

/-- An extension refers to the type that it extends unless a type of this name is declared inside of
it. -/
theorem CollectedFile.mem_referencedTypes_iff {file : CollectedFile} {offset : Nat}
    {declaration : Declaration} (made : file.record.declarations[offset]? = some declaration)
    {name : String} (extended : declaration.extendedType = some name) :
    ∃ segment, (codeSegments file.source file.root)[offset]? = some segment ∧
      (name ∈ declaration.referencedTypes ↔ ¬ segment.HoldsTypeNamed file.source name) := by
  obtain ⟨segment, unit, atOffset, items, _, rfl⟩ := exists_codeSegment made
  refine ⟨segment, atOffset, ?_⟩
  rw [CodeUnit.mem_referencedTypes_iff,
    and_iff_right (CodeUnit.mem_mentioned_of_extendedType extended), items,
    Segment.HoldsTypeNamed]
  simp only [List.mem_filter, mem_typesWithin_iff, and_assoc]

/-- An extension does not come along with its file: if it is selected, a followed name led to it. -/
theorem needed_of_extendedType {files : List CollectedFile} {isBuiltin : String → Bool}
    {startFile : String} {seedNames : NameSet} {declaration : Declaration} {name : String}
    (extended : declaration.extendedType = some name)
    (isSelected : declaration ∈ (selectFrom files isBuiltin startFile seedNames).declarations) :
    Needed (ReferenceIndex.ofRecords (files.map (·.record))).declarations isBuiltin startFile
      seedNames declaration := by
  refine ReferenceIndex.needed_of_mem_select _ _ _ _ isSelected fun only => ?_
  have free := only.1.2.2.1
  rw [Declaration.isFreeStanding, Declaration.isExtension, extended, Option.isSome_some,
    Bool.not_true, Bool.and_false] at free
  exact Bool.false_ne_true free

/-- An extension refers to the type that it extends unless a type of this name is declared inside of
it; and if it refers to it and is selected, then so is everything without an entry point that
declares the type, unless the name is builtin. -/
theorem extendedType_referenced (file : CollectedFile) (offset : Nat) (declaration : Declaration)
    (made : file.record.declarations[offset]? = some declaration) (name : String)
    (extended : declaration.extendedType = some name) :
    (∃ segment, (codeSegments file.source file.root)[offset]? = some segment ∧
      (name ∈ declaration.referencedTypes ↔ ¬ segment.HoldsTypeNamed file.source name)) ∧
      (name ∈ declaration.referencedTypes →
        ∀ (files : List CollectedFile) (isBuiltin : String → Bool) (startFile : String)
          (seedNames : NameSet),
          declaration ∈ (selectFrom files isBuiltin startFile seedNames).declarations →
          isBuiltin name = false →
          ∀ declarer ∈ (ReferenceIndex.ofRecords (files.map (·.record))).declarations,
            declarer.hasEntryPoint = false → name ∈ declarer.typeNames →
            declarer ∈ (selectFrom files isBuiltin startFile seedNames).declarations) := by
  refine ⟨CollectedFile.mem_referencedTypes_iff made extended, ?_⟩
  intro refers files isBuiltin startFile seedNames isSelected followed declarer member plain declares
  have needed := needed_of_extendedType extended isSelected
  rw [selectFrom, ReferenceIndex.mem_select_iff]
  exact .inl (.referenced needed refers followed member plain (.inl declares))

theorem Guarded.select_plainBlock :
    (selectFrom [Guarded.cardFile, Guarded.plainFile] noBuiltins "Debug.swift" ∅).declarations =
      [Guarded.card, Guarded.plainBlock] := by
  rw [selectFrom, List.map_cons, List.map_cons, List.map_nil, cardFile_record, plainFile_record]
  cbv

/-- The block that extends a card refers to it, and the card is selected with it. -/
theorem extendedType_referenced_plain :
    let selection := selectFrom [Guarded.cardFile, Guarded.plainFile] noBuiltins "Debug.swift" ∅
    Guarded.plainFile.record.declarations[0]? = some Guarded.plainBlock ∧
      Guarded.plainBlock.extendedType = some "Card" ∧
      (∃ segment, (codeSegments Guarded.plainFile.source Guarded.plainFile.root)[0]? =
          some segment ∧ ¬ segment.HoldsTypeNamed Guarded.plainFile.source "Card") ∧
      Guarded.plainBlock ∈ selection.declarations ∧ Guarded.card ∈ selection.declarations := by
  intro selection
  have made : Guarded.plainFile.record.declarations[0]? = some Guarded.plainBlock := by
    rw [Guarded.plainFile_record]
    rfl
  have refers : "Card" ∈ Guarded.plainBlock.referencedTypes := by decide
  have isSelected : Guarded.plainBlock ∈ selection.declarations := by
    rw [Guarded.select_plainBlock]
    decide
  have inIndex : Guarded.card ∈ (ReferenceIndex.ofRecords
      ([Guarded.cardFile, Guarded.plainFile].map (·.record))).declarations := by
    rw [List.map_cons, Guarded.cardFile_record]
    exact List.mem_cons_self
  obtain ⟨⟨segment, atOffset, law⟩, follow⟩ :=
    extendedType_referenced Guarded.plainFile 0 Guarded.plainBlock made "Card" rfl
  exact ⟨made, rfl, ⟨segment, atOffset, law.1 refers⟩, isSelected,
    follow refers _ _ _ _ isSelected rfl Guarded.card inIndex rfl (by decide)⟩

namespace Shadowed

/-- A file that extends a card by a type that is called a card as well. -/
def file : CollectedFile :=
  .ofReadable "Inner.swift" (encode "extension Card \x7b struct Card \x7b\x7d \x7d")
    (Guarded.sourceFile 33
      [NestedApp.typeNode [] 0 10 33 (NestedApp.bodyNode 15 33
        [NestedApp.typeNode [] 17 24 31 (NestedApp.bodyNode 29 31 [])])])
    1 (by decide +kernel)

def cards : Declaration :=
  ⟨"extension Card \x7b struct Card \x7b\x7d \x7d", .extension, ∅, ∅, ∅, some "Card", false,
    "Inner.swift", 1, 1, 1⟩

theorem file_record : file.record = ⟨"Inner.swift", ∅, [cards], ∅⟩ := by decide +kernel

theorem select_file :
    (selectFrom [Guarded.cardFile, file] noBuiltins "Inner.swift" ∅).declarations = [cards] := by
  rw [selectFrom, List.map_cons, List.map_cons, List.map_nil, Guarded.cardFile_record, file_record]
  cbv

end Shadowed

/-- Without the condition neither rule holds: an extension of a card with a card inside does not
refer to the card, and is selected without it. -/
theorem extendedType_not_referenced :
    (¬ ∀ (file : CollectedFile) (declaration : Declaration) (name : String),
      declaration ∈ file.record.declarations → declaration.extendedType = some name →
      name ∈ declaration.referencedTypes) ∧
    ¬ ∀ (files : List CollectedFile) (isBuiltin : String → Bool) (startFile : String)
      (seedNames : NameSet) (declaration : Declaration) (name : String),
      declaration ∈ (selectFrom files isBuiltin startFile seedNames).declarations →
      declaration.extendedType = some name → isBuiltin name = false →
      ∀ declarer ∈ (ReferenceIndex.ofRecords (files.map (·.record))).declarations,
        declarer.hasEntryPoint = false → name ∈ declarer.typeNames →
        declarer ∈ (selectFrom files isBuiltin startFile seedNames).declarations := by
  constructor
  · intro law
    have claimed := law Shadowed.file Shadowed.cards "Card"
    rw [Shadowed.file_record] at claimed
    exact absurd (claimed List.mem_cons_self rfl) (by decide)
  · intro law
    have claimed := law [Guarded.cardFile, Shadowed.file] noBuiltins "Inner.swift" ∅ Shadowed.cards
      "Card"
    rw [Shadowed.select_file, List.map_cons, Guarded.cardFile_record] at claimed
    have inResult : Guarded.card ∈ [Shadowed.cards] :=
      claimed List.mem_cons_self rfl rfl Guarded.card List.mem_cons_self rfl (by decide)
    exact absurd inResult (by decide)

end SwiftSlice

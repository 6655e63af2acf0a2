/-
Extensions of what is selected, from syntax trees to the selection. A unit of code
is recorded as an extension of a type if it extends that type and no other, and
declares no type besides: this is so for every extension on its own, and for the
conditional blocks that hold nothing else of the kind. If the selection holds a
declaration of the type, then it holds these units, builtin name or not.

A conditional block that extends two types, or that declares one, is recorded
under none of the names that it extends. No name leads to it then, and it is
selected with what it declares, or along with its file if it declares nothing.
-/

import SwiftSlice.Proofs.CodeUnit
import SwiftSlice.Proofs.Selection

namespace SwiftSlice

open Text

/-! ### Sets of one name -/

theorem NameSet.toList_eq_singleton {set : NameSet} {name : String} (member : name ∈ set)
    (only : ∀ other ∈ set, other = name) : set.toList = [name] := by
  obtain ⟨names, ascending⟩ := set
  cases names with
  | nil => exact absurd member List.not_mem_nil
  | cons head rest =>
    obtain rfl : head = name := only head List.mem_cons_self
    have empty : rest = [] := by
      refine List.eq_nil_iff_forall_not_mem.2 fun other inRest => ?_
      have above : head < other := (List.pairwise_cons.1 ascending).1 other inRest
      rw [only other (List.mem_cons_of_mem head inRest)] at above
      exact String.lt_irrefl head above
    exact congrArg (head :: ·) empty

/-! ### Items that extend a type -/

/-- Holds of an item that extends a type: a class declaration with the keyword `extension` and the
name of the type. -/
structure IsExtensionOf (source : Bytes) (name : String) (item : Node) : Prop where
  isNamed : item.isNamed = true
  isClass : item.kind = "class_declaration"
  noPreview : isSnippet source item = false
  keyword : keyword? source item = some "extension"
  target : declaredName? source item = some name

namespace IsExtensionOf

variable {source : Bytes} {name : String} {item : Node}

theorem isItem (extension : IsExtensionOf source name item) : isItem item = true := by
  rw [SwiftSlice.isItem, extension.isNamed, extension.isClass]
  decide

theorem itemKind (extension : IsExtensionOf source name item) :
    itemKind source item = .declaring .extension := by
  rw [SwiftSlice.itemKind, extension.isClass, extension.noPreview, extension.keyword]
  decide

theorem mem_extended (extension : IsExtensionOf source name item) {unit : CodeUnit}
    (member : item ∈ unit.items) : name ∈ unit.extended source :=
  (CodeUnit.mem_extended_iff name).2 ⟨item, member, extension.itemKind, extension.target⟩

end IsExtensionOf

/-! ### Units that extend a type -/

/-- Holds of a unit that declares no type outside of extensions and extends no type but one. -/
def CodeUnit.ExtendsOnly (source : Bytes) (name : String) (unit : CodeUnit) : Prop :=
  (∀ other, ¬ other ∈ unit.declared source) ∧ ∀ other ∈ unit.extended source, other = name

/-- An extension on its own extends its type only. -/
theorem IsExtensionOf.extendsOnly {source : Bytes} {name : String} {item : Node} {unit : CodeUnit}
    (extension : IsExtensionOf source name item) (alone : unit.items = [item]) :
    unit.ExtendsOnly source name := by
  constructor
  · intro other member
    obtain ⟨same, inItems, ordinary, _⟩ := (CodeUnit.mem_declared_iff other).1 member
    rw [alone, List.mem_singleton] at inItems
    rw [inItems] at ordinary
    exact ordinary extension.itemKind
  · intro other member
    obtain ⟨same, inItems, _, target⟩ := (CodeUnit.mem_extended_iff other).1 member
    rw [alone, List.mem_singleton] at inItems
    rw [inItems, extension.target] at target
    exact (Option.some.inj target).symm

/-- A unit that extends one type only is recorded as an extension of that type. -/
theorem CodeUnit.ExtendsOnly.extendedType_declaration {source : Bytes} {root item : Node}
    {name : String} {unit : CodeUnit} (only : unit.ExtendsOnly source name)
    (extension : IsExtensionOf source name item) (member : item ∈ unit.items)
    (inUnits : unit ∈ codeUnits source root) (path : String) (index : Int) :
    (unit.declaration source path index).extendedType = some name := by
  have extended : (unit.extended source).toList = [name] :=
    NameSet.toList_eq_singleton (extension.mem_extended member) only.2
  have asExtension : unit.isExtensionUnit source = true := by
    rw [CodeUnit.isExtensionUnit, Bool.or_eq_true]
    rcases codeUnit_cases inUnits with ⟨same, alone, sort⟩ | conditional
    · rw [alone, List.mem_singleton] at member
      rw [← member, extension.itemKind] at sort
      exact .inl (by rw [← ItemKind.declaring.inj sort]; rfl)
    · rw [conditional, extended, (NameSet.isEmpty_iff _).2 only.1]
      exact .inr rfl
  exact (extendedType_eq_some_iff path index name).2 ⟨asExtension, by rw [extended, List.head?_cons]⟩

/-! ### Files -/

/-- A source file with its syntax tree and the record that collecting it gave. -/
structure CollectedFile where
  path : String
  source : Bytes
  root : Node
  startIndex : Int
  record : FileRecord
  collected : (collect source root path startIndex).outcome = .ok record

namespace CollectedFile

theorem record_eq (file : CollectedFile) :
    file.record = fileRecord file.source file.root file.path file.startIndex := by
  have collected := file.collected
  rw [outcome_collect] at collected
  split at collected
  · exact (Except.ok.inj collected).symm
  · exact absurd collected nofun

/-- The file with the record that collecting it gives, if it can be read. -/
def ofReadable (path : String) (source : Bytes) (root : Node) (startIndex : Int)
    (readable : (codeUnits source root).all (·.isReadable source) = true) : CollectedFile where
  path
  source
  root
  startIndex
  record := fileRecord source root path startIndex
  collected := by rw [outcome_collect, if_pos readable]

/-- Holds of a unit of the file with an item in it, and of the declaration that it makes. -/
def Holds (file : CollectedFile) (item : Node) (unit : CodeUnit) (holder : Declaration) : Prop :=
  item ∈ unit.items ∧ ∃ offset : Nat, (codeUnits file.source file.root)[offset]? = some unit ∧
    file.record.declarations[offset]? = some holder

theorem Holds.declaration_eq {file : CollectedFile} {item : Node} {unit : CodeUnit}
    {holder : Declaration} (holds : file.Holds item unit holder) :
    ∃ index, holder = unit.declaration file.source file.path index := by
  obtain ⟨_, offset, atOffset, made⟩ := holds
  rw [file.record_eq, getElem?_declarations_fileRecord, atOffset, Option.map_some] at made
  exact ⟨_, (Option.some.inj made).symm⟩

theorem Holds.mem_record {file : CollectedFile} {item : Node} {unit : CodeUnit}
    {holder : Declaration} (holds : file.Holds item unit holder) :
    holder ∈ file.record.declarations := by
  obtain ⟨_, offset, _, made⟩ := holds
  exact List.mem_of_getElem? made

/-- Every item among the children of the root that declares something is held by a declaration. -/
theorem exists_holds_of_item {file : CollectedFile} {item : Node} {kind : DeclarationKind}
    (member : item ∈ file.root.children) (isAnItem : isItem item = true)
    (sort : itemKind file.source item = .declaring kind) :
    ∃ unit holder, file.Holds item unit holder := by
  obtain ⟨unit, inUnits, inItems⟩ := exists_codeUnit_of_item member isAnItem sort
  obtain ⟨offset, atOffset⟩ := List.mem_iff_getElem?.1 inUnits
  refine ⟨unit, unit.declaration file.source file.path (file.startIndex + offset), inItems, offset,
    atOffset, ?_⟩
  rw [file.record_eq, getElem?_declarations_fileRecord, atOffset, Option.map_some]

/-- Every extension among the children of the root is held by a declaration. -/
theorem exists_holds {file : CollectedFile} {name : String} {item : Node}
    (member : item ∈ file.root.children) (extension : IsExtensionOf file.source name item) :
    ∃ unit holder, file.Holds item unit holder :=
  exists_holds_of_item member extension.isItem extension.itemKind

end CollectedFile

/-- The selection from some files. -/
def selectFrom (files : List CollectedFile) (isBuiltin : String → Bool) (startFile : String)
    (seedNames : NameSet) : Selection :=
  (ReferenceIndex.ofRecords (files.map (·.record))).select isBuiltin startFile seedNames

/-! ### Extensions of what is selected -/

/-- If a selection holds a declaration of a type, one that does not merely come along, then every
extension of the type at the top of a file is held by a declaration, and that declaration is
selected unless it has an entry point: if the extension stands alone, or in a block that declares
no type and extends no other, or in one that comes along with its file. -/
theorem extensions_selected (files : List CollectedFile) (isBuiltin : String → Bool)
    (startFile : String) (seedNames : NameSet) (declaring : Declaration)
    (isSelected : declaring ∈ (selectFrom files isBuiltin startFile seedNames).declarations)
    (led : ¬ OnlyComesAlong (ReferenceIndex.ofRecords (files.map (·.record))).declarations
      isBuiltin startFile seedNames declaring)
    (name : String) (declares : name ∈ declaring.typeNames) (file : CollectedFile)
    (inFiles : file ∈ files) (item : Node) (atTop : item ∈ file.root.children)
    (extension : IsExtensionOf file.source name item) :
    (∃ unit holder, file.Holds item unit holder) ∧
      ∀ unit holder, file.Holds item unit holder →
        unit.items = [item] ∨ unit.ExtendsOnly file.source name ∨
          (holder.isFreeStanding = true ∧
            file.path ∈ (selectFrom files isBuiltin startFile seedNames).contributingFiles) →
        holder.hasEntryPoint = true ∨
          holder ∈ (selectFrom files isBuiltin startFile seedNames).declarations := by
  refine ⟨CollectedFile.exists_holds atTop extension, fun unit holder holds recorded => ?_⟩
  have inRecord := holds.mem_record
  obtain ⟨index, rfl⟩ := holds.declaration_eq
  obtain ⟨inItems, offset, atUnit, _⟩ := holds
  refine or_iff_not_imp_left.2 fun notEntry => ?_
  have plain : (unit.declaration file.source file.path index).hasEntryPoint = false :=
    Bool.eq_false_iff.2 notEntry
  have inIndex : unit.declaration file.source file.path index ∈
      (ReferenceIndex.ofRecords (files.map (·.record))).declarations :=
    List.mem_flatMap.2 ⟨file.record, List.mem_map_of_mem inFiles, inRecord⟩
  rw [selectFrom, ReferenceIndex.mem_select_iff]
  have needed := ReferenceIndex.needed_of_mem_select _ _ _ _ isSelected led
  -- An extension unit is led to by the declared name; the rest comes along.
  have extending (only : unit.ExtendsOnly file.source name) :
      Needed (ReferenceIndex.ofRecords (files.map (·.record))).declarations isBuiltin startFile
        seedNames (unit.declaration file.source file.path index) :=
    .extending needed declares inIndex plain (only.extendedType_declaration extension inItems
      (List.mem_of_getElem? atUnit) file.path index)
  rcases recorded with alone | only | ⟨free, contributes⟩
  · exact .inl (extending (extension.extendsOnly alone))
  · exact .inl (extending only)
  · obtain ⟨other, otherNeeded, sameFile⟩ :=
      (ReferenceIndex.mem_contributingFiles_iff _ isBuiltin startFile seedNames file.path).1
        contributes
    exact .inr ⟨inIndex, plain, free, other, otherNeeded, sameFile⟩

namespace Guarded

/-- A class declaration with its keyword and its name. -/
def typeNode (start keywordStop nameStart nameStop stop : Nat) : Node :=
  .branch ⟨"class_declaration", none, true, false⟩ start stop
    [.branch ⟨"keyword", some .declarationKind, false, false⟩ start keywordStop [],
      .branch ⟨"type_identifier", some .name, true, false⟩ nameStart nameStop []]

def directive (start stop : Nat) : Node :=
  .branch ⟨"directive", none, true, false⟩ start stop []

def sourceFile (stop : Nat) (children : List Node) : Node :=
  .branch ⟨"source_file", none, true, false⟩ 0 stop children

/-- A file that declares a card. -/
def cardFile : CollectedFile :=
  .ofReadable "Card.swift" (encode "struct Card \x7b\x7d")
    (sourceFile 14 [typeNode 0 6 7 11 14]) 0 (by decide +kernel)

def card : Declaration :=
  ⟨"struct Card \x7b\x7d", .type, .ofList ["Card"], ∅, ∅, none, false, "Card.swift", 0, 1, 1⟩

theorem cardFile_record : cardFile.record = ⟨"Card.swift", ∅, [card], ∅⟩ := by decide +kernel

/-- The extension of the card in the two files that follow. -/
def cardExtension : Node :=
  typeNode 10 19 20 24 27

/-- A file that extends the card in a conditional block. -/
def plainFile : CollectedFile :=
  .ofReadable "Debug.swift" (encode "#if DEBUG\nextension Card \x7b\x7d\n#endif")
    (sourceFile 34 [directive 0 9, cardExtension, directive 28 34]) 1 (by decide +kernel)

def plainBlock : Declaration :=
  ⟨"#if DEBUG\nextension Card \x7b\x7d\n#endif", .extension, ∅, ∅, .ofList ["Card"], some "Card",
    false, "Debug.swift", 1, 1, 3⟩

theorem plainFile_record : plainFile.record = ⟨"Debug.swift", ∅, [plainBlock], ∅⟩ := by
  decide +kernel

theorem plainFile_items :
    ∀ unit ∈ codeUnits plainFile.source plainFile.root, unit.items.length = 1 := by
  decide +kernel

theorem select_plainFile :
    (selectFrom [cardFile, plainFile] noBuiltins "Card.swift" ∅).declarations =
      [card, plainBlock] := by
  rw [selectFrom, List.map_cons, List.map_cons, List.map_nil, cardFile_record, plainFile_record]
  cbv

/-- A file that extends a badge as well in the same block. -/
def mixedFile : CollectedFile :=
  .ofReadable "Debug.swift"
    (encode "#if DEBUG\nextension Card \x7b\x7d\nextension Badge \x7b\x7d\n#endif")
    (sourceFile 53 [directive 0 9, cardExtension, typeNode 28 37 38 43 46, directive 47 53]) 1
    (by decide +kernel)

def mixedBlock : Declaration :=
  ⟨"#if DEBUG\nextension Card \x7b\x7d\nextension Badge \x7b\x7d\n#endif", .other, ∅, ∅,
    .ofList ["Badge", "Card"], none, false, "Debug.swift", 1, 1, 4⟩

theorem mixedFile_record : mixedFile.record = ⟨"Debug.swift", ∅, [mixedBlock], ∅⟩ := by
  decide +kernel

theorem select_mixedFile :
    (selectFrom [cardFile, mixedFile] noBuiltins "Card.swift" ∅).declarations = [card] := by
  rw [selectFrom, List.map_cons, List.map_cons, List.map_nil, cardFile_record, mixedFile_record]
  cbv

end Guarded

/-- The block that extends a card and nothing else is selected with the card. -/
theorem extensions_selected_plain :
    let selection := selectFrom [Guarded.cardFile, Guarded.plainFile] noBuiltins "Card.swift" ∅
    Guarded.card ∈ selection.declarations ∧ "Card" ∈ Guarded.card.typeNames ∧
      ∃ unit, Guarded.plainFile.Holds Guarded.cardExtension unit Guarded.plainBlock ∧
        unit.items = [Guarded.cardExtension] ∧
        (Guarded.plainBlock.hasEntryPoint = true ∨
          Guarded.plainBlock ∈ selection.declarations) := by
  intro selection
  have isSelected : Guarded.card ∈ selection.declarations := by
    rw [Guarded.select_plainFile]
    exact List.mem_cons_self
  have extension : IsExtensionOf Guarded.plainFile.source "Card" Guarded.cardExtension :=
    ⟨rfl, rfl, by decide, by decide, by decide⟩
  obtain ⟨⟨unit, holder, holds⟩, law⟩ := extensions_selected _ _ _ _ Guarded.card isSelected
    (fun only => absurd only.1.2.2.1 (by decide)) "Card" (by decide) Guarded.plainFile
    (List.mem_cons_of_mem _ List.mem_cons_self) Guarded.cardExtension
    (List.mem_cons_of_mem _ List.mem_cons_self) extension
  have inRecord := holds.mem_record
  rw [Guarded.plainFile_record, List.mem_singleton] at inRecord
  obtain rfl := inRecord
  have alone : unit.items = [Guarded.cardExtension] := by
    obtain ⟨inItems, _, atUnit, _⟩ := holds
    obtain ⟨only, items⟩ := List.length_eq_one_iff.1
      (Guarded.plainFile_items unit (List.mem_of_getElem? atUnit))
    rw [items, List.mem_singleton] at inItems
    rw [items, inItems]
  exact ⟨isSelected, by decide, unit, holds, alone, law unit _ holds (.inl alone)⟩

/-- Without the condition on the block the rule fails: a block that extends a card and a badge is
recorded under neither name, and the card is selected without it. -/
theorem extensions_not_selected :
    ¬ ∀ (files : List CollectedFile) (isBuiltin : String → Bool) (startFile : String)
      (seedNames : NameSet) (declaring : Declaration),
      declaring ∈ (selectFrom files isBuiltin startFile seedNames).declarations →
      ∀ name ∈ declaring.typeNames, ∀ file ∈ files, ∀ item ∈ file.root.children,
        IsExtensionOf file.source name item →
        ∀ unit holder, file.Holds item unit holder →
          holder.hasEntryPoint = true ∨
            holder ∈ (selectFrom files isBuiltin startFile seedNames).declarations := by
  intro law
  have extension : IsExtensionOf Guarded.mixedFile.source "Card" Guarded.cardExtension :=
    ⟨rfl, rfl, by decide, by decide, by decide⟩
  have atTop : Guarded.cardExtension ∈ Guarded.mixedFile.root.children :=
    List.mem_cons_of_mem _ List.mem_cons_self
  obtain ⟨unit, holder, holds⟩ := CollectedFile.exists_holds atTop extension
  have claimed := law [Guarded.cardFile, Guarded.mixedFile] noBuiltins "Card.swift" ∅ Guarded.card
  rw [Guarded.select_mixedFile] at claimed
  have inResult : holder.hasEntryPoint = true ∨ holder ∈ [Guarded.card] :=
    claimed List.mem_cons_self "Card" (by decide) Guarded.mixedFile
      (List.mem_cons_of_mem _ List.mem_cons_self) Guarded.cardExtension atTop extension unit holder
      holds
  have inRecord := holds.mem_record
  rw [Guarded.mixedFile_record, List.mem_singleton] at inRecord
  rw [inRecord] at inResult
  exact absurd inResult (by decide)

end SwiftSlice

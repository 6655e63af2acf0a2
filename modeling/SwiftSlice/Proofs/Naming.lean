/-
The names under which a type is declared and referred to. A declaration is found
under the text of its name without the blanks in it; a reference leads to the text
of its identifier without the back quotes and spaces around it. These two are the
same name exactly for the identifiers that are written plainly: no blank inside,
and no back quote at either end. A declaration can always be looked up under the
name that was recorded for it, so a plain reference leads to every declaration of
the type, while a back-quoted one leads past it.
-/

import SwiftSlice.Proofs.EntryPoint
import SwiftSlice.Proofs.Extension
import SwiftSlice.Proofs.Lines

namespace SwiftSlice

open Text

/-! ### Plain names -/

/-- Holds of a name that is written as it is meant: spaces may stand around it, but there is no
blank inside and no back quote at either end. -/
def IsPlainlyWritten (text : String) : Prop :=
  ∃ left name right : List Char, text.toList = left ++ name ++ right ∧
    (∀ char ∈ left ++ right, char = ' ') ∧ (∀ char ∈ name, isBlank char = false) ∧
    name.head? ≠ some '\x60' ∧ name.getLast? ≠ some '\x60'

/-- The characters that stand around a name. -/
def isNameMargin (char : Char) : Bool :=
  char == '\x60' || char == ' '

theorem toList_unquoteName (text : String) :
    (unquoteName text).toList = trimWhile isNameMargin text.toList :=
  String.toList_ofList

theorem toList_squeeze (text : String) :
    (squeeze text).toList = text.toList.filter (!isBlank ·) :=
  String.toList_ofList

/-- Where squeezing leaves none of the characters around a name, they are spaces. -/
theorem eq_space_of_filter_eq_nil {margin : List Char}
    (onMargin : ∀ char ∈ margin, isNameMargin char = true)
    (squeezed : margin.filter (!isBlank ·) = []) : ∀ char ∈ margin, char = ' ' := by
  intro char member
  rcases (Bool.or_eq_true _ _).mp (onMargin char member) with quote | space
  · rw [eq_of_beq quote] at member
    exact absurd (List.filter_eq_nil_iff.1 squeezed _ member) (by decide)
  · exact eq_of_beq space

/-- Deleting the blanks of a text and unquoting it give the same name exactly if it is plainly
written. -/
theorem squeeze_eq_unquoteName_iff (text : String) :
    squeeze text = unquoteName text ↔ IsPlainlyWritten text := by
  rw [← String.toList_inj, toList_squeeze, toList_unquoteName]
  constructor
  · intro same
    obtain ⟨left, right, cut, onLeft, onRight, begins, ends⟩ :=
      exists_append_trimWhile isNameMargin text.toList
    generalize trimWhile isNameMargin text.toList = name at *
    rw [cut, List.filter_append, List.filter_append] at same
    -- A character of the margin that stayed would stand at an end of the name.
    have leftNil : left.filter (!isBlank ·) = [] := by
      cases stayed : left.filter (!isBlank ·) with
      | nil => rfl
      | cons char rest =>
        have inLeft : char ∈ left := List.mem_of_mem_filter (stayed ▸ List.mem_cons_self)
        have isFirst : name.head? = some char := by
          rw [← same, stayed]
          rfl
        exact absurd (onLeft char inLeft) (by simp [begins char isFirst])
    have rightNil : right.filter (!isBlank ·) = [] := by
      rcases List.eq_nil_or_concat (right.filter (!isBlank ·)) with stayed | ⟨rest, char, stayed⟩
      · exact stayed
      · rw [List.concat_eq_append] at stayed
        have inRight : char ∈ right :=
          List.mem_of_mem_filter (stayed ▸ List.mem_append_right rest List.mem_cons_self)
        have isLast : name.getLast? = some char := by
          rw [← same, stayed, ← List.append_assoc, List.getLast?_concat]
        exact absurd (onRight char inRight) (by simp [ends char isLast])
    rw [leftNil, rightNil, List.nil_append, List.append_nil] at same
    refine ⟨left, name, right, cut, ?_, fun char member => ?_, fun first => ?_, fun last => ?_⟩
    · intro char member
      rcases List.mem_append.1 member with inLeft | inRight
      · exact eq_space_of_filter_eq_nil onLeft leftNil char inLeft
      · exact eq_space_of_filter_eq_nil onRight rightNil char inRight
    · simpa using List.filter_eq_self.1 same char member
    · exact absurd (begins _ first) (by decide)
    · exact absurd (ends _ last) (by decide)
  · rintro ⟨left, name, right, cut, spaces, unblank, begins, ends⟩
    have onMargin : ∀ char ∈ left ++ right, isNameMargin char = true ∧ isBlank char = true := by
      intro char member
      rw [spaces char member]
      decide
    have inside (char : Char) (inName : char ∈ name) (noQuote : char ≠ '\x60') :
        isNameMargin char = false := by
      have noSpace : char ≠ ' ' := by
        rintro rfl
        exact absurd (unblank _ inName) (by decide)
      simp [isNameMargin, noQuote, noSpace]
    have trimmed : trimWhile isNameMargin text.toList = name := by
      rw [cut]
      refine trimWhile_append isNameMargin
        (fun char member => (onMargin char (List.mem_append_left _ member)).1)
        (fun char member => (onMargin char (List.mem_append_right _ member)).1) ?_ ?_
      · intro char first
        exact inside char (List.mem_of_head? first) (by rintro rfl; exact begins first)
      · intro char last
        exact inside char (List.mem_of_getLast? last) (by rintro rfl; exact ends last)
    have dropped (margin : List Char) (sub : margin ⊆ left ++ right) :
        margin.filter (!isBlank ·) = [] :=
      List.filter_eq_nil_iff.2 fun char member => by simp [(onMargin char (sub member)).2]
    rw [trimmed, cut, List.filter_append, List.filter_append,
      dropped left (List.subset_append_left _ _), dropped right (List.subset_append_right _ _),
      List.filter_eq_self.2 fun char member => by simp [unblank char member], List.nil_append,
      List.append_nil]

/-- The blanks beyond ASCII are few enough to look each up. -/
theorem not_capitalRuns_of_blank :
    (∀ code ∈ [0x85, 0xA0, 0x1680, 0x2028, 0x2029, 0x202F, 0x205F, 0x3000],
      capitalRuns.any (inRun code) = false) ∧
    ∀ width < 11, capitalRuns.any (inRun (0x2000 + width)) = false := by
  decide +kernel

/-- No upper-case letter is a blank: in ASCII the blanks stand before the letters. -/
theorem isBlank_of_isCapital {char : Char} (capital : isCapital char = true) :
    isBlank char = false := by
  obtain ⟨single, wide⟩ := not_capitalRuns_of_blank
  refine Bool.eq_false_iff.2 fun blank => ?_
  simp only [isBlank, Bool.or_eq_true, Bool.and_eq_true, decide_eq_true_eq, beq_iff_eq] at blank
  rw [isCapital] at capital
  split at capital
  · have letter : 65 ≤ char.toNat := (of_decide_eq_true capital).1
    omega
  · refine absurd capital (Bool.eq_false_iff.1 ?_)
    rcases blank with (((((((((low | low) | same) | same) | same) | range) | same) | same) | same) |
      same) | same
    any_goals
      rw [same]
      exact single _ (by decide)
    · omega
    · omega
    · obtain ⟨width, same⟩ := Nat.exists_eq_add_of_le range.1
      rw [same]
      exact wide width (by omega)

/-- A capitalized name has a letter that squeezing keeps. -/
theorem squeeze_ne_empty {text : String} (capital : isCapitalized (unquoteName text) = true) :
    squeeze text ≠ "" := by
  rw [isCapitalized, toList_unquoteName, Option.any_eq_true] at capital
  obtain ⟨letter, first, isLetter⟩ := capital
  obtain ⟨left, right, cut, _⟩ := exists_append_trimWhile isNameMargin text.toList
  have inText : letter ∈ text.toList := by
    rw [cut]
    exact List.mem_append_left _ (List.mem_append_right _ (List.mem_of_head? first))
  have kept : letter ∈ (squeeze text).toList := by
    rw [toList_squeeze]
    exact List.mem_filter.2 ⟨inText, by rw [isBlank_of_isCapital isLetter]; rfl⟩
  rintro empty
  rw [empty] at kept
  exact List.not_mem_nil kept

/-! ### Names in syntax trees -/

/-- Holds of a declaration of a type, no extension, and the node where its name stands. -/
structure DeclaresType (source : Bytes) (node identifier : Node) : Prop where
  sort : node.kind ∈ typeDeclarationKinds
  noExtension : isExtensionNode source node = false
  named : nameNode? node = some identifier

/-- Holds of an identifier that counts as the name of a type: it is capitalized behind its back
quotes. -/
structure IsReference (source : Bytes) (node : Node) : Prop where
  sort : node.kind ∈ identifierKinds
  capitalized : isCapitalized (unquoteName (node.text source)) = true

/-- A reference is recorded without the quotes. -/
theorem IsReference.capitalizedName? {source : Bytes} {node : Node}
    (reference : IsReference source node) :
    capitalizedName? source node = some (unquoteName (node.text source)) := by
  rw [SwiftSlice.capitalizedName?, if_pos (List.contains_iff_mem.2 reference.sort)]
  exact if_pos reference.capitalized

theorem IsReference.mem_capitalizedNames {source : Bytes} {node top : Node}
    (reference : IsReference source node) (within : node.IsWithin top) :
    unquoteName (node.text source) ∈ capitalizedNames source top := by
  rw [capitalizedNames, NameSet.mem_ofList, List.mem_filterMap]
  exact ⟨node, (Node.mem_walk_iff top node).2 within, reference.capitalizedName?⟩

/-- A declaration is recorded without the blanks. -/
theorem DeclaresType.typeName? {source : Bytes} {node identifier : Node}
    (declares : DeclaresType source node identifier)
    (filled : squeeze (identifier.text source) ≠ "") :
    typeName? source node = some (squeeze (identifier.text source)) := by
  rw [SwiftSlice.typeName?, if_pos, declaredName?, declares.named, Option.bind_some]
  · exact if_neg filled
  · rw [declares.noExtension, List.contains_iff_mem.2 declares.sort]
    rfl

theorem DeclaresType.mem_typesWithin {source : Bytes} {node identifier top : Node}
    (declares : DeclaresType source node identifier)
    (filled : squeeze (identifier.text source) ≠ "") (within : node.IsWithin top) :
    squeeze (identifier.text source) ∈ typesWithin source top := by
  rw [typesWithin, NameSet.mem_ofList, List.mem_filterMap]
  exact ⟨node, (Node.mem_walk_iff top node).2 within, declares.typeName? filled⟩

/-! ### Names in the index -/

/-- The types at and below an item are type names of the declaration that holds it, but for the name
that an extension goes by: a type inside of it that has this name too is found as the extension. -/
theorem CodeUnit.recorded_of_mem_typesWithin {source : Bytes} {root item : Node} {unit : CodeUnit}
    (inUnits : unit ∈ codeUnits source root) (inItems : item ∈ unit.items) {name : String}
    (declared : name ∈ typesWithin source item) (path : String) (index : Int) :
    name ∈ (unit.declaration source path index).typeNames ∨
      (unit.declaration source path index).extendedType = some name := by
  refine or_iff_not_imp_right.2 fun notExtended => ?_
  rw [Declaration.typeNames, NameSet.mem_union, mem_declaredTypes_iff inUnits,
    mem_memberTypes_iff inUnits]
  cases unit.isExtensionUnit source with
  | false => exact .inl ⟨rfl, item, inItems, declared⟩
  | true => exact .inr ⟨rfl, notExtended, item, inItems, declared⟩

/-- The index of some collected files. -/
def indexOf (files : List CollectedFile) : ReferenceIndex :=
  .ofRecords (files.map (·.record))

theorem CollectedFile.Holds.exists_position {files : List CollectedFile} {file : CollectedFile}
    (inFiles : file ∈ files) {item : Node} {unit : CodeUnit} {holder : Declaration}
    (holds : file.Holds item unit holder) :
    ∃ position : Nat, (indexOf files).declarations[position]? = some holder :=
  List.mem_iff_getElem?.1 (List.mem_flatMap.2
    ⟨file.record, List.mem_map_of_mem inFiles, holds.mem_record⟩)

/-- Wherever the item of a declaration is held, it is found under each name that was recorded. -/
theorem CollectedFile.Holds.found {files : List CollectedFile} {file : CollectedFile} {item : Node}
    {unit : CodeUnit} {holder : Declaration} (holds : file.Holds item unit holder) {name : String}
    (declared : name ∈ typesWithin file.source item) {position : Nat}
    (atPosition : (indexOf files).declarations[position]? = some holder) :
    position ∈ (indexOf files).declarersOf name ∨ position ∈ (indexOf files).extendersOf name := by
  obtain ⟨index, rfl⟩ := holds.declaration_eq
  obtain ⟨inItems, _, atOffset, _⟩ := holds
  have inUnits := List.mem_of_getElem? atOffset
  rw [indexOf, ReferenceIndex.mem_declarersOf_iff, ReferenceIndex.mem_extendersOf_iff]
  rcases CodeUnit.recorded_of_mem_typesWithin inUnits inItems declared file.path index with
    declares | extends_
  · exact .inl ⟨_, atPosition, declares⟩
  · exact .inr ⟨_, atPosition, extends_⟩

/-- A declaration of a type and a reference with the same text are recorded under two names, and
these are equal exactly if the text is plainly written. An item at the top of the file that holds
the declaration is held at some position, and at each such position the declaration is found under
the name that was recorded for it. -/
theorem names_agree_iff (files : List CollectedFile) (file : CollectedFile) (inFiles : file ∈ files)
    (item node identifier : Node) (within : node.IsWithin item)
    (declares : DeclaresType file.source node identifier) (other : Bytes) (top reference : Node)
    (inTop : reference.IsWithin top) (refers : IsReference other reference)
    (sameText : identifier.text file.source = reference.text other) :
    ∃ declared referenced, typeName? file.source node = some declared ∧
      capitalizedName? other reference = some referenced ∧
      declared ∈ typesWithin file.source item ∧ referenced ∈ capitalizedNames other top ∧
      (declared = referenced ↔ IsPlainlyWritten (reference.text other)) ∧
      (∀ kind, item ∈ file.root.children → isItem item = true →
        itemKind file.source item = .declaring kind →
        ∃ unit holder, ∃ position : Nat, file.Holds item unit holder ∧
          (indexOf files).declarations[position]? = some holder) ∧
      ∀ unit holder, ∀ position : Nat, file.Holds item unit holder →
        (indexOf files).declarations[position]? = some holder →
        position ∈ (indexOf files).declarersOf declared ∨
          position ∈ (indexOf files).extendersOf declared := by
  have filled : squeeze (identifier.text file.source) ≠ "" := by
    rw [sameText]
    exact squeeze_ne_empty refers.capitalized
  have declared := declares.mem_typesWithin filled within
  refine ⟨squeeze (identifier.text file.source), unquoteName (reference.text other),
    declares.typeName? filled, refers.capitalizedName?, declared,
    refers.mem_capitalizedNames inTop, ?_, ?_, ?_⟩
  · rw [sameText]
    exact squeeze_eq_unquoteName_iff (reference.text other)
  · intro kind atTop isAnItem sort
    obtain ⟨unit, holder, holds⟩ := CollectedFile.exists_holds_of_item atTop isAnItem sort
    obtain ⟨position, atPosition⟩ := holds.exists_position inFiles
    exact ⟨unit, holder, position, holds, atPosition⟩
  · exact fun unit holder position holds atPosition => holds.found declared atPosition

namespace Quoted

/-- A file that declares a kind, with back quotes around its name. -/
def kindFile : CollectedFile :=
  .ofReadable "Kind.swift" (encode "struct \x60Kind\x60 \x7b\x7d")
    (Guarded.sourceFile 16 [Guarded.typeNode 0 6 7 13 16]) 1 (by decide +kernel)

/-- A type that is referred to. -/
def reference (start stop : Nat) : Node :=
  .branch ⟨"type_identifier", none, true, false⟩ start stop []

end Quoted

/-- A card is referred to as it is declared, and its declaration is found under the one name. -/
theorem names_agree_plain :
    ∃ name, typeName? Guarded.cardFile.source (Guarded.typeNode 0 6 7 11 14) = some name ∧
      capitalizedName? (encode "let card: Card") (Quoted.reference 10 14) = some name ∧
      ∃ position : Nat, (indexOf [Guarded.cardFile]).declarations[position]? = some Guarded.card ∧
        position ∈ (indexOf [Guarded.cardFile]).declarersOf name := by
  have atTop : Guarded.typeNode 0 6 7 11 14 ∈ Guarded.cardFile.root.children :=
    List.mem_singleton_self _
  have declares : DeclaresType Guarded.cardFile.source (Guarded.typeNode 0 6 7 11 14)
      (.branch ⟨"type_identifier", some .name, true, false⟩ 7 11 []) :=
    ⟨by decide, by decide, rfl⟩
  have refers : IsReference (encode "let card: Card") (Quoted.reference 10 14) :=
    ⟨by decide, by decide⟩
  have plain : IsPlainlyWritten ((Quoted.reference 10 14).text (encode "let card: Card")) :=
    (squeeze_eq_unquoteName_iff _).1 (by decide)
  obtain ⟨declared, referenced, isDeclared, isReferenced, _, _, agree, held, found⟩ :=
    names_agree_iff [Guarded.cardFile] Guarded.cardFile (List.mem_singleton_self _) _ _ _ .refl
      declares _ _ _ .refl refers (by decide)
  obtain rfl := agree.2 plain
  obtain ⟨unit, holder, position, holds, atPosition⟩ :=
    held .type atTop (by decide) (by decide)
  have inRecord := holds.mem_record
  rw [Guarded.cardFile_record, List.mem_singleton] at inRecord
  obtain rfl := inRecord
  refine ⟨declared, isDeclared, isReferenced, position, atPosition, ?_⟩
  refine (found unit _ position holds atPosition).resolve_right fun extends_ => ?_
  obtain ⟨other, atOther, extended⟩ :=
    (ReferenceIndex.mem_extendersOf_iff _ declared position).1 extends_
  rw [← Option.some.inj (atPosition.symm.trans atOther)] at extended
  exact absurd extended nofun

/-- Without the condition on the text the rule fails: a declaration keeps the back quotes of its name
and a reference loses them, so that the same text leads past the declaration. -/
theorem names_not_agree :
    ¬ ∀ (source other : Bytes) (node identifier reference : Node),
      DeclaresType source node identifier → IsReference other reference →
      identifier.text source = reference.text other →
      typeName? source node = capitalizedName? other reference := by
  intro law
  have declares : DeclaresType Quoted.kindFile.source (Guarded.typeNode 0 6 7 13 16)
      (.branch ⟨"type_identifier", some .name, true, false⟩ 7 13 []) :=
    ⟨by decide, by decide, rfl⟩
  have refers : IsReference (encode "let kind: \x60Kind\x60") (Quoted.reference 10 16) :=
    ⟨by decide, by decide⟩
  exact absurd (law _ _ _ _ _ declares refers (by decide)) (by decide)

end SwiftSlice

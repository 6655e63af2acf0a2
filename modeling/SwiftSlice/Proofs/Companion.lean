/-
Functions and constants beside what is selected. Each is an item on its own, under
whose name nothing is recorded, so it is selected along with its file; unless a type
with a name is declared in its body, which a walk of the whole item finds. Then the
function is recorded under the name of that type, it does not come along any more, and
outside of the start file it takes a followed name of a type in its body to select it.
-/

import SwiftSlice.Proofs.Consistency

namespace SwiftSlice

open Text

/-! ### Functions and constants -/

/-- Holds of the name of a type that is declared at or below an item. -/
def DeclaresInside (source : Bytes) (item : Node) (name : String) : Prop :=
  ∃ node : Node, node.IsWithin item ∧ IsTypeNamed source name node

/-- Holds of the kinds of functions and constants. -/
def DeclarationKind.IsFree (kind : DeclarationKind) : Prop :=
  kind = .function ∨ kind = .constant

/-- Holds of a declaration that stands for an item on its own, no extension, and is recorded under
the names of the types that are declared inside of it. -/
structure IsRecordedItem (file : CollectedFile) (item : Node) (declaration : Declaration) :
    Prop where
  sort : itemKind file.source item = .declaring declaration.kind
  noTarget : declaration.extendedType = none
  inFile : declaration.originFile = file.path
  declared : ∀ name, name ∈ declaration.declaredTypes ↔ DeclaresInside file.source item name
  noMembers : ∀ name, ¬ name ∈ declaration.memberTypes

/-- A function or constant is an item on its own. -/
theorem CollectedFile.exists_isRecordedItem {file : CollectedFile} {offset : Nat}
    {declaration : Declaration} (made : file.record.declarations[offset]? = some declaration)
    (free : declaration.kind.IsFree) :
    ∃ item, (codeSegments file.source file.root)[offset]? = some (.single item) ∧
      IsRecordedItem file item declaration := by
  rw [file.record_eq] at made
  obtain ⟨segment, unit, atOffset, code, inUnits, rfl⟩ := exists_codeSegment_of_declaration made
  have ordinary : unit.isExtensionUnit file.source = false := by
    by_contra asExtension
    rw [Bool.not_eq_false] at asExtension
    rw [DeclarationKind.IsFree, (CodeUnit.kind_declaration_iff file.path _).2 asExtension] at free
    exact absurd free (by decide)
  have sameKind : (unit.declaration file.source file.path (file.startIndex + offset)).kind =
      unit.kind := by
    show (if unit.isExtensionUnit file.source && _ then _ else unit.kind) = unit.kind
    rw [ordinary, Bool.false_and, if_neg Bool.false_ne_true]
  cases segment with
  | block first rest =>
    -- The items of a block are recorded as something else.
    obtain ⟨_, rfl⟩ := (content_block_eq_code_iff file.source first rest unit).1 code
    rw [sameKind] at free
    rcases free with isFunction | isConstant
    · exact DeclarationKind.noConfusion isFunction
    · exact DeclarationKind.noConfusion isConstant
  | single item =>
    obtain ⟨_, kind, sort, rfl⟩ := (content_single_eq_code_iff file.source item unit).1 code
    refine ⟨item, atOffset, by rw [sameKind, sort], ?_, rfl, fun name => ?_, fun name => ?_⟩
    · by_contra hasTarget
      obtain ⟨target, extended⟩ := Option.ne_none_iff_exists'.1 hasTarget
      have asExtension := ((CodeUnit.extendedType_eq_some_iff file.path _ target).1 extended).1
      exact Bool.false_ne_true (ordinary.symm.trans asExtension)
    · rw [CodeUnit.mem_declaredTypes_iff inUnits, and_iff_right ordinary]
      simp only [List.mem_singleton, exists_eq_left, mem_typesWithin_iff, DeclaresInside]
    · rw [CodeUnit.mem_memberTypes_iff inUnits, ordinary]
      exact fun isMember => Bool.false_ne_true isMember.1

namespace IsRecordedItem

variable {file : CollectedFile} {item : Node} {declaration : Declaration}
  (recorded : IsRecordedItem file item declaration)

include recorded

theorem isFreeStanding_iff :
    declaration.isFreeStanding = true ↔ ∀ name, ¬ DeclaresInside file.source item name := by
  rw [Declaration.isFreeStanding, Declaration.isExtension, recorded.noTarget, Option.isSome_none,
    Bool.not_false, Bool.and_true, NameSet.isEmpty_iff]
  exact forall_congr' fun name => not_congr (recorded.declared name)

theorem answersTo_iff (name : String) :
    declaration.AnswersTo name ↔ DeclaresInside file.source item name := by
  rw [Declaration.AnswersTo, recorded.noTarget, Declaration.typeNames, NameSet.mem_union,
    ← recorded.declared]
  constructor
  · rintro ((declares | isMember) | isTarget)
    · exact declares
    · exact absurd isMember (recorded.noMembers name)
    · cases isTarget
  · exact fun declares => .inl (.inl declares)

/-- An item is needed in the start file, or for the name of a type inside of it. -/
theorem needed_iff {declarations : List Declaration} {isBuiltin : String → Bool}
    {startFile : String} {seedNames : NameSet} (member : declaration ∈ declarations)
    (plain : declaration.hasEntryPoint = false) :
    Needed declarations isBuiltin startFile seedNames declaration ↔
      file.path = startFile ∨
        ∃ name, DeclaresInside file.source item name ∧ isBuiltin name = false ∧
          (name ∈ seedNames ∨ ∃ other,
            Needed declarations isBuiltin startFile seedNames other ∧
              name ∈ other.referencedTypes) := by
  constructor
  · intro needed
    cases needed with
    | inStartFile _ _ here => exact .inl (recorded.inFile.symm.trans here)
    | seeded seed followed _ _ answers =>
      exact .inr ⟨_, (recorded.answersTo_iff _).1 answers, followed, .inl seed⟩
    | referenced needed refers followed _ _ answers =>
      exact .inr ⟨_, (recorded.answersTo_iff _).1 answers, followed, .inr ⟨_, needed, refers⟩⟩
    | extending _ _ _ _ extended =>
      rw [recorded.noTarget] at extended
      cases extended
  · rintro (here | ⟨name, declares, followed, seed | ⟨other, needed, refers⟩⟩)
    · exact .inStartFile member plain (recorded.inFile.trans here)
    · exact .seeded seed followed member plain ((recorded.answersTo_iff name).2 declares)
    · have answers := (recorded.answersTo_iff name).2 declares
      exact .referenced needed refers followed member plain answers

end IsRecordedItem

/-! ### Along with their files -/

/-- A function or constant without an entry point, in a file that contributes, is an item on its
own. It is selected if no type with a name is declared at or below the item; and otherwise exactly
in the start file, or if the name of such a type is followed, as a seed or from a needed
declaration. -/
theorem freeItems_selected (files : List CollectedFile) (isBuiltin : String → Bool)
    (startFile : String) (seedNames : NameSet) (file : CollectedFile) (inFiles : file ∈ files)
    (offset : Nat) (declaration : Declaration)
    (made : file.record.declarations[offset]? = some declaration) (free : declaration.kind.IsFree)
    (plain : declaration.hasEntryPoint = false)
    (contributes :
      file.path ∈ (selectFrom files isBuiltin startFile seedNames).contributingFiles) :
    ∃ item, (codeSegments file.source file.root)[offset]? = some (.single item) ∧
      itemKind file.source item = .declaring declaration.kind ∧
      (declaration ∈ (selectFrom files isBuiltin startFile seedNames).declarations ↔
        (∀ name, ¬ DeclaresInside file.source item name) ∨ file.path = startFile ∨
          ∃ name, DeclaresInside file.source item name ∧ isBuiltin name = false ∧
            (name ∈ seedNames ∨ ∃ other,
              Needed (ReferenceIndex.ofRecords (files.map (·.record))).declarations isBuiltin
                startFile seedNames other ∧ name ∈ other.referencedTypes)) := by
  obtain ⟨item, atOffset, recorded⟩ := CollectedFile.exists_isRecordedItem made free
  refine ⟨item, atOffset, recorded.sort, ?_⟩
  have member : declaration ∈ (ReferenceIndex.ofRecords (files.map (·.record))).declarations :=
    List.mem_flatMap.2 ⟨file.record, List.mem_map_of_mem inFiles, List.mem_of_getElem? made⟩
  rw [selectFrom, ReferenceIndex.mem_contributingFiles_iff] at contributes
  rw [selectFrom, ReferenceIndex.mem_select_iff, ← recorded.needed_iff member plain, Wanted,
    or_comm, ← recorded.isFreeStanding_iff]
  refine or_congr_left ⟨fun along => along.2.2.1, fun isFree => ?_⟩
  rw [← recorded.inFile] at contributes
  exact ⟨member, plain, isFree, contributes⟩

namespace Workshop

/-- A file that refers to a card. -/
def screenFile : CollectedFile :=
  .ofReadable "Screen.swift" (encode "struct Screen \x7b let card: Card \x7d")
    (Guarded.sourceFile 32
      [NestedApp.typeNode [] 0 7 32 (NestedApp.bodyNode 14 32
        [.branch ⟨"type_identifier", none, true, false⟩ 26 30 []])])
    0 (by decide +kernel)

def screen : Declaration :=
  ⟨"struct Screen \x7b let card: Card \x7d", .type, .ofList ["Screen"], ∅, .ofList ["Card"], none,
    false, "Screen.swift", 0, 1, 1⟩

/-- A function with the given nodes in its body. -/
def functionNode (start stop : Nat) (body : List Node) : Node :=
  .branch ⟨"function_declaration", none, true, false⟩ start stop body

/-- A file that declares a card, and two functions of which one has a type inside. -/
def cardFile : CollectedFile :=
  .ofReadable "Card.swift"
    (encode ("struct Card \x7b\x7d\nfunc show() \x7b\x7d\n" ++
      "func make() \x7b struct Part \x7b\x7d \x7d"))
    (Guarded.sourceFile 60
      [NestedApp.typeNode [] 0 7 14 (NestedApp.bodyNode 12 14 []), functionNode 15 29 [],
        functionNode 30 60 [NestedApp.typeNode [] 44 51 58 (NestedApp.bodyNode 56 58 [])]])
    1 (by decide +kernel)

def card : Declaration :=
  ⟨"struct Card \x7b\x7d", .type, .ofList ["Card"], ∅, ∅, none, false, "Card.swift", 1, 1, 1⟩

def shows : Declaration :=
  ⟨"func show() \x7b\x7d", .function, ∅, ∅, ∅, none, false, "Card.swift", 2, 2, 2⟩

def makes : Declaration :=
  ⟨"func make() \x7b struct Part \x7b\x7d \x7d", .function, .ofList ["Part"], ∅, ∅, none, false,
    "Card.swift", 3, 3, 3⟩

theorem screenFile_record : screenFile.record = ⟨"Screen.swift", ∅, [screen], ∅⟩ := by
  decide +kernel

theorem cardFile_record : cardFile.record = ⟨"Card.swift", ∅, [card, shows, makes], ∅⟩ := by
  decide +kernel

/-- The rule under which the default configuration follows names. -/
def isBuiltin : String → Bool :=
  isBuiltinType ({} : Config).extraBuiltinTypes

theorem isBuiltin_card : isBuiltin "Card" = false := by
  have notListed (set : NameSet) (outside : ¬ "Card" ∈ set) : set.contains "Card" = false :=
    Bool.eq_false_iff.2 fun listed => outside (List.contains_iff_mem.1 listed)
  have outside : ¬ "Card" ∈ builtinTypes := by
    rw [builtinTypes, NameSet.mem_ofList]
    decide +kernel
  rw [isBuiltin, isBuiltinType, notListed builtinTypes outside]
  rfl

theorem declarations_files :
    (ReferenceIndex.ofRecords ([screenFile, cardFile].map (·.record))).declarations =
      [screen, card, shows, makes] := by
  rw [List.map_cons, List.map_cons, List.map_nil, screenFile_record, cardFile_record]
  rfl

/-- The card is needed for the screen, so that its file contributes. -/
theorem cardFile_contributes :
    cardFile.path ∈
      (selectFrom [screenFile, cardFile] isBuiltin "Screen.swift" ∅).contributingFiles := by
  rw [selectFrom, ReferenceIndex.mem_contributingFiles_iff, declarations_files]
  have needed : Needed [screen, card, shows, makes] isBuiltin "Screen.swift" ∅ screen :=
    .inStartFile (by simp) rfl rfl
  exact ⟨card, .referenced needed (by decide : "Card" ∈ screen.referencedTypes) isBuiltin_card
    (by simp) rfl (.inl (by decide)), rfl⟩

/-- No declaration refers to the type in the function, and with it the function does not come
along. -/
theorem makes_not_selected :
    ¬ makes ∈ (selectFrom [screenFile, cardFile] isBuiltin "Screen.swift" ∅).declarations := by
  rw [selectFrom, ReferenceIndex.mem_select_iff, declarations_files]
  rintro (needed | ⟨_, _, free, _⟩)
  · exact not_needed_of_unmentioned (by decide) rfl (by decide) needed
  · exact absurd free (by decide)

end Workshop

/-- The function without a type inside comes along with the card. -/
theorem freeItems_selected_show :
    let selection :=
      selectFrom [Workshop.screenFile, Workshop.cardFile] Workshop.isBuiltin "Screen.swift" ∅
    Workshop.cardFile.record.declarations[1]? = some Workshop.shows ∧
      Workshop.shows.kind.IsFree ∧ Workshop.shows.hasEntryPoint = false ∧
      Workshop.cardFile.path ∈ selection.contributingFiles ∧
      ∃ item, (codeSegments Workshop.cardFile.source Workshop.cardFile.root)[1]? =
          some (.single item) ∧
        (∀ name, ¬ DeclaresInside Workshop.cardFile.source item name) ∧
        Workshop.shows ∈ selection.declarations := by
  intro selection
  have made : Workshop.cardFile.record.declarations[1]? = some Workshop.shows := by
    rw [Workshop.cardFile_record]
    rfl
  have inFiles : Workshop.cardFile ∈ [Workshop.screenFile, Workshop.cardFile] := by simp
  obtain ⟨item, atOffset, _, law⟩ := freeItems_selected _ Workshop.isBuiltin "Screen.swift" ∅
    Workshop.cardFile inFiles 1 Workshop.shows made (.inl rfl) rfl Workshop.cardFile_contributes
  obtain ⟨same, atSame, recorded⟩ := CollectedFile.exists_isRecordedItem made (.inl rfl)
  obtain rfl : item = same :=
    Segment.single.inj (Option.some.inj (atOffset.symm.trans atSame))
  have nothing := recorded.isFreeStanding_iff.1 (by decide)
  exact ⟨made, .inl rfl, rfl, Workshop.cardFile_contributes, item, atOffset, nothing,
    law.2 (.inl nothing)⟩

/-- Without the condition the rule fails: a function with a type inside is left out where its file
contributes. -/
theorem freeItems_not_selected :
    ¬ ∀ (files : List CollectedFile) (config : Config) (startFile : String) (seedNames : NameSet)
      (file : CollectedFile) (declaration : Declaration), file ∈ files →
      declaration ∈ file.record.declarations → declaration.kind.IsFree →
      declaration.hasEntryPoint = false →
      file.path ∈ (selectFrom files (isBuiltinType config.extraBuiltinTypes) startFile
        seedNames).contributingFiles →
      declaration ∈ (selectFrom files (isBuiltinType config.extraBuiltinTypes) startFile
        seedNames).declarations := by
  intro law
  have inRecord : Workshop.makes ∈ Workshop.cardFile.record.declarations := by
    rw [Workshop.cardFile_record]
    simp
  have inFiles : Workshop.cardFile ∈ [Workshop.screenFile, Workshop.cardFile] := by simp
  exact Workshop.makes_not_selected (law _ {} "Screen.swift" ∅ Workshop.cardFile Workshop.makes
    inFiles inRecord (.inl rfl) rfl Workshop.cardFile_contributes)

end SwiftSlice

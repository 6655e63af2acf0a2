/-
What a selection holds. Two sets of declarations are given by rules: the needed
ones, as the least set that has what the start file and the seeds ask for and is
closed under following names, and those that come along with a file of a needed
one. The loop over positions selects exactly these, each position once, and no
assumption on the records is made: the rules look at nothing but the values of
declarations, so that equal declarations at two positions are needed together.

References of needed declarations lead to selected declarations only. This is not
so for a declaration that merely comes along: it is added after the loop, and the
names that it refers to are not followed.
-/

import Mathlib
import SwiftSlice.Proofs.Lookup
import SwiftSlice.Proofs.Worklist

namespace SwiftSlice

/-! ### Needed declarations -/

/-- Holds of a declaration that a type name leads to: it declares the name, or it extends it. -/
def Declaration.AnswersTo (declaration : Declaration) (name : String) : Prop :=
  name ∈ declaration.typeNames ∨ declaration.extendedType = some name

/-- The declarations without an entry point that a start file and some seed names need. -/
inductive Needed (declarations : List Declaration) (isBuiltin : String → Bool) (startFile : String)
    (seedNames : NameSet) : Declaration → Prop
  /-- The declarations of the start file are needed. -/
  | inStartFile {declaration : Declaration} (member : declaration ∈ declarations)
      (plain : declaration.hasEntryPoint = false) (here : declaration.originFile = startFile) :
      Needed declarations isBuiltin startFile seedNames declaration
  /-- So is what a seed leads to. -/
  | seeded {declaration : Declaration} {name : String} (seed : name ∈ seedNames)
      (followed : isBuiltin name = false) (member : declaration ∈ declarations)
      (plain : declaration.hasEntryPoint = false) (answers : declaration.AnswersTo name) :
      Needed declarations isBuiltin startFile seedNames declaration
  /-- So is what a name leads to that a needed declaration refers to. -/
  | referenced {source declaration : Declaration} {name : String}
      (needed : Needed declarations isBuiltin startFile seedNames source)
      (refers : name ∈ source.referencedTypes) (followed : isBuiltin name = false)
      (member : declaration ∈ declarations) (plain : declaration.hasEntryPoint = false)
      (answers : declaration.AnswersTo name) :
      Needed declarations isBuiltin startFile seedNames declaration
  /-- So is what extends a name that a needed declaration declares, be it builtin or not. -/
  | extending {source declaration : Declaration} {name : String}
      (needed : Needed declarations isBuiltin startFile seedNames source)
      (declares : name ∈ source.typeNames) (member : declaration ∈ declarations)
      (plain : declaration.hasEntryPoint = false)
      (extended : declaration.extendedType = some name) :
      Needed declarations isBuiltin startFile seedNames declaration

/-- Holds of the free-standing declarations without an entry point whose file has a needed
declaration. -/
def ComesAlong (declarations : List Declaration) (isBuiltin : String → Bool) (startFile : String)
    (seedNames : NameSet) (declaration : Declaration) : Prop :=
  declaration ∈ declarations ∧ declaration.hasEntryPoint = false ∧
    declaration.isFreeStanding = true ∧
    ∃ other, Needed declarations isBuiltin startFile seedNames other ∧
      other.originFile = declaration.originFile

/-- Holds of what is needed or comes along. -/
def Wanted (declarations : List Declaration) (isBuiltin : String → Bool) (startFile : String)
    (seedNames : NameSet) (declaration : Declaration) : Prop :=
  Needed declarations isBuiltin startFile seedNames declaration ∨
    ComesAlong declarations isBuiltin startFile seedNames declaration

/-- Holds of the declarations that come along and that no followed name leads to. -/
def OnlyComesAlong (declarations : List Declaration) (isBuiltin : String → Bool)
    (startFile : String) (seedNames : NameSet) (declaration : Declaration) : Prop :=
  ComesAlong declarations isBuiltin startFile seedNames declaration ∧
    ¬ Needed declarations isBuiltin startFile seedNames declaration

section

variable {declarations : List Declaration} {isBuiltin : String → Bool} {startFile : String}
  {seedNames : NameSet} {declaration : Declaration}

theorem Needed.mem (needed : Needed declarations isBuiltin startFile seedNames declaration) :
    declaration ∈ declarations := by
  cases needed <;> assumption

theorem Wanted.mem (wanted : Wanted declarations isBuiltin startFile seedNames declaration) :
    declaration ∈ declarations :=
  Or.elim wanted Needed.mem And.left

/-- Without seeds a declaration outside of the start file is not needed if it extends nothing and no
declaration refers to what it declares. -/
theorem not_needed_of_unmentioned (elsewhere : declaration.originFile ≠ startFile)
    (noTarget : declaration.extendedType = none)
    (unmentioned : ∀ other ∈ declarations, ∀ name ∈ declaration.typeNames.toList,
      ¬ name ∈ other.referencedTypes) :
    ¬ Needed declarations isBuiltin startFile ∅ declaration := by
  intro needed
  cases needed with
  | inStartFile _ _ here => exact elsewhere here
  | seeded seed => exact NameSet.not_mem_empty _ seed
  | referenced source refers _ _ _ answers =>
    rcases answers with declares | extended
    · exact unmentioned _ source.mem _ declares refers
    · cases noTarget.symm.trans extended
  | extending _ _ _ _ extended => cases noTarget.symm.trans extended

end

namespace ReferenceIndex

variable (records : List FileRecord) (isBuiltin : String → Bool) (startFile : String)
  (seedNames : NameSet)

/-! ### One position -/

theorem mem_follow_iff (names : NameSet) (position : Nat) :
    position ∈ (ofRecords records).follow isBuiltin names ↔
      ∃ declaration, (ofRecords records).declarations[position]? = some declaration ∧
        ∃ name ∈ names, isBuiltin name = false ∧ declaration.AnswersTo name := by
  rw [follow, List.mem_flatMap]
  constructor
  · rintro ⟨name, member, found⟩
    cases builtin : isBuiltin name with
    | true => simp [builtin] at found
    | false =>
      rw [builtin, if_neg Bool.false_ne_true, List.mem_append, mem_declarersOf_iff,
        mem_extendersOf_iff] at found
      rcases found with ⟨declaration, atPosition, declares⟩ | ⟨declaration, atPosition, extended⟩
      · exact ⟨declaration, atPosition, name, member, builtin, .inl declares⟩
      · exact ⟨declaration, atPosition, name, member, builtin, .inr extended⟩
  · rintro ⟨declaration, atPosition, name, member, builtin, answers⟩
    refine ⟨name, member, ?_⟩
    rw [builtin, if_neg Bool.false_ne_true, List.mem_append, mem_declarersOf_iff,
      mem_extendersOf_iff]
    exact answers.imp (⟨declaration, atPosition, ·⟩) (⟨declaration, atPosition, ·⟩)

theorem mem_seeds_iff (position : Nat) :
    position ∈ (ofRecords records).seeds isBuiltin startFile seedNames ↔
      ∃ declaration, (ofRecords records).declarations[position]? = some declaration ∧
        (declaration.originFile = startFile ∧ declaration.hasEntryPoint = false ∨
          ∃ name ∈ seedNames, isBuiltin name = false ∧ declaration.AnswersTo name) := by
  rw [seeds, List.mem_append, mem_positionsIn_iff, mem_follow_iff, ← exists_or]
  simp only [← and_or_left]

theorem mem_successors_iff (source : Declaration) (origin position : Nat)
    (atOrigin : (ofRecords records).declarations[origin]? = some source) :
    position ∈ (ofRecords records).successors isBuiltin origin ↔
      ∃ declaration, (ofRecords records).declarations[position]? = some declaration ∧
        ((∃ name ∈ source.referencedTypes, isBuiltin name = false ∧ declaration.AnswersTo name) ∨
          ∃ name ∈ source.typeNames, declaration.extendedType = some name) := by
  have extenders : position ∈ source.typeNames.toList.flatMap (ofRecords records).extendersOf ↔
      ∃ declaration, (ofRecords records).declarations[position]? = some declaration ∧
        ∃ name ∈ source.typeNames, declaration.extendedType = some name := by
    rw [List.mem_flatMap]
    constructor
    · rintro ⟨name, member, found⟩
      obtain ⟨declaration, atPosition, extended⟩ :=
        (mem_extendersOf_iff records name position).1 found
      exact ⟨declaration, atPosition, name, member, extended⟩
    · rintro ⟨declaration, atPosition, name, member, extended⟩
      exact ⟨name, member,
        (mem_extendersOf_iff records name position).2 ⟨declaration, atPosition, extended⟩⟩
  simp only [successors, atOrigin]
  rw [List.mem_append, mem_follow_iff, extenders, ← exists_or]
  simp only [← and_or_left]

/-! ### The loop -/

/-- The loop reaches a position exactly if its declaration is needed. -/
theorem mem_reached_iff (position : Nat) :
    position ∈ (ofRecords records).reached isBuiltin startFile seedNames ↔
      ∃ declaration, (ofRecords records).declarations[position]? = some declaration ∧
        Needed (ofRecords records).declarations isBuiltin startFile seedNames declaration := by
  rw [reached, Worklist.mem_reach_iff]
  constructor
  · intro leads
    induction leads with
    | ofStart isKnown member =>
      obtain ⟨declaration, atPosition, plain⟩ := (mem_eligible_iff _ _).1 isKnown
      obtain ⟨same, atSame, asked⟩ :=
        (mem_seeds_iff records isBuiltin startFile seedNames _).1 member
      obtain rfl : declaration = same := Option.some.inj (atPosition.symm.trans atSame)
      have inIndex := List.mem_of_getElem? atPosition
      rcases asked with ⟨here, _⟩ | ⟨name, seed, followed, answers⟩
      · exact ⟨declaration, atPosition, .inStartFile inIndex plain here⟩
      · exact ⟨declaration, atPosition, .seeded seed followed inIndex plain answers⟩
    | ofNext _ isKnown member inductionHypothesis =>
      obtain ⟨source, atOrigin, needed⟩ := inductionHypothesis
      obtain ⟨declaration, atPosition, plain⟩ := (mem_eligible_iff _ _).1 isKnown
      obtain ⟨same, atSame, asked⟩ :=
        (mem_successors_iff records isBuiltin source _ _ atOrigin).1 member
      obtain rfl : declaration = same := Option.some.inj (atPosition.symm.trans atSame)
      have inIndex := List.mem_of_getElem? atPosition
      rcases asked with ⟨name, refers, followed, answers⟩ | ⟨name, declares, extended⟩
      · exact ⟨declaration, atPosition, .referenced needed refers followed inIndex plain answers⟩
      · exact ⟨declaration, atPosition, .extending needed declares inIndex plain extended⟩
  · rintro ⟨declaration, atPosition, needed⟩
    -- The position is free: a needed declaration leads the loop to each place where it stands.
    induction needed generalizing position with
    | inStartFile _ plain here =>
      exact .ofStart ((mem_eligible_iff _ _).2 ⟨_, atPosition, plain⟩)
        ((mem_seeds_iff records isBuiltin startFile seedNames _).2
          ⟨_, atPosition, .inl ⟨here, plain⟩⟩)
    | seeded seed followed _ plain answers =>
      exact .ofStart ((mem_eligible_iff _ _).2 ⟨_, atPosition, plain⟩)
        ((mem_seeds_iff records isBuiltin startFile seedNames _).2
          ⟨_, atPosition, .inr ⟨_, seed, followed, answers⟩⟩)
    | referenced needed refers followed _ plain answers inductionHypothesis =>
      obtain ⟨origin, atOrigin⟩ := List.mem_iff_getElem?.1 needed.mem
      exact .ofNext (inductionHypothesis origin atOrigin)
        ((mem_eligible_iff _ _).2 ⟨_, atPosition, plain⟩)
        ((mem_successors_iff records isBuiltin _ _ _ atOrigin).2
          ⟨_, atPosition, .inl ⟨_, refers, followed, answers⟩⟩)
    | extending needed declares _ plain extended inductionHypothesis =>
      obtain ⟨origin, atOrigin⟩ := List.mem_iff_getElem?.1 needed.mem
      exact .ofNext (inductionHypothesis origin atOrigin)
        ((mem_eligible_iff _ _).2 ⟨_, atPosition, plain⟩)
        ((mem_successors_iff records isBuiltin _ _ _ atOrigin).2
          ⟨_, atPosition, .inr ⟨_, declares, extended⟩⟩)

/-- The files of the reached positions are those with a needed declaration. -/
theorem mem_reachedFiles_iff (file : String) :
    file ∈ ((ofRecords records).reached isBuiltin startFile seedNames).filterMap
        (ofRecords records).fileAt? ↔
      ∃ other, Needed (ofRecords records).declarations isBuiltin startFile seedNames other ∧
        other.originFile = file := by
  rw [List.mem_filterMap]
  constructor
  · rintro ⟨position, isReached, atFile⟩
    obtain ⟨other, atPosition, needed⟩ :=
      (mem_reached_iff records isBuiltin startFile seedNames position).1 isReached
    rw [fileAt?, atPosition] at atFile
    exact ⟨other, needed, Option.some.inj atFile⟩
  · rintro ⟨other, needed, rfl⟩
    obtain ⟨position, atPosition⟩ := List.mem_iff_getElem?.1 needed.mem
    refine ⟨position, ?_, by rw [fileAt?, atPosition]; rfl⟩
    exact (mem_reached_iff records isBuiltin startFile seedNames position).2
      ⟨other, atPosition, needed⟩

/-- Holds of a declaration that comes along when some files are reached. -/
theorem ridesAlong_iff (files : List String) (declaration : Declaration) :
    ridesAlong files declaration = true ↔
      (declaration.hasEntryPoint = false ∧ declaration.isFreeStanding = true) ∧
        declaration.originFile ∈ files := by
  rw [ridesAlong, Bool.and_eq_true, Bool.and_eq_true, Bool.not_eq_true', List.contains_iff_mem]

/-- The test that a position is selected by, read off its declaration. -/
theorem selected_test_iff {declaration : Declaration} {position : Nat}
    (atPosition : (ofRecords records).declarations[position]? = some declaration) :
    (((ofRecords records).reached isBuiltin startFile seedNames).contains position ||
        ridesAlong (((ofRecords records).reached isBuiltin startFile seedNames).filterMap
          (ofRecords records).fileAt?) declaration) = true ↔
      Wanted (ofRecords records).declarations isBuiltin startFile seedNames declaration := by
  have isReached : position ∈ (ofRecords records).reached isBuiltin startFile seedNames ↔
      Needed (ofRecords records).declarations isBuiltin startFile seedNames declaration := by
    rw [mem_reached_iff]
    constructor
    · rintro ⟨same, atSame, needed⟩
      rwa [Option.some.inj (atPosition.symm.trans atSame)]
    · exact fun needed => ⟨declaration, atPosition, needed⟩
  have rides : ridesAlong (((ofRecords records).reached isBuiltin startFile seedNames).filterMap
        (ofRecords records).fileAt?) declaration = true ↔
      ComesAlong (ofRecords records).declarations isBuiltin startFile seedNames declaration := by
    rw [ridesAlong_iff, mem_reachedFiles_iff, ComesAlong, and_assoc]
    exact (and_iff_right (List.mem_of_getElem? atPosition)).symm
  rw [Bool.or_eq_true, List.contains_iff_mem, isReached, rides, Wanted]

/-! ### The selection -/

/-- A position is selected exactly if its declaration is needed or comes along. -/
theorem mem_selected_iff (position : Nat) :
    position ∈ (ofRecords records).selected isBuiltin startFile seedNames ↔
      ∃ declaration, (ofRecords records).declarations[position]? = some declaration ∧
        Wanted (ofRecords records).declarations isBuiltin startFile seedNames declaration := by
  rw [selected, mem_zipIdx_filterMap_iff (ofRecords records).declarations fun item =>
    ((ofRecords records).reached isBuiltin startFile seedNames).contains item.2 ||
      ridesAlong (((ofRecords records).reached isBuiltin startFile seedNames).filterMap
        (ofRecords records).fileAt?) item.1]
  refine exists_congr fun declaration => and_congr_right fun atPosition => ?_
  exact selected_test_iff records isBuiltin startFile seedNames atPosition

/-- The selected positions ascend, so that none comes twice. -/
theorem pairwise_selected (index : ReferenceIndex) :
    (index.selected isBuiltin startFile seedNames).Pairwise (· < ·) := by
  refine (List.pairwise_map.1 (pairwise_positions index.declarations)).filterMap _ ?_
  intro first second before position found other foundOther
  have samePosition := Option.some.inj (Option.ite_none_right_eq_some.1 found).2
  have sameOther := Option.some.inj (Option.ite_none_right_eq_some.1 foundOther).2
  rwa [samePosition, sameOther] at before

/-- The selected declarations, in the order of their positions, for any test that decides which
ones these are. -/
theorem filterMap_selected (keep : Declaration → Bool)
    (decides : ∀ declaration, keep declaration = true ↔
      Wanted (ofRecords records).declarations isBuiltin startFile seedNames declaration) :
    ((ofRecords records).selected isBuiltin startFile seedNames).filterMap
      ((ofRecords records).declarations[·]?) = (ofRecords records).declarations.filter keep := by
  refine filterMap_getElem?_zipIdx _ _ keep fun declaration position atPosition => ?_
  rw [Bool.eq_iff_iff, decides]
  exact selected_test_iff records isBuiltin startFile seedNames atPosition

/-- What is selected is what is needed or comes along. -/
theorem mem_select_iff (declaration : Declaration) :
    declaration ∈ ((ofRecords records).select isBuiltin startFile seedNames).declarations ↔
      Wanted (ofRecords records).declarations isBuiltin startFile seedNames declaration := by
  rw [select, selectionOf, List.mem_mergeSort, List.mem_filterMap]
  constructor
  · rintro ⟨position, isSelected, atPosition⟩
    obtain ⟨same, atSame, wanted⟩ :=
      (mem_selected_iff records isBuiltin startFile seedNames position).1 isSelected
    rwa [Option.some.inj (atPosition.symm.trans atSame)]
  · intro wanted
    obtain ⟨position, atPosition⟩ := List.mem_iff_getElem?.1 wanted.mem
    exact ⟨position, (mem_selected_iff records isBuiltin startFile seedNames position).2
      ⟨declaration, atPosition, wanted⟩, atPosition⟩

/-- The files that contribute are those of the selected declarations. -/
theorem mem_contributingFiles_select (index : ReferenceIndex) (path : String) :
    path ∈ (index.select isBuiltin startFile seedNames).contributingFiles ↔
      ∃ declaration ∈ (index.select isBuiltin startFile seedNames).declarations,
        declaration.originFile = path :=
  (NameSet.mem_ofList _ path).trans List.mem_map

/-- The files that contribute are those with a needed declaration. -/
theorem mem_contributingFiles_iff (path : String) :
    path ∈ ((ofRecords records).select isBuiltin startFile seedNames).contributingFiles ↔
      ∃ other, Needed (ofRecords records).declarations isBuiltin startFile seedNames other ∧
        other.originFile = path := by
  simp only [mem_contributingFiles_select, mem_select_iff]
  constructor
  · rintro ⟨declaration, needed | ⟨_, _, _, other, needed, sameFile⟩, rfl⟩
    · exact ⟨declaration, needed, rfl⟩
    · exact ⟨other, needed, sameFile⟩
  · rintro ⟨other, needed, sameFile⟩
    exact ⟨other, .inl needed, sameFile⟩

/-- The loop finishes, and a selection has exactly the needed declarations and those that come
along, each position once. -/
theorem select_exact (records : List FileRecord) (isBuiltin : String → Bool) (startFile : String)
    (seedNames : NameSet) :
    let index := ofRecords records
    Relation.ReflTransGen (Worklist.Step index.eligible (index.successors isBuiltin))
        ([], index.seeds isBuiltin startFile seedNames)
        (index.reached isBuiltin startFile seedNames, []) ∧
      (∀ position, position ∈ index.selected isBuiltin startFile seedNames ↔
        ∃ declaration, index.declarations[position]? = some declaration ∧
          (Needed index.declarations isBuiltin startFile seedNames declaration ∨
            ComesAlong index.declarations isBuiltin startFile seedNames declaration)) ∧
      (index.selected isBuiltin startFile seedNames).Pairwise (· < ·) ∧
      (index.select isBuiltin startFile seedNames).declarations.Perm
        ((index.selected isBuiltin startFile seedNames).filterMap (index.declarations[·]?)) ∧
      ∀ declaration, declaration ∈ (index.select isBuiltin startFile seedNames).declarations ↔
        Needed index.declarations isBuiltin startFile seedNames declaration ∨
          ComesAlong index.declarations isBuiltin startFile seedNames declaration := by
  intro index
  refine ⟨Worklist.run_steps _ _ _ _, mem_selected_iff records isBuiltin startFile seedNames,
    pairwise_selected isBuiltin startFile seedNames index, ?_,
    mem_select_iff records isBuiltin startFile seedNames⟩
  exact List.mergeSort_perm _ _

/-! ### References of what is selected -/

/-- What is selected is needed, unless it only comes along. -/
theorem needed_of_mem_select {declaration : Declaration}
    (isSelected :
      declaration ∈ ((ofRecords records).select isBuiltin startFile seedNames).declarations)
    (led : ¬ OnlyComesAlong (ofRecords records).declarations isBuiltin startFile seedNames
      declaration) :
    Needed (ofRecords records).declarations isBuiltin startFile seedNames declaration := by
  by_contra notNeeded
  have wanted := (mem_select_iff records isBuiltin startFile seedNames declaration).1 isSelected
  exact led ⟨wanted.resolve_left notNeeded, notNeeded⟩

/-- Whatever declares a name that a selected declaration refers to is selected as well, unless the
declaration only comes along. -/
theorem references_selected (records : List FileRecord) (isBuiltin : String → Bool)
    (startFile : String) (seedNames : NameSet) (declaration : Declaration)
    (isSelected :
      declaration ∈ ((ofRecords records).select isBuiltin startFile seedNames).declarations) :
    OnlyComesAlong (ofRecords records).declarations isBuiltin startFile seedNames declaration ∨
      ∀ name ∈ declaration.referencedTypes, isBuiltin name = false →
        ∀ declarer ∈ (ofRecords records).declarations, declarer.hasEntryPoint = false →
          name ∈ declarer.typeNames →
          declarer ∈ ((ofRecords records).select isBuiltin startFile seedNames).declarations := by
  refine or_iff_not_imp_left.2 fun led name refers followed declarer member plain declares => ?_
  have needed := needed_of_mem_select records isBuiltin startFile seedNames isSelected led
  rw [mem_select_iff]
  exact .inl (.referenced needed refers followed member plain (.inl declares))

end ReferenceIndex

/-- The rule under which no name is builtin. -/
def noBuiltins (_ : String) : Bool := false

namespace Stray

/-- A declaration that declares and refers to some types. -/
def unit (kind : DeclarationKind) (declared referenced : List String) (file : String)
    (index : Int) : Declaration where
  sourceText := ""
  kind
  declaredTypes := NameSet.ofList declared
  memberTypes := ∅
  referencedTypes := NameSet.ofList referenced
  extendedType := none
  hasEntryPoint := false
  originFile := file
  discoveryIndex := index
  startLine := 1
  endLine := 1

def screen : Declaration := unit .type ["Screen"] ["Card"] "Screen.swift" 0

def card : Declaration := unit .type ["Card"] [] "Card.swift" 1

/-- A function in the file of the card that refers to a type of a third file. -/
def makeBadge : Declaration := unit .function [] ["Badge"] "Card.swift" 2

def badge : Declaration := unit .type ["Badge"] [] "Badge.swift" 3

def records : List FileRecord :=
  [⟨"Screen.swift", ∅, [screen], ∅⟩, ⟨"Card.swift", ∅, [card, makeBadge], ∅⟩,
    ⟨"Badge.swift", ∅, [badge], ∅⟩]

theorem select_records :
    ((ReferenceIndex.ofRecords records).select noBuiltins "Screen.swift" ∅).declarations =
      [screen, card, makeBadge] := by
  cbv

end Stray

namespace ReferenceIndex

/-- A screen that refers to a card is selected with the card. -/
theorem references_selected_screen :
    let index := ofRecords Stray.records
    let selection := index.select noBuiltins "Screen.swift" ∅
    Stray.screen ∈ selection.declarations ∧
      ¬ OnlyComesAlong index.declarations noBuiltins "Screen.swift" ∅ Stray.screen ∧
      "Card" ∈ Stray.screen.referencedTypes ∧ "Card" ∈ Stray.card.typeNames ∧
      Stray.card ∈ selection.declarations := by
  intro index selection
  have isSelected : Stray.screen ∈ selection.declarations := by
    rw [Stray.select_records]
    exact List.mem_cons_self
  have led : ¬ OnlyComesAlong index.declarations noBuiltins "Screen.swift" ∅ Stray.screen :=
    fun only => absurd only.1.2.2.1 (by decide)
  have law := (references_selected Stray.records _ _ _ Stray.screen isSelected).resolve_left led
  exact ⟨isSelected, led, by decide, by decide,
    law "Card" (by decide) rfl Stray.card (by decide) rfl (by decide)⟩

/-- Without the exception the rule fails: a function comes along with the file of a card, and the
type that it refers to does not. -/
theorem references_not_selected :
    ¬ ∀ (records : List FileRecord) (isBuiltin : String → Bool) (startFile : String)
      (seedNames : NameSet) (declaration : Declaration),
      declaration ∈ ((ofRecords records).select isBuiltin startFile seedNames).declarations →
      ∀ name ∈ declaration.referencedTypes, isBuiltin name = false →
        ∀ declarer ∈ (ofRecords records).declarations, declarer.hasEntryPoint = false →
          name ∈ declarer.typeNames →
          declarer ∈ ((ofRecords records).select isBuiltin startFile seedNames).declarations := by
  intro law
  have claimed := law Stray.records noBuiltins "Screen.swift" ∅ Stray.makeBadge
  rw [Stray.select_records] at claimed
  have inResult : Stray.badge ∈ [Stray.screen, Stray.card, Stray.makeBadge] :=
    claimed (by decide) "Badge" (by decide) rfl Stray.badge (by decide) rfl (by decide)
  exact absurd inResult (by decide)

end ReferenceIndex

end SwiftSlice

/-
How a selection depends on its seeds and on the builtin names. More seeds add what
they lead to and nothing else: the selection from two sets of seeds together is
what the selections from each of them have, including the declarations that come
along with their files. More builtin names take away what only they led to and
never add anything, since a builtin name is not followed and has no other effect.

Both are said of any index, whatever its tables hold. The loop is taken apart at
its start and along its steps; what comes along depends on the files that are
reached, and a file is reached from two sets of seeds if it is from one of them.
-/

import SwiftSlice.Builtin
import SwiftSlice.Proofs.Selection

namespace SwiftSlice

namespace ReferenceIndex

variable (index : ReferenceIndex) (isBuiltin : String → Bool) (startFile : String)

/-! ### Names that are followed -/

theorem mem_follow_union_iff (names others : NameSet) (position : Nat) :
    position ∈ index.follow isBuiltin (names ∪ others) ↔
      position ∈ index.follow isBuiltin names ∨ position ∈ index.follow isBuiltin others := by
  simp only [follow, List.mem_flatMap, NameSet.mem_toList, NameSet.mem_union, or_and_right,
    exists_or]

/-- Each seed asks for its own positions, and the start file for its own in any case. -/
theorem mem_seeds_union_iff (seedNames others : NameSet) (position : Nat) :
    position ∈ index.seeds isBuiltin startFile (seedNames ∪ others) ↔
      position ∈ index.seeds isBuiltin startFile seedNames ∨
        position ∈ index.seeds isBuiltin startFile others := by
  rw [seeds, seeds, seeds, List.mem_append, List.mem_append, List.mem_append,
    mem_follow_union_iff, or_or_distrib_left]

section Builtin

variable {isBuiltin} {isFewer : String → Bool}
  (fewer : ∀ name, isFewer name = true → isBuiltin name = true)

include fewer

/-- Of a set of names, fewer are followed when more of them are builtin. -/
theorem follow_subset (names : NameSet) :
    index.follow isBuiltin names ⊆ index.follow isFewer names := by
  intro position member
  obtain ⟨name, inNames, found⟩ := List.mem_flatMap.1 member
  refine List.mem_flatMap.2 ⟨name, inNames, ?_⟩
  cases builtin : isBuiltin name with
  | true =>
    rw [builtin, if_pos rfl] at found
    exact absurd found List.not_mem_nil
  | false =>
    have notFewer : isFewer name = false :=
      Bool.eq_false_iff.2 fun isFewer => Bool.false_ne_true (builtin.symm.trans (fewer name isFewer))
    rwa [notFewer, ← builtin]

theorem successors_subset (position : Nat) :
    index.successors isBuiltin position ⊆ index.successors isFewer position := by
  rw [successors, successors]
  cases index.declarations[position]? with
  | none => exact List.Subset.refl _
  | some declaration =>
    refine List.append_subset.2 ⟨List.subset_append_of_subset_left _ ?_, List.subset_append_right _ _⟩
    exact index.follow_subset fewer declaration.referencedTypes

theorem seeds_subset (seedNames : NameSet) :
    index.seeds isBuiltin startFile seedNames ⊆ index.seeds isFewer startFile seedNames := by
  refine List.append_subset.2 ⟨List.subset_append_left _ _, List.subset_append_of_subset_right _ ?_⟩
  exact index.follow_subset fewer seedNames

end Builtin

/-! ### Positions that are reached -/

theorem mem_reached_union_iff (seedNames others : NameSet) (position : Nat) :
    position ∈ index.reached isBuiltin startFile (seedNames ∪ others) ↔
      position ∈ index.reached isBuiltin startFile seedNames ∨
        position ∈ index.reached isBuiltin startFile others := by
  simp only [reached, Worklist.mem_reach_iff]
  exact Worklist.leads_iff_of_parts
    (index.mem_seeds_union_iff isBuiltin startFile seedNames others) position

/-- The files of the positions that are reached. -/
def reachedFiles (seedNames : NameSet) : List String :=
  (index.reached isBuiltin startFile seedNames).filterMap index.fileAt?

theorem mem_reachedFiles_union_iff (seedNames others : NameSet) (file : String) :
    file ∈ index.reachedFiles isBuiltin startFile (seedNames ∪ others) ↔
      file ∈ index.reachedFiles isBuiltin startFile seedNames ∨
        file ∈ index.reachedFiles isBuiltin startFile others := by
  simp only [reachedFiles, List.mem_filterMap, mem_reached_union_iff, or_and_right, exists_or]

section Builtin

variable {isBuiltin} {isFewer : String → Bool}
  (fewer : ∀ name, isFewer name = true → isBuiltin name = true)

include fewer

theorem reached_subset (seedNames : NameSet) :
    index.reached isBuiltin startFile seedNames ⊆ index.reached isFewer startFile seedNames := by
  intro position member
  rw [reached, Worklist.mem_reach_iff] at member ⊢
  exact member.mono (List.Subset.refl _) (index.successors_subset fewer)
    (index.seeds_subset startFile fewer seedNames)

theorem reachedFiles_subset (seedNames : NameSet) :
    index.reachedFiles isBuiltin startFile seedNames ⊆
      index.reachedFiles isFewer startFile seedNames :=
  List.filterMap_subset index.fileAt? (index.reached_subset startFile fewer seedNames)

end Builtin

/-! ### Positions that are selected -/

/-- A position is selected if it is reached, or if its declaration comes along. -/
theorem mem_selected_iff_reached (seedNames : NameSet) (position : Nat) :
    position ∈ index.selected isBuiltin startFile seedNames ↔
      ∃ declaration, index.declarations[position]? = some declaration ∧
        (position ∈ index.reached isBuiltin startFile seedNames ∨
          (declaration.hasEntryPoint = false ∧ declaration.isFreeStanding = true) ∧
            declaration.originFile ∈ index.reachedFiles isBuiltin startFile seedNames) := by
  refine (mem_zipIdx_filterMap_iff index.declarations (fun item =>
    (index.reached isBuiltin startFile seedNames).contains item.2 ||
      ridesAlong (index.reachedFiles isBuiltin startFile seedNames) item.1) position).trans ?_
  simp only [Bool.or_eq_true, List.contains_iff_mem, ridesAlong_iff]

theorem mem_selected_union_iff (seedNames others : NameSet) (position : Nat) :
    position ∈ index.selected isBuiltin startFile (seedNames ∪ others) ↔
      position ∈ index.selected isBuiltin startFile seedNames ∨
        position ∈ index.selected isBuiltin startFile others := by
  simp only [mem_selected_iff_reached, mem_reached_union_iff, mem_reachedFiles_union_iff,
    ← exists_or, ← and_or_left]
  refine exists_congr fun declaration => and_congr_right fun _ => ?_
  rw [and_or_left]
  exact or_or_or_comm

theorem selected_subset {isBuiltin isFewer : String → Bool}
    (fewer : ∀ name, isFewer name = true → isBuiltin name = true) (seedNames : NameSet) :
    index.selected isBuiltin startFile seedNames ⊆ index.selected isFewer startFile seedNames := by
  intro position member
  rw [mem_selected_iff_reached] at member ⊢
  obtain ⟨declaration, atPosition, isReached | ⟨rides, fromFile⟩⟩ := member
  · exact ⟨declaration, atPosition, .inl (index.reached_subset startFile fewer seedNames isReached)⟩
  · exact ⟨declaration, atPosition,
      .inr ⟨rides, index.reachedFiles_subset startFile fewer seedNames fromFile⟩⟩

end ReferenceIndex

/-- More extra names make no fewer names builtin. -/
theorem isBuiltinType_mono {extra more : List String} (sub : extra ⊆ more) (name : String)
    (builtin : isBuiltinType extra name = true) : isBuiltinType more name = true := by
  rw [isBuiltinType, Bool.or_eq_true, List.contains_iff_mem] at builtin ⊢
  exact builtin.imp_right (@sub name)

namespace ReferenceIndex

/-- The selection from two sets of seeds together has the positions that are selected from one of
them, and no others; and where more names are builtin, be it by any rule or by a longer list of
extra names, only positions are selected that were selected before. -/
theorem selected_seeds_builtins (index : ReferenceIndex) (startFile : String) :
    (∀ (isBuiltin : String → Bool) (seedNames others : NameSet) (position : Nat),
      position ∈ index.selected isBuiltin startFile (seedNames ∪ others) ↔
        position ∈ index.selected isBuiltin startFile seedNames ∨
          position ∈ index.selected isBuiltin startFile others) ∧
      (∀ isBuiltin isFewer : String → Bool,
        (∀ name, isFewer name = true → isBuiltin name = true) →
        ∀ seedNames, index.selected isBuiltin startFile seedNames ⊆
          index.selected isFewer startFile seedNames) ∧
      ∀ extra more : List String, extra ⊆ more →
        ∀ seedNames, index.selected (isBuiltinType more) startFile seedNames ⊆
          index.selected (isBuiltinType extra) startFile seedNames := by
  refine ⟨fun isBuiltin => index.mem_selected_union_iff isBuiltin startFile,
    fun isBuiltin isFewer => index.selected_subset startFile, fun extra more sub => ?_⟩
  exact index.selected_subset startFile (isBuiltinType_mono sub)

/-- Two seeds select the card with the function beside it and the badge, each seed its part; and a
screen is selected without the card once this is builtin, by a rule or as an extra name. -/
theorem selected_seeds_builtins_stray :
    let index := ofRecords Stray.records
    let isCard := fun name : String => name == "Card"
    (∀ position, position ∈ index.selected noBuiltins ""
        (NameSet.ofList ["Card"] ∪ NameSet.ofList ["Badge"]) ↔
        position ∈ [1, 2] ∨ position ∈ [3]) ∧
      (∀ name, noBuiltins name = true → isCard name = true) ∧
      index.selected isCard "Screen.swift" ∅ = [0] ∧
      index.selected isCard "Screen.swift" ∅ ⊆ index.selected noBuiltins "Screen.swift" ∅ ∧
      index.selected noBuiltins "Screen.swift" ∅ = [0, 1, 2] ∧
      [] ⊆ ["Card"] ∧ index.selected (isBuiltinType ["Card"]) "Screen.swift" ∅ ⊆
        index.selected (isBuiltinType []) "Screen.swift" ∅ := by
  intro index isCard
  have fewer : ∀ name, noBuiltins name = true → isCard name = true :=
    fun name builtin => absurd builtin Bool.false_ne_true
  have card : index.selected noBuiltins "" (NameSet.ofList ["Card"]) = [1, 2] := by cbv
  have badge : index.selected noBuiltins "" (NameSet.ofList ["Badge"]) = [3] := by cbv
  refine ⟨fun position => ?_, fewer, by cbv,
    (selected_seeds_builtins index "Screen.swift").2.1 isCard noBuiltins fewer ∅, by cbv,
    List.nil_subset _, (selected_seeds_builtins index "Screen.swift").2.2 [] ["Card"]
      (List.nil_subset _) ∅⟩
  rw [← card, ← badge]
  exact (selected_seeds_builtins index "").1 noBuiltins _ _ position

end ReferenceIndex

end SwiftSlice

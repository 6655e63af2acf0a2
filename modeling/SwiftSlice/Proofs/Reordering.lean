/-
The order in which files are discovered decides nothing. Where no path and no
index comes twice, the selection from the records of some files in one order is
the selection from them in any other, be it of declarations or of whole files.

The two runs share neither positions nor queues. What they share is what they
reach: the least sets that the loops compute are given by rules that ask only
whether something is there, and a reordered list has the same members. The
results are then put in order by index or by path, and without ties there is only
one such order.
-/

import SwiftSlice.Proofs.FileSelection
import SwiftSlice.Proofs.Pruning
import SwiftSlice.Proofs.Walk

namespace SwiftSlice

/-- A set is known by its members. -/
theorem NameSet.eq_of_mem_iff {left right : NameSet}
    (same : ∀ name, name ∈ left ↔ name ∈ right) : left = right := by
  obtain ⟨leftNames, leftAscending⟩ := left
  obtain ⟨rightNames, rightAscending⟩ := right
  rw [NameSet.mk.injEq]
  exact leftAscending.eq_of_mem_iff rightAscending same

/-! ### Tables without ties -/

section Tables

variable {α : Type}

theorem assign_of_absent (key : String) (value : α) (pairs : List (String × α))
    (absent : ¬ key ∈ pairs.map Prod.fst) :
    ReferenceIndex.assign key value pairs = pairs ++ [(key, value)] := by
  induction pairs with
  | nil => rfl
  | cons pair rest inductionHypothesis =>
    obtain ⟨notHere, notLater⟩ := not_or.1 (mt List.mem_cons.2 absent)
    rw [ReferenceIndex.assign, if_neg (Ne.symm notHere), inductionHypothesis notLater]
    rfl

/-- Where no path comes twice, a table from paths has the records in their order. -/
theorem foldl_assign_eq_map (value : FileRecord → α) (records : List FileRecord)
    (distinct : (records.map (·.path)).Nodup) :
    records.foldl (fun pairs record =>
        ReferenceIndex.assign record.path (value record) pairs) [] =
      records.map fun record => (record.path, value record) := by
  -- The rows that the table had before stay in front, and none of them is for a path to come.
  suffices general : ∀ pairs : List (String × α),
      (∀ record ∈ records, ¬ record.path ∈ pairs.map Prod.fst) →
      records.foldl (fun pairs record =>
          ReferenceIndex.assign record.path (value record) pairs) pairs =
        pairs ++ records.map fun record => (record.path, value record) from
    general [] fun _ _ => List.not_mem_nil
  induction records with
  | nil => exact fun pairs _ => (List.append_nil pairs).symm
  | cons head rest inductionHypothesis =>
    intro pairs absent
    obtain ⟨notInRest, restDistinct⟩ := List.nodup_cons.1 distinct
    rw [List.foldl_cons, assign_of_absent _ _ _ (absent head List.mem_cons_self),
      inductionHypothesis restDistinct, List.append_assoc]
    · rfl
    · intro record member
      rw [List.map_append, List.mem_append, not_or]
      refine ⟨absent record (List.mem_cons_of_mem head member), fun isHead => ?_⟩
      have samePath : record.path = head.path := List.mem_singleton.1 isHead
      exact notInRest (List.mem_map.2 ⟨record, member, samePath⟩)

variable {records permuted : List FileRecord}

/-- A table without ties has the same rows in any order. -/
theorem lookup_foldl_assign_perm (value : FileRecord → α) (perm : records.Perm permuted)
    (distinct : (records.map (·.path)).Nodup) (path : String) :
    (permuted.foldl (fun pairs record =>
        ReferenceIndex.assign record.path (value record) pairs) []).lookup path =
      (records.foldl (fun pairs record =>
        ReferenceIndex.assign record.path (value record) pairs) []).lookup path := by
  have keys (files : List FileRecord) :
      (files.map fun record => (record.path, value record)).map Prod.fst =
        files.map (·.path) := by
    rw [List.map_map]
    rfl
  have distinctLater : (permuted.map (·.path)).Nodup := (perm.map _).nodup_iff.1 distinct
  rw [foldl_assign_eq_map value records distinct, foldl_assign_eq_map value permuted distinctLater]
  refine Option.ext fun found => ?_
  rw [FileTree.lookup_eq_some_iff_mem _ _ _ ((keys permuted).symm ▸ distinctLater),
    FileTree.lookup_eq_some_iff_mem _ _ _ ((keys records).symm ▸ distinct)]
  exact (perm.map _).symm.mem_iff

end Tables

/-! ### Declarations -/

section

variable {declarations fewer : List Declaration} {isBuiltin : String → Bool} {startFile : String}
  {seedNames : NameSet} {declaration : Declaration}

/-- More code makes no less wanted. -/
theorem Wanted.mono (sub : fewer ⊆ declarations)
    (wanted : Wanted fewer isBuiltin startFile seedNames declaration) :
    Wanted declarations isBuiltin startFile seedNames declaration := by
  rcases wanted with needed | ⟨member, plain, free, other, needed, sameFile⟩
  · exact .inl (needed.mono sub)
  · exact .inr ⟨sub member, plain, free, other, needed.mono sub, sameFile⟩

end

/-- Declarations with distinct indices have one order by index. -/
theorem mergeSort_discoveryIndex_perm {left right : List Declaration} (perm : left.Perm right)
    (distinct : (left.map (·.discoveryIndex)).Nodup) :
    (left.mergeSort fun first second => first.discoveryIndex ≤ second.discoveryIndex) =
      right.mergeSort fun first second => first.discoveryIndex ≤ second.discoveryIndex := by
  have sorted (declarations : List Declaration) :
      (declarations.mergeSort fun first second =>
        first.discoveryIndex ≤ second.discoveryIndex).Pairwise
        fun first second => first.discoveryIndex ≤ second.discoveryIndex := by
    have ascending := @List.pairwise_mergeSort Declaration
      (fun first second => first.discoveryIndex ≤ second.discoveryIndex)
      (fun first second third => by simpa using Int.le_trans)
      (fun first second => by simpa using Int.le_total _ _) declarations
    simpa only [decide_eq_true_eq] using ascending
  refine List.Perm.eq_of_pairwise ?_ (sorted left) (sorted right)
    ((List.mergeSort_perm left _).trans (perm.trans (List.mergeSort_perm right _).symm))
  intro first second inLeft inRight below above
  exact List.inj_on_of_nodup_map distinct (List.mem_mergeSort.1 inLeft)
    (perm.mem_iff.2 (List.mem_mergeSort.1 inRight)) (Int.le_antisymm below above)

namespace ReferenceIndex

variable {records permuted : List FileRecord} (perm : records.Perm permuted)

include perm

theorem declarations_perm :
    (ofRecords records).declarations.Perm (ofRecords permuted).declarations :=
  perm.flatMap_right _

theorem importsOf_perm (distinct : (records.map (·.path)).Nodup) (path : String) :
    (ofRecords permuted).importsOf path = (ofRecords records).importsOf path :=
  congrArg (Option.getD · ∅)
    (lookup_foldl_assign_perm (·.imports) perm distinct path)

/-- The selected declarations are the same, in the same order. -/
theorem declarations_select_perm
    (numbered : ((records.flatMap (·.declarations)).map (·.discoveryIndex)).Nodup)
    (isBuiltin : String → Bool) (startFile : String) (seedNames : NameSet) :
    ((ofRecords permuted).select isBuiltin startFile seedNames).declarations =
      ((ofRecords records).select isBuiltin startFile seedNames).declarations := by
  classical
  have sameMembers := declarations_perm perm
  let wanted (declaration : Declaration) : Bool :=
    decide (Wanted (ofRecords records).declarations isBuiltin startFile seedNames declaration)
  have before := filterMap_selected records isBuiltin startFile seedNames wanted
    fun declaration => decide_eq_true_iff
  have after := filterMap_selected permuted isBuiltin startFile seedNames wanted
    fun declaration => by
      rw [decide_eq_true_iff]
      exact ⟨Wanted.mono sameMembers.subset, Wanted.mono sameMembers.symm.subset⟩
  rw [select, select, selectionOf, selectionOf, before, after]
  have distinct : (((ofRecords records).declarations.filter wanted).map
      (·.discoveryIndex)).Nodup := numbered.sublist (List.filter_sublist.map _)
  exact (mergeSort_discoveryIndex_perm (sameMembers.filter wanted) distinct).symm

/-- The selections of declarations are equal. -/
theorem select_eq_of_perm (distinct : (records.map (·.path)).Nodup)
    (numbered : ((records.flatMap (·.declarations)).map (·.discoveryIndex)).Nodup)
    (isBuiltin : String → Bool) (startFile : String) (seedNames : NameSet) :
    (ofRecords permuted).select isBuiltin startFile seedNames =
      (ofRecords records).select isBuiltin startFile seedNames := by
  have sameDeclarations := declarations_select_perm perm numbered isBuiltin startFile seedNames
  have sameImports : (ofRecords permuted).importsOf = (ofRecords records).importsOf :=
    funext (importsOf_perm perm distinct)
  have sameCount : (ofRecords permuted).declarations.length =
      (ofRecords records).declarations.length := (declarations_perm perm).length_eq.symm
  rw [select, select, selectionOf, selectionOf] at sameDeclarations ⊢
  dsimp only at sameDeclarations
  rw [sameDeclarations, sameImports, sameCount]

end ReferenceIndex

/-! ### Files -/

namespace FileIndex

variable {records permuted : List FileRecord} (perm : records.Perm permuted)

include perm

theorem find_perm (names : FileRecord → NameSet) (name path : String) :
    path ∈ (Table.ofPairs (records.flatMap fun record =>
        (names record).toList.map (·, record.path))).find name →
      path ∈ (Table.ofPairs (permuted.flatMap fun record =>
        (names record).toList.map (·, record.path))).find name := by
  rw [mem_find_paths_iff, mem_find_paths_iff]
  exact fun ⟨record, member, isFound⟩ => ⟨record, perm.mem_iff.1 member, isFound⟩

variable (distinct : (records.map (·.path)).Nodup)

include distinct

theorem record?_perm : (ofRecords permuted).record? = (ofRecords records).record? :=
  funext (lookup_foldl_assign_perm id perm distinct)

theorem successors_perm (isBuiltin : String → Bool) (path : String) :
    (ofRecords records).successors isBuiltin path ⊆
      (ofRecords permuted).successors isBuiltin path := by
  intro successor follows
  rw [successors] at follows ⊢
  rw [record?_perm perm distinct]
  cases isRecord : (ofRecords records).record? path with
  | none =>
    rw [isRecord] at follows
    exact follows
  | some record =>
    rw [isRecord] at follows
    dsimp only at follows ⊢
    rw [List.mem_append, List.mem_flatMap, List.mem_flatMap] at follows ⊢
    rcases follows with ⟨name, foreign, found⟩ | ⟨name, declared, found⟩
    · refine .inl ⟨name, foreign, ?_⟩
      split at found
      · exact absurd found List.not_mem_nil
      · next notBuiltin =>
        rw [if_neg notBuiltin, List.mem_append]
        exact (List.mem_append.1 found).imp (find_perm perm FileRecord.typeNames name successor)
          (find_perm perm FileRecord.extendedTypes name successor)
    · exact .inr
        ⟨name, declared, find_perm perm FileRecord.extendedTypes name successor found⟩

theorem visited_subset_of_perm (isBuiltin : String → Bool) (startFile path : String)
    (isVisited : path ∈ (ofRecords records).visited isBuiltin startFile) :
    path ∈ (ofRecords permuted).visited isBuiltin startFile := by
  rw [visited, NameSet.mem_ofList, Worklist.mem_reach_iff] at isVisited ⊢
  refine isVisited.mono (List.cons_subset_cons _ fun other known => ?_)
    (successors_perm perm distinct isBuiltin) (List.Subset.refl _)
  obtain ⟨record, member, atPath⟩ := (mem_paths_iff records other).1 known
  exact (mem_paths_iff permuted other).2 ⟨record, perm.mem_iff.1 member, atPath⟩

theorem visited_perm (isBuiltin : String → Bool) (startFile : String) :
    (ofRecords permuted).visited isBuiltin startFile =
      (ofRecords records).visited isBuiltin startFile := by
  have distinctLater : (permuted.map (·.path)).Nodup := (perm.map _).nodup_iff.1 distinct
  refine NameSet.eq_of_mem_iff fun path => ⟨?_, ?_⟩
  · exact visited_subset_of_perm perm.symm distinctLater isBuiltin startFile path
  · exact visited_subset_of_perm perm distinct isBuiltin startFile path

theorem length_records_perm :
    (ofRecords permuted).records.length = (ofRecords records).records.length := by
  have distinctLater : (permuted.map (·.path)).Nodup := (perm.map _).nodup_iff.1 distinct
  have length (files : List FileRecord) (isDistinct : (files.map (·.path)).Nodup) :
      (ofRecords files).records.length = files.length := by
    have rows : (ofRecords files).records = _ := foldl_assign_eq_map id files isDistinct
    rw [rows, List.length_map]
  rw [length records distinct, length permuted distinctLater, perm.length_eq]

/-- The selections of files are equal. -/
theorem select_eq_of_perm (isBuiltin : String → Bool) (startFile : String) :
    (ofRecords permuted).select isBuiltin startFile =
      (ofRecords records).select isBuiltin startFile := by
  have sameExcluded : (ofRecords permuted).isExcluded = (ofRecords records).isExcluded := by
    funext startFile path
    rw [isExcluded, isExcluded, record?_perm perm distinct]
  rw [select, select, visited_perm perm distinct, sameExcluded, length_records_perm perm distinct]

end FileIndex

/-! ### Both selections -/

/-- Records in another order, without a path or an index that comes twice, give the same selection
of declarations and the same selection of files. -/
theorem selections_perm (records permuted : List FileRecord) (perm : records.Perm permuted)
    (distinct : (records.map (·.path)).Nodup)
    (numbered : ((records.flatMap (·.declarations)).map (·.discoveryIndex)).Nodup)
    (isBuiltin : String → Bool) (startFile : String) (seedNames : NameSet) :
    (ReferenceIndex.ofRecords permuted).select isBuiltin startFile seedNames =
        (ReferenceIndex.ofRecords records).select isBuiltin startFile seedNames ∧
      (FileIndex.ofRecords permuted).select isBuiltin startFile =
        (FileIndex.ofRecords records).select isBuiltin startFile :=
  ⟨ReferenceIndex.select_eq_of_perm perm distinct numbered isBuiltin startFile seedNames,
    FileIndex.select_eq_of_perm perm distinct isBuiltin startFile⟩

/-- Three files read backwards: the screen still leads to the card, and the function comes along. -/
theorem selections_perm_reversed :
    let reversed := Stray.records.reverse
    (Stray.records.map (·.path)).Nodup ∧ reversed ≠ Stray.records ∧
      (ReferenceIndex.ofRecords reversed).select noBuiltins "Screen.swift" ∅ =
        (ReferenceIndex.ofRecords Stray.records).select noBuiltins "Screen.swift" ∅ ∧
      (FileIndex.ofRecords reversed).select noBuiltins "Screen.swift" =
        (FileIndex.ofRecords Stray.records).select noBuiltins "Screen.swift" :=
  ⟨by decide, by decide, selections_perm Stray.records Stray.records.reverse
    (List.reverse_perm Stray.records).symm (by decide) (by decide) noBuiltins "Screen.swift" ∅⟩

end SwiftSlice

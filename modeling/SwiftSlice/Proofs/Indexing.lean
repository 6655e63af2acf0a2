/-
What the lookup tables of an index hold, as whole lists. A table is filled by one
pass over items, each of which puts its value under its names. The row of a name is
then the list of the values of the items that have it, in the order of the items:
an item has a name at most once, so that it adds its value at most once.

For declarations the values are positions, and the row ascends whatever the files
are. For files the values are paths, and a row tells the files apart only if no
path comes twice.
-/

import SwiftSlice.Proofs.FileSelection

namespace SwiftSlice

/-! ### Rows -/

namespace Table

variable {α β : Type}

/-- The pairs of one item that are listed under a name. -/
theorem filter_map_pair (names : List String) (distinct : names.Nodup) (value : β)
    (name : String) :
    ((names.map (·, value)).filter (·.1 = name)).map (·.2) =
      if name ∈ names then [value] else [] := by
  rw [List.filter_map, List.map_map]
  show (names.filter (· = name)).map (fun _ => value) = _
  rw [List.filter_eq, distinct.count]
  split <;> rfl

/-- The row of a name has the value of each item with that name, in the order of the items. -/
theorem find_ofPairs_flatMap (items : List α) (names : α → List String) (value : α → β)
    (distinct : ∀ item ∈ items, (names item).Nodup) (name : String) :
    (ofPairs (items.flatMap fun item => (names item).map (·, value item))).find name =
      (items.filter (name ∈ names ·)).map value := by
  rw [find_ofPairs]
  induction items with
  | nil => rfl
  | cons head rest inductionHypothesis =>
    rw [List.forall_mem_cons] at distinct
    rw [List.flatMap_cons, List.filter_append, List.map_append, filter_map_pair _ distinct.1,
      inductionHypothesis distinct.2]
    by_cases held : name ∈ names head <;> simp [held]

end Table

theorem NameSet.nodup_toList (set : NameSet) : set.toList.Nodup :=
  set.ascending.imp String.ne_of_lt

/-! ### Positions -/

/-- Holds of the ascending list of the positions whose declaration passes a test. -/
structure IsPositionRow (declarations : List Declaration) (passes : Declaration → Prop)
    (positions : List Nat) : Prop where
  ascending : positions.Pairwise (· < ·)
  exact : ∀ position, position ∈ positions ↔
    ∃ declaration, declarations[position]? = some declaration ∧ passes declaration

namespace ReferenceIndex

variable (records : List FileRecord) (name : String)

theorem isPositionRow_declarersOf :
    IsPositionRow (ofRecords records).declarations (name ∈ ·.typeNames)
      ((ofRecords records).declarersOf name) where
  ascending := by
    have row : (ofRecords records).declarersOf name = _ :=
      Table.find_ofPairs_flatMap (ofRecords records).declarations.zipIdx (·.1.typeNames.toList)
        (·.2) (fun item _ => item.1.typeNames.nodup_toList) name
    rw [row]
    exact (pairwise_positions _).sublist (List.filter_sublist.map _)
  exact := mem_declarersOf_iff records name

theorem isPositionRow_extendersOf :
    IsPositionRow (ofRecords records).declarations (·.extendedType = some name)
      ((ofRecords records).extendersOf name) where
  ascending := by
    -- An extension has one name at most, which makes it a list of names as well.
    have pairs : extendingPairs (ofRecords records).declarations =
        (ofRecords records).declarations.zipIdx.flatMap fun item =>
          item.1.extendedType.toList.map (·, item.2) := by
      rw [extendingPairs, List.filterMap_eq_flatMap_toList]
      refine List.flatMap_congr fun item _ => ?_
      cases item.1.extendedType <;> rfl
    have row := Table.find_ofPairs_flatMap (ofRecords records).declarations.zipIdx
      (·.1.extendedType.toList) (·.2) (fun item _ => Option.toList_nodup _) name
    rw [← pairs] at row
    show ((Table.ofPairs (extendingPairs (ofRecords records).declarations)).find name).Pairwise _
    rw [row]
    exact (pairwise_positions _).sublist (List.filter_sublist.map _)
  exact := mem_extendersOf_iff records name

end ReferenceIndex

/-! ### Paths -/

/-- Holds of the list of the paths of those files that pass a test, in the order of the files, each
path once. -/
structure IsPathRow (records : List FileRecord) (passes : FileRecord → Prop)
    (paths : List String) : Prop where
  inOrder : paths.Sublist (records.map (·.path))
  once : paths.Nodup
  exact : ∀ record ∈ records, record.path ∈ paths ↔ passes record

namespace FileIndex

variable {records : List FileRecord} (distinct : (records.map (·.path)).Nodup)

include distinct

/-- The rows of a table of paths that is filled from a set of names for each file. -/
theorem isPathRow_find (names : FileRecord → NameSet) (name : String) :
    IsPathRow records (name ∈ names ·)
      ((Table.ofPairs (records.flatMap fun record =>
        (names record).toList.map (·, record.path))).find name) := by
  have row := Table.find_ofPairs_flatMap records (fun record => (names record).toList) (·.path)
    (fun record _ => (names record).nodup_toList) name
  have inOrder : ((Table.ofPairs (records.flatMap fun record =>
      (names record).toList.map (·, record.path))).find name).Sublist (records.map (·.path)) := by
    rw [row]
    exact List.filter_sublist.map _
  refine ⟨inOrder, distinct.sublist inOrder, fun record member => ?_⟩
  rw [mem_find_paths_iff]
  constructor
  · rintro ⟨other, inRecords, samePath, held⟩
    rwa [← List.inj_on_of_nodup_map distinct inRecords member samePath]
  · exact fun held => ⟨record, member, rfl, held⟩

theorem isPathRow_declarers (name : String) :
    IsPathRow records (·.Declares name) ((ofRecords records).declarers.find name) := by
  have row := isPathRow_find distinct FileRecord.typeNames name
  simp only [FileRecord.mem_typeNames] at row
  exact row

theorem isPathRow_extenders (name : String) :
    IsPathRow records (·.Extends name) ((ofRecords records).extenders.find name) := by
  have row := isPathRow_find distinct FileRecord.extendedTypes name
  simp only [FileRecord.mem_extendedTypes] at row
  exact row

end FileIndex

/-! ### The tables -/

/-- The tables of both indices are exact. The index of declarations has the declarations of all
files, one file after the other; under a name it has the ascending list of the positions that
declare the name, in a body or in the body of an extension, and of those that extend it. The index
of files has under a name the paths of the files that declare it and of those that extend it, in
the order of the files. -/
theorem tables_exact (records : List FileRecord) (name : String) :
    let index := ReferenceIndex.ofRecords records
    let files := FileIndex.ofRecords records
    index.declarations = records.flatMap (·.declarations) ∧
      IsPositionRow index.declarations
        (fun declaration => name ∈ declaration.declaredTypes ∨ name ∈ declaration.memberTypes)
        (index.declarersOf name) ∧
      IsPositionRow index.declarations (·.extendedType = some name) (index.extendersOf name) ∧
      ((records.map (·.path)).Nodup →
        IsPathRow records (·.Declares name) (files.declarers.find name) ∧
          IsPathRow records (·.Extends name) (files.extenders.find name)) := by
  intro index files
  refine ⟨rfl, ?_, ReferenceIndex.isPositionRow_extendersOf records name, fun distinct =>
    ⟨FileIndex.isPathRow_declarers distinct name, FileIndex.isPathRow_extenders distinct name⟩⟩
  have declarers := ReferenceIndex.isPositionRow_declarersOf records name
  simp only [Declaration.typeNames, NameSet.mem_union] at declarers
  exact declarers

/-- The card is declared at the second place, in the second of three files. -/
theorem tables_exact_card :
    let index := ReferenceIndex.ofRecords Stray.records
    let files := FileIndex.ofRecords Stray.records
    (Stray.records.map (·.path)).Nodup ∧ index.declarersOf "Card" = [1] ∧
      files.declarers.find "Card" = ["Card.swift"] ∧
      IsPathRow Stray.records (·.Declares "Card") (files.declarers.find "Card") := by
  intro index files
  have distinct : (Stray.records.map (·.path)).Nodup := by decide
  exact ⟨distinct, by decide, by decide, ((tables_exact Stray.records "Card").2.2.2 distinct).1⟩

end SwiftSlice

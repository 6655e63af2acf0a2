/-
What the lookup tables of an index say. A position is found under a type name
exactly if the declaration at that position declares the name, or extends it; and
a path leads to the record that came with it, provided that no path comes twice.
With these the tables are not opened again: what follows speaks of declarations.
-/

import Mathlib.Data.List.Basic
import SwiftSlice.Reference.Selection

namespace SwiftSlice

namespace ReferenceIndex

/-! ### Positions -/

/-- The positions of declarations ascend. -/
theorem pairwise_positions (declarations : List Declaration) :
    (declarations.zipIdx.map Prod.snd).Pairwise (· < ·) := by
  rw [List.zipIdx_map_snd]
  exact List.pairwise_lt_range'

/-- The positions that pass a test of position and declaration. -/
theorem mem_zipIdx_filterMap_iff (declarations : List Declaration)
    (test : Declaration × Nat → Bool) (position : Nat) :
    (position ∈ declarations.zipIdx.filterMap fun item =>
      if test item then some item.2 else none) ↔
      ∃ declaration, declarations[position]? = some declaration ∧
        test (declaration, position) = true := by
  rw [List.mem_filterMap]
  constructor
  · rintro ⟨⟨declaration, other⟩, member, found⟩
    obtain ⟨passes, rfl⟩ : test (declaration, other) = true ∧ other = position := by
      simpa using found
    exact ⟨declaration, List.mk_mem_zipIdx_iff_getElem?.1 member, passes⟩
  · rintro ⟨declaration, found, passes⟩
    exact ⟨(declaration, position), List.mk_mem_zipIdx_iff_getElem?.2 found, by simp [passes]⟩

/-- Where the test looks at the declaration alone, the declarations of these positions are those
that pass it. -/
theorem filterMap_getElem?_zipIdx (declarations : List Declaration)
    (test : Declaration × Nat → Bool) (keep : Declaration → Bool)
    (agree : ∀ declaration position, declarations[position]? = some declaration →
      test (declaration, position) = keep declaration) :
    (declarations.zipIdx.filterMap fun item => if test item then some item.2 else none).filterMap
      (declarations[·]?) = declarations.filter keep := by
  conv_rhs => rw [← List.zipIdx_map_fst 0 declarations, ← List.filterMap_eq_filter,
    List.filterMap_map]
  rw [List.filterMap_filterMap]
  refine List.filterMap_congr fun item member => ?_
  have found : declarations[item.2]? = some item.1 := List.mem_zipIdx_iff_getElem?.1 member
  have same : test item = keep item.1 := agree item.1 item.2 found
  rw [Function.comp_apply, same]
  cases kept : keep item.1 <;> simp [kept, found, Option.guard]

theorem mem_eligible_iff (index : ReferenceIndex) (position : Nat) :
    position ∈ index.eligible ↔
      ∃ declaration, index.declarations[position]? = some declaration ∧
        declaration.hasEntryPoint = false := by
  have turned : index.eligible = index.declarations.zipIdx.filterMap fun item =>
      if !item.1.hasEntryPoint then some item.2 else none := by
    refine List.filterMap_congr fun item _ => ?_
    cases item.1.hasEntryPoint <;> rfl
  rw [turned, mem_zipIdx_filterMap_iff index.declarations fun item => !item.1.hasEntryPoint]
  simp only [Bool.not_eq_true']

theorem mem_positionsIn_iff (index : ReferenceIndex) (file : String) (position : Nat) :
    position ∈ index.positionsIn file ↔
      ∃ declaration, index.declarations[position]? = some declaration ∧
        declaration.originFile = file ∧ declaration.hasEntryPoint = false := by
  rw [positionsIn, mem_zipIdx_filterMap_iff index.declarations fun item =>
    decide (item.1.originFile = file) && !item.1.hasEntryPoint]
  simp only [Bool.and_eq_true, decide_eq_true_eq, Bool.not_eq_true']

/-! ### Names -/

theorem mem_find_ofPairs_iff {α : Type} (pairs : List (String × α)) (name : String) (value : α) :
    value ∈ (Table.ofPairs pairs).find name ↔ (name, value) ∈ pairs := by
  rw [Table.find_ofPairs, List.mem_map]
  constructor
  · rintro ⟨pair, member, rfl⟩
    obtain ⟨inPairs, same⟩ := List.mem_filter.1 member
    rwa [← of_decide_eq_true same]
  · intro member
    exact ⟨(name, value), List.mem_filter.2 ⟨member, decide_eq_true rfl⟩, rfl⟩

/-- A position is found as a declarer of the names that its declaration declares. -/
theorem mem_declarersOf_iff (records : List FileRecord) (name : String) (position : Nat) :
    position ∈ (ofRecords records).declarersOf name ↔
      ∃ declaration, (ofRecords records).declarations[position]? = some declaration ∧
        name ∈ declaration.typeNames := by
  show position ∈ (Table.ofPairs (declaringPairs (ofRecords records).declarations)).find name ↔ _
  rw [mem_find_ofPairs_iff, declaringPairs, List.mem_flatMap]
  constructor
  · rintro ⟨⟨declaration, other⟩, member, found⟩
    obtain ⟨declared, inNames, same⟩ := List.mem_map.1 found
    obtain ⟨rfl, rfl⟩ := Prod.mk.inj same
    exact ⟨declaration, List.mk_mem_zipIdx_iff_getElem?.1 member, inNames⟩
  · rintro ⟨declaration, found, declares⟩
    exact ⟨(declaration, position), List.mk_mem_zipIdx_iff_getElem?.2 found,
      List.mem_map.2 ⟨name, declares, rfl⟩⟩

/-- A position is found as an extender of the type that its declaration extends. -/
theorem mem_extendersOf_iff (records : List FileRecord) (name : String) (position : Nat) :
    position ∈ (ofRecords records).extendersOf name ↔
      ∃ declaration, (ofRecords records).declarations[position]? = some declaration ∧
        declaration.extendedType = some name := by
  show position ∈ (Table.ofPairs (extendingPairs (ofRecords records).declarations)).find name ↔ _
  rw [mem_find_ofPairs_iff, extendingPairs, List.mem_filterMap]
  constructor
  · rintro ⟨⟨declaration, other⟩, member, found⟩
    obtain ⟨extended, extends_, same⟩ := Option.map_eq_some_iff.1 found
    obtain ⟨rfl, rfl⟩ := Prod.mk.inj same
    exact ⟨declaration, List.mk_mem_zipIdx_iff_getElem?.1 member, extends_⟩
  · rintro ⟨declaration, found, extends_⟩
    exact ⟨(declaration, position), List.mk_mem_zipIdx_iff_getElem?.2 found, by simp [extends_]⟩

/-! ### Paths -/

theorem lookup_assign {α : Type} (key other : String) (value : α) (pairs : List (String × α)) :
    (assign key value pairs).lookup other =
      if other = key then some value else pairs.lookup other := by
  induction pairs with
  | nil => by_cases same : other = key <;> simp [assign, List.lookup_cons, same, beq_false_of_ne]
  | cons pair rest inductionHypothesis =>
    by_cases found : pair.1 = key
    · rw [assign, if_pos found, List.lookup_cons, List.lookup_cons, found]
      by_cases same : other = key <;> simp [same, beq_false_of_ne]
    · rw [assign, if_neg found, List.lookup_cons, List.lookup_cons, inductionHypothesis]
      by_cases here : other = pair.1
      · simp [here, found]
      · simp [beq_false_of_ne here]

/-- A table from paths, filled from some records, has what the record of a path gave, provided that
no path comes twice. -/
theorem lookup_foldl_assign {α : Type} (value : FileRecord → α) (records : List FileRecord)
    (distinct : (records.map (·.path)).Nodup) (record : FileRecord) (member : record ∈ records) :
    (records.foldl (fun pairs record => assign record.path (value record) pairs) []).lookup
      record.path = some (value record) := by
  -- Whatever the table held before, later records leave the row of the path alone.
  have untouched : ∀ (rest : List FileRecord) (pairs : List (String × α)) (path : String),
      ¬ path ∈ rest.map (·.path) →
      (rest.foldl (fun pairs record => assign record.path (value record) pairs) pairs).lookup path =
        pairs.lookup path := by
    intro rest
    induction rest with
    | nil => exact fun _ _ _ => rfl
    | cons head rest inductionHypothesis =>
      intro pairs path absent
      obtain ⟨notHead, notRest⟩ := not_or.1 (mt List.mem_cons.2 absent)
      rw [List.foldl_cons, inductionHypothesis _ _ notRest, lookup_assign, if_neg notHead]
  obtain ⟨before, after, rfl⟩ := List.append_of_mem member
  rw [List.map_append, List.map_cons, List.nodup_append, List.nodup_cons] at distinct
  rw [List.foldl_append, List.foldl_cons, untouched _ _ _ distinct.2.1.1, lookup_assign, if_pos rfl]

/-- The imports of a file are those of its record. -/
theorem importsOf_path (records : List FileRecord) (distinct : (records.map (·.path)).Nodup)
    (record : FileRecord) (member : record ∈ records) :
    (ofRecords records).importsOf record.path = record.imports := by
  show ((records.foldl (fun imports record => assign record.path record.imports imports) []).lookup
    record.path).getD ∅ = record.imports
  rw [lookup_foldl_assign (·.imports) records distinct record member, Option.getD_some]

end ReferenceIndex

end SwiftSlice

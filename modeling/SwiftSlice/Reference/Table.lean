/-
Lookup tables from names to lists of values. A table is made from pairs: the
values of a name are those that it was paired with, in the order of the pairs.
-/

namespace SwiftSlice

/-- The values of each name. -/
structure Table (α : Type) where
  rows : List (String × List α)

namespace Table

variable {α : Type}

/-- Adds a value at the end of a name's row, which is made if it is missing. -/
def addRow (name : String) (value : α) : List (String × List α) → List (String × List α)
  | [] => [(name, [value])]
  | row :: rest =>
    if row.1 = name then (name, row.2 ++ [value]) :: rest else row :: addRow name value rest

/-- The table of some pairs. -/
def ofPairs (pairs : List (String × α)) : Table α where
  rows := pairs.foldl (fun rows pair => addRow pair.1 pair.2 rows) []

/-- The values of a name. -/
def find (table : Table α) (name : String) : List α :=
  (table.rows.lookup name).getD []

theorem lookup_addRow (name other : String) (value : α) (rows : List (String × List α)) :
    ((addRow name value rows).lookup other).getD [] =
      (rows.lookup other).getD [] ++ if other = name then [value] else [] := by
  induction rows with
  | nil =>
    by_cases same : other = name
    · simp [addRow, same]
    · simp [addRow, List.lookup_cons, same, beq_false_of_ne same]
  | cons row rest inductionHypothesis =>
    by_cases found : row.1 = name
    · rw [addRow, if_pos found, List.lookup_cons, List.lookup_cons, found]
      by_cases same : other = name
      · simp [same]
      · simp [same, beq_false_of_ne same]
    · rw [addRow, if_neg found, List.lookup_cons, List.lookup_cons]
      by_cases here : other = row.1
      · simp [here, found]
      · simpa [beq_false_of_ne here] using inductionHypothesis

/-- Looking up a name gives the values it was paired with, in order. -/
theorem find_ofPairs (pairs : List (String × α)) (name : String) :
    (ofPairs pairs).find name = (pairs.filter (·.1 = name)).map (·.2) := by
  suffices general : ∀ rows : List (String × List α),
      ((pairs.foldl (fun rows pair => addRow pair.1 pair.2 rows) rows).lookup name).getD [] =
        (rows.lookup name).getD [] ++ (pairs.filter (·.1 = name)).map (·.2) by
    simpa [ofPairs, find] using general []
  induction pairs with
  | nil => simp
  | cons pair rest inductionHypothesis =>
    intro rows
    rw [List.foldl_cons, inductionHypothesis, lookup_addRow, List.append_assoc]
    congr 1
    by_cases same : pair.1 = name
    · simp [same]
    · have : ¬ name = pair.1 := fun h => same h.symm
      simp [same, this]

end Table

end SwiftSlice

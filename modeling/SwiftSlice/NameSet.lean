/-
Finite sets of names. A set is the strictly ascending list of its members, in the
order of code points, so that equal sets are equal values and listing a set needs
no further sorting.
-/

namespace SwiftSlice

/-! ### Ascending lists -/

/-- Puts a name at its place in an ascending list, unless it is there already. -/
def insertName (name : String) : List String → List String
  | [] => [name]
  | head :: rest =>
    if name < head then name :: head :: rest
    else if name = head then head :: rest
    else head :: insertName name rest

theorem mem_insertName (name other : String) (names : List String) :
    other ∈ insertName name names ↔ other = name ∨ other ∈ names := by
  induction names with
  | nil => simp [insertName]
  | cons head rest inductionHypothesis =>
    by_cases before : name < head
    · simp [insertName, before]
    · by_cases same : name = head
      · simp [insertName, same]
      · simp only [insertName, before, same, if_false, List.mem_cons, inductionHypothesis]
        exact or_left_comm

/-- The ascending list stays ascending. -/
theorem pairwise_insertName (name : String) (names : List String)
    (ascending : names.Pairwise (· < ·)) : (insertName name names).Pairwise (· < ·) := by
  induction names with
  | nil => simp [insertName]
  | cons head rest inductionHypothesis =>
    obtain ⟨headBelow, restAscending⟩ := List.pairwise_cons.1 ascending
    by_cases before : name < head
    · simp only [insertName, before, if_true]
      refine List.pairwise_cons.2 ⟨fun other member => ?_, ascending⟩
      rcases List.mem_cons.1 member with rfl | inRest
      · exact before
      · exact String.lt_trans before (headBelow other inRest)
    · by_cases same : name = head
      · simpa only [insertName, same, String.lt_irrefl, if_false, if_true] using ascending
      · simp only [insertName, before, same, if_false]
        refine List.pairwise_cons.2 ⟨fun other member => ?_, inductionHypothesis restAscending⟩
        rcases (mem_insertName name other rest).1 member with rfl | inRest
        · exact Std.lt_of_le_of_ne before (Ne.symm same)
        · exact headBelow other inRest

/-! ### Sets -/

/-- A finite set of names. -/
structure NameSet where
  toList : List String
  ascending : toList.Pairwise (· < ·)
deriving DecidableEq

namespace NameSet

instance : Membership String NameSet where
  mem set name := name ∈ set.toList

instance (name : String) (set : NameSet) : Decidable (name ∈ set) :=
  inferInstanceAs (Decidable (name ∈ set.toList))

theorem mem_toList (set : NameSet) (name : String) : name ∈ set.toList ↔ name ∈ set := Iff.rfl

/-- The set without members. -/
def empty : NameSet where
  toList := []
  ascending := List.Pairwise.nil

instance : EmptyCollection NameSet := ⟨empty⟩
instance : Inhabited NameSet := ⟨empty⟩

/-- Adds one name. -/
def insert (name : String) (set : NameSet) : NameSet where
  toList := insertName name set.toList
  ascending := pairwise_insertName name set.toList set.ascending

/-- Keeps the members that pass a test. -/
def filter (keep : String → Bool) (set : NameSet) : NameSet where
  toList := set.toList.filter keep
  ascending := set.ascending.filter keep

/-- The set of the names in a list. -/
def ofList (names : List String) : NameSet :=
  names.foldr insert empty

/-- The names of either set. -/
def union (left right : NameSet) : NameSet :=
  left.toList.foldr insert right

/-- The names of the first set that are not in the second. -/
def diff (left right : NameSet) : NameSet :=
  left.filter fun name => !right.toList.contains name

/-- A set without one name. -/
def erase (set : NameSet) (name : String) : NameSet :=
  set.filter (· != name)

/-- The union of a list of sets. -/
def unions (sets : List NameSet) : NameSet :=
  sets.foldr union empty

def isEmpty (set : NameSet) : Bool :=
  set.toList.isEmpty

def contains (set : NameSet) (name : String) : Bool :=
  set.toList.contains name

instance : Union NameSet := ⟨union⟩
instance : SDiff NameSet := ⟨diff⟩

theorem not_mem_empty (name : String) : ¬ name ∈ (∅ : NameSet) := List.not_mem_nil

theorem isEmpty_iff (set : NameSet) : set.isEmpty = true ↔ ∀ name, ¬ name ∈ set := by
  rw [isEmpty, List.isEmpty_iff]
  exact List.eq_nil_iff_forall_not_mem

@[simp] theorem mem_insert (name other : String) (set : NameSet) :
    other ∈ set.insert name ↔ other = name ∨ other ∈ set :=
  mem_insertName name other set.toList

@[simp] theorem mem_filter (keep : String → Bool) (set : NameSet) (name : String) :
    name ∈ set.filter keep ↔ name ∈ set ∧ keep name = true :=
  List.mem_filter

theorem mem_foldr_insert (names : List String) (set : NameSet) (name : String) :
    name ∈ names.foldr insert set ↔ name ∈ names ∨ name ∈ set := by
  induction names with
  | nil => simp
  | cons head rest inductionHypothesis => simp [inductionHypothesis, or_assoc]

@[simp] theorem mem_ofList (names : List String) (name : String) :
    name ∈ ofList names ↔ name ∈ names := by
  simp [ofList, mem_foldr_insert, show ¬ name ∈ empty from not_mem_empty name]

@[simp] theorem mem_union (left right : NameSet) (name : String) :
    name ∈ left ∪ right ↔ name ∈ left ∨ name ∈ right :=
  mem_foldr_insert left.toList right name

@[simp] theorem mem_diff (left right : NameSet) (name : String) :
    name ∈ left \ right ↔ name ∈ left ∧ ¬ name ∈ right := by
  show name ∈ left.filter (fun other => !right.toList.contains other) ↔ _
  rw [mem_filter]
  simp [mem_toList]

theorem toList_diff_self (set : NameSet) : (set \ set).toList = [] := by
  refine List.eq_nil_iff_forall_not_mem.2 fun name member => ?_
  obtain ⟨inside, outside⟩ := (mem_diff set set name).1 member
  exact outside inside

theorem mem_unions_map {α : Type} (names : α → NameSet) (items : List α) (name : String) :
    name ∈ unions (items.map names) ↔ ∃ item ∈ items, name ∈ names item := by
  induction items with
  | nil => simp [unions, show ¬ name ∈ empty from not_mem_empty name]
  | cons head rest inductionHypothesis =>
    simp only [List.mem_cons, exists_eq_or_imp, ← inductionHypothesis]
    exact mem_union (names head) (unions (rest.map names)) name

@[simp] theorem mem_erase (set : NameSet) (name other : String) :
    other ∈ set.erase name ↔ other ∈ set ∧ other ≠ name := by
  simp [erase]

end NameSet

end SwiftSlice

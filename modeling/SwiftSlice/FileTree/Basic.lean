/-
File trees. A tree is a finite map from locations to entries, where a location is
the list of names that leads to it from the root. The root itself is always a
directory and has no entry. Two laws hold of every tree: no location has two
entries, and the location above each entry is a directory, so that an entry is
reached from the root through directories only.
-/

import SwiftSlice.Text.Utf8

namespace SwiftSlice

open Text

/-- The names that lead from the root to an entry. -/
abbrev Location := List String

/-- What a location holds. -/
inductive Entry
  | file (content : Bytes)
  | directory
  | link (target : String)
deriving DecidableEq, Repr

/-- Holds of the names that an entry may have: not empty, not a dot or two, without a slash or a
null character. -/
def IsFileName (name : String) : Prop :=
  name ≠ "" ∧ name ≠ "." ∧ name ≠ ".." ∧ ¬ '/' ∈ name.toList ∧ ¬ Char.ofNat 0 ∈ name.toList

instance (name : String) : Decidable (IsFileName name) :=
  inferInstanceAs (Decidable (_ ∧ _))

/-- Holds of a location that has an entry in the list, or is the root, and is a directory there. -/
def DirectoryIn (entries : List (Location × Entry)) (location : Location) : Prop :=
  location = [] ∨ (location, Entry.directory) ∈ entries

instance (entries : List (Location × Entry)) (location : Location) :
    Decidable (DirectoryIn entries location) :=
  inferInstanceAs (Decidable (_ ∨ _))

/-- A finite tree of files, directories and symbolic links. -/
structure FileTree where
  entries : List (Location × Entry)
  distinct : (entries.map Prod.fst).Nodup
  named : ∀ item ∈ entries, item.1 ≠ [] ∧ ∀ name ∈ item.1, IsFileName name
  rooted : ∀ item ∈ entries, DirectoryIn entries item.1.dropLast

namespace FileTree

/-- The tree with nothing but its root. -/
def empty : FileTree where
  entries := []
  distinct := List.nodup_nil
  named := by simp
  rooted := by simp

instance : EmptyCollection FileTree := ⟨empty⟩
instance : Inhabited FileTree := ⟨empty⟩

/-- What a location holds, if it holds anything. -/
def entry? (tree : FileTree) (location : Location) : Option Entry :=
  if location = [] then some .directory else tree.entries.lookup location

def isDirectory (tree : FileTree) (location : Location) : Bool :=
  tree.entry? location == some .directory

/-! ### Changing a tree -/

/-- Holds when an entry can be placed at a location: its name is allowed, it has a directory above
it, and it does not take the place of a directory. -/
def CanPut (tree : FileTree) (location : Location) : Prop :=
  location ≠ [] ∧ (∀ name ∈ location, IsFileName name) ∧
    DirectoryIn tree.entries location.dropLast ∧ ¬ DirectoryIn tree.entries location

instance (tree : FileTree) (location : Location) : Decidable (tree.CanPut location) :=
  inferInstanceAs (Decidable (_ ∧ _))

/-- The entries at other locations. -/
def others (tree : FileTree) (location : Location) : List (Location × Entry) :=
  tree.entries.filter (·.1 != location)

theorem mem_others (tree : FileTree) (location : Location) (item : Location × Entry) :
    item ∈ tree.others location ↔ item ∈ tree.entries ∧ item.1 ≠ location := by
  simp [others]

theorem directoryIn_others (tree : FileTree) (location above : Location)
    (plain : ¬ DirectoryIn tree.entries location) (directory : DirectoryIn tree.entries above)
    (entry : Entry) : DirectoryIn (tree.others location ++ [(location, entry)]) above := by
  rcases directory with root | member
  · exact Or.inl root
  · refine Or.inr (List.mem_append_left _ ((mem_others tree location _).2 ⟨member, ?_⟩))
    intro same
    exact plain (Or.inr (same ▸ member))

/-- Places an entry at a location, in place of the file or link that was there. A location where
nothing can be placed leaves the tree as it is. -/
def put (tree : FileTree) (location : Location) (entry : Entry) : FileTree :=
  if allowed : tree.CanPut location then
    { entries := tree.others location ++ [(location, entry)]
      distinct := by
        rw [List.map_append, List.nodup_append]
        refine ⟨(List.filter_sublist.map Prod.fst).nodup tree.distinct, by simp, ?_⟩
        intro left leftMember right rightMember same
        obtain ⟨item, itemMember, rfl⟩ := List.mem_map.1 leftMember
        exact ((mem_others tree location item).1 itemMember).2
          (same.trans (by simpa using rightMember))
      named := by
        intro item member
        rcases List.mem_append.1 member with old | new
        · exact tree.named item ((mem_others tree location item).1 old).1
        · rw [List.mem_singleton.1 new]
          exact ⟨allowed.1, allowed.2.1⟩
      rooted := by
        intro item member
        rcases List.mem_append.1 member with old | new
        · exact directoryIn_others tree location _ allowed.2.2.2
            (tree.rooted item ((mem_others tree location item).1 old).1) entry
        · rw [List.mem_singleton.1 new]
          exact directoryIn_others tree location _ allowed.2.2.2 allowed.2.2.1 entry }
  else tree

/-- Removes a location and everything below it. -/
def remove (tree : FileTree) (location : Location) : FileTree where
  entries := tree.entries.filter fun item => !location.isPrefixOf item.1
  distinct := (List.filter_sublist.map Prod.fst).nodup tree.distinct
  named := fun item member => tree.named item (List.mem_filter.1 member).1
  rooted := by
    intro item member
    obtain ⟨old, outside⟩ := List.mem_filter.1 member
    rcases tree.rooted item old with root | above
    · exact Or.inl root
    · refine Or.inr (List.mem_filter.2 ⟨above, ?_⟩)
      simp only [Bool.not_eq_eq_eq_not, Bool.not_true, Bool.eq_false_iff] at outside ⊢
      intro inside
      exact outside (List.isPrefixOf_iff_prefix.2
        ((List.isPrefixOf_iff_prefix.1 inside).trans (List.dropLast_prefix item.1)))

/-- The locations below a directory, each as the names that lead to it from there. -/
def below (tree : FileTree) (directory : Location) : List (Location × Entry) :=
  tree.entries.filterMap fun item =>
    (directory.isPrefixOf? item.1).bind fun rest =>
      if rest.isEmpty then none else some (rest, item.2)

/-! ### Comparing trees -/

/-- The files of a tree that the earlier tree does not hold with the same content. -/
def writtenSince (tree earlier : FileTree) : List (Location × Bytes) :=
  tree.entries.filterMap fun item =>
    match item.2 with
    | .file content =>
      if earlier.entry? item.1 = some (.file content) then none else some (item.1, content)
    | _ => none

/-- The files of the earlier tree that are no longer files. -/
def removedSince (tree earlier : FileTree) : List Location :=
  earlier.entries.filterMap fun item =>
    match item.2, tree.entry? item.1 with
    | .file _, some (.file _) => none
    | .file _, _ => some item.1
    | _, _ => none

end FileTree

end SwiftSlice

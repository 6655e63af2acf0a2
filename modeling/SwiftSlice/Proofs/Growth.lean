/-
How writing a slice changes a tree. Directories and files are made where nothing
was before, and nothing else is touched, so a tree that has grown in this way
holds what it held, its links are the ones it had, and the entries below a
directory are the same in the same order unless something was added there. A walk
takes the same way in the grown tree as before, unless it broke off at a location
that has been filled since.
-/

import Mathlib.Data.List.Basic
import Mathlib.Logic.Relation
import SwiftSlice.Proofs.Resolving

namespace SwiftSlice

open Text

namespace FileTree

/-! ### One entry more -/

section Put

variable {tree : FileTree} {location : Location}

theorem canPut_of_free (free : tree.entry? location = none)
    (named : ∀ name ∈ location, IsFileName name)
    (above : tree.entry? location.dropLast = some .directory) : tree.CanPut location := by
  refine ⟨ne_nil_of_free free, named, directoryIn_iff.2 above, ?_⟩
  rw [directoryIn_iff, free]
  simp

theorem entries_put (canPut : tree.CanPut location) (entry : Entry) :
    (tree.put location entry).entries = tree.others location ++ [(location, entry)] := by
  rw [put, dif_pos canPut]

theorem entry?_put (canPut : tree.CanPut location) (entry : Entry) (other : Location) :
    FileTree.entry? (tree.put location entry) other =
      if other = location then some entry else tree.entry? other := by
  by_cases root : other = []
  · rw [root, if_neg (fun same => canPut.1 same.symm)]
    rfl
  · refine Option.ext fun found => ?_
    rw [entry?_eq_some_iff root, entries_put canPut, List.mem_append, mem_others]
    by_cases same : other = location
    · simp [same, eq_comm]
    · simp [same, entry?_eq_some_iff root]

theorem others_eq_of_free (nonempty : location ≠ []) (free : tree.entry? location = none) :
    tree.others location = tree.entries := by
  refine List.filter_eq_self.2 fun item member => bne_iff_ne.2 ?_
  rintro rfl
  exact absurd ((entry?_eq_some_iff nonempty item.2).2 member) (by rw [free]; simp)

/-- What lies below a directory, by the names that lead to it from there. -/
theorem mem_below_iff {directory : Location} {item : Location × Entry} :
    item ∈ tree.below directory ↔
      item.1 ≠ [] ∧ tree.entry? (directory ++ item.1) = some item.2 := by
  obtain ⟨rest, entry⟩ := item
  rw [below, List.mem_filterMap]
  constructor
  · rintro ⟨⟨whole, held⟩, member, isItem⟩
    obtain ⟨names, isRest, isItem⟩ := Option.bind_eq_some_iff.1 isItem
    obtain rfl := List.isPrefixOf?_eq_some_iff_append_eq.1 isRest
    split at isItem
    · cases isItem
    · next nonempty =>
      obtain ⟨rfl, rfl⟩ := Prod.mk.inj (Option.some.inj isItem)
      rw [List.isEmpty_iff] at nonempty
      exact ⟨nonempty, (entry?_eq_some_iff (List.append_ne_nil_of_right_ne_nil _ nonempty) _).2
        member⟩
  · rintro ⟨nonempty, found⟩
    refine ⟨(directory ++ rest, entry), (entry?_eq_some_iff
      (List.append_ne_nil_of_right_ne_nil _ nonempty) _).1 found, ?_⟩
    refine Option.bind_eq_some_iff.2 ⟨rest, List.isPrefixOf?_eq_some_iff_append_eq.2 rfl, ?_⟩
    rw [if_neg (mt List.isEmpty_iff.1 nonempty)]

theorem below_put (canPut : tree.CanPut location) (free : tree.entry? location = none)
    (entry : Entry) (directory : Location) :
    (tree.put location entry).below directory =
      tree.below directory ++ ((directory.isPrefixOf? location).bind fun rest =>
        if rest.isEmpty then none else some (rest, entry)).toList := by
  rw [below, entries_put canPut, others_eq_of_free canPut.1 free, List.filterMap_append, ← below]
  rfl

/-- Adding an entry elsewhere does not change what lies below a directory. -/
theorem below_put_outside (canPut : tree.CanPut location) (free : tree.entry? location = none)
    (entry : Entry) {directory : Location}
    (outside : ∀ rest, directory ++ rest = location → rest = []) :
    (tree.put location entry).below directory = tree.below directory := by
  rw [below_put canPut free]
  cases isRest : directory.isPrefixOf? location with
  | none => simp
  | some rest => simp [outside rest (List.isPrefixOf?_eq_some_iff_append_eq.1 isRest)]

/-- An entry that is added to a directory comes after the others below it. -/
theorem below_put_child {directory : Location} {name : String}
    (canPut : tree.CanPut (directory ++ [name]))
    (free : tree.entry? (directory ++ [name]) = none) (entry : Entry) :
    (tree.put (directory ++ [name]) entry).below directory =
      tree.below directory ++ [([name], entry)] := by
  rw [below_put canPut free, List.isPrefixOf?_eq_some_iff_append_eq.2 rfl]
  rfl

end Put

/-! ### Growth -/

/-- Holds of a tree and one that has one entry more, of those that are allowed. -/
inductive Adds (allowed : Location → Entry → Prop) (tree : FileTree) : FileTree → Prop
  | put {location : Location} {entry : Entry} (free : tree.entry? location = none)
      (canPut : tree.CanPut location) (isAllowed : allowed location entry) :
      Adds allowed tree (tree.put location entry)

/-- Holds of a tree and one that has more entries, of those that are allowed. -/
def Grows (allowed : Location → Entry → Prop) : FileTree → FileTree → Prop :=
  Relation.ReflTransGen (Adds allowed)

namespace Grows

variable {allowed : Location → Entry → Prop} {tree grown : FileTree}

theorem mono {more : Location → Entry → Prop}
    (weaker : ∀ location entry, allowed location entry → more location entry)
    (grows : Grows allowed tree grown) : Grows more tree grown := by
  refine Relation.ReflTransGen.mono ?_ tree grown grows
  rintro before _ ⟨free, canPut, isAllowed⟩
  exact .put free canPut (weaker _ _ isAllowed)

/-- What a tree holds stays. -/
theorem kept (grows : Grows allowed tree grown) {location : Location} {entry : Entry}
    (found : tree.entry? location = some entry) : grown.entry? location = some entry := by
  induction grows with
  | refl => exact found
  | tail _ adds inductionHypothesis =>
    obtain ⟨free, canPut, _⟩ := adds
    rw [entry?_put canPut, if_neg, inductionHypothesis]
    rintro rfl
    cases free.symm.trans inductionHypothesis

/-- What is new was allowed. -/
theorem fresh (grows : Grows allowed tree grown) {location : Location} {entry : Entry}
    (found : grown.entry? location = some entry) :
    tree.entry? location = some entry ∨ allowed location entry := by
  induction grows with
  | refl => exact .inl found
  | tail _ adds inductionHypothesis =>
    obtain ⟨free, canPut, isAllowed⟩ := adds
    rw [entry?_put canPut] at found
    split at found
    · next isNew => exact .inr (isNew ▸ Option.some.inj found ▸ isAllowed)
    · exact inductionHypothesis found

/-- What lies below a directory stays the same if nothing is allowed there. -/
theorem below_eq (grows : Grows allowed tree grown) {directory : Location}
    (outside : ∀ rest entry, allowed (directory ++ rest) entry → rest = []) :
    grown.below directory = tree.below directory := by
  induction grows with
  | refl => rfl
  | tail _ adds inductionHypothesis =>
    obtain ⟨free, canPut, isAllowed⟩ := adds
    rw [below_put_outside canPut free _ fun rest isRest => outside rest _ (isRest ▸ isAllowed),
      inductionHypothesis]

end Grows

/-! ### Walks in a grown tree -/

/-- The location at which a walk finds no entry, if it breaks off there. -/
def breakOff? (tree : FileTree) (budget : Nat) (here : Location) : List String → Option Location
  | [] => none
  | name :: rest =>
    if !tree.isDirectory here then none
    else if name = "" || name = "." then tree.breakOff? budget here rest
    else if name = ".." then tree.breakOff? budget here.dropLast rest
    else if nameLimit < name.utf8ByteSize then none
    else
      match tree.entry? (here ++ [name]) with
      | none => some (here ++ [name])
      | some (.link target) =>
        match budget with
        | 0 => none
        | left + 1 =>
          tree.breakOff? left (if beginsWith target "/" then [] else here)
            (Path.components target ++ rest)
      | some _ => tree.breakOff? budget (here ++ [name]) rest
termination_by names => (budget, names.length)

/-- A walk breaks off where nothing is. -/
theorem entry?_of_breakOff? {tree : FileTree} {budget : Nat} {here missed : Location}
    {names : List String} (broken : tree.breakOff? budget here names = some missed) :
    tree.entry? missed = none := by
  fun_induction tree.breakOff? budget here names with
  | case1 => cases broken
  | case2 => cases broken
  | case3 _ _ _ _ _ _ inductionHypothesis => exact inductionHypothesis broken
  | case4 _ _ _ _ _ inductionHypothesis => exact inductionHypothesis broken
  | case5 => cases broken
  | case6 _ _ _ _ _ _ _ _ absent => rwa [← Option.some.inj broken]
  | case7 => cases broken
  | case8 _ _ _ _ _ _ _ _ _ _ inductionHypothesis => exact inductionHypothesis broken
  | case9 _ _ _ _ _ _ _ _ _ _ _ inductionHypothesis => exact inductionHypothesis broken

/-- A walk along a single name that is no link breaks off there, if it does. -/
theorem breakOff?_singleton {tree : FileTree} {budget : Nat} {here missed : Location}
    {name : String} (isName : IsFileName name)
    (noLink : ∀ target, tree.entry? (here ++ [name]) ≠ some (.link target))
    (broken : tree.breakOff? budget here [name] = some missed) : missed = here ++ [name] := by
  rw [breakOff?, if_neg isName.not_skipped, if_neg isName.not_up] at broken
  split at broken
  · cases broken
  split at broken
  · cases broken
  split at broken
  · exact (Option.some.inj broken).symm
  · next target found => exact absurd found (noLink target)
  · rw [breakOff?] at broken
    cases broken

/-- The location at which the way along a link breaks off, if it does. -/
def linkBreakOff? (tree : FileTree) (link : Location) : Option Location :=
  tree.breakOff? linkLimit link.dropLast [link.getLastD ""]

/-- Holds when no link breaks off at a location, on the way to it or below it. -/
def LinksAvoid (tree : FileTree) (location : Location) : Prop :=
  ∀ link target missed, tree.entry? link = some (.link target) →
    tree.linkBreakOff? link = some missed → ¬ missed <+: location ∧ ¬ location <+: missed

section Kept

variable {tree grown : FileTree}
  (kept : ∀ location entry, tree.entry? location = some entry →
    grown.entry? location = some entry)

include kept

theorem entry?_eq_of_present {location : Location} (present : tree.entry? location ≠ none) :
    grown.entry? location = tree.entry? location := by
  obtain ⟨entry, found⟩ := Option.ne_none_iff_exists'.1 present
  rw [found, kept location entry found]

theorem isDirectory_eq_of_present {location : Location} (present : tree.entry? location ≠ none) :
    grown.isDirectory location = tree.isDirectory location := by
  rw [isDirectory, isDirectory, entry?_eq_of_present kept present]

/-- A walk goes the same way in a tree that keeps the entries, unless it broke off where there is an
entry now. -/
theorem walk_eq_of_breakOff? {budget : Nat} {here : Location} {names : List String}
    (present : tree.entry? here ≠ none)
    (still : ∀ missed, tree.breakOff? budget here names = some missed →
      grown.entry? missed = none) :
    grown.walk false budget here names = tree.walk false budget here names := by
  -- The cases are those of the walk; from the fifth on the walk stands at a name in a directory.
  fun_induction tree.breakOff? budget here names with
  | case1 => rw [walk, walk]
  | case2 budget here name rest noDirectory =>
    rw [walk.eq_2 grown, walk.eq_2 tree, isDirectory_eq_of_present kept present, if_pos noDirectory,
      if_pos noDirectory]
  | case3 budget here name rest isDirectory skipped inductionHypothesis =>
    rw [walk.eq_2 grown, walk.eq_2 tree, isDirectory_eq_of_present kept present, if_pos skipped,
      if_pos skipped, inductionHypothesis present still]
  | case4 budget here rest isDirectory notSkipped inductionHypothesis =>
    rw [not_not_isDirectory_iff] at isDirectory
    rw [walk.eq_2 grown, walk.eq_2 tree, isDirectory_eq_of_present kept present, if_neg notSkipped,
      if_neg notSkipped, if_pos rfl, if_pos rfl,
      inductionHypothesis (by rw [directory_above isDirectory]; simp) still]
  | case5 budget here name rest isDirectory notSkipped notUp long =>
    rw [not_not_isDirectory_iff] at isDirectory
    rw [walk_cons grown budget rest (kept _ _ isDirectory) notSkipped notUp (by simp),
      walk_cons tree budget rest isDirectory notSkipped notUp (by simp), if_pos long, if_pos long]
  | case6 budget here name rest isDirectory notSkipped notUp short found =>
    rw [not_not_isDirectory_iff] at isDirectory
    rw [walk_cons grown budget rest (kept _ _ isDirectory) notSkipped notUp (by simp),
      walk_cons tree budget rest isDirectory notSkipped notUp (by simp), if_neg short, if_neg short,
      still _ rfl, found]
  | case7 here name rest isDirectory notSkipped notUp short target found =>
    rw [not_not_isDirectory_iff] at isDirectory
    rw [walk_cons grown 0 rest (kept _ _ isDirectory) notSkipped notUp (by simp),
      walk_cons tree 0 rest isDirectory notSkipped notUp (by simp), if_neg short, if_neg short,
      kept _ _ found, found]
  | case8 here name rest isDirectory notSkipped notUp short target found left inductionHypothesis =>
    rw [not_not_isDirectory_iff] at isDirectory
    rw [walk_cons grown _ rest (kept _ _ isDirectory) notSkipped notUp (by simp),
      walk_cons tree _ rest isDirectory notSkipped notUp (by simp), if_neg short, if_neg short,
      kept _ _ found, found]
    refine inductionHypothesis ?_ still
    split
    · exact Option.some_ne_none _
    · exact present
  | case9 budget here name rest isDirectory notSkipped notUp short entry noLink found
      inductionHypothesis =>
    rw [not_not_isDirectory_iff] at isDirectory
    rw [walk_cons grown _ rest (kept _ _ isDirectory) notSkipped notUp (by simp),
      walk_cons tree _ rest isDirectory notSkipped notUp (by simp), if_neg short, if_neg short,
      kept _ _ found, found]
    have further := inductionHypothesis (by rw [found]; simp) still
    cases entry with
    | link target => exact absurd rfl (noLink target)
    | file content => exact further
    | directory => exact further

/-- A walk that arrives does so in a tree that keeps the entries. -/
theorem leads_of_kept {budget : Nat} {here last : Location} {names : List String}
    (leads : Leads tree budget here names last) : Leads grown budget here names last := by
  induction leads with
  | arrives budget here => exact .arrives budget here
  | stays isDirectory skipped _ inductionHypothesis =>
    exact .stays (kept _ _ isDirectory) skipped inductionHypothesis
  | rises isDirectory _ inductionHypothesis =>
    exact .rises (kept _ _ isDirectory) inductionHypothesis
  | enters short found noLink _ inductionHypothesis =>
    exact .enters short (kept _ _ found) noLink inductionHypothesis
  | follows short found _ inductionHypothesis =>
    exact .follows short (kept _ _ found) inductionHypothesis

end Kept

theorem IsResolved.of_grows {allowed : Location → Entry → Prop} {tree grown : FileTree}
    (grows : Grows allowed tree grown)
    (noLinks : ∀ location target, ¬ allowed location (.link target)) {path : Path}
    (isResolved : tree.IsResolved path) : grown.IsResolved path where
  absolute := isResolved.absolute
  named := isResolved.named
  unlinked := fun above target onTheWay found => (grows.fresh found).elim
    (isResolved.unlinked above target onTheWay) (noLinks above target)

end FileTree

end SwiftSlice

/-
Reading after writing. Where a tree has grown at and around an output directory
only, and no link broke off there, every access that a slice is cut from has the
outcome that it had before: a path that led to an entry leads to it still, an
entry that was missing is missing still unless it is one of those that were
written, and a link that broke off breaks off at the same place.
-/

import SwiftSlice.Proofs.Writing

namespace SwiftSlice

open Text

namespace Disk

/-- Holds of a disk and one on which files have been written into a directory that no link of the
disk broke off at. -/
structure Undisturbed (directory : Location) (files : List (String × Bytes)) (disk grown : Disk) :
    Prop where
  grows : GrowsTo (Placed directory files) disk grown
  avoided : disk.tree.LinksAvoid directory

/-- Nothing is placed below a directory that the output is not at or below. -/
theorem not_placed_below {directory base : Location} {files : List (String × Bytes)}
    (apart : ¬ base <+: directory) {names : List String} {entry : Entry}
    (placed : Placed directory files (base ++ names) entry) : names = [] := by
  rcases placed with ⟨onTheWay, _⟩ | ⟨file, _, isFile, _⟩
  · exact absurd ((List.prefix_append base names).trans onTheWay) apart
  · rcases List.prefix_concat_iff.1 (isFile ▸ List.prefix_append base names) with rfl | above
    · exact List.append_right_eq_self.1 isFile
    · exact absurd above apart

namespace Undisturbed

variable {directory : Location} {files : List (String × Bytes)} {disk grown : Disk}
  (undisturbed : Undisturbed directory files disk grown)

include undisturbed

theorem kept (location : Location) (entry : Entry)
    (found : disk.tree.entry? location = some entry) : grown.tree.entry? location = some entry :=
  undisturbed.grows.tree.kept found

/-- What is new is a directory on the way to the output, or a file in it. -/
theorem fresh {location : Location} {entry : Entry}
    (absent : disk.tree.entry? location = none) (found : grown.tree.entry? location = some entry) :
    Placed directory files location entry :=
  (undisturbed.grows.tree.fresh found).resolve_left (by rw [absent]; simp)

theorem sameLinks (location : Location) (target : String) :
    disk.tree.entry? location = some (.link target) ↔
      grown.tree.entry? location = some (.link target) := by
  refine ⟨undisturbed.kept location _, fun found => ?_⟩
  rcases undisturbed.grows.tree.fresh found with old | ⟨_, isDirectory⟩ | ⟨_, _, _, isFile⟩
  · exact old
  · cases isDirectory
  · cases isFile

theorem isResolved {path : Path} (isResolved : disk.tree.IsResolved path) :
    grown.tree.IsResolved path where
  absolute := isResolved.absolute
  named := isResolved.named
  unlinked := fun above target onTheWay =>
    mt (undisturbed.sameLinks above target).2 (isResolved.unlinked above target onTheWay)

/-! ### Entries -/

/-- At and below a directory that the output is not at or below, everything is as it was. -/
theorem entry?_append_eq {base : Location} (apart : ¬ base <+: directory)
    (present : disk.tree.entry? base ≠ none) (names : List String) :
    grown.tree.entry? (base ++ names) = disk.tree.entry? (base ++ names) := by
  cases found : disk.tree.entry? (base ++ names) with
  | some entry => exact undisturbed.kept _ entry found
  | none =>
    by_contra isPresent
    obtain ⟨entry, isNew⟩ := Option.ne_none_iff_exists'.1 isPresent
    have none' := not_placed_below apart (undisturbed.fresh found isNew)
    rw [none', List.append_nil] at found
    exact present found

theorem below_eq {base : Location} (apart : ¬ base <+: directory) :
    grown.tree.below base = disk.tree.below base :=
  undisturbed.grows.tree.below_eq fun _ _ => not_placed_below apart

/-- A link that broke off breaks off at the same place. -/
theorem entry?_of_linkBreakOff? {link missed : Location} {target : String}
    (isLink : disk.tree.entry? link = some (.link target))
    (broken : disk.tree.linkBreakOff? link = some missed) : grown.tree.entry? missed = none := by
  obtain ⟨notAbove, notBelow⟩ := undisturbed.avoided link target missed isLink broken
  by_contra present
  obtain ⟨entry, isNew⟩ := Option.ne_none_iff_exists'.1 present
  rcases undisturbed.fresh (FileTree.entry?_of_breakOff? broken) isNew with
    ⟨above, _⟩ | ⟨file, _, rfl, _⟩
  · exact notAbove above
  · exact notBelow (List.prefix_append _ _)

/-! ### Walks -/

/-- The walk to a name in a directory ends as it did, if the name holds what it held. -/
theorem walk_child_eq {above : Location} {name : String}
    (isDirectory : disk.tree.entry? above = some .directory) (isName : IsFileName name)
    (same : grown.tree.entry? (above ++ [name]) = disk.tree.entry? (above ++ [name])) :
    grown.tree.walk false linkLimit [] (above ++ [name]) =
      disk.tree.walk false linkLimit [] (above ++ [name]) := by
  have toAbove : disk.tree.walk false linkLimit [] (above ++ [name]) = _ :=
    FileTree.walk_append_present isDirectory (by simp) (by simp)
  have toAboveLater : grown.tree.walk false linkLimit [] (above ++ [name]) = _ :=
    FileTree.walk_append_present (undisturbed.kept _ _ isDirectory) (by simp) (by simp)
  rw [toAbove, toAboveLater, List.nil_append]
  refine if_congr Iff.rfl ?_ rfl
  refine FileTree.walk_eq_of_breakOff? undisturbed.kept (by rw [isDirectory]; simp) ?_
  intro missed broken
  by_cases isLink : ∃ target, disk.tree.entry? (above ++ [name]) = some (.link target)
  · obtain ⟨target, found⟩ := isLink
    refine undisturbed.entry?_of_linkBreakOff? found ?_
    rwa [FileTree.linkBreakOff?, List.dropLast_concat, List.getLastD_concat]
  · have isMissed := FileTree.breakOff?_singleton isName (not_exists.1 isLink) broken
    have absent := FileTree.entry?_of_breakOff? broken
    rw [isMissed] at absent ⊢
    rw [same, absent]

/-- Where something is, the walk to it ends as it did. -/
theorem walk_present_eq {location : Location} (present : disk.tree.entry? location ≠ none) :
    grown.tree.walk false linkLimit [] location = disk.tree.walk false linkLimit [] location := by
  obtain ⟨entry, found⟩ := Option.ne_none_iff_exists'.1 present
  rcases List.eq_nil_or_concat location with rfl | ⟨above, name, rfl⟩
  · rw [FileTree.walk, FileTree.walk]
  · rw [List.concat_eq_append] at found present ⊢
    refine undisturbed.walk_child_eq
      (FileTree.directory_of_append (List.cons_ne_nil _ _) found)
      (FileTree.isFileName_of_entry? found (List.mem_append_right above List.mem_cons_self)) ?_
    exact FileTree.entry?_eq_of_present undisturbed.kept present

/-! ### Access by path -/

omit undisturbed in
theorem spot_eq_of_walk_eq {location : Location}
    (sameWalk : grown.tree.walk false linkLimit [] location =
      disk.tree.walk false linkLimit [] location) :
    grown.spot (pathOf location) = disk.spot (pathOf location) := by
  rw [spot, spot, walkTo, walkTo, origin_of_isAbsolute rfl, origin_of_isAbsolute rfl]
  exact bind_congr fun _ => congrArg (blame (pathOf location)) sameWalk

omit undisturbed in
/-- A path that cannot be used is refused on every disk. -/
theorem entry_eq_of_refused {path : Path} {failure : Failure}
    (refused : checkPath path = .error failure) : grown.entry path = disk.entry path := by
  rw [entry, entry, spot, spot, walkTo, walkTo, refused]
  rfl

/-- An access to a location has the outcome that it had, if the walk ends as it did. -/
theorem entry_eq_of_walk_eq {location : Location}
    (sameWalk : grown.tree.walk false linkLimit [] location =
      disk.tree.walk false linkLimit [] location) :
    grown.entry (pathOf location) = disk.entry (pathOf location) := by
  rw [entry, entry, spot_eq_of_walk_eq sameWalk]
  cases walked : disk.spot (pathOf location) with
  | error failure => rfl
  | ok spot =>
    cases spot with
    | free _ => rfl
    | taken last =>
      have leads := Leads.of_walk (walkTo_eq_ok_iff.1 walked).2
      have present : disk.tree.entry? last ≠ none := leads.present (by
        rw [origin_of_isAbsolute rfl]
        exact Option.some_ne_none _)
      dsimp only [bind, Except.bind]
      rw [FileTree.entry?_eq_of_present undisturbed.kept present]

theorem entry_present_eq {location : Location} (present : disk.tree.entry? location ≠ none) :
    grown.entry (pathOf location) = disk.entry (pathOf location) :=
  undisturbed.entry_eq_of_walk_eq (undisturbed.walk_present_eq present)

/-- A walk that arrived arrives still. -/
theorem leads {path : Path} {last : Location}
    (leads : Leads disk.tree linkLimit (disk.origin path) path.names last) :
    Leads grown.tree linkLimit (grown.origin path) path.names last := by
  rw [origin, undisturbed.grows.directory, ← origin]
  exact FileTree.leads_of_kept undisturbed.kept leads

/-- A path that led to an entry leads to it still. -/
theorem entry_eq_ok {path : Path} {found : Entry} (isFound : disk.entry path = .ok found) :
    grown.entry path = .ok found := by
  obtain ⟨checked, last, leads, held⟩ := entry_eq_ok_iff.1 isFound
  exact entry_eq_ok_iff.2 ⟨checked, last, undisturbed.leads leads, undisturbed.kept _ _ held⟩

section SameEntry

variable {path : Path} (same : grown.entry path = disk.entry path)

include same

omit undisturbed

theorem probe_eq_of_entry_eq : grown.probe path = disk.probe path := by
  rw [probe, probe, same]

theorem isFile_eq_of_entry_eq : grown.isFile path = disk.isFile path := by
  rw [isFile, isFile, probe_eq_of_entry_eq same]

theorem isDirectory_eq_of_entry_eq : grown.isDirectory path = disk.isDirectory path := by
  rw [Disk.isDirectory, Disk.isDirectory, probe_eq_of_entry_eq same]

theorem read_eq_of_entry_eq : grown.read path = disk.read path := by
  rw [read, read, same]

end SameEntry

/-! ### Resolving -/

/-- A path that stood for one that leads to an entry stands for it still. -/
theorem resolve_eq_ok {path resolved : Path} {found : Entry}
    (isResolved : disk.resolve path = .ok resolved) (isFound : disk.entry resolved = .ok found) :
    grown.resolve path = .ok resolved := by
  rw [resolve, undisturbed.grows.directory, ← follow_congr undisturbed.sameLinks]
  obtain ⟨followed, isFollowed, settled⟩ := bind_eq_ok_iff.1 isResolved
  refine bind_eq_ok_iff.2 ⟨followed, isFollowed, ?_⟩
  cases followed with
  | real location => exact settled
  | looping location =>
    obtain ⟨_, checked, settled⟩ := bind_eq_ok_iff.1 settled
    refine bind_eq_ok_iff.2 ⟨(), checked, ?_⟩
    split at settled
    · cases settled
    · obtain rfl := Except.ok.inj settled
      obtain ⟨_, last, leads, _⟩ := entry_eq_ok_iff.1 isFound
      have walked := (undisturbed.leads leads).walk_eq
      rw [origin_of_isAbsolute rfl] at walked
      rw [walked]

/-- A path that leads to an entry stands for the same location as before. -/
theorem resolve_of_entry {path : Path} {found : Entry} (isFound : disk.entry path = .ok found) :
    ∃ last, disk.resolve path = .ok (pathOf last) ∧ grown.resolve path = .ok (pathOf last) ∧
      disk.tree.entry? last = some found := by
  obtain ⟨_, last, leads, held⟩ := entry_eq_ok_iff.1 isFound
  exact ⟨last, resolve_of_leads leads, resolve_of_leads (undisturbed.leads leads), held⟩

theorem normalize_eq_ok {path resolved : Path} {found : Entry}
    (normalized : disk.normalize path = .ok resolved) (isFound : disk.entry resolved = .ok found) :
    grown.normalize path = .ok resolved := by
  have sameHome : grown.expandHome path = disk.expandHome path := by
    rw [expandHome, expandHome, undisturbed.grows.home]
  obtain ⟨expanded, isExpanded, isResolved⟩ := bind_eq_ok_iff.1 normalized
  rw [normalize, sameHome, isExpanded]
  exact undisturbed.resolve_eq_ok isResolved isFound

/-- A path within a directory stays there. -/
theorem staysWithin_eq {path base : Path} {found top : Entry}
    (isFound : disk.entry path = .ok found) (isTop : disk.entry base = .ok top) :
    grown.staysWithin path base = disk.staysWithin path base := by
  obtain ⟨_, resolved, resolvedLater, _⟩ := undisturbed.resolve_of_entry isFound
  obtain ⟨_, resolvedTop, resolvedTopLater, _⟩ := undisturbed.resolve_of_entry isTop
  rw [staysWithin, staysWithin, resolved, resolvedLater, resolvedTop, resolvedTopLater]

end Undisturbed

end Disk

end SwiftSlice

/-
What a scan finds. The directory may be given by any absolute path, through links
and double dots; it leads to one location, and what lies below that location is
looked at under the path as given. A path that the scan takes leads to a file and
is no link itself, so it stands for the very entry that was looked at. The scan
therefore finds no file twice, under whatever spelling the directory is given.
-/

import Mathlib.Data.List.Nodup
import SwiftSlice.Proofs.Spelling

namespace SwiftSlice

open Text

/-! ### Lists of steps that may fail -/

theorem mapM_of_all {ε α β : Type} {step : α → Except ε β} {value : α → β} {items : List α}
    (succeeds : ∀ item ∈ items, step item = .ok (value item)) :
    items.mapM step = .ok (items.map value) := by
  rw [mapM_congr succeeds]
  exact List.mapM_pure

section FilterM

variable {ε α : Type} {test : α → Except ε Bool}

theorem tested_of_filterAuxM {items done found : List α}
    (filtered : items.filterAuxM test done = .ok found) :
    ∀ item ∈ items, ∃ kept, test item = .ok kept := by
  induction items generalizing done with
  | nil => exact fun item member => absurd member List.not_mem_nil
  | cons first rest inductionHypothesis =>
    obtain ⟨kept, tested, filtered⟩ := bind_eq_ok_iff.1 filtered
    exact List.forall_mem_cons.2 ⟨⟨kept, tested⟩, inductionHypothesis filtered⟩

/-- A filter succeeds if all its tests have a value, and only then. -/
theorem exists_keep_of_filterM {items found : List α} (filtered : items.filterM test = .ok found) :
    ∃ keep : α → Bool, (∀ item ∈ items, test item = .ok (keep item)) ∧
      found = items.filter keep := by
  have tested : ∀ item ∈ items, test item = .ok ((test item).toOption.getD false) := by
    obtain ⟨_, isBackwards, _⟩ := bind_eq_ok_iff.1 filtered
    intro item member
    obtain ⟨kept, isKept⟩ := tested_of_filterAuxM isBackwards item member
    rw [isKept]
    rfl
  exact ⟨_, tested, Except.ok.inj (filtered.symm.trans (filterM_of_tested tested))⟩

end FilterM

/-! ### Below a directory -/

namespace FileTree

variable {tree : FileTree}

/-- What lies below a directory lies at different locations. -/
theorem nodup_below (tree : FileTree) (directory : Location) : (tree.below directory).Nodup := by
  refine (List.Nodup.of_map _ tree.distinct).filterMap fun item other found isFound isOther => ?_
  have place : ∀ item : Location × Entry, found ∈ ((directory.isPrefixOf? item.1).bind fun rest =>
      if rest.isEmpty then none else some (rest, item.2)) →
      item = (directory ++ found.1, found.2) := by
    rintro ⟨location, entry⟩ isFound
    obtain ⟨rest, isRest, isFound⟩ := Option.bind_eq_some_iff.1 isFound
    split at isFound
    · cases isFound
    · obtain rfl := Option.some.inj isFound
      exact Prod.ext (List.isPrefixOf?_eq_some_iff_append_eq.1 isRest).symm rfl
  rw [place item isFound, place other isOther]

end FileTree

/-- A walk to an entry that is no link, past no link, ends there. -/
theorem Leads.eq_of_present {tree : FileTree} {budget : Nat} {here last : Location}
    {names : List String} {entry : Entry} (leads : Leads tree budget here names last)
    (found : tree.entry? (here ++ names) = some entry) (noLink : ∀ target, entry ≠ .link target) :
    last = here ++ names := by
  have arrives : tree.walk false budget here (names ++ []) = _ :=
    FileTree.walk_append_present found noLink (by simp)
  rw [List.append_nil, leads.walk_eq, FileTree.walk] at arrives
  split at arrives
  · exact Spot.taken.inj (Except.ok.inj arrives)
  · cases arrives

namespace Disk

variable {disk : Disk} {base : Path}

/-! ### Paths below a directory -/

theorem append_relative (base : Path) (names : List String) :
    base ++ (⟨.relative, names⟩ : Path) = { base with names := base.names ++ names } := rfl

theorem parent_append_relative (base : Path) (above : List String) (name : String) :
    (base ++ (⟨.relative, above ++ [name]⟩ : Path)).parent = base ++ ⟨.relative, above⟩ := by
  rw [append_relative, append_relative, Path.parent, ← List.append_assoc, List.dropLast_concat]

theorem name_append_relative (base : Path) (above : List String) (name : String) :
    (base ++ (⟨.relative, above ++ [name]⟩ : Path)).name = name := by
  rw [append_relative, Path.name, ← List.append_assoc, List.getLast?_concat]
  rfl

theorem relativeTo?_append_relative (base : Path) (names : List String) :
    (base ++ (⟨.relative, names⟩ : Path)).relativeTo? base = some ⟨.relative, names⟩ := by
  rw [append_relative, Path.relativeTo?, if_pos (by simp), List.drop_left]

/-- In an absolute path no tilde stands for the home directory. -/
theorem normalize_of_isAbsolute {path : Path} (isAbsolute : path.isAbsolute = true) :
    disk.normalize path = disk.resolve path := by
  obtain ⟨anchor, names⟩ := path
  cases anchor with
  | relative => cases isAbsolute
  | absolute => rfl
  | doubled => rfl

/-- What lies below a path lies below the location that it leads to. -/
theorem below_of_leads {top : Location} (checked : checkPath base = .ok ())
    (leads : Leads disk.tree linkLimit (disk.origin base) base.names top) :
    disk.below base = disk.tree.below top := by
  rw [Disk.below, spot, walkTo_eq_ok_iff.2 ⟨checked, leads.walk_eq⟩]

section Below

variable {top : Location} {names : List String} {entry : Entry} {content : Bytes}
  (isAbsolute : base.isAbsolute = true)
  (toTop : Leads disk.tree linkLimit (disk.origin base) base.names top)
  (found : disk.tree.entry? (top ++ names) = some entry)
  (isFile : disk.entry (base ++ ⟨.relative, names⟩) = .ok (.file content))

include toTop found isFile

/-- A path that leads past no link of its own leads to the entry below the directory. -/
theorem leads_below (noLink : ∀ target, entry ≠ .link target) :
    entry = .file content ∧ Leads disk.tree linkLimit (disk.origin base) (base.names ++ names)
      (top ++ names) := by
  obtain ⟨_, last, leads, held⟩ := entry_eq_ok_iff.1 isFile
  have whole : Leads disk.tree linkLimit (disk.origin base) (base.names ++ names) last := leads
  obtain ⟨middle, left, _, toMiddle, toLast⟩ := whole.split
  obtain rfl := toTop.unique toMiddle
  obtain rfl := toLast.eq_of_present found noLink
  exact ⟨Option.some.inj (found.symm.trans held), whole⟩

include isAbsolute

/-- A path whose last name is a link is known to be one. -/
theorem isLink_below (nonempty : names ≠ []) {target : String} (isTarget : entry = .link target) :
    disk.isLink (base ++ ⟨.relative, names⟩) = true := by
  obtain ⟨checked, last, leads, _⟩ := entry_eq_ok_iff.1 isFile
  obtain ⟨above, name, rfl⟩ := (List.eq_nil_or_concat names).resolve_left nonempty
  rw [List.concat_eq_append] at found leads checked ⊢
  rw [← List.append_assoc] at found
  have isDirectory := FileTree.directory_of_append (List.cons_ne_nil _ _) found
  have toAbove : Leads disk.tree linkLimit (disk.origin base) (base.names ++ above)
      (top ++ above) := by
    have whole : Leads disk.tree linkLimit (disk.origin base)
        ((base.names ++ above) ++ [name]) last := by
      rw [List.append_assoc]
      exact leads
    obtain ⟨middle, _, _, toMiddle, _⟩ := whole.split
    obtain ⟨first, left, _, toFirst, further⟩ := toMiddle.split
    obtain rfl := toTop.unique toFirst
    obtain rfl := further.eq_of_present isDirectory (by simp)
    exact toMiddle
  have walked : disk.spot (base ++ (⟨.relative, above ++ [name]⟩ : Path)).parent =
      .ok (.taken (top ++ above)) := by
    refine walkTo_eq_ok_iff.2 ⟨checkPath_parent isAbsolute checked, ?_⟩
    rw [parent_append_relative]
    exact toAbove.walk_eq
  rw [isLink, walked, name_append_relative]
  dsimp only
  rw [found, isTarget]

/-- A file that is no link stands for the entry below the directory. -/
theorem normalize_below (nonempty : names ≠ [])
    (noLink : disk.isLink (base ++ ⟨.relative, names⟩) = false) :
    disk.tree.entry? (top ++ names) = some (.file content) ∧
      disk.normalize (base ++ ⟨.relative, names⟩) = .ok (pathOf (top ++ names)) := by
  have plain : ∀ target, entry ≠ .link target := by
    intro target isTarget
    have isLink := isLink_below isAbsolute toTop found isFile nonempty isTarget
    exact Bool.false_ne_true (noLink.symm.trans isLink)
  obtain ⟨rfl, leads⟩ := leads_below toTop found isFile plain
  refine ⟨found, ?_⟩
  have pathIsAbsolute : (base ++ (⟨.relative, names⟩ : Path)).isAbsolute = true := isAbsolute
  rw [normalize_of_isAbsolute pathIsAbsolute]
  exact resolve_of_leads leads

end Below

/-! ### Scans -/

/-- A scan of a directory succeeds if its ignore files can be read and every test has a value; it
then finds the paths that pass. -/
theorem swiftFiles_eq_ok_iff {rules : ScanRules} {files : List Path} :
    disk.swiftFiles base rules = .ok files ↔
      disk.isDirectory base = .ok false ∧ files = [] ∨
      disk.isDirectory base = .ok true ∧ ∃ policy keep,
        disk.ignorePolicy base rules.nestedGitignore = .ok policy ∧
        (∀ path ∈ disk.swiftPaths base, disk.includes base rules policy path = .ok (keep path)) ∧
        files = sortBelow base ((disk.swiftPaths base).filter keep) := by
  rw [swiftFiles, bind_eq_ok_iff]
  constructor
  · rintro ⟨isDirectory, tested, scanned⟩
    cases isDirectory with
    | false => exact .inl ⟨tested, (Except.ok.inj scanned).symm⟩
    | true =>
      obtain ⟨policy, isPolicy, scanned⟩ := bind_eq_ok_iff.1 scanned
      obtain ⟨kept, filtered, isSorted⟩ := bind_eq_ok_iff.1 scanned
      obtain ⟨keep, passes, rfl⟩ := exists_keep_of_filterM filtered
      exact .inr ⟨tested, policy, keep, isPolicy, passes, (Except.ok.inj isSorted).symm⟩
  · rintro (⟨tested, rfl⟩ | ⟨tested, policy, keep, isPolicy, passes, rfl⟩)
    · exact ⟨false, tested, rfl⟩
    · refine ⟨true, tested, bind_eq_ok_iff.2 ⟨policy, isPolicy, ?_⟩⟩
      exact bind_eq_ok_iff.2 ⟨_, filterM_of_tested passes, rfl⟩

/-- What a scan takes is a file and no link. -/
theorem of_includes {rules : ScanRules} {policy : IgnorePolicy} {path : Path}
    (included : disk.includes base rules policy path = .ok true) :
    (∃ content, disk.entry path = .ok (.file content)) ∧ disk.isLink path = false := by
  obtain ⟨isFile, tested, included⟩ := bind_eq_ok_iff.1 included
  cases isFile with
  | false => cases Except.ok.inj included
  | true =>
    refine ⟨isFile_eq_true_iff.1 tested, ?_⟩
    cases isLink : disk.isLink path with
    | false => rfl
    | true =>
      rw [isLink] at included
      cases Except.ok.inj included

/-- What a scan looks at lies below the directory. -/
theorem mem_swiftPaths_iff {path : Path} : path ∈ disk.swiftPaths base ↔
    ∃ item ∈ disk.below base, endsWith (item.1.getLastD "") ".swift" = true ∧
      path = base ++ ⟨.relative, item.1⟩ := by
  rw [swiftPaths, List.mem_filterMap]
  constructor
  · rintro ⟨item, inBelow, isItem⟩
    split at isItem
    · next isSwift => exact ⟨item, inBelow, isSwift, (Option.some.inj isItem).symm⟩
    · cases isItem
  · rintro ⟨item, inBelow, isSwift, rfl⟩
    exact ⟨item, inBelow, if_pos isSwift⟩

/-- A scan looks at no path twice. -/
theorem nodup_swiftPaths {top : Location} (isBelow : disk.below base = disk.tree.below top) :
    (disk.swiftPaths base).Nodup := by
  rw [swiftPaths, isBelow]
  -- Paths that are the same come from the same names, where the tree has one entry.
  have injective : ∀ item ∈ disk.tree.below top, ∀ other ∈ disk.tree.below top,
      item.1 = other.1 → item = other := by
    intro item isItem other isOther same
    have held := (FileTree.mem_below_iff.1 isItem).2
    have otherHeld := (FileTree.mem_below_iff.1 isOther).2
    rw [same] at held
    exact Prod.ext same (Option.some.inj (held.symm.trans otherHeld))
  have distinct : ((disk.tree.below top).map Prod.fst).Nodup :=
    (List.nodup_map_iff_inj_on (FileTree.nodup_below disk.tree top)).2 injective
  rw [List.Nodup, List.pairwise_filterMap]
  refine (List.pairwise_map.1 distinct).imp fun differ path isPath other isOther same => differ ?_
  split at isPath
  · split at isOther
    · have names := congrArg Path.names ((Option.some.inj isPath).trans
        (same.trans (Option.some.inj isOther).symm))
      exact List.append_cancel_left names
    · cases isOther
  · cases isPath

/-- The location of a path below a base that leads to the location above. -/
def locationFrom (top : Location) (base path : Path) : Location :=
  top ++ path.names.drop base.names.length

theorem locationFrom_append_relative (top : Location) (base : Path) (names : List String) :
    locationFrom top base (base ++ ⟨.relative, names⟩) = top ++ names := by
  rw [locationFrom, append_relative, List.drop_left]

/-- A path that a scan takes stands for a file of the tree. -/
theorem normalize_of_includes {top : Location} {rules : ScanRules} {policy : IgnorePolicy}
    {path : Path} (isAbsolute : base.isAbsolute = true)
    (toTop : Leads disk.tree linkLimit (disk.origin base) base.names top)
    (isBelow : disk.below base = disk.tree.below top) (member : path ∈ disk.swiftPaths base)
    (included : disk.includes base rules policy path = .ok true) :
    (∃ content, disk.tree.entry? (locationFrom top base path) = some (.file content)) ∧
      disk.normalize path = .ok (pathOf (locationFrom top base path)) := by
  obtain ⟨item, inBelow, _, rfl⟩ := mem_swiftPaths_iff.1 member
  obtain ⟨⟨content, isFile⟩, noLink⟩ := of_includes included
  rw [isBelow] at inBelow
  obtain ⟨nonempty, held⟩ := FileTree.mem_below_iff.1 inBelow
  obtain ⟨isThere, normalized⟩ := normalize_below isAbsolute toTop held isFile nonempty noLink
  rw [locationFrom_append_relative]
  exact ⟨⟨content, isThere⟩, normalized⟩

/-- The files that a scan finds stand for different locations of the tree, each with a file, in the
order of the scan. -/
theorem exists_locations_of_swiftFiles {rules : ScanRules} {files : List Path}
    (isAbsolute : base.isAbsolute = true) (scanned : disk.swiftFiles base rules = .ok files) :
    ∃ locations : List Location, files.mapM disk.normalize = .ok (locations.map pathOf) ∧
      locations.Nodup ∧
      ∀ location ∈ locations, ∃ content, disk.tree.entry? location = some (.file content) := by
  rcases swiftFiles_eq_ok_iff.1 scanned with ⟨_, rfl⟩ | ⟨isDirectory, policy, keep, _, passes, rfl⟩
  · exact ⟨[], rfl, List.nodup_nil, by simp⟩
  obtain ⟨checked, top, toTop, _⟩ := entry_eq_ok_iff.1 (isDirectory_eq_true_iff.1 isDirectory)
  have isBelow := below_of_leads checked toTop
  have taken : ∀ path ∈ sortBelow base ((disk.swiftPaths base).filter keep),
      path ∈ disk.swiftPaths base ∧
      (∃ content, disk.tree.entry? (locationFrom top base path) = some (.file content)) ∧
      disk.normalize path = .ok (pathOf (locationFrom top base path)) := by
    intro path member
    obtain ⟨inPaths, kept⟩ := List.mem_filter.1 (List.mem_mergeSort.1 member)
    exact ⟨inPaths,
      normalize_of_includes isAbsolute toTop isBelow inPaths (kept ▸ passes _ inPaths)⟩
  refine ⟨(sortBelow base ((disk.swiftPaths base).filter keep)).map (locationFrom top base),
    ?_, ?_, ?_⟩
  · rw [List.map_map]
    exact mapM_of_all fun path member => (taken path member).2.2
  · have distinct : (sortBelow base ((disk.swiftPaths base).filter keep)).Nodup :=
      (List.mergeSort_perm _ _).nodup_iff.2 ((nodup_swiftPaths isBelow).filter keep)
    refine (List.nodup_map_iff_inj_on distinct).2 fun path member other otherMember same => ?_
    obtain ⟨item, _, _, rfl⟩ := mem_swiftPaths_iff.1 (taken path member).1
    obtain ⟨otherItem, _, _, rfl⟩ := mem_swiftPaths_iff.1 (taken other otherMember).1
    rw [locationFrom_append_relative, locationFrom_append_relative] at same
    rw [List.append_cancel_left same]
  · intro location member
    obtain ⟨path, isPath, rfl⟩ := List.mem_map.1 member
    exact (taken path isPath).2.1

/-! ### Scans without links -/

theorem below_of_isResolved (isBase : disk.tree.IsResolved base) (checked : checkPath base = .ok ())
    (present : disk.tree.entry? base.names ≠ none) :
    disk.below base = disk.tree.below base.names := by
  rw [Disk.below, spot_of_present isBase checked present]

/-- A file at the end of a resolved path is no link. -/
theorem isLink_of_isResolved {path : Path} {content : Bytes} (isPath : disk.tree.IsResolved path)
    (checked : checkPath path = .ok ())
    (held : disk.tree.entry? path.names = some (.file content)) : disk.isLink path = false := by
  have nonempty : path.names ≠ [] := by
    intro isRoot
    rw [isRoot] at held
    cases held
  have above := FileTree.directory_above held
  have walked := spot_of_present isPath.parent (checkPath_parent isPath.isAbsolute checked)
    (show disk.tree.entry? path.names.dropLast ≠ none by rw [above]; simp)
  rw [isLink, walked]
  dsimp only
  rw [Path.names_parent_append nonempty, held]

/-- A scan of a resolved directory takes a file below it unless the rules leave it out. -/
theorem includes_of_isResolved {names : List String} {content : Bytes} {rules : ScanRules}
    (isBase : disk.tree.IsResolved base)
    (isPath : disk.tree.IsResolved (base ++ ⟨.relative, names⟩))
    (checked : checkPath (base ++ ⟨.relative, names⟩) = .ok ())
    (held : disk.tree.entry? (base.names ++ names) = some (.file content)) :
    disk.includes base rules .none (base ++ ⟨.relative, names⟩) =
      .ok (!rules.skips ⟨.relative, names⟩ && rules.admits ⟨.relative, names⟩) := by
  have isFile : disk.isFile (base ++ ⟨.relative, names⟩) = .ok true :=
    isFile_eq_true_iff.2 ⟨content, entry_of_present isPath checked held⟩
  have stays : disk.staysWithin (base ++ ⟨.relative, names⟩) base = .ok true := by
    rw [staysWithin, resolve_of_isResolved isBase, resolve_of_isResolved isPath]
    show Except.ok ((base ++ (⟨.relative, names⟩ : Path)).relativeTo? base).isSome = .ok true
    rw [relativeTo?_append_relative]
    rfl
  rw [includes, isFile, isLink_of_isResolved isPath checked held, stays,
    relativeTo?_append_relative]
  cases skipped : rules.skips ⟨.relative, names⟩ <;>
    simp only [bind, Except.bind, skipped] <;> rfl

/-- Holds of a directory with no ignore file in it, where everything below can be reached without a
link and has the ending of Swift files only if it is a file. -/
structure IsPlain (tree : FileTree) (top : Location) : Prop where
  linksAside : ∀ item ∈ tree.entries, ∀ target, item.2 = .link target →
    ∀ names ∈ [] :: [".gitignore"] :: (tree.below top).map Prod.fst, ¬ item.1 <+: top ++ names
  isDirectory : tree.entry? top = some .directory
  noIgnoreFile : tree.entry? (top ++ [".gitignore"]) = none
  reachable : ∀ names ∈ [] :: [".gitignore"] :: (tree.below top).map Prod.fst,
    checkPath (pathOf (top ++ names)) = .ok () ∧
      ∀ name ∈ top ++ names, IsFileName name ∧ name.utf8ByteSize ≤ nameLimit
  swiftFile : ∀ item ∈ tree.below top, endsWith (item.1.getLastD "") ".swift" = true →
    ∃ content, item.2 = .file content

namespace IsPlain

variable {top : Location} (isPlain : IsPlain disk.tree top)

include isPlain

theorem isResolved {names : List String}
    (member : names ∈ [] :: [".gitignore"] :: (disk.tree.below top).map Prod.fst) :
    disk.tree.IsResolved (pathOf (top ++ names)) :=
  isResolved_of_linksAside
    (fun item isItem target isLink => isPlain.linksAside item isItem target isLink names member)
    (isPlain.reachable names member).2

theorem isResolved_top : checkPath (pathOf top) = .ok () ∧ disk.tree.IsResolved (pathOf top) := by
  have checked := (isPlain.reachable [] List.mem_cons_self).1
  have isResolved := isPlain.isResolved List.mem_cons_self
  rw [List.append_nil] at checked isResolved
  exact ⟨checked, isResolved⟩

theorem ignorePolicy_eq : disk.ignorePolicy (pathOf top) false = .ok .none := by
  have member : [".gitignore"] ∈ [] :: [".gitignore"] :: (disk.tree.below top).map Prod.fst := by
    simp
  have missing : disk.isFile ((pathOf top).child ".gitignore") = .ok false := by
    have probed := probe_of_isResolved (isPlain.isResolved member)
      (isPlain.reachable _ member).1
    rw [pathOf, isPlain.noIgnoreFile] at probed
    rw [isFile, Path.child, pathOf, probed]
    rfl
  rw [ignorePolicy, if_neg Bool.false_ne_true, missing]
  rfl

/-- A scan of such a directory finds the Swift files below it that the rules let in. -/
theorem swiftFiles_eq {rules : ScanRules} (flat : rules.nestedGitignore = false) :
    disk.swiftFiles (pathOf top) rules = .ok (sortBelow (pathOf top)
      ((disk.tree.below top).filterMap fun item =>
        if endsWith (item.1.getLastD "") ".swift" && !rules.skips ⟨.relative, item.1⟩ &&
          rules.admits ⟨.relative, item.1⟩ then some (pathOf (top ++ item.1)) else none)) := by
  obtain ⟨checked, isResolved⟩ := isPlain.isResolved_top
  have isBelow := below_of_isResolved isResolved checked
    (show disk.tree.entry? top ≠ none by rw [isPlain.isDirectory]; simp)
  refine swiftFiles_eq_ok_iff.2 (.inr ⟨?_, .none, fun path =>
    !rules.skips ⟨.relative, path.names.drop top.length⟩ &&
      rules.admits ⟨.relative, path.names.drop top.length⟩, ?_, ?_, ?_⟩)
  · exact isDirectory_eq_true_iff.2 (entry_of_present isResolved checked isPlain.isDirectory)
  · rw [flat]
    exact isPlain.ignorePolicy_eq
  · intro path member
    obtain ⟨item, inBelow, isSwift, rfl⟩ := mem_swiftPaths_iff.1 member
    rw [isBelow] at inBelow
    obtain ⟨content, isFile⟩ := isPlain.swiftFile item inBelow isSwift
    have held := (FileTree.mem_below_iff.1 inBelow).2
    have reached : item.1 ∈ [] :: [".gitignore"] :: (disk.tree.below top).map Prod.fst :=
      List.mem_cons_of_mem _ (List.mem_cons_of_mem _ (List.mem_map_of_mem inBelow))
    rw [append_relative]
    show _ = Except.ok (!rules.skips ⟨.relative, (top ++ item.1).drop top.length⟩ &&
      rules.admits ⟨.relative, (top ++ item.1).drop top.length⟩)
    rw [List.drop_left]
    exact includes_of_isResolved isResolved (isPlain.isResolved reached)
      (isPlain.reachable _ reached).1 (isFile ▸ held)
  · rw [swiftPaths, isBelow, List.filter_filterMap]
    congr 1
    refine List.filterMap_congr fun item _ => ?_
    cases endsWith (item.1.getLastD "") ".swift" with
    | false => rfl
    | true =>
      rw [if_pos rfl, append_relative, Option.filter_some, Bool.true_and]
      show (if _ then _ else _) = (if (!rules.skips ⟨.relative, (top ++ item.1).drop top.length⟩ &&
        rules.admits ⟨.relative, (top ++ item.1).drop top.length⟩) = true then _ else _)
      rw [List.drop_left]
      rfl

end IsPlain

end Disk

end SwiftSlice

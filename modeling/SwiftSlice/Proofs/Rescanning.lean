/-
Scanning after writing. What a slice is cut from is found as before, if the output
is not at or below the directory that is scanned: everything below that directory
is as it was, so the scan looks at the same paths and obeys the same ignore files,
and each test of a path has the same outcome. The configuration of the root and
the directory of the sources are found as before, too.
-/

import SwiftSlice.Proofs.Rereading

namespace SwiftSlice

open Text

/-! ### Lists of steps that may fail -/

theorem mapM_congr {ε α β : Type} {step other : α → Except ε β} {items : List α}
    (same : ∀ item ∈ items, step item = other item) : items.mapM step = items.mapM other := by
  induction items with
  | nil => rfl
  | cons item rest inductionHypothesis =>
    rw [List.mapM_cons, List.mapM_cons, same item List.mem_cons_self,
      inductionHypothesis fun next member => same next (List.mem_cons_of_mem item member)]

section FilterM

variable {ε α : Type} {test other : α → Except ε Bool}

theorem filterAuxM_congr {items : List α} (same : ∀ item ∈ items, test item = other item)
    (done : List α) : items.filterAuxM test done = items.filterAuxM other done := by
  induction items generalizing done with
  | nil => rfl
  | cons item rest inductionHypothesis =>
    rw [List.filterAuxM, List.filterAuxM, same item List.mem_cons_self]
    exact bind_congr fun _ =>
      inductionHypothesis (fun next member => same next (List.mem_cons_of_mem item member)) _

theorem filterM_congr {items : List α} (same : ∀ item ∈ items, test item = other item) :
    items.filterM test = items.filterM other := by
  rw [List.filterM, List.filterM, filterAuxM_congr same]

theorem of_mem_filterAuxM {items done found : List α}
    (filtered : items.filterAuxM test done = .ok found) :
    ∀ item ∈ found, item ∈ done ∨ item ∈ items ∧ test item = .ok true := by
  induction items generalizing done with
  | nil =>
    obtain rfl := Except.ok.inj filtered
    exact fun item member => .inl member
  | cons first rest inductionHypothesis =>
    obtain ⟨isKept, tested, filtered⟩ := bind_eq_ok_iff.1 filtered
    intro item member
    rcases inductionHypothesis filtered item member with inDone | ⟨inRest, isTrue⟩
    · cases isKept with
      | false => exact .inl inDone
      | true =>
        rcases List.mem_cons.1 inDone with rfl | earlier
        · exact .inr ⟨List.mem_cons_self, tested⟩
        · exact .inl earlier
    · exact .inr ⟨List.mem_cons_of_mem first inRest, isTrue⟩

/-- What a filter lets through passed the test. -/
theorem of_mem_filterM {items found : List α} (filtered : items.filterM test = .ok found) :
    ∀ item ∈ found, item ∈ items ∧ test item = .ok true := by
  obtain ⟨backwards, isBackwards, isFound⟩ := bind_eq_ok_iff.1 filtered
  obtain rfl := Except.ok.inj isFound
  intro item member
  have kept := of_mem_filterAuxM isBackwards item (List.mem_reverse.1 member)
  exact kept.resolve_left List.not_mem_nil

theorem filterAuxM_of_tested {keep : α → Bool} {items : List α}
    (tested : ∀ item ∈ items, test item = .ok (keep item)) (done : List α) :
    items.filterAuxM test done = .ok ((items.filter keep).reverse ++ done) := by
  induction items generalizing done with
  | nil => rfl
  | cons item rest inductionHypothesis =>
    have further := inductionHypothesis fun next member =>
      tested next (List.mem_cons_of_mem item member)
    rw [List.filterAuxM, tested item List.mem_cons_self, List.filter_cons]
    cases keep item with
    | false => exact further done
    | true =>
      rw [if_pos rfl, List.reverse_cons, List.append_assoc]
      exact further (item :: done)

/-- A filter whose tests all have a value is a filter without failures. -/
theorem filterM_of_tested {keep : α → Bool} {items : List α}
    (tested : ∀ item ∈ items, test item = .ok (keep item)) :
    items.filterM test = .ok (items.filter keep) := by
  rw [List.filterM, filterAuxM_of_tested tested, List.append_nil]
  exact congrArg Except.ok (List.reverse_reverse _)

/-- A filter whose test nothing fails lets everything through. -/
theorem filterM_of_all {items : List α} (passed : ∀ item ∈ items, test item = .ok true) :
    items.filterM test = .ok items := by
  rw [filterM_of_tested passed, List.filter_true]

end FilterM

/-! ### Relative paths -/

theorem Path.names_of_relativeTo? {path base relative : Path}
    (isRelative : path.relativeTo? base = some relative) :
    path.names = base.names ++ relative.names := by
  rw [Path.relativeTo?] at isRelative
  split at isRelative
  · next isBelow =>
    obtain rfl := Option.some.inj isRelative
    obtain ⟨rest, isRest⟩ := List.isPrefixOf_iff_prefix.1 (Bool.and_eq_true_iff.1 isBelow).2
    rw [← isRest, List.drop_left]
  · cases isRelative

namespace Disk

/-! ### What a scan looks at -/

section Directory

variable {disk : Disk} {base : Location} (isBase : disk.tree.entry? base = some .directory)

include isBase

theorem spot_of_directory {spot : Spot} (walked : disk.spot (pathOf base) = .ok spot) :
    spot = .taken base := by
  have arrives : disk.tree.walk false linkLimit [] (base ++ []) = _ :=
    FileTree.walk_append_present isBase (by simp) (by simp)
  have isSpot := (walkTo_eq_ok_iff.1 walked).2
  rw [origin_of_isAbsolute rfl] at isSpot
  rw [List.append_nil] at arrives
  rw [pathOf, arrives] at isSpot
  split at isSpot
  · rw [FileTree.walk] at isSpot
    exact (Except.ok.inj isSpot).symm
  · cases isSpot

theorem entry?_of_mem_below {item : Location × Entry} (member : item ∈ disk.below (pathOf base)) :
    disk.tree.entry? (base ++ item.1) = some item.2 := by
  rw [Disk.below] at member
  split at member
  · next walked =>
    obtain rfl := Spot.taken.inj (spot_of_directory isBase walked)
    exact (FileTree.mem_below_iff.1 member).2
  · exact absurd member List.not_mem_nil

/-- The ignore files of a scan are looked for in the directories that it finds. -/
theorem of_mem_ignoreCandidates {path : Path}
    (member : path ∈ (pathOf base :: (disk.below (pathOf base)).filterMap fun item =>
        if item.2 = .directory then some (pathOf base ++ ⟨.relative, item.1⟩) else none).map
      (·.child ".gitignore")) :
    ∃ names, path = pathOf (base ++ names ++ [".gitignore"]) ∧
      disk.tree.entry? (base ++ names) = some .directory := by
  obtain ⟨above, isAbove, rfl⟩ := List.mem_map.1 member
  rcases List.mem_cons.1 isAbove with rfl | inner
  · exact ⟨[], by simp [Path.child, pathOf], by simpa using isBase⟩
  · obtain ⟨item, inBelow, isItem⟩ := List.mem_filterMap.1 inner
    split at isItem
    · next isDirectory =>
      obtain rfl := Option.some.inj isItem
      exact ⟨item.1, rfl, isDirectory ▸ entry?_of_mem_below isBase inBelow⟩
    · cases isItem

theorem of_mem_ignorePaths {paths : List Path}
    (isPaths : disk.ignorePaths (pathOf base) = .ok paths) {path : Path} (member : path ∈ paths) :
    ∃ names, path = pathOf (base ++ names ++ [".gitignore"]) ∧
      disk.tree.entry? (base ++ names) = some .directory := by
  obtain ⟨found, filtered, isSorted⟩ := bind_eq_ok_iff.1 isPaths
  obtain rfl := Except.ok.inj isSorted
  exact of_mem_ignoreCandidates isBase
    (of_mem_filterM filtered path (List.mem_mergeSort.1 member)).1

/-- What a scan looks at exists. -/
theorem of_mem_swiftPaths {path : Path} (member : path ∈ disk.swiftPaths (pathOf base)) :
    ∃ location, path = pathOf location ∧ disk.tree.entry? location ≠ none := by
  obtain ⟨item, inBelow, isItem⟩ := List.mem_filterMap.1 member
  split at isItem
  · obtain rfl := Option.some.inj isItem
    exact ⟨base ++ item.1, rfl, by rw [entry?_of_mem_below isBase inBelow]; simp⟩
  · cases isItem

end Directory

variable {disk grown : Disk}

/-- A scan finds nothing but files. -/
theorem of_mem_swiftFiles {base : Location} {rules : ScanRules} {found : List Path}
    (scanned : disk.swiftFiles (pathOf base) rules = .ok found) {path : Path}
    (member : path ∈ found) :
    ∃ location content, path = pathOf location ∧ disk.entry path = .ok (.file content) := by
  obtain ⟨isDirectory, _, scanned⟩ := bind_eq_ok_iff.1 scanned
  split at scanned
  · obtain rfl := Except.ok.inj scanned
    exact absurd member List.not_mem_nil
  · obtain ⟨policy, _, scanned⟩ := bind_eq_ok_iff.1 scanned
    obtain ⟨kept, filtered, isSorted⟩ := bind_eq_ok_iff.1 scanned
    obtain rfl := Except.ok.inj isSorted
    obtain ⟨inPaths, included⟩ := of_mem_filterM filtered path (List.mem_mergeSort.1 member)
    obtain ⟨item, _, isItem⟩ := List.mem_filterMap.1 inPaths
    obtain ⟨isFile, isTested, included⟩ := bind_eq_ok_iff.1 included
    cases isFile with
    | true =>
      obtain ⟨content, isFound⟩ := isFile_eq_true_iff.1 isTested
      split at isItem
      · exact ⟨base ++ item.1, content, (Option.some.inj isItem).symm, isFound⟩
      · cases isItem
    | false => cases Except.ok.inj included

/-- A path that leads to no file holds no configuration. -/
theorem load_of_no_file {root : Path}
    (noFile : disk.isFile (root.child Config.fileName) = .ok false) :
    Config.load disk root = .ok {} := by
  rw [Config.load, noFile]
  rfl

/-- An accepted output directory is a relative path, placed against the root and inside of it. -/
theorem of_placeOutput {root output : Path} {outputDir : String}
    (accepted : Config.placeOutput disk root outputDir = .ok output) :
    (Path.parse outputDir).isAbsolute = false ∧ ∃ top, disk.resolve root = .ok top ∧
      disk.resolve (top ++ Path.parse outputDir) = .ok output ∧
      (output.relativeTo? top).isSome = true := by
  rw [Config.placeOutput] at accepted
  split at accepted
  · cases accepted
  · split at accepted
    · cases accepted
    · next isRelative =>
      rw [Bool.or_eq_true, not_or, Bool.not_eq_true, Bool.not_eq_true] at isRelative
      obtain ⟨top, isTop, accepted⟩ := bind_eq_ok_iff.1 accepted
      obtain ⟨place, isPlace, accepted⟩ := bind_eq_ok_iff.1 accepted
      split at accepted
      · next isInside =>
        obtain rfl := Except.ok.inj accepted
        exact ⟨isRelative.2, top, isTop, isPlace, isInside⟩
      · cases accepted

namespace Undisturbed

variable {directory : Location} {files : List (String × Bytes)}
  (undisturbed : Undisturbed directory files disk grown)

include undisturbed

/-! ### Scanning anew -/

theorem isLink_eq {location : Location} (present : disk.tree.entry? location ≠ none) :
    grown.isLink (pathOf location) = disk.isLink (pathOf location) := by
  have above : disk.tree.entry? location.dropLast ≠ none := by
    obtain ⟨entry, found⟩ := Option.ne_none_iff_exists'.1 present
    rw [FileTree.directory_above found]
    exact Option.some_ne_none _
  have sameSpot : grown.spot (pathOf location).parent = disk.spot (pathOf location).parent :=
    spot_eq_of_walk_eq (undisturbed.walk_present_eq above)
  rw [isLink, isLink, sameSpot]
  split
  · next above _ =>
    have same := undisturbed.sameLinks (above ++ [(pathOf location).name])
    split
    · next target found => rw [(same target).2 found]
    · next noLink =>
      split
      · next target found => exact absurd ((same target).1 found) (noLink target)
      · rfl
  · rfl

/-- The scan of a directory takes the same paths. -/
theorem includes_eq {location : Location} {base : Path} {top : Entry}
    (present : disk.tree.entry? location ≠ none) (isTop : disk.entry base = .ok top)
    (rules : ScanRules) (policy : IgnorePolicy) :
    grown.includes base rules policy (pathOf location) =
      disk.includes base rules policy (pathOf location) := by
  have sameFile := isFile_eq_of_entry_eq (undisturbed.entry_present_eq present)
  rw [includes, includes, sameFile, undisturbed.isLink_eq present, undisturbed.grows.directory]
  cases tested : disk.isFile (pathOf location) with
  | error failure => rfl
  | ok isFile =>
    cases isFile with
    | false => rfl
    | true =>
      obtain ⟨content, isFound⟩ := isFile_eq_true_iff.1 tested
      rw [undisturbed.staysWithin_eq isFound isTop]

section Scan

variable {base : Location} (apart : ¬ base <+: directory)
  (isBase : disk.tree.entry? base = some .directory)

include apart isBase

theorem diskBelow_eq : grown.below (pathOf base) = disk.below (pathOf base) := by
  have present : disk.tree.entry? base ≠ none := by rw [isBase]; simp
  rw [Disk.below, Disk.below, spot_eq_of_walk_eq (undisturbed.walk_present_eq present)]
  split
  · next walked =>
    obtain rfl := Spot.taken.inj (spot_of_directory isBase walked)
    exact undisturbed.below_eq apart
  · rfl

theorem ignoreEntry_eq {names : List String}
    (isDirectory : disk.tree.entry? (base ++ names) = some .directory) :
    grown.entry (pathOf (base ++ names ++ [".gitignore"])) =
      disk.entry (pathOf (base ++ names ++ [".gitignore"])) := by
  refine undisturbed.entry_eq_of_walk_eq (undisturbed.walk_child_eq isDirectory (by decide) ?_)
  rw [List.append_assoc]
  exact undisturbed.entry?_append_eq apart (by rw [isBase]; simp) _

theorem ignorePaths_eq : grown.ignorePaths (pathOf base) = disk.ignorePaths (pathOf base) := by
  rw [ignorePaths, ignorePaths, undisturbed.diskBelow_eq apart isBase, filterM_congr]
  intro path member
  obtain ⟨names, rfl, isDirectory⟩ := of_mem_ignoreCandidates isBase member
  exact isFile_eq_of_entry_eq (undisturbed.ignoreEntry_eq apart isBase isDirectory)

theorem load_eq {names : List String}
    (isDirectory : disk.tree.entry? (base ++ names) = some .directory) :
    IgnoreFile.load grown (pathOf (base ++ names ++ [".gitignore"])) =
      IgnoreFile.load disk (pathOf (base ++ names ++ [".gitignore"])) := by
  rw [IgnoreFile.load, IgnoreFile.load, undisturbed.grows.directory,
    read_eq_of_entry_eq (undisturbed.ignoreEntry_eq apart isBase isDirectory)]

/-- The ignore files of a scan are the same. -/
theorem ignorePolicy_eq (nested : Bool) :
    grown.ignorePolicy (pathOf base) nested = disk.ignorePolicy (pathOf base) nested := by
  rw [ignorePolicy, ignorePolicy]
  cases nested with
  | true =>
    rw [if_pos rfl, if_pos rfl, undisturbed.ignorePaths_eq apart isBase]
    cases isPaths : disk.ignorePaths (pathOf base) with
    | error failure => rfl
    | ok paths =>
      have sameFiles : paths.mapM (IgnoreFile.load grown) = paths.mapM (IgnoreFile.load disk) := by
        refine mapM_congr fun path member => ?_
        obtain ⟨names, rfl, isDirectory⟩ := of_mem_ignorePaths isBase isPaths member
        exact undisturbed.load_eq apart isBase isDirectory
      cases paths with
      | nil => rfl
      | cons first rest =>
        show (List.mapM (IgnoreFile.load grown) (first :: rest) >>= fun files =>
          pure (IgnorePolicy.nested files)) = _
        rw [sameFiles]
        rfl
  | false =>
    have child : (pathOf base).child ".gitignore" = pathOf (base ++ [] ++ [".gitignore"]) := by
      rw [List.append_nil]
      rfl
    have isDirectory : disk.tree.entry? (base ++ []) = some .directory := by
      rwa [List.append_nil]
    rw [if_neg Bool.false_ne_true, if_neg Bool.false_ne_true, child,
      isFile_eq_of_entry_eq (undisturbed.ignoreEntry_eq apart isBase isDirectory),
      undisturbed.load_eq apart isBase isDirectory]

theorem swiftPaths_eq : grown.swiftPaths (pathOf base) = disk.swiftPaths (pathOf base) := by
  rw [swiftPaths, swiftPaths, undisturbed.diskBelow_eq apart isBase]

end Scan

/-- Holds of a path that is found to be a directory on both disks or on neither, and that stands for
its own location if it is one. -/
structure Scannable (disk grown : Disk) (base : Location) : Prop where
  sameDirectory : grown.isDirectory (pathOf base) = disk.isDirectory (pathOf base)
  atLocation : disk.isDirectory (pathOf base) = .ok true → disk.tree.entry? base = some .directory

/-- The scan of a directory that the output is not at or below finds the same files. -/
theorem swiftFiles_eq {base : Location} (apart : ¬ base <+: directory)
    (scannable : Scannable disk grown base) (rules : ScanRules) :
    grown.swiftFiles (pathOf base) rules = disk.swiftFiles (pathOf base) rules := by
  rw [swiftFiles, swiftFiles, scannable.sameDirectory]
  cases tested : disk.isDirectory (pathOf base) with
  | error failure => exact Eq.refl (Except.error failure)
  | ok isDirectory =>
    cases isDirectory with
    | false => exact Eq.refl (Except.ok [])
    | true =>
      have isBase := scannable.atLocation tested
      have isTop := isDirectory_eq_true_iff.1 tested
      have sameFilter : ∀ policy,
          (disk.swiftPaths (pathOf base)).filterM (grown.includes (pathOf base) rules policy) =
            (disk.swiftPaths (pathOf base)).filterM (disk.includes (pathOf base) rules policy) := by
        refine fun policy => filterM_congr fun path member => ?_
        obtain ⟨location, rfl, present⟩ := of_mem_swiftPaths isBase member
        exact undisturbed.includes_eq present isTop rules policy
      simp only [undisturbed.ignorePolicy_eq apart isBase, undisturbed.swiftPaths_eq apart isBase,
        sameFilter]

/-! ### Configuration -/

theorem isFile_of_absent {path : Path} (isResolved : disk.tree.IsResolved path)
    (checked : checkPath path = .ok ()) (absent : disk.tree.entry? path.names = none)
    (notWritten : ∀ file ∈ files, path.names ≠ directory ++ [file.1]) :
    grown.isFile path = .ok false := by
  rw [isFile, probe_of_isResolved (undisturbed.isResolved isResolved) checked]
  cases found : grown.tree.entry? path.names with
  | none => rfl
  | some entry =>
    rcases undisturbed.fresh absent found with ⟨_, rfl⟩ | ⟨file, member, isFile, _⟩
    · rfl
    · exact absurd isFile (notWritten file member)

theorem configLoad_eq_of_entry_eq {root : Path}
    (same : grown.entry (root.child Config.fileName) = disk.entry (root.child Config.fileName)) :
    Config.load grown root = Config.load disk root := by
  rw [Config.load, Config.load, isFile_eq_of_entry_eq same, read_eq_of_entry_eq same,
    undisturbed.grows.callRoom]

/-- The configuration of a resolved root is the same, if none was written. -/
theorem configLoad_eq {root : Path} (isResolved : disk.tree.IsResolved root)
    (notWritten : ∀ file ∈ files, file.1 ≠ Config.fileName) :
    Config.load grown root = Config.load disk root := by
  by_cases absent : disk.tree.entry? (root.names ++ [Config.fileName]) = none
  · have isName : IsFileName Config.fileName ∧ Config.fileName.utf8ByteSize ≤ nameLimit := by
      decide
    have childResolved := isResolved.child isName (by rw [absent]; simp)
    cases checked : checkPath (root.child Config.fileName) with
    | error failure =>
      exact undisturbed.configLoad_eq_of_entry_eq (entry_eq_of_refused checked)
    | ok _ =>
      have noFile : disk.isFile (root.child Config.fileName) = .ok false := by
        rw [isFile, probe_of_isResolved childResolved checked]
        show Except.bind (Except.ok (disk.tree.entry? (root.names ++ [Config.fileName]))) _ = _
        rw [absent]
        rfl
      have noFileLater : grown.isFile (root.child Config.fileName) = .ok false := by
        refine undisturbed.isFile_of_absent childResolved checked absent ?_
        intro file member isFile
        have sameName := (List.append_inj' isFile rfl).2
        exact notWritten file member (List.singleton_inj.1 sameName).symm
      rw [load_of_no_file noFile, load_of_no_file noFileLater]
  · have same := undisturbed.entry_present_eq absent
    rw [← isResolved.child_eq_pathOf] at same
    exact undisturbed.configLoad_eq_of_entry_eq same

/-! ### The directory of the sources -/

theorem scannable_of_directory {base : Location}
    (isBase : disk.tree.entry? base = some .directory) : Scannable disk grown base :=
  ⟨isDirectory_eq_of_entry_eq (undisturbed.entry_present_eq (by rw [isBase]; simp)),
    fun _ => isBase⟩

/-- A resolved path that the output is not at or below can be scanned with the same outcome, whether
it leads to a directory or not. -/
theorem scannable_of_isResolved {base : Location} (isResolved : disk.tree.IsResolved (pathOf base))
    (apart : ¬ base <+: directory) : Scannable disk grown base := by
  refine ⟨?_, fun isDirectory =>
    (entry_of_isResolved isResolved (isDirectory_eq_true_iff.1 isDirectory)).2⟩
  by_cases absent : disk.tree.entry? base = none
  · cases checked : checkPath (pathOf base) with
    | error failure => exact isDirectory_eq_of_entry_eq (entry_eq_of_refused checked)
    | ok _ =>
      rw [Disk.isDirectory, Disk.isDirectory, probe_of_isResolved isResolved checked,
        probe_of_isResolved (undisturbed.isResolved isResolved) checked]
      show Except.ok (grown.tree.entry? base == some .directory) =
        Except.ok (disk.tree.entry? base == some .directory)
      rw [absent]
      cases found : grown.tree.entry? base with
      | none => rfl
      | some entry =>
        rcases undisturbed.fresh absent found with ⟨onTheWay, _⟩ | ⟨_, _, _, rfl⟩
        · exact absurd onTheWay apart
        · rfl
  · exact isDirectory_eq_of_entry_eq (undisturbed.entry_present_eq absent)

/-- The directory of the sources is found as before, and what is found is a directory. -/
theorem sourcesDir?_eq {start root : Path} {found : Entry} (isRoot : disk.tree.IsResolved root)
    (isStart : disk.entry start = .ok found) (isAbsolute : ∃ location, start = pathOf location) :
    grown.sourcesDir? start root = disk.sourcesDir? start root ∧
      ∀ base, disk.sourcesDir? start root = .ok (some base) →
        ∃ location, base = pathOf location ∧ disk.tree.entry? location = some .directory := by
  obtain ⟨location, rfl⟩ := isAbsolute
  obtain ⟨last, resolved, resolvedLater, held⟩ := undisturbed.resolve_of_entry isStart
  rw [sourcesDir?, sourcesDir?, normalize_of_isResolved isRoot,
    normalize_of_isResolved (undisturbed.isResolved isRoot), normalize_pathOf, normalize_pathOf,
    resolved, resolvedLater]
  simp only [bind, Except.bind]
  split
  · next anchor first second rest isRelative =>
    have isBase : disk.tree.entry? (root.names ++ [first]) = some .directory := by
      have isLast : last = root.names ++ first :: second :: rest :=
        Path.names_of_relativeTo? isRelative
      rw [isLast, List.append_cons] at held
      exact FileTree.directory_of_append (List.cons_ne_nil second rest) held
    rw [isRoot.child_eq_pathOf, (undisturbed.scannable_of_directory isBase).sameDirectory]
    refine ⟨rfl, fun base isFound => ?_⟩
    cases tested : disk.isDirectory (pathOf (root.names ++ [first])) with
    | error failure => rw [tested] at isFound; cases isFound
    | ok isDirectory =>
      rw [tested] at isFound
      cases isDirectory with
      | false => cases Except.ok.inj isFound
      | true => exact ⟨_, (Option.some.inj (Except.ok.inj isFound)).symm, isBase⟩
  · refine ⟨rfl, fun base isBase => ?_⟩
    cases Except.ok.inj isBase

end Undisturbed

end Disk

end SwiftSlice

/-
What a scan finds in a tree with links. The scanned directory may be given through links,
by any absolute path; it stands for one location. The scan finds the files there that are
reached from that location through directories alone and that nothing leaves out, each
under the path as given, in ascending order of what leads to them from there. Each is
known by the location of the directory and the same names, so that none lies outside of
it and no two are the same; the test against links out of the directory never fails.
-/

import SwiftSlice.Proofs.Ignoring

namespace SwiftSlice

open Text

/-- Holds of names that lead from a location to a file, through directories and past no link. -/
structure FileTree.ReachesFile (tree : FileTree) (top : Location) (names : List String) :
    Prop where
  through : ∀ way, way <+: names → way ≠ names → tree.entry? (top ++ way) = some .directory
  isFile : ∃ content, tree.entry? (top ++ names) = some (.file content)

/-- What holds a file is reached. -/
theorem FileTree.reachesFile_of_entry? {tree : FileTree} {top : Location} {names : List String}
    {content : Bytes} (held : tree.entry? (top ++ names) = some (.file content)) :
    tree.ReachesFile top names where
  through := by
    rintro way ⟨rest, rfl⟩ notAll
    rw [← List.append_assoc] at held
    refine FileTree.directory_of_append (fun isAll => notAll ?_) held
    rw [isAll, List.append_nil]
  isFile := ⟨content, held⟩

namespace Disk

variable {disk : Disk} {base : Path} {top : Location} {rules : ScanRules} {policy : IgnorePolicy}
  {names : List String}

/-! ### Paths and names -/

theorem append_relative_injective (base : Path) :
    Function.Injective fun names => base ++ (⟨.relative, names⟩ : Path) :=
  fun _ _ same => List.append_cancel_left (congrArg Path.names same)

/-- What a scan looks at is what some names lead to. -/
theorem exists_names_of_swiftPaths {paths : List Path}
    (inPaths : ∀ path ∈ paths, path ∈ disk.swiftPaths base) :
    ∃ found : List (List String),
      found.map (fun names => base ++ (⟨.relative, names⟩ : Path)) = paths := by
  refine (Set.ext_iff.1 (Set.range_list_map _) paths).2 fun path member => ?_
  obtain ⟨item, _, _, rfl⟩ := mem_swiftPaths_iff.1 (inPaths path member)
  exact ⟨item.1, rfl⟩

/-- Different paths that are sorted by different texts are in strict order. -/
theorem pairwise_sortBelow_lt {paths : List Path} (distinct : paths.Nodup)
    (apart : ∀ path ∈ paths, ∀ other ∈ paths, sortKey base path = sortKey base other →
      path = other) :
    (sortBelow base paths).Pairwise fun left right => sortKey base left < sortKey base right := by
  have sortedDistinct : (sortBelow base paths).Nodup :=
    (List.mergeSort_perm _ _).nodup_iff.2 distinct
  refine ((pairwise_sortBelow base paths).and sortedDistinct).imp_of_mem ?_
  rintro left right isLeft isRight ⟨notAbove, differ⟩
  exact lt_of_le_of_ne notAbove fun same =>
    differ (apart _ (List.mem_mergeSort.1 isLeft) _ (List.mem_mergeSort.1 isRight) same)

/-! ### What is tested -/

section Reached

variable {kept : Bool} (isAbsolute : base.isAbsolute = true) (checked : checkPath base = .ok ())
  (toTop : Leads disk.tree linkLimit (disk.origin base) base.names top)

include checked toTop

theorem mem_swiftPaths_append_iff : base ++ ⟨.relative, names⟩ ∈ disk.swiftPaths base ↔
    names ≠ [] ∧ (∃ entry, disk.tree.entry? (top ++ names) = some entry) ∧
      endsWith (names.getLastD "") ".swift" = true := by
  rw [mem_swiftPaths_iff, below_of_leads checked toTop]
  constructor
  · rintro ⟨⟨others, entry⟩, inBelow, isSwift, same⟩
    obtain rfl : names = others := append_relative_injective base same
    obtain ⟨nonempty, held⟩ := FileTree.mem_below_iff.1 inBelow
    exact ⟨nonempty, ⟨entry, held⟩, isSwift⟩
  · rintro ⟨nonempty, ⟨entry, held⟩, isSwift⟩
    exact ⟨(names, entry), FileTree.mem_below_iff.2 ⟨nonempty, held⟩, isSwift, rfl⟩

theorem mem_swiftPaths_of_reachesFile (reaches : disk.tree.ReachesFile top names)
    (isSwift : endsWith (names.getLastD "") ".swift" = true) :
    base ++ ⟨.relative, names⟩ ∈ disk.swiftPaths base := by
  obtain ⟨content, held⟩ := reaches.isFile
  have nonempty : names ≠ [] := by
    rintro rfl
    exact absurd isSwift (by decide)
  exact (mem_swiftPaths_append_iff checked toTop).2 ⟨nonempty, ⟨_, held⟩, isSwift⟩

include isAbsolute

/-- A file that a scan reaches and tests is found to be a file inside the directory and no link, and
is known by the location of the directory and the names from there. -/
theorem of_reachesFile (reaches : disk.tree.ReachesFile top names)
    (isSwift : endsWith (names.getLastD "") ".swift" = true)
    (included : disk.includes base rules policy (base ++ ⟨.relative, names⟩) = .ok kept) :
    disk.isFile (base ++ ⟨.relative, names⟩) = .ok true ∧
      disk.isLink (base ++ ⟨.relative, names⟩) = false ∧
      disk.staysWithin (base ++ ⟨.relative, names⟩) base = .ok true ∧
      disk.normalize (base ++ ⟨.relative, names⟩) = .ok (pathOf (top ++ names)) := by
  obtain ⟨nonempty, _⟩ := (mem_swiftPaths_append_iff checked toTop).1
    (mem_swiftPaths_of_reachesFile checked toTop reaches isSwift)
  obtain ⟨content, held⟩ := reaches.isFile
  have noLink : ∀ target, Entry.file content ≠ .link target := by simp
  obtain ⟨_, tested, _⟩ := bind_eq_ok_iff.1 included
  obtain ⟨found, probed, _⟩ := bind_eq_ok_iff.1 tested
  obtain ⟨checkedPath, short⟩ := short_of_probed toTop held noLink checked probed
  have isThere := entry_of_held toTop held noLink checkedPath short
  have isPlain := isLink_of_held toTop held noLink isAbsolute nonempty checkedPath short
  exact ⟨isFile_eq_true_iff.2 ⟨content, isThere⟩, isPlain,
    staysWithin_of_held toTop held noLink short,
    (normalize_below isAbsolute toTop held isThere nonempty isPlain).2⟩

/-- Of what a scan looks at it takes the files that it reaches and that nothing leaves out. -/
theorem mem_taken_iff {keep : Path → Bool}
    (isPolicy : disk.ignorePolicy base rules.nestedGitignore = .ok policy)
    (passes : ∀ path ∈ disk.swiftPaths base,
      disk.includes base rules policy path = .ok (keep path)) :
    base ++ ⟨.relative, names⟩ ∈ (disk.swiftPaths base).filter keep ↔
      disk.tree.ReachesFile top names ∧ endsWith (names.getLastD "") ".swift" = true ∧
        disk.Passes base rules names := by
  rw [List.mem_filter]
  constructor
  -- A path that leads to a file and is no link stands for the entry below the location itself.
  · rintro ⟨inPaths, isKept⟩
    obtain ⟨nonempty, ⟨entry, held⟩, isSwift⟩ := (mem_swiftPaths_append_iff checked toTop).1 inPaths
    obtain ⟨isFile, noLink, _, isPassed⟩ := (kept_iff isPolicy (passes _ inPaths)).1 isKept
    obtain ⟨content, isThere⟩ := isFile_eq_true_iff.1 isFile
    obtain ⟨isHeld, _⟩ := normalize_below isAbsolute toTop held isThere nonempty noLink
    exact ⟨FileTree.reachesFile_of_entry? isHeld, isSwift, isPassed⟩
  · rintro ⟨reaches, isSwift, isPassed⟩
    have inPaths := mem_swiftPaths_of_reachesFile checked toTop reaches isSwift
    have included := passes _ inPaths
    obtain ⟨isFile, noLink, stays, _⟩ :=
      of_reachesFile isAbsolute checked toTop reaches isSwift included
    exact ⟨inPaths, (kept_iff isPolicy included).2 ⟨isFile, noLink, stays, isPassed⟩⟩

end Reached

/-! ### What is found -/

/-- A scan of an existing directory, given by any absolute path, finds the files that it reaches
through directories alone, that are named as Swift files and that nothing leaves out, in strictly
ascending order of the paths from there. Each file that it so reaches, found or left out, is known
by the location of the directory and the names from there, and passes the test against links out of
the directory; no two that it finds are known by the same path. -/
theorem swiftFiles_found (disk : Disk) (base : Path) (rules : ScanRules) (files : List Path)
    (isAbsolute : base.isAbsolute = true) (isDirectory : disk.isDirectory base = .ok true)
    (scanned : disk.swiftFiles base rules = .ok files) :
    ∃ (top : Location) (found : List (List String)), disk.normalize base = .ok (pathOf top) ∧
      disk.tree.entry? top = some .directory ∧
      files = found.map (fun names => base ++ (⟨.relative, names⟩ : Path)) ∧
      (found.Pairwise fun left right =>
        (⟨.relative, left⟩ : Path).text < (⟨.relative, right⟩ : Path).text) ∧
      (∀ names, names ∈ found ↔ disk.tree.ReachesFile top names ∧
        endsWith (names.getLastD "") ".swift" = true ∧ disk.Passes base rules names) ∧
      (∀ names, disk.tree.ReachesFile top names →
        endsWith (names.getLastD "") ".swift" = true →
        disk.normalize (base ++ ⟨.relative, names⟩) = .ok (pathOf top ++ ⟨.relative, names⟩) ∧
        disk.staysWithin (base ++ ⟨.relative, names⟩) base = .ok true) ∧
      files.Pairwise fun left right => disk.normalize left ≠ disk.normalize right := by
  obtain ⟨checked, top, toTop, isTop⟩ := entry_eq_ok_iff.1 (isDirectory_eq_true_iff.1 isDirectory)
  rcases swiftFiles_eq_ok_iff.1 scanned with
    ⟨noDirectory, _⟩ | ⟨_, policy, keep, isPolicy, passes, rfl⟩
  · cases Except.ok.inj (noDirectory.symm.trans isDirectory)
  have inPaths : ∀ path ∈ (disk.swiftPaths base).filter keep, path ∈ disk.swiftPaths base :=
    fun path member => (List.mem_filter.1 member).1
  have inScan : ∀ path ∈ sortBelow base ((disk.swiftPaths base).filter keep),
      path ∈ disk.swiftPaths base :=
    fun path member => inPaths path (List.mem_mergeSort.1 member)
  obtain ⟨found, isFound⟩ := exists_names_of_swiftPaths inScan
  have members : ∀ names, names ∈ found ↔ disk.tree.ReachesFile top names ∧
      endsWith (names.getLastD "") ".swift" = true ∧ disk.Passes base rules names := by
    intro names
    rw [← List.mem_map_of_injective (append_relative_injective base), isFound, sortBelow,
      List.mem_mergeSort]
    exact mem_taken_iff isAbsolute checked toTop isPolicy passes
  have known : ∀ names, disk.tree.ReachesFile top names →
      endsWith (names.getLastD "") ".swift" = true →
      disk.normalize (base ++ ⟨.relative, names⟩) = .ok (pathOf (top ++ names)) ∧
        disk.staysWithin (base ++ ⟨.relative, names⟩) base = .ok true := by
    intro names reaches isSwift
    obtain ⟨_, _, stays, normalized⟩ := of_reachesFile isAbsolute checked toTop reaches isSwift
      (passes _ (mem_swiftPaths_of_reachesFile checked toTop reaches isSwift))
    exact ⟨normalized, stays⟩
  have ascending : found.Pairwise fun left right =>
      (⟨.relative, left⟩ : Path).text < (⟨.relative, right⟩ : Path).text := by
    have distinct := (nodup_swiftPaths (below_of_leads checked toTop)).filter keep
    have ordered := pairwise_sortBelow_lt distinct fun path isPath other isOther =>
      eq_of_sortKey_eq (inPaths path isPath) (inPaths other isOther)
    rw [← isFound, List.pairwise_map] at ordered
    simpa only [sortKey_append_relative] using ordered
  refine ⟨top, found, ?_, isTop, isFound.symm, ascending, members, known, ?_⟩
  · rw [normalize_of_isAbsolute isAbsolute]
    exact resolve_of_leads toTop
  · rw [← isFound, List.pairwise_map]
    refine ascending.imp_of_mem fun {left right} isLeft isRight below same => ?_
    obtain ⟨leftReaches, leftSwift, _⟩ := (members left).1 isLeft
    obtain ⟨rightReaches, rightSwift, _⟩ := (members right).1 isRight
    rw [(known left leftReaches leftSwift).1, (known right rightReaches rightSwift).1] at same
    obtain rfl := List.append_cancel_left (congrArg Path.names (Except.ok.inj same))
    exact String.lt_irrefl _ below

/-- Behind a link the scan finds two files, not the link beside one of them. -/
theorem swiftFiles_found_layered :
    Layered.base.isAbsolute = true ∧ Layered.disk.isDirectory Layered.base = .ok true ∧
      Layered.disk.swiftFiles Layered.base {} = .ok [Layered.first, Layered.card] ∧
      ∃ (top : Location) (found : List (List String)),
        Layered.disk.normalize Layered.base = .ok (pathOf top) ∧
        [Layered.first, Layered.card] =
          found.map (fun names => Layered.base ++ (⟨.relative, names⟩ : Path)) ∧
        (found.Pairwise fun left right =>
          (⟨.relative, left⟩ : Path).text < (⟨.relative, right⟩ : Path).text) ∧
        Layered.disk.normalize Layered.first ≠ Layered.disk.normalize Layered.card := by
  obtain ⟨top, found, isTop, _, isFound, ascending, _, _, apart⟩ := swiftFiles_found Layered.disk
    Layered.base {} _ rfl Layered.isDirectory_base Layered.scanned_plain
  refine ⟨rfl, Layered.isDirectory_base, Layered.scanned_plain, top, found, isTop, isFound,
    ascending, ?_⟩
  exact (List.pairwise_cons.1 apart).1 Layered.card (by simp)

end Disk

end SwiftSlice

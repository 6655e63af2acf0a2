/-
Ignore files at several levels. A scan obeys the ignore file of the directory that it
scans and, where nested ones count, those of the directories below. Each of them takes
paths out on its own: what one file puts back is put back against the other rules of that
file only, and a file that has no say on a path is passed over. So counting nested ones
only ever takes more files out of a scan.
-/

import SwiftSlice.Proofs.Defect
import SwiftSlice.Proofs.Descent

namespace SwiftSlice

open Text

namespace Disk

variable {disk : Disk} {base : Path} {nested : Bool}

/-! ### The ignore files that count -/

/-- Holds of the directories whose ignore files count in a scan of a directory: that one, and those
below it if nested ones count. -/
inductive Heeds (disk : Disk) (base : Path) (nested : Bool) : Path → Prop
  | top : Heeds disk base nested base
  | inner {names : List String} (isNested : nested = true)
    (inBelow : (names, Entry.directory) ∈ disk.below base) :
    Heeds disk base nested (base ++ ⟨.relative, names⟩)

/-- Holds of the ignore files that a scan of a directory obeys. -/
def Obeys (disk : Disk) (base : Path) (nested : Bool) (file : IgnoreFile) : Prop :=
  ∃ above, disk.Heeds base nested above ∧ disk.isFile (above.child ".gitignore") = .ok true ∧
    IgnoreFile.load disk (above.child ".gitignore") = .ok file

theorem heeds_iff_mem {above : Path} : disk.Heeds base true above ↔
    above ∈ base :: (disk.below base).filterMap fun item =>
      if item.2 = .directory then some (base ++ ⟨.relative, item.1⟩) else none := by
  rw [List.mem_cons, List.mem_filterMap]
  constructor
  · intro heeds
    cases heeds with
    | top => exact .inl rfl
    | inner _ inBelow => exact .inr ⟨_, inBelow, if_pos rfl⟩
  · rintro (rfl | ⟨⟨names, entry⟩, inBelow, isAbove⟩)
    · exact .top
    · split at isAbove
      · next isDirectory =>
        obtain rfl := Option.some.inj isAbove
        obtain rfl : entry = .directory := isDirectory
        exact .inner rfl inBelow
      · cases isAbove

/-- Of the ignore files at and below a directory none is left out. -/
theorem mem_ignorePaths_iff {paths : List Path} (found : disk.ignorePaths base = .ok paths)
    {path : Path} : path ∈ paths ↔ disk.isFile path = .ok true ∧
      ∃ above, disk.Heeds base true above ∧ above.child ".gitignore" = path := by
  obtain ⟨kept, filtered, isSorted⟩ := bind_eq_ok_iff.1 found
  obtain rfl := Except.ok.inj isSorted
  obtain ⟨keep, tested, rfl⟩ := exists_keep_of_filterM filtered
  rw [sortBelow, List.mem_mergeSort, List.mem_filter, List.mem_map]
  simp only [heeds_iff_mem]
  constructor
  · rintro ⟨⟨above, isAbove, rfl⟩, isKept⟩
    exact ⟨isKept ▸ tested _ (List.mem_map_of_mem isAbove), above, isAbove, rfl⟩
  · rintro ⟨isThere, above, isAbove, rfl⟩
    have isTested := tested _ (List.mem_map_of_mem isAbove)
    exact ⟨⟨above, isAbove, rfl⟩, Except.ok.inj (isTested.symm.trans isThere)⟩

/-! ### What they take out -/

/-- Several ignore files take a path out if one of them does. -/
theorem anyIgnores_eq_true_iff {directory : Location} {text : String} {files : List IgnoreFile}
    {ignored : Bool} (asked : IgnoreFile.anyIgnores directory text files = .ok ignored) :
    ignored = true ↔ ∃ file ∈ files, file.ignores directory text = .ok true := by
  induction files with
  | nil =>
    obtain rfl := Except.ok.inj asked
    simp
  | cons file rest inductionHypothesis =>
    rw [IgnoreFile.anyIgnores] at asked
    rw [List.exists_mem_cons_iff]
    split at asked
    · next takesOut =>
      obtain rfl := Except.ok.inj asked
      exact iff_of_true rfl (.inl takesOut)
    · next isKept =>
      rw [inductionHypothesis asked, isKept]
      simp
    · next isElsewhere =>
      rw [inductionHypothesis asked, isElsewhere]
      simp
    · cases asked

/-- Where nested ones do not count, the ignore file of the directory alone is obeyed. -/
theorem obeys_plain_iff {file : IgnoreFile} : disk.Obeys base false file ↔
    disk.isFile (base.child ".gitignore") = .ok true ∧
      IgnoreFile.load disk (base.child ".gitignore") = .ok file := by
  constructor
  · rintro ⟨above, heeds, isThere, isLoaded⟩
    cases heeds with
    | top => exact ⟨isThere, isLoaded⟩
    | inner isNested _ => cases isNested
  · rintro ⟨isThere, isLoaded⟩
    exact ⟨base, .top, isThere, isLoaded⟩

/-- The ignore file of the scanned directory counts, whether nested ones do or not. -/
theorem Obeys.of_plain {file : IgnoreFile} (obeys : disk.Obeys base false file) :
    disk.Obeys base true file :=
  ⟨base, .top, obeys_plain_iff.1 obeys⟩

/-- Where nested ones count, the ignore files at and below the directory are obeyed. -/
theorem obeys_nested_iff {paths : List Path} (found : disk.ignorePaths base = .ok paths)
    {file : IgnoreFile} : disk.Obeys base true file ↔
      ∃ path ∈ paths, IgnoreFile.load disk path = .ok file := by
  constructor
  · rintro ⟨above, heeds, isThere, isLoaded⟩
    exact ⟨_, (mem_ignorePaths_iff found).2 ⟨isThere, above, heeds, rfl⟩, isLoaded⟩
  · rintro ⟨_, member, isLoaded⟩
    obtain ⟨isThere, above, heeds, rfl⟩ := (mem_ignorePaths_iff found).1 member
    exact ⟨above, heeds, isThere, isLoaded⟩

section Ignores

variable {policy : IgnorePolicy} {text : String} {ignored : Bool}

theorem ignores_plain_iff (isPolicy : disk.ignorePolicy base false = .ok policy)
    (asked : policy.ignores disk.directory text = .ok ignored) :
    ignored = true ↔ ∃ file, disk.Obeys base false file ∧
      file.ignores disk.directory text = .ok true := by
  simp only [obeys_plain_iff]
  obtain ⟨found, isFound, isPolicy⟩ := bind_eq_ok_iff.1 isPolicy
  cases found with
  | false =>
    obtain rfl := Except.ok.inj isPolicy
    obtain rfl := Except.ok.inj asked
    simp [isFound]
  | true =>
    obtain ⟨file, isLoaded, isPolicy⟩ := bind_eq_ok_iff.1 isPolicy
    obtain rfl := Except.ok.inj isPolicy
    constructor
    · rintro rfl
      exact ⟨file, ⟨isFound, isLoaded⟩, asked⟩
    · rintro ⟨other, ⟨_, isOther⟩, takesOut⟩
      obtain rfl := Except.ok.inj (isLoaded.symm.trans isOther)
      exact Except.ok.inj (asked.symm.trans takesOut)

theorem ignores_nested_iff (isPolicy : disk.ignorePolicy base true = .ok policy)
    (asked : policy.ignores disk.directory text = .ok ignored) :
    ignored = true ↔ ∃ file, disk.Obeys base true file ∧
      file.ignores disk.directory text = .ok true := by
  obtain ⟨paths, arePaths, isPolicy⟩ := bind_eq_ok_iff.1 isPolicy
  simp only [obeys_nested_iff arePaths]
  split at isPolicy
  · obtain rfl := Except.ok.inj isPolicy
    obtain rfl := Except.ok.inj asked
    simp
  · obtain ⟨files, areFiles, isPolicy⟩ := bind_eq_ok_iff.1 isPolicy
    obtain rfl := Except.ok.inj isPolicy
    rw [anyIgnores_eq_true_iff asked]
    constructor
    · rintro ⟨file, member, takesOut⟩
      exact ⟨file, exists_mem_of_mapM areFiles file member, takesOut⟩
    · rintro ⟨file, ⟨path, member, isLoaded⟩, takesOut⟩
      obtain ⟨other, isOther, otherLoaded⟩ := exists_result_of_mapM areFiles path member
      obtain rfl := Except.ok.inj (isLoaded.symm.trans otherLoaded)
      exact ⟨file, isOther, takesOut⟩

/-- The ignore files of a scan take a path out if one of those that it obeys does. -/
theorem ignores_eq_true_iff (isPolicy : disk.ignorePolicy base nested = .ok policy)
    (asked : policy.ignores disk.directory text = .ok ignored) :
    ignored = true ↔ ∃ file, disk.Obeys base nested file ∧
      file.ignores disk.directory text = .ok true := by
  cases nested with
  | false => exact ignores_plain_iff isPolicy asked
  | true => exact ignores_nested_iff isPolicy asked

end Ignores

/-! ### What a scan takes -/

/-- Holds of names below a directory that nothing in the rules of a scan and in the ignore files
that it obeys leaves out. -/
structure Passes (disk : Disk) (base : Path) (rules : ScanRules) (names : List String) : Prop where
  notOutput : rules.outputDir ≠ "" → names.head? ≠ some rules.outputDir
  notBuilt : rules.skipBuildDirs = true → ∀ name ∈ names.dropLast, isBuildDirectory name = false
  notIgnored : ∀ file, disk.Obeys base rules.nestedGitignore file →
    file.ignores disk.directory (base ++ (⟨.relative, names⟩ : Path)).text ≠ .ok true
  included : rules.includePatterns ≠ [] → ∃ pattern ∈ rules.includePatterns,
    matchesWildcard pattern (⟨.relative, names⟩ : Path).text = true
  notExcluded : ∀ pattern ∈ rules.excludePatterns,
    matchesWildcard pattern (⟨.relative, names⟩ : Path).text = false

theorem skips_eq_false_iff {rules : ScanRules} {names : List String} :
    rules.skips ⟨.relative, names⟩ = false ↔
      (rules.outputDir ≠ "" → names.head? ≠ some rules.outputDir) ∧
      (rules.skipBuildDirs = true → ∀ name ∈ names.dropLast, isBuildDirectory name = false) := by
  simp [ScanRules.skips]

theorem admits_eq_true_iff {rules : ScanRules} {relative : Path} :
    rules.admits relative = true ↔
      (rules.includePatterns ≠ [] → ∃ pattern ∈ rules.includePatterns,
        matchesWildcard pattern relative.text = true) ∧
      ∀ pattern ∈ rules.excludePatterns, matchesWildcard pattern relative.text = false := by
  simp [ScanRules.admits, imp_iff_not_or]

theorem passes_iff {rules : ScanRules} {names : List String} : disk.Passes base rules names ↔
    rules.skips ⟨.relative, names⟩ = false ∧
      (∀ file, disk.Obeys base rules.nestedGitignore file →
        file.ignores disk.directory (base ++ (⟨.relative, names⟩ : Path)).text ≠ .ok true) ∧
      rules.admits ⟨.relative, names⟩ = true := by
  rw [skips_eq_false_iff, admits_eq_true_iff]
  constructor
  · rintro ⟨notOutput, notBuilt, notIgnored, included, notExcluded⟩
    exact ⟨⟨notOutput, notBuilt⟩, notIgnored, included, notExcluded⟩
  · rintro ⟨⟨notOutput, notBuilt⟩, notIgnored, included, notExcluded⟩
    exact ⟨notOutput, notBuilt, notIgnored, included, notExcluded⟩

/-- A scan that tests a path takes it if it leads to a file inside the directory, is no link, and
passes. -/
theorem kept_iff {rules : ScanRules} {policy : IgnorePolicy} {names : List String} {kept : Bool}
    (isPolicy : disk.ignorePolicy base rules.nestedGitignore = .ok policy)
    (included : disk.includes base rules policy (base ++ ⟨.relative, names⟩) = .ok kept) :
    kept = true ↔ disk.isFile (base ++ ⟨.relative, names⟩) = .ok true ∧
      disk.isLink (base ++ ⟨.relative, names⟩) = false ∧
      disk.staysWithin (base ++ ⟨.relative, names⟩) base = .ok true ∧
      disk.Passes base rules names := by
  obtain ⟨isFile, tested, included⟩ := bind_eq_ok_iff.1 included
  rw [tested]
  -- The tests in their order; where one fails, the scan asks no further and so does the rule.
  split at included
  · next isLeft =>
    obtain rfl := Except.ok.inj included
    refine iff_of_false Bool.false_ne_true ?_
    rintro ⟨isThere, noLink, _⟩
    rw [Except.ok.inj isThere, noLink] at isLeft
    cases isLeft
  · next isTaken =>
    obtain ⟨rfl, noLink⟩ : isFile = true ∧ disk.isLink (base ++ ⟨.relative, names⟩) = false := by
      simpa using isTaken
    obtain ⟨isWithin, within, included⟩ := bind_eq_ok_iff.1 included
    rw [noLink, within, eq_self, eq_self, true_and, true_and]
    cases isWithin with
    | false =>
      obtain rfl := Except.ok.inj included
      simp
    | true =>
      rw [relativeTo?_append_relative] at included
      rw [eq_self, true_and, passes_iff]
      dsimp only at included
      cases skipped : rules.skips ⟨.relative, names⟩ with
      | true =>
        rw [skipped] at included
        obtain rfl := Except.ok.inj included
        simp
      | false =>
        rw [skipped] at included
        obtain ⟨ignored, asked, included⟩ := bind_eq_ok_iff.1 included
        have isIgnored := ignores_eq_true_iff isPolicy asked
        cases ignored with
        | true =>
          obtain rfl := Except.ok.inj included
          obtain ⟨file, obeys, takesOut⟩ := isIgnored.1 rfl
          exact iff_of_false Bool.false_ne_true fun passes => passes.2.1 file obeys takesOut
        | false =>
          obtain rfl := Except.ok.inj included
          refine (and_iff_right rfl).trans (and_iff_right fun file obeys takesOut => ?_) |>.symm
          exact Bool.false_ne_true (isIgnored.2 ⟨file, obeys, takesOut⟩)

/-! ### Counting nested ones -/

/-- A scan that counts nested ignore files asks the same of a path as the scan that does not count
them, and also that none of them takes it out. -/
theorem kept_nested_iff {rules : ScanRules} {policy nestedPolicy : IgnorePolicy}
    {names : List String} {kept keptNested : Bool}
    (isPolicy : disk.ignorePolicy base false = .ok policy)
    (isNested : disk.ignorePolicy base true = .ok nestedPolicy)
    (included : disk.includes base { rules with nestedGitignore := false } policy
      (base ++ ⟨.relative, names⟩) = .ok kept)
    (includedNested : disk.includes base { rules with nestedGitignore := true } nestedPolicy
      (base ++ ⟨.relative, names⟩) = .ok keptNested) :
    keptNested = true ↔ kept = true ∧ ∀ ignoring, disk.Obeys base true ignoring →
      ignoring.ignores disk.directory (base ++ (⟨.relative, names⟩ : Path)).text ≠ .ok true := by
  rw [kept_iff isPolicy included, kept_iff isNested includedNested, passes_iff, passes_iff]
  constructor
  · rintro ⟨isFile, noLink, stays, notSkipped, notIgnored, admitted⟩
    exact ⟨⟨isFile, noLink, stays, notSkipped,
      fun file obeys => notIgnored file (Obeys.of_plain obeys), admitted⟩, notIgnored⟩
  · rintro ⟨⟨isFile, noLink, stays, notSkipped, _, admitted⟩, notIgnored⟩
    exact ⟨isFile, noLink, stays, notSkipped, notIgnored, admitted⟩

/-- A scan that counts nested ignore files finds files that the scan finds that does not count them,
in the same order: those that no ignore file below the directory takes out either. -/
theorem swiftFiles_nested (disk : Disk) (base : Path) (rules : ScanRules)
    (plain nested : List Path)
    (scanned : disk.swiftFiles base { rules with nestedGitignore := false } = .ok plain)
    (scannedNested : disk.swiftFiles base { rules with nestedGitignore := true } = .ok nested) :
    nested.Sublist plain ∧ ∀ file ∈ plain, file ∈ nested ↔
      ∀ ignoring, disk.Obeys base true ignoring →
        ignoring.ignores disk.directory file.text ≠ .ok true := by
  rcases swiftFiles_eq_ok_iff.1 scanned with
    ⟨noDirectory, rfl⟩ | ⟨isDirectory, policy, keep, isPolicy, passes, rfl⟩ <;>
  rcases swiftFiles_eq_ok_iff.1 scannedNested with
    ⟨noDirectory', rfl⟩ | ⟨isDirectory', policy', keep', isPolicy', passes', rfl⟩
  · simp
  · cases Except.ok.inj (noDirectory.symm.trans isDirectory')
  · cases Except.ok.inj (noDirectory'.symm.trans isDirectory)
  have kept : ∀ path ∈ disk.swiftPaths base, keep' path = true ↔ keep path = true ∧
      ∀ ignoring, disk.Obeys base true ignoring →
        ignoring.ignores disk.directory path.text ≠ .ok true := by
    intro path member
    have included := passes path member
    have includedNested := passes' path member
    obtain ⟨item, _, _, rfl⟩ := mem_swiftPaths_iff.1 member
    exact kept_nested_iff isPolicy isPolicy' included includedNested
  have isFiltered : sortBelow base ((disk.swiftPaths base).filter keep') =
      (sortBelow base ((disk.swiftPaths base).filter keep)).filter keep' := by
    rw [← sortBelow_filter, List.filter_filter]
    · congr 1
      refine List.filter_congr fun path member => ?_
      rw [Bool.eq_iff_iff, Bool.and_eq_true]
      exact (and_iff_left_of_imp fun isKept => ((kept path member).1 isKept).1).symm
    · intro path isPath other isOther same
      exact eq_of_sortKey_eq (List.mem_filter.1 isPath).1 (List.mem_filter.1 isOther).1 same
  rw [isFiltered]
  refine ⟨List.filter_sublist, fun file member => ?_⟩
  obtain ⟨inPaths, isKept⟩ := List.mem_filter.1 (List.mem_mergeSort.1 member)
  rw [List.mem_filter, and_iff_right member, kept file inPaths, and_iff_right isKept]

/-! ### A directory behind a link -/

/-- A scan takes a file of the directory unless the rules or the ignore files leave it out. -/
theorem includes_of_held {top : Location} {rules : ScanRules} {policy : IgnorePolicy}
    {names : List String} {content : Bytes} (isAbsolute : base.isAbsolute = true)
    (toTop : Leads disk.tree linkLimit (disk.origin base) base.names top)
    (held : disk.tree.entry? (top ++ names) = some (.file content)) (nonempty : names ≠ [])
    (checkedPath : checkPath (base ++ ⟨.relative, names⟩) = .ok ())
    (short : ∀ name ∈ names, name.utf8ByteSize ≤ nameLimit)
    (notSkipped : rules.skips ⟨.relative, names⟩ = false) {ignored : Bool}
    (asked : policy.ignores disk.directory (base ++ (⟨.relative, names⟩ : Path)).text =
      .ok ignored) :
    disk.includes base rules policy (base ++ ⟨.relative, names⟩) =
      .ok (!ignored && rules.admits ⟨.relative, names⟩) := by
  have noLink : ∀ target, Entry.file content ≠ .link target := by simp
  have isFile : disk.isFile (base ++ ⟨.relative, names⟩) = .ok true :=
    isFile_eq_true_iff.2 ⟨content, entry_of_held toTop held noLink checkedPath short⟩
  rw [includes, isFile, isLink_of_held toTop held noLink isAbsolute nonempty checkedPath short,
    staysWithin_of_held toTop held noLink short, relativeTo?_append_relative]
  simp only [bind, Except.bind, notSkipped, asked]
  cases ignored <;> rfl

/-- A free name of the directory leads to no file. -/
theorem isFile_child_of_free {top : Location} {name : String}
    (toTop : Leads disk.tree linkLimit (disk.origin base) base.names top)
    (isDirectory : disk.tree.entry? top = some .directory)
    (isName : IsFileName name ∧ name.utf8ByteSize ≤ nameLimit)
    (free : disk.tree.entry? (top ++ [name]) = none)
    (checked : checkPath (base.child name) = .ok ()) :
    disk.isFile (base.child name) = .ok false := by
  obtain ⟨left, further⟩ := toTop.walk_append [name]
  rw [FileTree.walk_cons disk.tree left [] isDirectory isName.1.not_skipped isName.1.not_up
    (by simp), if_neg (Nat.not_lt.2 isName.2), free] at further
  have isFree : disk.spot (base.child name) = .ok (.free (top ++ [name])) :=
    walkTo_eq_ok_iff.2 ⟨checked, further⟩
  rw [isFile, probe, entry, isFree]
  rfl

end Disk

namespace Layered

/-- A directory with an ignore file one level down and a link beside a file, and a link to it. -/
def disk : Disk where
  tree :=
    { entries := [(["App"], .directory), (["App", "A.swift"], .file []),
        (["App", "Copy.swift"], .link "A.swift"), (["App", "Views"], .directory),
        (["App", "Views", ".gitignore"], .file (encode "Card.swift\n")),
        (["App", "Views", "Card.swift"], .file []), (["Home"], .link "App")]
      distinct := by decide
      named := by decide
      rooted := by decide }
  directory := []
  home := []

/-- The link to the directory. -/
def base : Path :=
  Disk.pathOf ["Home"]

def first : Path :=
  base ++ ⟨.relative, ["A.swift"]⟩

def copy : Path :=
  base ++ ⟨.relative, ["Copy.swift"]⟩

def card : Path :=
  base ++ ⟨.relative, ["Views", "Card.swift"]⟩

def ignoring : IgnoreFile :=
  ⟨base.child "Views", [⟨"(^|[/])Card\\.swift$".toList, false⟩]⟩

theorem leads_base : Leads disk.tree linkLimit (disk.origin base) base.names ["App"] :=
  show Leads disk.tree (39 + 1) [] ["Home"] ["App"] from
    .follows (by decide) rfl (.enters (by decide) rfl (by simp) (.arrives 39 ["App"]))

theorem below_base : disk.below base = disk.tree.below ["App"] :=
  Disk.below_of_leads (by decide) leads_base

theorem isDirectory_base : disk.isDirectory base = .ok true :=
  Disk.isDirectory_eq_true_iff.2
    (Disk.entry_eq_ok_iff.2 ⟨by decide, ["App"], leads_base, rfl⟩)

theorem swiftPaths_base : disk.swiftPaths base = [first, copy, card] := by
  rw [Disk.swiftPaths, below_base]
  decide

theorem includes_copy {rules : ScanRules} {policy : IgnorePolicy} :
    disk.includes base rules policy copy = .ok false := by
  have leads : Leads disk.tree linkLimit (disk.origin copy) copy.names ["App", "A.swift"] :=
    show Leads disk.tree (38 + 2) [] ["Home", "Copy.swift"] ["App", "A.swift"] from
      .follows (by decide) rfl (.enters (by decide) rfl (by simp) (.follows (by decide) rfl
        (.enters (by decide) rfl (by simp) (.arrives 38 ["App", "A.swift"]))))
  have isThere : disk.entry copy = .ok (.file []) :=
    Disk.entry_eq_ok_iff.2 ⟨by decide, ["App", "A.swift"], leads, rfl⟩
  have isFile : disk.isFile copy = .ok true := Disk.isFile_eq_true_iff.2 ⟨[], isThere⟩
  have isLink : disk.isLink copy = true :=
    Disk.isLink_below rfl leads_base rfl isThere (by simp) rfl
  rw [Disk.includes, isFile, isLink]
  rfl

/-- A scan finds the two files, less the second one if the ignore files take it out. -/
theorem scanned {nested ignored : Bool} {policy : IgnorePolicy}
    (isPolicy : disk.ignorePolicy base nested = .ok policy)
    (askedFirst : policy.ignores [] first.text = .ok false)
    (askedCard : policy.ignores [] card.text = .ok ignored) :
    disk.swiftFiles base { nestedGitignore := nested } =
      .ok (if ignored then [first] else [first, card]) := by
  refine Disk.swiftFiles_eq_ok_iff.2 (.inr ⟨isDirectory_base, policy,
    fun path => path = first || path = card && !ignored, isPolicy, ?_, ?_⟩)
  · rw [swiftPaths_base]
    have isFirst := Disk.includes_of_held rfl leads_base rfl (by simp)
      (show Disk.checkPath first = .ok () by decide) (by decide)
      (show ScanRules.skips { nestedGitignore := nested } _ = false by
        cases nested <;> decide) askedFirst
    have isCard := Disk.includes_of_held rfl leads_base rfl (by simp)
      (show Disk.checkPath card = .ok () by decide) (by decide)
      (show ScanRules.skips { nestedGitignore := nested } _ = false by
        cases nested <;> decide) askedCard
    refine List.forall_mem_cons.2 ⟨isFirst.trans ?_, List.forall_mem_cons.2 ⟨includes_copy.trans ?_,
      List.forall_mem_singleton.2 (isCard.trans ?_)⟩⟩
    all_goals cases ignored <;> cases nested <;> decide
  · rw [swiftPaths_base]
    cases ignored with
    | true => exact (List.mergeSort_singleton first).symm
    | false => exact (List.mergeSort_of_pairwise (by decide)).symm

theorem isFile_top : disk.isFile (base.child ".gitignore") = .ok false :=
  Disk.isFile_child_of_free leads_base rfl (by decide) rfl (by decide)

theorem entry_inner : disk.entry ((base.child "Views").child ".gitignore") =
    .ok (.file (encode "Card.swift\n")) :=
  show disk.entry (base ++ ⟨.relative, ["Views", ".gitignore"]⟩) = _ from
    Disk.entry_of_held leads_base rfl (by simp) (by decide) (by decide)

theorem load_inner :
    IgnoreFile.load disk ((base.child "Views").child ".gitignore") = .ok ignoring := by
  have isText : decode? (encode "Card.swift\n") = some "Card.swift\n" := by decide
  have areRules : IgnoreFile.rulesOf (splitLines (universalBreaks "Card.swift\n".toList)) =
      .ok ignoring.rules := by
    decide +kernel
  refine bind_eq_ok_iff.2 ⟨_, Disk.read_eq_ok_iff.2 entry_inner, ?_⟩
  rw [isText]
  exact bind_eq_ok_iff.2 ⟨_, areRules, rfl⟩

theorem ignorePolicy_plain : disk.ignorePolicy base false = .ok .none := by
  rw [Disk.ignorePolicy, if_neg Bool.false_ne_true, isFile_top]
  rfl

theorem ignorePolicy_nested : disk.ignorePolicy base true = .ok (.nested [ignoring]) := by
  have candidates : (base :: (disk.below base).filterMap fun item =>
      if item.2 = .directory then some (base ++ ⟨.relative, item.1⟩) else none).map
        (·.child ".gitignore") =
      [base.child ".gitignore", (base.child "Views").child ".gitignore"] := by
    rw [below_base]
    decide
  have isInner := Disk.isFile_eq_true_iff.2 ⟨_, entry_inner⟩
  have arePaths : disk.ignorePaths base = .ok [(base.child "Views").child ".gitignore"] := by
    rw [Disk.ignorePaths, candidates]
    refine bind_eq_ok_iff.2 ⟨[(base.child "Views").child ".gitignore"], ?_,
      congrArg Except.ok (List.mergeSort_singleton _)⟩
    simp only [List.filterM, List.filterAuxM, isFile_top, isInner]
    rfl
  refine bind_eq_ok_iff.2 ⟨_, arePaths, ?_⟩
  refine bind_eq_ok_iff.2 ⟨[ignoring], ?_, rfl⟩
  rw [List.mapM_cons, load_inner]
  rfl

theorem scanned_plain : disk.swiftFiles base { nestedGitignore := false } = .ok [first, card] :=
  scanned ignorePolicy_plain rfl rfl

theorem scanned_nested : disk.swiftFiles base { nestedGitignore := true } = .ok [first] :=
  have askedFirst : (IgnorePolicy.nested [ignoring]).ignores [] first.text = .ok false := by
    decide
  have askedCard : (IgnorePolicy.nested [ignoring]).ignores [] card.text = .ok true := by
    decide +kernel
  scanned ignorePolicy_nested askedFirst askedCard

end Layered

namespace Disk

/-- With nested ignore files the scan behind the link leaves out what one of them names. -/
theorem swiftFiles_nested_layered :
    Layered.disk.swiftFiles Layered.base { nestedGitignore := false } =
        .ok [Layered.first, Layered.card] ∧
      Layered.disk.swiftFiles Layered.base { nestedGitignore := true } = .ok [Layered.first] ∧
      [Layered.first].Sublist [Layered.first, Layered.card] ∧
      ¬ ∀ ignoring, Layered.disk.Obeys Layered.base true ignoring →
        ignoring.ignores Layered.disk.directory Layered.card.text ≠ .ok true := by
  obtain ⟨sublist, exact⟩ := swiftFiles_nested Layered.disk Layered.base {} _ _
    Layered.scanned_plain Layered.scanned_nested
  refine ⟨Layered.scanned_plain, Layered.scanned_nested, sublist, fun kept => ?_⟩
  exact absurd ((exact Layered.card (by simp)).2 kept) (by decide)

end Disk

end SwiftSlice

/-
What a scan leaves out on account of the output directory. The writer places the
output against the root; the scan knows no root and passes over whatever bears the
first name of the output directory right below the directory that it scans. So the
scan finds what it would find without that rule, in the same order, less what lies
below that name: all of it if the output is that very directory, more than the
output if the output lies deeper, and something else if the scanned directory is
not the root.
-/

import SwiftSlice.Proofs.Scanning
import SwiftSlice.Slice.Sources

namespace SwiftSlice

open Text

/-! ### Sorting and leaving out -/

namespace Disk

variable {disk : Disk} {base : Path}

/-- The text by which a path below a base is sorted. -/
def sortKey (base path : Path) : String :=
  ((path.relativeTo? base).getD path).text

theorem sortKey_append_relative (base : Path) (names : List String) :
    sortKey base (base ++ ⟨.relative, names⟩) = (⟨.relative, names⟩ : Path).text := by
  rw [sortKey, relativeTo?_append_relative]
  rfl

theorem sortBelow_eq (base : Path) (paths : List Path) : sortBelow base paths =
    paths.mergeSort fun left right => !decide (sortKey base right < sortKey base left) := rfl

theorem pairwise_sortBelow (base : Path) (paths : List Path) :
    (sortBelow base paths).Pairwise fun left right => sortKey base left ≤ sortKey base right := by
  have ordered : ∀ left right : Path, (!decide (sortKey base right < sortKey base left)) = true ↔
      sortKey base left ≤ sortKey base right := by
    intro left right
    rw [Bool.not_eq_true', decide_eq_false_iff_not, String.not_lt]
  rw [sortBelow_eq]
  refine (List.pairwise_mergeSort (fun first second third => ?_) (fun first second => ?_) paths).imp
    (ordered _ _).1
  · rw [ordered, ordered, ordered]
    exact String.le_trans
  · rw [Bool.or_eq_true, ordered, ordered]
    exact String.le_total _ _

/-- Leaving paths out before sorting or after it is the same, if no two are sorted by one text. -/
theorem sortBelow_filter {paths : List Path} (keep : Path → Bool)
    (apart : ∀ path ∈ paths, ∀ other ∈ paths, sortKey base path = sortKey base other →
      path = other) :
    sortBelow base (paths.filter keep) = (sortBelow base paths).filter keep := by
  refine List.Perm.eq_of_pairwise ?_ (pairwise_sortBelow base _)
    ((pairwise_sortBelow base paths).filter keep)
    ((List.mergeSort_perm _ _).trans ((List.mergeSort_perm paths _).filter keep).symm)
  intro path other isPath isOther below above
  exact apart path (List.mem_filter.1 (List.mem_mergeSort.1 isPath)).1 other
    (List.mem_mergeSort.1 (List.mem_filter.1 isOther).1) (String.le_antisymm below above)

/-- What lies below a path is reached by the names of entries. -/
theorem isNamed_of_mem_below {item : Location × Entry} (member : item ∈ disk.below base) :
    IsNamed item.1 := by
  rw [Disk.below] at member
  split at member
  · next location _ =>
    have named := IsNamed.of_entry? (FileTree.mem_below_iff.1 member).2
    exact fun name inItem => named name (List.mem_append_right location inItem)
  · exact absurd member List.not_mem_nil

/-- The paths that a scan looks at are sorted by different texts. -/
theorem eq_of_sortKey_eq {path other : Path} (isPath : path ∈ disk.swiftPaths base)
    (isOther : other ∈ disk.swiftPaths base) (same : sortKey base path = sortKey base other) :
    path = other := by
  obtain ⟨item, inBelow, _, rfl⟩ := mem_swiftPaths_iff.1 isPath
  obtain ⟨otherItem, otherInBelow, _, rfl⟩ := mem_swiftPaths_iff.1 isOther
  rw [sortKey_append_relative, sortKey_append_relative] at same
  have sameNames : item.1 = otherItem.1 := Path.names_eq_of_text_eq (isNamed_of_mem_below inBelow)
    (isNamed_of_mem_below otherInBelow) same
  rw [sameNames]

end Disk

/-! ### Inside a directory -/

namespace Path

/-- Holds of a path at or below a directory. -/
def isInside (path directory : Path) : Bool :=
  (path.relativeTo? directory).isSome

theorem isInside_iff {path directory : Path} : path.isInside directory = true ↔
    path.anchor = directory.anchor ∧ directory.names <+: path.names := by
  rw [isInside, relativeTo?]
  split
  · next isBelow => simpa using isBelow
  · next notBelow => simpa using notBelow

theorem isInside_trans {path directory top : Path} (isBelow : path.isInside directory = true)
    (isAbove : directory.isInside top = true) : path.isInside top = true := by
  obtain ⟨sameAnchor, onTheWay⟩ := isInside_iff.1 isBelow
  obtain ⟨topAnchor, topOnTheWay⟩ := isInside_iff.1 isAbove
  exact isInside_iff.2 ⟨sameAnchor.trans topAnchor, topOnTheWay.trans onTheWay⟩

/-- What a base leads to through some names is inside the directory of the first of them. -/
theorem isInside_child_iff {base : Path} {names : List String} {name : String} :
    (base ++ (⟨.relative, names⟩ : Path)).isInside (base.child name) = true ↔
      names.head? = some name := by
  rw [isInside_iff, Disk.append_relative, child, List.prefix_append_right_inj]
  refine (and_iff_right rfl).trans ?_
  cases names with
  | nil => simp
  | cons first rest => simp [List.cons_prefix_cons, eq_comm]

end Path

/-! ### The rule -/

/-- Whether the rule on the output directory leaves out what some names lead to. -/
def ScanRules.namesOutput (rules : ScanRules) (names : List String) : Bool :=
  rules.outputDir != "" && names.head? == some rules.outputDir

namespace Disk

variable {disk : Disk} {base : Path} {rules : ScanRules}

theorem skips_eq (rules : ScanRules) (names : List String) :
    rules.skips ⟨.relative, names⟩ =
      (rules.namesOutput names || { rules with outputDir := "" }.skips ⟨.relative, names⟩) := by
  simp [ScanRules.skips, ScanRules.namesOutput]

/-- A scan with the rule takes what it takes without the rule, unless the rule leaves it out. -/
theorem includes_of_plain {policy : IgnorePolicy} {names : List String} {kept : Bool}
    (included : disk.includes base { rules with outputDir := "" } policy
      (base ++ ⟨.relative, names⟩) = .ok kept) :
    disk.includes base rules policy (base ++ ⟨.relative, names⟩) =
      .ok (kept && !rules.namesOutput names) := by
  obtain ⟨isFile, tested, included⟩ := bind_eq_ok_iff.1 included
  refine bind_eq_ok_iff.2 ⟨isFile, tested, ?_⟩
  split at included
  · next isLeft =>
    obtain rfl := Except.ok.inj included
    rw [if_pos isLeft]
    rfl
  · next isTaken =>
    rw [if_neg isTaken]
    obtain ⟨isWithin, within, included⟩ := bind_eq_ok_iff.1 included
    refine bind_eq_ok_iff.2 ⟨isWithin, within, ?_⟩
    cases isWithin with
    | false =>
      obtain rfl := Except.ok.inj included
      rfl
    | true =>
      rw [relativeTo?_append_relative] at included ⊢
      dsimp only at included ⊢
      rw [skips_eq]
      cases rules.namesOutput names with
      | true => rw [Bool.not_true, Bool.and_false]; rfl
      | false => rw [Bool.not_false, Bool.and_true]; exact included

/-- The rule leaves out what lies in the directory with the name of the output. -/
theorem namesOutput_eq {item : Location × Entry} (inBelow : item ∈ disk.below base) :
    rules.namesOutput item.1 =
      (base ++ (⟨.relative, item.1⟩ : Path)).isInside (base.child rules.outputDir) := by
  rw [Bool.eq_iff_iff, Path.isInside_child_iff, ScanRules.namesOutput, Bool.and_eq_true,
    bne_iff_ne, beq_iff_eq]
  refine and_iff_right_of_imp fun isFirst isEmpty => ?_
  have isName := isNamed_of_mem_below inBelow _ (List.mem_of_mem_head? isFirst)
  exact isName.1 isEmpty

/-- A scan with the rule finds what it finds without the rule, in the same order, less what lies in
the directory with the name of the output. -/
theorem swiftFiles_of_plain {found : List Path}
    (scanned : disk.swiftFiles base { rules with outputDir := "" } = .ok found) :
    disk.swiftFiles base rules =
      .ok (found.filter fun path => !path.isInside (base.child rules.outputDir)) := by
  rcases swiftFiles_eq_ok_iff.1 scanned with
    ⟨noDirectory, rfl⟩ | ⟨isDirectory, policy, keep, isPolicy, passes, rfl⟩
  · exact swiftFiles_eq_ok_iff.2 (.inl ⟨noDirectory, rfl⟩)
  · refine swiftFiles_eq_ok_iff.2 (.inr ⟨isDirectory, policy,
      fun path => !path.isInside (base.child rules.outputDir) && keep path, isPolicy, ?_, ?_⟩)
    · intro path member
      have included := passes path member
      obtain ⟨item, inBelow, _, rfl⟩ := mem_swiftPaths_iff.1 member
      rw [includes_of_plain included, namesOutput_eq inBelow, Bool.and_comm]
    · rw [← sortBelow_filter, List.filter_filter]
      intro path isPath other isOther same
      exact eq_of_sortKey_eq (List.mem_filter.1 isPath).1 (List.mem_filter.1 isOther).1 same

/-! ### The output directory -/

/-- An output directory without links on the way is placed where it is written. -/
theorem placeOutput_of_isResolved {root : Path} {names : List String} {outputDir : String}
    (isRoot : disk.tree.IsResolved root) (parsed : Path.parse outputDir = ⟨.relative, names⟩)
    (isOutput : disk.tree.IsResolved (root ++ ⟨.relative, names⟩)) (nonempty : outputDir ≠ "")
    (notHome : beginsWith outputDir "~" = false) :
    Config.placeOutput disk root outputDir = .ok (root ++ ⟨.relative, names⟩) := by
  rw [Config.placeOutput, if_neg nonempty,
    if_neg (by rw [notHome, parsed]; exact Bool.false_ne_true), resolve_of_isResolved isRoot, parsed]
  refine bind_eq_ok_iff.2 ⟨root, rfl, bind_eq_ok_iff.2 ⟨_, resolve_of_isResolved isOutput, ?_⟩⟩
  rw [relativeTo?_append_relative]
  rfl

/-- Below a root without links on the way to the output, the output lies in the directory with its
first name, and is that directory if it has one name only. -/
theorem isInside_outputName {root sources output : Path} {config : Config}
    (accepted : Config.placeOutput disk root config.outputDir = .ok output)
    (isRoot : disk.resolve root = .ok sources)
    (unlinked : disk.tree.IsResolved (sources ++ Path.parse config.outputDir))
    (named : (Path.parse config.outputDir).names ≠ []) :
    output.isInside (sources.child config.outputName) = true ∧
      ((Path.parse config.outputDir).names.length = 1 →
        output = sources.child config.outputName) := by
  obtain ⟨isRelative, top, isTop, isPlace, _⟩ := of_placeOutput accepted
  obtain rfl : sources = top := Except.ok.inj (isRoot.symm.trans isTop)
  obtain rfl := Except.ok.inj ((resolve_of_isResolved unlinked).symm.trans isPlace)
  have isOutputName : config.outputName = (Path.parse config.outputDir).names.headD "" := by
    rw [Config.outputName, Path.parts, isRelative]
    rfl
  have anchored : (Path.parse config.outputDir).anchor = .relative := by
    simpa [Path.isAbsolute] using isRelative
  rw [isOutputName]
  generalize Path.parse config.outputDir = given at anchored named ⊢
  obtain ⟨anchor, names⟩ := given
  obtain rfl : anchor = .relative := anchored
  cases names with
  | nil => exact absurd rfl named
  | cons first rest =>
    refine ⟨Path.isInside_child_iff.2 rfl, fun single => ?_⟩
    obtain rfl : rest = [] := List.length_eq_zero_iff.1 (Nat.succ.inj single)
    rfl

/-- Of what a scan finds without the rule on the output directory, the files of a project are those
that do not lie in the directory with the first name of the output, right below the scanned one: in
the same order, none of those in that directory, and all of those that are neither there nor in the
output itself. Where that directory holds the output, no file of the output is found; where it is
the output, the files are exactly those outside of the output. Both are so if the root is scanned
and no link is on the way to the output, the latter if the output has one name. -/
theorem candidateFiles_less_outputName (disk : Disk) (root sources output : Path) (config : Config)
    (found : List Path) (accepted : Config.placeOutput disk root config.outputDir = .ok output)
    (plain : disk.swiftFiles sources { config.scanRules with outputDir := "" } = .ok found) :
    ∃ files, disk.candidateFiles (some sources) config = .ok files ∧
      files.Sublist found ∧
      (∀ file ∈ found, file.isInside (sources.child config.outputName) = false →
        file.isInside output = false → file ∈ files) ∧
      (∀ file ∈ files, file.isInside (sources.child config.outputName) = false) ∧
      (output.isInside (sources.child config.outputName) = true →
        ∀ file ∈ files, file.isInside output = false) ∧
      (output = sources.child config.outputName →
        files = found.filter fun file => !file.isInside output) ∧
      (disk.resolve root = .ok sources →
        disk.tree.IsResolved (sources ++ Path.parse config.outputDir) →
        (Path.parse config.outputDir).names ≠ [] →
        output.isInside (sources.child config.outputName) = true ∧
          ((Path.parse config.outputDir).names.length = 1 →
            output = sources.child config.outputName)) := by
  have scanned : disk.candidateFiles (some sources) config = .ok (found.filter fun file =>
      !file.isInside (sources.child config.outputName)) := swiftFiles_of_plain plain
  have outside : ∀ file ∈ found.filter fun file => !file.isInside (sources.child config.outputName),
      file.isInside (sources.child config.outputName) = false := by
    intro file member
    simpa using (List.mem_filter.1 member).2
  refine ⟨_, scanned, List.filter_sublist, ?_, outside, ?_, ?_, isInside_outputName accepted⟩
  · intro file member isOutside _
    exact List.mem_filter.2 ⟨member, by simpa using isOutside⟩
  · intro holdsOutput file member
    refine Bool.eq_false_iff.2 fun isInside => ?_
    exact Bool.false_ne_true
      ((outside file member).symm.trans (Path.isInside_trans isInside holdsOutput))
  · rintro rfl
    rfl

end Disk

namespace Generated

/-- A directory with one file in it. -/
def disk : Disk where
  tree :=
    { entries := [(["Generated"], .directory), (["Generated", "Card.swift"], .file [])]
      distinct := by decide
      named := by decide
      rooted := by decide }
  directory := []
  home := []

def card : Path :=
  Disk.pathOf ["Generated", "Card.swift"]

theorem below_root : disk.tree.below [] =
    [(["Generated"], .directory), (["Generated", "Card.swift"], .file [])] := by
  decide

theorem isPlain_root : Disk.IsPlain disk.tree [] where
  linksAside := by simp [disk]
  isDirectory := rfl
  noIgnoreFile := by decide
  reachable := by decide
  swiftFile := by
    rw [below_root]
    intro item member isSwift
    rcases List.mem_cons.1 member with rfl | isCard
    · exact absurd isSwift (by decide)
    · exact ⟨[], by rw [List.mem_singleton.1 isCard]⟩

/-- Without the rule a scan of the root finds the file. -/
theorem swiftFiles_plain (config : Config)
    (isDefault : config = { outputDir := config.outputDir }) :
    disk.swiftFiles (Disk.pathOf []) { config.scanRules with outputDir := "" } = .ok [card] := by
  rw [isDefault]
  have found : disk.swiftFiles (Disk.pathOf [])
      { Config.scanRules { outputDir := config.outputDir } with outputDir := "" } = _ :=
    isPlain_root.swiftFiles_eq rfl
  rw [below_root] at found
  exact found.trans (congrArg Except.ok (List.mergeSort_singleton card))

/-- The output directory is accepted, with one name or with two. -/
theorem placeOutput_root {names : List String} {outputDir : String}
    (parsed : Path.parse outputDir = ⟨.relative, names⟩)
    (named : ∀ name ∈ names, IsFileName name ∧ name.utf8ByteSize ≤ nameLimit)
    (nonempty : outputDir ≠ "") (notHome : beginsWith outputDir "~" = false) :
    Config.placeOutput disk (Disk.pathOf []) outputDir = .ok (Disk.pathOf names) :=
  Disk.placeOutput_of_isResolved (FileTree.IsResolved.root disk.tree) parsed
    (Disk.isResolved_of_linkFree (by simp [disk]) named) nonempty notHome

end Generated

namespace Disk

/-- With the directory itself as the output its file is left out. -/
theorem candidateFiles_less_outputName_generated :
    Config.placeOutput Generated.disk (pathOf []) "Generated" = .ok (pathOf ["Generated"]) ∧
      Generated.disk.swiftFiles (pathOf []) { Config.scanRules { outputDir := "Generated" } with
        outputDir := "" } = .ok [Generated.card] ∧
      ∃ files, Generated.disk.candidateFiles (some (pathOf [])) { outputDir := "Generated" } =
          .ok files ∧
        files = [Generated.card].filter fun file => !file.isInside (pathOf ["Generated"]) := by
  have accepted : Config.placeOutput Generated.disk (pathOf []) "Generated" =
      .ok (pathOf ["Generated"]) :=
    Generated.placeOutput_root (by decide +kernel) (by decide +kernel) (by decide)
      (by decide +kernel)
  have plain := Generated.swiftFiles_plain { outputDir := "Generated" } rfl
  obtain ⟨files, scanned, _, _, _, _, isExact, _⟩ := candidateFiles_less_outputName Generated.disk
    (pathOf []) (pathOf []) (pathOf ["Generated"]) { outputDir := "Generated" } [Generated.card]
    accepted plain
  exact ⟨accepted, plain, files, scanned, isExact (by decide +kernel)⟩

/-- The files of a project are not always those outside of the output: with an output directory
below another one, a file beside the output is left out with it. -/
theorem candidateFiles_not_less_output :
    ¬ ∀ (disk : Disk) (root sources output : Path) (config : Config) (found : List Path),
      Config.placeOutput disk root config.outputDir = .ok output →
      disk.tree.IsResolved root → disk.tree.IsResolved sources →
      disk.tree.entry? sources.names = some .directory →
      (root.names <+: sources.names ∨ sources.names <+: root.names) →
      disk.swiftFiles sources { config.scanRules with outputDir := "" } = .ok found →
      disk.candidateFiles (some sources) config =
        .ok (found.filter fun file => !file.isInside output) := by
  intro less
  have isRoot := FileTree.IsResolved.root Generated.disk.tree
  have accepted : Config.placeOutput Generated.disk (pathOf []) "Generated/preview" =
      .ok (pathOf ["Generated", "preview"]) :=
    Generated.placeOutput_root (by decide +kernel) (by decide +kernel) (by decide)
      (by decide +kernel)
  have plain := Generated.swiftFiles_plain { outputDir := "Generated/preview" } rfl
  have claimed := less Generated.disk (pathOf []) (pathOf []) (pathOf ["Generated", "preview"])
    { outputDir := "Generated/preview" } [Generated.card] accepted isRoot isRoot rfl
    (.inl (List.prefix_refl _)) plain
  have scanned : Generated.disk.candidateFiles (some (pathOf []))
      { outputDir := "Generated/preview" } = _ := swiftFiles_of_plain plain
  have differ : ([Generated.card].filter fun file => !file.isInside ((pathOf []).child
      (Config.outputName { outputDir := "Generated/preview" }))) ≠
      [Generated.card].filter fun file => !file.isInside (pathOf ["Generated", "preview"]) := by
    decide +kernel
  exact differ (Except.ok.inj (scanned.symm.trans claimed))

end Disk

end SwiftSlice

/-
A check finds every difference, and nothing else. On one side are the files below
a directory, where a link to a file counts and a link to a directory is not
entered; on the other side are the files of the slice that is rendered anew. Each
side gives a content, or none, to every way down from the directory. The three
lists of a check divide the ways on which the sides differ by what the sides have
there, and all three are empty exactly if the sides are the same.

The one thing that stops a check, once the slice is cut, is a link below the
directory that cannot even be asked for a file, since it is too long to follow.
-/

import SwiftSlice.Proofs.OutputDirectory
import SwiftSlice.Proofs.Reproduction

namespace SwiftSlice

open Text

/-! ### The two sides -/

/-- The content of the file that some names lead to below a directory. They may not lead through a
link, but what they lead to may be a link to a file. -/
def Disk.fileBelow? (disk : Disk) (directory : Path) (names : Location) : Option Bytes :=
  if names ∈ (disk.below directory).map Prod.fst then
    (disk.read (directory ++ ⟨.relative, names⟩)).toOption
  else none

/-- The content of the file of a slice that some names lead to. -/
def Slice.file? (slice : Slice) : Location → Option Bytes
  | [name] => slice.artifacts.lookup name
  | _ => none

/-- Holds of an ascending list of the relative paths that some names spell. -/
def ListsPaths (texts : List String) (chosen : Location → Prop) : Prop :=
  texts.Pairwise (· < ·) ∧
    ∀ text, text ∈ texts ↔ ∃ names, chosen names ∧ (⟨.relative, names⟩ : Path).text = text

/-- Holds of the difference between two sides that give a content or none to all names: each list
has its share of the names on which they differ, sorted, no name is in two of the lists, none is left
out, and all three are empty exactly if the sides agree. -/
structure Difference.IsExact (difference : Difference) (held rendered : Location → Option Bytes) :
    Prop where
  missing : ListsPaths difference.missing fun names => held names ≠ none ∧ rendered names = none
  extra : ListsPaths difference.extra fun names => rendered names ≠ none ∧ held names = none
  mismatches : ListsPaths difference.mismatches fun names =>
    held names ≠ none ∧ rendered names ≠ none ∧ held names ≠ rendered names
  disjoint : difference.missing.Disjoint difference.extra ∧
    difference.missing.Disjoint difference.mismatches ∧
    difference.extra.Disjoint difference.mismatches
  mem_lists_iff : ∀ text,
    text ∈ difference.missing ∨ text ∈ difference.extra ∨ text ∈ difference.mismatches ↔
      ∃ names, held names ≠ rendered names ∧ (⟨.relative, names⟩ : Path).text = text
  isNone_iff : difference.isNone = true ↔ ∀ names, held names = rendered names

/-! ### Lists of paths -/

theorem Difference.isNone_iff_not_mem (difference : Difference) : difference.isNone = true ↔
    ∀ text, ¬ (text ∈ difference.missing ∨ text ∈ difference.extra ∨
      text ∈ difference.mismatches) := by
  simp only [isNone, Bool.and_eq_true, List.isEmpty_iff, List.eq_nil_iff_forall_not_mem, not_or,
    forall_and, and_assoc]

section Lists

variable {chosen other : Location → Prop} {texts others : List String}

/-- Lists of different paths have no text in common. -/
theorem ListsPaths.disjoint (lists : ListsPaths texts chosen) (listsOther : ListsPaths others other)
    (named : ∀ names, chosen names → IsNamed names) (otherNamed : ∀ names, other names → IsNamed names)
    (apart : ∀ names, chosen names → ¬ other names) : texts.Disjoint others := by
  intro text inTexts inOthers
  obtain ⟨names, isChosen, spells⟩ := (lists.2 text).1 inTexts
  obtain ⟨otherNames, isOther, otherSpells⟩ := (listsOther.2 text).1 inOthers
  have same : names = otherNames := Path.names_eq_of_text_eq (named names isChosen)
    (otherNamed otherNames isOther) (spells.trans otherSpells.symm)
  exact apart names isChosen (same ▸ isOther)

/-- Among names that entries may have, the listed ones are those that were chosen. -/
theorem mem_text_iff {set : NameSet} (lists : ∀ text, text ∈ set ↔
      ∃ names, chosen names ∧ (⟨.relative, names⟩ : Path).text = text)
    (named : ∀ names, chosen names → IsNamed names) {names : Location} (isNamed : IsNamed names) :
    (⟨.relative, names⟩ : Path).text ∈ set ↔ chosen names := by
  rw [lists]
  refine ⟨?_, fun isChosen => ⟨names, isChosen, rfl⟩⟩
  rintro ⟨others, isChosen, spells⟩
  obtain rfl : others = names := Path.names_eq_of_text_eq (named others isChosen) isNamed spells
  exact isChosen

/-- What one set has and another lacks is listed by what was chosen for the first only. -/
theorem listsPaths_diff {left right : NameSet} (lists : ∀ text, text ∈ left ↔
      ∃ names, chosen names ∧ (⟨.relative, names⟩ : Path).text = text)
    (listsOther : ∀ text, text ∈ right ↔
      ∃ names, other names ∧ (⟨.relative, names⟩ : Path).text = text)
    (named : ∀ names, chosen names → IsNamed names) (otherNamed : ∀ names, other names → IsNamed names) :
    ListsPaths (left \ right).toList fun names => chosen names ∧ ¬ other names := by
  refine ⟨(left \ right).ascending, fun text => ?_⟩
  rw [NameSet.mem_toList, NameSet.mem_diff, lists text]
  constructor
  · rintro ⟨⟨names, isChosen, rfl⟩, absent⟩
    have notOther := mt (mem_text_iff listsOther otherNamed (named names isChosen)).2 absent
    exact ⟨names, ⟨isChosen, notOther⟩, rfl⟩
  · rintro ⟨names, ⟨isChosen, notOther⟩, rfl⟩
    exact ⟨⟨names, isChosen, rfl⟩,
      mt (mem_text_iff listsOther otherNamed (named names isChosen)).1 notOther⟩

end Lists

/-- Three lists with their shares of the names are the exact difference. -/
theorem Difference.isExact_of_lists {difference : Difference}
    {held rendered : Location → Option Bytes}
    (named : ∀ names, held names ≠ none ∨ rendered names ≠ none → IsNamed names)
    (missing : ListsPaths difference.missing fun names => held names ≠ none ∧ rendered names = none)
    (extra : ListsPaths difference.extra fun names => rendered names ≠ none ∧ held names = none)
    (mismatches : ListsPaths difference.mismatches fun names =>
      held names ≠ none ∧ rendered names ≠ none ∧ held names ≠ rendered names) :
    difference.IsExact held rendered := by
  have listed : ∀ text,
      text ∈ difference.missing ∨ text ∈ difference.extra ∨ text ∈ difference.mismatches ↔
        ∃ names, held names ≠ rendered names ∧ (⟨.relative, names⟩ : Path).text = text := by
    intro text
    rw [missing.2, extra.2, mismatches.2, ← exists_or, ← exists_or]
    refine exists_congr fun names => ?_
    rw [← or_and_right, ← or_and_right]
    refine and_congr_left' ?_
    dsimp only
    cases held names <;> cases rendered names <;> simp
  refine ⟨missing, extra, mismatches, ⟨?_, ?_, ?_⟩, listed, ?_⟩
  · exact missing.disjoint extra (fun names has => named names (.inl has.1))
      (fun names has => named names (.inr has.1)) fun names has lacks => has.1 lacks.2
  · exact missing.disjoint mismatches (fun names has => named names (.inl has.1))
      (fun names has => named names (.inl has.1)) fun names lacks has => has.2.1 lacks.2
  · exact extra.disjoint mismatches (fun names has => named names (.inr has.1))
      (fun names has => named names (.inl has.1)) fun names lacks has => has.1 lacks.2
  · rw [difference.isNone_iff_not_mem]
    simp only [listed, not_exists, not_and]
    refine ⟨fun none names => ?_, fun same text names differs => absurd (same names) differs⟩
    exact by_contra fun differs => none _ names differs rfl

/-! ### The files that are found -/

namespace Disk

variable {disk : Disk} {directory : Path}

theorem fileBelow?_eq_some_iff {names : Location} {content : Bytes} :
    disk.fileBelow? directory names = some content ↔
      names ∈ (disk.below directory).map Prod.fst ∧
        disk.entry (directory ++ ⟨.relative, names⟩) = .ok (.file content) := by
  rw [fileBelow?, ← read_eq_ok_iff]
  by_cases isBelow : names ∈ (disk.below directory).map Prod.fst
  · rw [if_pos isBelow, and_iff_right isBelow]
    cases disk.read (directory ++ ⟨.relative, names⟩) <;> simp [Except.toOption]
  · rw [if_neg isBelow]
    exact iff_of_false (Option.some_ne_none content).symm fun found => isBelow found.1

theorem fileBelow?_ne_none_iff {names : Location} : disk.fileBelow? directory names ≠ none ↔
    names ∈ (disk.below directory).map Prod.fst ∧
      disk.isFile (directory ++ ⟨.relative, names⟩) = .ok true := by
  simp only [Option.ne_none_iff_exists', fileBelow?_eq_some_iff, exists_and_left,
    isFile_eq_true_iff]

end Disk

namespace Workspace

variable {disk : Disk} {directory : Path}

/-- The files below a directory can be listed if each entry can be asked whether it is one. -/
theorem exists_filesBelow_iff : (∃ found, filesBelow disk directory = .ok found) ↔
    ∀ item ∈ disk.below directory,
      ∃ answer, disk.isFile (directory ++ ⟨.relative, item.1⟩) = .ok answer := by
  rw [filesBelow]
  constructor
  · rintro ⟨found, isFound⟩ item member
    obtain ⟨files, filtered, _⟩ := bind_eq_ok_iff.1 isFound
    obtain ⟨keep, tested, _⟩ := exists_keep_of_filterM filtered
    exact ⟨_, tested _ (List.mem_map_of_mem member)⟩
  · intro asked
    have tested : ∀ relative ∈ (disk.below directory).map fun item => (⟨.relative, item.1⟩ : Path),
        disk.isFile (directory ++ relative) =
          .ok ((disk.isFile (directory ++ relative)).toOption.getD false) := by
      intro relative member
      obtain ⟨item, inBelow, rfl⟩ := List.mem_map.1 member
      obtain ⟨answer, isAnswer⟩ := asked item inBelow
      rw [isAnswer]
      rfl
    exact ⟨_, bind_eq_ok_iff.2 ⟨_, filterM_of_tested tested, rfl⟩⟩

/-- The files that are found are those with a content. -/
theorem mem_filesBelow_iff {found : NameSet} (isFound : filesBelow disk directory = .ok found)
    (text : String) : text ∈ found ↔
      ∃ names, disk.fileBelow? directory names ≠ none ∧ (⟨.relative, names⟩ : Path).text = text := by
  rw [filesBelow] at isFound
  obtain ⟨files, filtered, isFound⟩ := bind_eq_ok_iff.1 isFound
  obtain ⟨keep, tested, rfl⟩ := exists_keep_of_filterM filtered
  obtain rfl := Except.ok.inj isFound
  simp only [NameSet.mem_ofList, List.mem_map, List.mem_filter, Disk.fileBelow?_ne_none_iff]
  constructor
  · rintro ⟨_, ⟨⟨item, inBelow, rfl⟩, kept⟩, spells⟩
    refine ⟨item.1, ⟨⟨item, inBelow, rfl⟩, ?_⟩, spells⟩
    rw [tested _ (List.mem_map_of_mem inBelow), kept]
  · rintro ⟨_, ⟨⟨item, inBelow, rfl⟩, isFile⟩, spells⟩
    refine ⟨⟨.relative, item.1⟩, ⟨⟨item, inBelow, rfl⟩, ?_⟩, spells⟩
    exact Except.ok.inj ((tested _ (List.mem_map_of_mem inBelow)).symm.trans isFile)

/-! ### The files of the slice -/

/-- The files of a slice stand directly in its directory. -/
theorem file?_ne_none_iff (slice : Slice) (names : Location) :
    slice.file? names ≠ none ↔ ∃ name ∈ slice.artifacts.map Prod.fst, names = [name] := by
  have found (name : String) :
      slice.artifacts.lookup name ≠ none ↔ name ∈ slice.artifacts.map Prod.fst := by
    simp only [Option.ne_none_iff_exists', List.mem_map, Prod.exists, exists_and_right,
      exists_eq_right, FileTree.lookup_eq_some_iff_mem _ _ _ slice.distinct_artifacts]
  match names with
  | [] => simp [Slice.file?]
  | [name] => simp only [Slice.file?, found, List.cons.injEq, and_true, exists_eq_right']
  | _ :: _ :: _ => simp [Slice.file?]

theorem mem_rendered_iff (slice : Slice) (text : String) :
    text ∈ NameSet.ofList (slice.artifacts.map Prod.fst) ↔
      ∃ names, slice.file? names ≠ none ∧ (⟨.relative, names⟩ : Path).text = text := by
  simp only [NameSet.mem_ofList, file?_ne_none_iff]
  constructor
  · exact fun member => ⟨[text], ⟨text, member, rfl⟩, text_single text⟩
  · rintro ⟨_, ⟨name, member, rfl⟩, spells⟩
    rwa [← spells, text_single]

/-- All names with a file on either side are names that entries may have. -/
theorem isNamed_of_file {slice : Slice} {names : Location}
    (present : disk.fileBelow? directory names ≠ none ∨ slice.file? names ≠ none) :
    IsNamed names := by
  rcases present with held | rendered
  · obtain ⟨inBelow, _⟩ := Disk.fileBelow?_ne_none_iff.1 held
    obtain ⟨item, member, rfl⟩ := List.mem_map.1 inBelow
    exact Disk.isNamed_of_mem_below member
  · obtain ⟨name, member, rfl⟩ := (file?_ne_none_iff slice names).1 rendered
    obtain ⟨file, isFile, rfl⟩ := List.mem_map.1 member
    exact fun name single => List.mem_singleton.1 single ▸ (slice.isFileName_artifacts file isFile).1

/-! ### The comparison -/

/-- Where a file is found, its content is what is read under its path. -/
theorem fileBelow?_eq_of_ne_none {names : Location}
    (held : disk.fileBelow? directory names ≠ none) :
    disk.fileBelow? directory names = (disk.read (directory ++ ⟨.relative, names⟩)).toOption :=
  if_pos (Disk.fileBelow?_ne_none_iff.1 held).1

/-- A comparison ends if the files below the directory can be listed, and then it is exact. -/
theorem isExact_compareSlice {found : NameSet}
    (isFound : filesBelow disk directory = .ok found) (slice : Slice) :
    ∃ difference, compareSlice disk directory slice = .ok difference ∧
      difference.IsExact (disk.fileBelow? directory) slice.file? := by
  have fileNamed (names : Location) (present : disk.fileBelow? directory names ≠ none ∨
      slice.file? names ≠ none) : IsNamed names := isNamed_of_file present
  have heldNamed (names : Location) (held : disk.fileBelow? directory names ≠ none) :
      IsNamed names := fileNamed names (.inl held)
  have renderedNamed (names : Location) (rendered : slice.file? names ≠ none) : IsNamed names :=
    fileNamed names (.inr rendered)
  have heldIff := mem_filesBelow_iff isFound
  have renderedIff := mem_rendered_iff slice
  rw [compareSlice, isFound]
  refine ⟨_, rfl, Difference.isExact_of_lists fileNamed ?_ ?_ ?_⟩
  · simpa only [ne_eq, not_not] using
      listsPaths_diff heldIff renderedIff heldNamed renderedNamed
  · simpa only [ne_eq, not_not] using
      listsPaths_diff renderedIff heldIff renderedNamed heldNamed
  · refine ⟨(NameSet.ofList _).ascending.filter _, fun text => ?_⟩
    rw [List.mem_filter, Bool.and_eq_true, NameSet.contains, List.contains_iff_mem, bne_iff_ne]
    constructor
    · rintro ⟨isRendered, isHeld, differs⟩
      obtain ⟨names, rendered, rfl⟩ := (renderedIff text).1 isRendered
      have held := (mem_text_iff heldIff heldNamed (renderedNamed names rendered)).1 isHeld
      refine ⟨names, ⟨held, rendered, ?_⟩, rfl⟩
      obtain ⟨name, _, rfl⟩ := (file?_ne_none_iff slice names).1 rendered
      rw [text_single] at differs
      rwa [fileBelow?_eq_of_ne_none held]
    · rintro ⟨names, ⟨held, rendered, differs⟩, rfl⟩
      refine ⟨(renderedIff _).2 ⟨names, rendered, rfl⟩, (heldIff _).2 ⟨names, held, rfl⟩, ?_⟩
      obtain ⟨name, _, rfl⟩ := (file?_ne_none_iff slice names).1 rendered
      rw [text_single]
      rwa [fileBelow?_eq_of_ne_none held] at differs

/-- Once the slice is cut, a check of a directory ends if each entry below the directory can be asked
whether it is a file, and only then. What it finds is exactly how the files of the directory differ
from those of the slice. -/
theorem verifySlice_exact (workspace : Workspace) (request : SliceRequest) (given : Option Config)
    (config : Config) (out : Path) (slice : Slice) (isDirectory : workspace.entry out = .ok .directory)
    (isConfig : workspace.configFor request.root given = .ok config)
    (built : (workspace.buildSlice request config).outcome = .ok slice) :
    ((∃ difference, (workspace.verifySlice request given out).outcome = .ok difference) ↔
      ∀ item ∈ workspace.below out,
        ∃ answer, workspace.isFile (out ++ ⟨.relative, item.1⟩) = .ok answer) ∧
    ∀ difference, (workspace.verifySlice request given out).outcome = .ok difference →
      difference.IsExact (workspace.fileBelow? out) slice.file? := by
  rw [outcome_verifySlice isDirectory isConfig built, ← exists_filesBelow_iff]
  have listed (difference : Difference)
      (compared : compareSlice workspace.toDisk out slice = .ok difference) :
      ∃ found, filesBelow workspace.toDisk out = .ok found := by
    obtain ⟨found, isFound, _⟩ := bind_eq_ok_iff.1 compared
    exact ⟨found, isFound⟩
  refine ⟨⟨fun ⟨difference, compared⟩ => listed difference compared, ?_⟩, ?_⟩
  · rintro ⟨found, isFound⟩
    obtain ⟨difference, compared, _⟩ := isExact_compareSlice isFound slice
    exact ⟨difference, compared⟩
  · intro difference compared
    obtain ⟨found, isFound⟩ := listed difference compared
    obtain ⟨other, isOther, isExact⟩ := isExact_compareSlice isFound slice
    rwa [← Except.ok.inj (isOther.symm.trans compared)]

end Workspace

namespace LinkBeside

/-- A tree with a file to slice, and a directory with a link in it. -/
def tree (target : String) : FileTree where
  entries := [(["A.swift"], .file LinkedConfig.source), (["out"], .directory),
    (["out", "far"], .link target)]
  distinct := by simp
  named := by
    simp
    decide
  rooted := by simp [DirectoryIn]

def workspace (target : String) : Workspace where
  tree := tree target
  directory := []
  home := []
  grammar := fun _ => LinkedConfig.file

def out : Path :=
  Disk.pathOf ["out"]

def far : Path :=
  Disk.pathOf ["out", "far"]

variable (target : String)

theorem entry?_out : FileTree.entry? (tree target) ["out"] = some .directory := by
  simp [tree, FileTree.entry?, List.lookup]

theorem entry?_far : FileTree.entry? (tree target) ["out", "far"] = some (.link target) := by
  simp [tree, FileTree.entry?, List.lookup]

theorem entry?_start :
    FileTree.entry? (tree target) ["A.swift"] = some (.file LinkedConfig.source) := by
  simp [tree, FileTree.entry?]

/-- The link is all that is in the directory. -/
theorem below_out : (workspace target).below out = [(["far"], .link target)] := by
  have leads : Leads (tree target) linkLimit [] ["out"] ["out"] :=
    .enters (by decide) (entry?_out target) (by simp) (.arrives _ _)
  have isBelow : (workspace target).below out = (tree target).below ["out"] :=
    Disk.below_of_leads (by decide) leads
  rw [isBelow]
  simp [tree, FileTree.below, List.isPrefixOf?]

theorem entry_out : (workspace target).entry out = .ok .directory :=
  Disk.entry_eq_ok_iff.2 ⟨by decide, ["out"],
    .enters (by decide) (entry?_out target) (by simp) (.arrives _ _), entry?_out target⟩

/-- The slice of the file can be cut. -/
theorem exists_slice :
    ∃ slice, ((workspace target).buildSlice LinkedConfig.request {}).outcome = .ok slice :=
  have isIn : LinkedConfig.IsIn (workspace target) (Disk.pathOf []) :=
    ⟨rfl, .root (tree target), entry?_start target, by decide⟩
  isIn.exists_buildSlice rfl rfl rfl {}

/-- The target of a link that no walk follows. -/
def tooLong : String :=
  String.ofList (List.replicate 300 'n')

theorem toList_tooLong : tooLong.toList = List.replicate 300 'n' :=
  String.toList_ofList

theorem utf8Len_replicate (count : Nat) : String.utf8Len (List.replicate count 'n') = count := by
  induction count with
  | zero => rfl
  | succ count induct => rw [List.replicate_succ, String.utf8Len_cons, induct]; rfl

theorem utf8ByteSize_replicate (count : Nat) :
    (String.ofList (List.replicate count 'n')).utf8ByteSize = count := by
  rw [String.utf8ByteSize_ofList, utf8Len_replicate]

theorem utf8ByteSize_tooLong : tooLong.utf8ByteSize = 300 :=
  utf8ByteSize_replicate 300

theorem nameLimit_lt_tooLong : nameLimit < tooLong.utf8ByteSize := by
  rw [utf8ByteSize_tooLong]
  decide

theorem tooLong_ne {text : String} (short : text.utf8ByteSize < 300) : tooLong ≠ text := by
  rintro rfl
  exact absurd utf8ByteSize_tooLong short.ne

/-- The target is a single name. -/
theorem components_tooLong : Path.components tooLong = [tooLong] := by
  have whole : "/".intercalate [tooLong] = tooLong := String.intercalate_singleton
  have noSlash : ∀ name ∈ [tooLong], ¬ '/' ∈ name.toList := by
    intro name member
    rw [List.mem_singleton.1 member, toList_tooLong, List.mem_replicate]
    simp
  rw [← whole, Path.components_intercalate (List.cons_ne_nil _ _) noSlash, whole]

theorem beginsWith_tooLong : beginsWith tooLong "/" = false := by
  rw [beginsWith, toList_tooLong]
  rfl

/-- The link to a name that is too long cannot be asked for a file. -/
theorem isFile_tooLong :
    (workspace tooLong).isFile far = .error (.access .nameTooLong "/out/far") := by
  have walked : (tree tooLong).walk false linkLimit [] ["out", "far"] = .error .nameTooLong := by
    rw [FileTree.walk_cons (tree tooLong) linkLimit ["far"] rfl (by decide) (by decide) rfl,
      if_neg (by decide), List.nil_append, entry?_out]
    show (tree tooLong).walk false linkLimit ["out"] ["far"] = _
    rw [FileTree.walk_cons (tree tooLong) linkLimit [] (entry?_out tooLong) (by decide) (by decide)
      rfl, if_neg (by decide), List.singleton_append, entry?_far]
    have notEmpty : tooLong ≠ "" := tooLong_ne (by decide)
    have notDot : tooLong ≠ "." := tooLong_ne (by decide)
    have notSkipped : ¬ (tooLong = "" || tooLong = ".") = true := by
      simp [notEmpty, notDot]
    show (tree tooLong).walk false 39 (if beginsWith tooLong "/" then [] else ["out"])
      (Path.components tooLong ++ []) = _
    rw [beginsWith_tooLong, if_neg Bool.false_ne_true, components_tooLong, List.append_nil,
      FileTree.walk_cons (tree tooLong) 39 [] (entry?_out tooLong) notSkipped
      (tooLong_ne (by decide)) rfl, if_pos nameLimit_lt_tooLong]
  have refused : (workspace tooLong).entry far = .error (.access .nameTooLong "/out/far") := by
    have checked : Disk.checkPath far = .ok () := by decide
    rw [Disk.entry, Disk.spot, Disk.walkTo, checked]
    show (Disk.blame _ ((tree tooLong).walk false linkLimit [] ["out", "far"]) >>= _) = _
    rw [walked]
    rfl
  rw [Disk.isFile, Disk.probe, refused]
  rfl

/-- The link to the file that is sliced leads to a file. -/
theorem isFile_near : (workspace "../A.swift").isFile far = .ok true := by
  refine Disk.isFile_eq_true_iff.2 ⟨LinkedConfig.source, Disk.entry_eq_ok_iff.2
    ⟨by decide, ["A.swift"], ?_, entry?_start _⟩⟩
  refine .enters (by decide) (entry?_out _) (by simp)
    (.follows (by decide) (entry?_far _) ?_)
  rw [if_neg (by decide),
    show Path.components "../A.swift" ++ [] = ["..", "A.swift"] by decide]
  exact .rises (entry?_out _)
    (.enters (by decide) (entry?_start _) (by simp) (.arrives _ _))

end LinkBeside

namespace Workspace

/-- A link to a file in the directory is listed as a file that the slice lacks. -/
theorem verifySlice_exact_near :
    let workspace := LinkBeside.workspace "../A.swift"
    workspace.entry LinkBeside.out = .ok .directory ∧
      workspace.configFor LinkedConfig.request.root (some {}) = .ok {} ∧
      ∃ slice, (workspace.buildSlice LinkedConfig.request {}).outcome = .ok slice ∧
      ∃ difference, (workspace.verifySlice LinkedConfig.request (some {})
          LinkBeside.out).outcome = .ok difference ∧
        difference.IsExact (workspace.fileBelow? LinkBeside.out) slice.file? ∧
        "far" ∈ difference.missing := by
  intro workspace
  obtain ⟨slice, built⟩ := LinkBeside.exists_slice "../A.swift"
  have isBelow := LinkBeside.below_out "../A.swift"
  obtain ⟨ends, found⟩ := verifySlice_exact workspace LinkedConfig.request (some {}) {}
    LinkBeside.out slice (LinkBeside.entry_out _) rfl built
  obtain ⟨difference, verified⟩ := ends.2 fun item member => by
    rw [isBelow, List.mem_singleton] at member
    subst member
    exact ⟨true, LinkBeside.isFile_near⟩
  have isExact := found difference verified
  have held : workspace.fileBelow? LinkBeside.out ["far"] ≠ none :=
    Disk.fileBelow?_ne_none_iff.2 ⟨by rw [isBelow]; exact List.mem_singleton_self _,
      LinkBeside.isFile_near⟩
  have absent : slice.file? ["far"] = none := by
    by_contra present
    obtain ⟨name, member, same⟩ := (file?_ne_none_iff slice _).1 present
    obtain rfl := List.singleton_inj.1 same
    exact absurd member (by rw [slice.map_fst_artifacts]; decide)
  exact ⟨LinkBeside.entry_out _, rfl, slice, built, difference, verified, isExact,
    (isExact.missing.2 "far").2 ⟨["far"], ⟨held, absent⟩, text_single "far"⟩⟩

/-- A check of a directory does not always end once the slice is cut: a link to a name that is too
long stops it. -/
theorem verifySlice_not_exact :
    ¬ ∀ (workspace : Workspace) (request : SliceRequest) (given : Option Config) (config : Config)
      (out : Path) (slice : Slice), workspace.entry out = .ok .directory →
      workspace.configFor request.root given = .ok config →
      (workspace.buildSlice request config).outcome = .ok slice →
      ∃ difference, (workspace.verifySlice request given out).outcome = .ok difference ∧
        (difference.isNone = true ↔ ∀ names, workspace.fileBelow? out names = slice.file? names) := by
  intro law
  obtain ⟨slice, built⟩ := LinkBeside.exists_slice LinkBeside.tooLong
  have isDirectory := LinkBeside.entry_out LinkBeside.tooLong
  obtain ⟨difference, verified, _⟩ := law (LinkBeside.workspace LinkBeside.tooLong)
    LinkedConfig.request (some {}) {} LinkBeside.out slice isDirectory rfl built
  rw [outcome_verifySlice isDirectory rfl built] at verified
  obtain ⟨found, isFound, _⟩ := bind_eq_ok_iff.1 verified
  obtain ⟨answer, isAnswer⟩ := exists_filesBelow_iff.1 ⟨found, isFound⟩
    (["far"], .link LinkBeside.tooLong)
    (by rw [LinkBeside.below_out]; exact List.mem_singleton_self _)
  cases LinkBeside.isFile_tooLong.symm.trans isAnswer

end Workspace

end SwiftSlice

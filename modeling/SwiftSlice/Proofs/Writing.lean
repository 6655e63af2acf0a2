/-
Writing a slice. At a resolved path directories are made where nothing was, and so
are the files in them: what the disk holds after a slice was written is what it
held before, the directories on the way to the output, and in the output the files
of the slice, after whatever else was there. Where there is room for them, and the
paths are not too long, the writing succeeds.
-/

import Mathlib.Data.List.Infix
import SwiftSlice.Proofs.Growth
import SwiftSlice.Slice.Write

namespace SwiftSlice

open Text

/-! ### The files of a slice -/

namespace Slice

/-- The names of the files of a slice. -/
def fileNames : List String :=
  [Artifact.generatedSource, Artifact.hostApp, Artifact.summary]

theorem map_fst_artifacts (slice : Slice) : slice.artifacts.map Prod.fst = fileNames := rfl

theorem isFileName_artifacts (slice : Slice) :
    ∀ file ∈ slice.artifacts, IsFileName file.1 ∧ file.1.utf8ByteSize ≤ nameLimit := by
  have named : ∀ name ∈ fileNames, IsFileName name ∧ name.utf8ByteSize ≤ nameLimit := by
    decide
  exact fun file member => named file.1 (slice.map_fst_artifacts ▸ List.mem_map_of_mem member)

/-- None of the files of a slice is a configuration. -/
theorem ne_configName_artifacts (slice : Slice) :
    ∀ file ∈ slice.artifacts, file.1 ≠ Config.fileName := by
  have others : ∀ name ∈ fileNames, name ≠ Config.fileName := by decide
  exact fun file member => others file.1 (slice.map_fst_artifacts ▸ List.mem_map_of_mem member)

theorem distinct_artifacts (slice : Slice) : (slice.artifacts.map Prod.fst).Nodup := by
  rw [map_fst_artifacts]
  decide

end Slice

/-! ### Making directories -/

/-- Holds of a disk and one whose tree has more entries, of those that are allowed, while the
rest is the same. -/
structure Disk.GrowsTo (allowed : Location → Entry → Prop) (disk grown : Disk) : Prop where
  tree : FileTree.Grows allowed disk.tree grown.tree
  directory : grown.directory = disk.directory
  home : grown.home = disk.home
  callRoom : grown.callRoom = disk.callRoom

namespace Disk.GrowsTo

variable {allowed more : Location → Entry → Prop} {disk grown larger : Disk}

theorem refl (disk : Disk) : GrowsTo allowed disk disk :=
  ⟨.refl, rfl, rfl, rfl⟩

theorem put {location : Location} {entry : Entry} (free : disk.tree.entry? location = none)
    (canPut : disk.tree.CanPut location) (isAllowed : allowed location entry) :
    GrowsTo allowed disk { disk with tree := disk.tree.put location entry } :=
  ⟨.single (.put free canPut isAllowed), rfl, rfl, rfl⟩

theorem trans (first : GrowsTo allowed disk grown) (second : GrowsTo allowed grown larger) :
    GrowsTo allowed disk larger :=
  ⟨first.tree.trans second.tree, second.directory.trans first.directory,
    second.home.trans first.home, second.callRoom.trans first.callRoom⟩

theorem mono (weaker : ∀ location entry, allowed location entry → more location entry)
    (grows : GrowsTo allowed disk grown) : GrowsTo more disk grown :=
  ⟨grows.tree.mono weaker, grows.directory, grows.home, grows.callRoom⟩

end Disk.GrowsTo

namespace Disk

/-- The directories that are made on the way along some names, and at their end. -/
def MadeAlong (names : List String) (location : Location) (entry : Entry) : Prop :=
  location <+: names ∧ entry = .directory

variable {disk made : Disk} {path : Path}

/-- A resolved path that leads to an entry leads to the one at its location. -/
theorem entry_of_isResolved (isResolved : disk.tree.IsResolved path) {found : Entry}
    (isFound : disk.entry path = .ok found) :
    checkPath path = .ok () ∧ disk.tree.entry? path.names = some found := by
  obtain ⟨checked, last, leads, held⟩ := entry_eq_ok_iff.1 isFound
  have walked := walkTo_eq_ok_iff.2 ⟨checked, leads.walk_eq⟩
  rcases (walkTo_of_isResolved isResolved walked).2 with ⟨isLast, _⟩ | ⟨isFree, _⟩
  · rw [Spot.taken.inj isLast] at held
    exact ⟨checked, held⟩
  · cases isFree

/-- Making a directory at a resolved path puts one where nothing was. -/
theorem makeOne_of_isResolved (isResolved : disk.tree.IsResolved path)
    (isMade : disk.makeOne path = .ok made) :
    checkPath path = .ok () ∧ disk.tree.entry? path.names = none ∧
      disk.tree.CanPut path.names ∧
      made = { disk with tree := disk.tree.put path.names .directory } := by
  obtain ⟨_, checked, isMade⟩ := bind_eq_ok_iff.1 isMade
  refine ⟨checked, ?_⟩
  split at isMade
  · obtain ⟨_, _, isError⟩ := bind_eq_ok_iff.1 isMade
    cases isError
  · next hasName =>
    have nonempty : path.names ≠ [] := by
      intro isEmpty
      simp [isEmpty] at hasName
    obtain ⟨spot, walked, isMade⟩ := bind_eq_ok_iff.1 isMade
    have walkedAbove : disk.spot path.parent = .ok spot := by
      cases toParent : disk.spot path.parent with
      | error failure => rw [toParent] at walked; cases walked
      | ok other => rw [toParent] at walked; exact congrArg Except.ok (Except.ok.inj walked)
    rcases (walkTo_of_isResolved isResolved.parent walkedAbove).2 with ⟨rfl, _⟩ | ⟨rfl, _⟩
    · dsimp only at isMade
      rw [Path.names_parent_append nonempty] at isMade
      split at isMade
      · cases isMade
      split at isMade
      · cases isMade
      split at isMade
      · cases isMade
      next isDirectory _ free =>
      rw [FileTree.not_not_isDirectory_iff] at isDirectory
      rw [Option.not_isSome_iff_eq_none] at free
      have named := fun name member => (isResolved.named name member).1
      exact ⟨free, FileTree.canPut_of_free free named isDirectory, (Except.ok.inj isMade).symm⟩
    · cases isMade

/-- Making a directory in another one succeeds at a free name, if the path is not too long. -/
theorem makeOne_in_directory (isResolved : disk.tree.IsResolved path) (nonempty : path.names ≠ [])
    (above : disk.tree.entry? path.parent.names = some .directory)
    (checked : checkPath path = .ok ()) (checkedAbove : checkPath path.parent = .ok ()) :
    disk.makeOne path =
      if (disk.tree.entry? path.names).isSome then .error (.access .alreadyExists path.text)
      else .ok { disk with tree := disk.tree.put path.names .directory } := by
  obtain ⟨isName, short⟩ := isResolved.name_named nonempty
  have hasName : ¬ (path.names.isEmpty || path.name = "..") = true := by
    simp [nonempty, isName.not_up]
  rw [makeOne, checked,
    spot_of_present isResolved.parent checkedAbove (by rw [above]; simp)]
  show (if path.names.isEmpty || path.name = ".." then _ else _) = _
  rw [if_neg hasName]
  show (if !disk.tree.isDirectory path.parent.names then _ else _) = _
  rw [FileTree.isDirectory_iff.2 above, Path.names_parent_append nonempty,
    if_neg (Nat.not_lt.2 short)]
  rfl

theorem makeOne_of_free (isResolved : disk.tree.IsResolved path)
    (free : disk.tree.entry? path.names = none)
    (above : disk.tree.entry? path.parent.names = some .directory)
    (checked : checkPath path = .ok ()) (checkedAbove : checkPath path.parent = .ok ()) :
    disk.makeOne path = .ok { disk with tree := disk.tree.put path.names .directory } := by
  rw [makeOne_in_directory isResolved (FileTree.ne_nil_of_free free) above checked checkedAbove,
    free]
  rfl

/-- Making a directory in one that is missing is refused, if there is no file on the way. -/
theorem makeOne_of_missing (isResolved : disk.tree.IsResolved path)
    (missing : disk.tree.entry? path.parent.names = none)
    (clear : ∀ above content, above <+: path.parent.names →
      disk.tree.entry? above ≠ some (.file content))
    (checked : checkPath path = .ok ()) (checkedAbove : checkPath path.parent = .ok ()) :
    disk.makeOne path = .error (.access .noEntry path.text) := by
  have nonempty : path.names ≠ [] := fun isEmpty =>
    FileTree.ne_nil_of_free missing (congrArg List.dropLast isEmpty)
  have hasName : ¬ (path.names.isEmpty || path.name = "..") = true := by
    simp [nonempty, (isResolved.name_named nonempty).1.not_up]
  rw [makeOne, checked, spot_of_isResolved isResolved.parent checkedAbove]
  show (if path.names.isEmpty || path.name = ".." then _ else _) = _
  rw [if_neg hasName]
  rcases isResolved.parent.walk_absent false linkLimit missing with
    free | missed | ⟨_, above, content, onTheWay, isFile⟩
  · rw [free]
    rfl
  · rw [missed]
    rfl
  · exact absurd isFile (clear above content onTheWay)

theorem isDirectory_of_tolerate {failure : Failure}
    (tolerated : disk.tolerate path failure = .ok ()) : disk.isDirectory path = .ok true := by
  unfold tolerate at tolerated
  split at tolerated
  · obtain ⟨isDirectory, isTrue, tolerated⟩ := bind_eq_ok_iff.1 tolerated
    cases isDirectory with
    | true => exact isTrue
    | false => cases tolerated
  · cases tolerated

/-- Paths stay resolved while directories are made. -/
theorem isResolved_of_madeAlong {names : List String} (isResolved : disk.tree.IsResolved path)
    (grows : GrowsTo (MadeAlong names) disk made) : made.tree.IsResolved path := by
  refine isResolved.of_grows grows.tree fun location target isMade => ?_
  cases isMade.2

/-- Making a directory at a resolved path, with those above it, makes directories on the way
only. -/
theorem makeDirectories_of_isResolved (isResolved : disk.tree.IsResolved path)
    (isMade : disk.makeDirectories path = (made, .ok ())) :
    GrowsTo (MadeAlong path.names) disk made ∧ checkPath path = .ok () ∧
      made.tree.entry? path.names = some .directory := by
  -- The cases are those of the calls: made at once; refused; made or found after what is above it;
  -- refused above; found to be there.
  fun_induction disk.makeDirectories path generalizing made with
  | case1 path one isOne =>
    obtain rfl := (Prod.mk.inj isMade).1
    obtain ⟨checked, free, canPut, rfl⟩ := makeOne_of_isResolved isResolved isOne
    exact ⟨.put free canPut ⟨List.prefix_refl _, rfl⟩, checked,
      by rw [FileTree.entry?_put canPut, if_pos rfl]⟩
  | case2 path place refused isEmpty => cases (Prod.mk.inj isMade).2
  | case3 path place refused nonempty above madeAbove one isOne inductionHypothesis =>
    obtain rfl := (Prod.mk.inj isMade).1
    obtain ⟨grows, _, _⟩ := inductionHypothesis isResolved.parent madeAbove
    have stillResolved := isResolved_of_madeAlong isResolved grows
    obtain ⟨checked, free, canPut, rfl⟩ := makeOne_of_isResolved stillResolved isOne
    refine ⟨.trans (grows.mono ?_) (.put free canPut ⟨List.prefix_refl _, rfl⟩), checked,
      by rw [FileTree.entry?_put canPut, if_pos rfl]⟩
    exact fun location entry isMade =>
      ⟨isMade.1.trans (List.dropLast_prefix path.names), isMade.2⟩
  | case4 path place refused nonempty above madeAbove failure notMade inductionHypothesis =>
    obtain ⟨rfl, tolerated⟩ := Prod.mk.inj isMade
    obtain ⟨grows, _, _⟩ := inductionHypothesis isResolved.parent madeAbove
    have stillResolved := isResolved_of_madeAlong isResolved grows
    refine ⟨grows.mono ?_, entry_of_isResolved stillResolved
      (isDirectory_eq_true_iff.1 (isDirectory_of_tolerate tolerated))⟩
    exact fun location entry isMade =>
      ⟨isMade.1.trans (List.dropLast_prefix path.names), isMade.2⟩
  | case5 path place refused nonempty above failure notMade inductionHypothesis =>
    cases (Prod.mk.inj isMade).2
  | case6 path failure notMissing refused =>
    obtain ⟨rfl, tolerated⟩ := Prod.mk.inj isMade
    exact ⟨.refl disk, entry_of_isResolved isResolved
      (isDirectory_eq_true_iff.1 (isDirectory_of_tolerate tolerated))⟩

/-- Making a directory at a free name, with those above it, succeeds if there is no file on the way
and the paths are not too long. -/
theorem makeDirectories_succeeds (isResolved : disk.tree.IsResolved path)
    (free : disk.tree.entry? path.names = none)
    (clear : ∀ above content, above <+: path.names → disk.tree.entry? above ≠ some (.file content))
    (checked : ∀ names ∈ path.names.inits, checkPath { path with names } = .ok ()) :
    ∃ made, disk.makeDirectories path = (made, .ok ()) := by
  obtain ⟨anchor, names⟩ := path
  induction names using List.reverseRecOn with
  | nil => cases free
  | append_singleton rest name inductionHypothesis =>
    have isParent : Path.parent ⟨anchor, rest ++ [name]⟩ = ⟨anchor, rest⟩ := by
      rw [Path.parent, List.dropLast_concat]
    have onTheWay : rest <+: rest ++ [name] := List.prefix_append rest [name]
    have parentResolved := isParent ▸ isResolved.parent
    have isChecked := checked _ ((List.mem_inits _ _).2 (List.prefix_refl _))
    have isCheckedAbove := checked rest ((List.mem_inits _ _).2 onTheWay)
    by_cases missing : disk.tree.entry? rest = none
    · -- The directory above is made first, and nothing is put at the name meanwhile.
      have refused := makeOne_of_missing isResolved (isParent ▸ missing) (isParent ▸
        fun above content within => clear above content (within.trans onTheWay)) isChecked
        (isParent ▸ isCheckedAbove)
      obtain ⟨above, madeAbove⟩ := inductionHypothesis parentResolved missing
        (fun above content within => clear above content (within.trans onTheWay))
        fun names within => checked names
          ((List.mem_inits _ _).2 (((List.mem_inits _ _).1 within).trans onTheWay))
      obtain ⟨grows, _, isDirectory⟩ := makeDirectories_of_isResolved parentResolved madeAbove
      have stillFree : above.tree.entry? (rest ++ [name]) = none := by
        refine Option.eq_none_iff_forall_ne_some.2 fun entry isThere => ?_
        rcases grows.tree.fresh isThere with before | isMade
        · cases free.symm.trans before
        · exact absurd isMade.1.length_le (by simp)
      have stillResolved := isResolved_of_madeAlong isResolved grows
      have isMade := makeOne_of_free stillResolved stillFree (isParent ▸ isDirectory) isChecked
        (isParent ▸ isCheckedAbove)
      rw [makeDirectories, refused]
      dsimp only
      rw [dif_neg (by simp), isParent, madeAbove]
      dsimp only
      rw [isMade]
      exact ⟨_, rfl⟩
    · obtain ⟨entry, found⟩ := Option.ne_none_iff_exists'.1 missing
      have isDirectory : disk.tree.entry? rest = some .directory := by
        cases entry with
        | link target => exact absurd found (isResolved.unlinked rest target onTheWay)
        | file content => exact absurd found (clear rest content onTheWay)
        | directory => exact found
      have isMade := makeOne_of_free isResolved free (isParent ▸ isDirectory) isChecked
        (isParent ▸ isCheckedAbove)
      exact ⟨_, by rw [makeDirectories, isMade]⟩

theorem below_of_madeAlong {names : List String} (grows : GrowsTo (MadeAlong names) disk made) :
    made.tree.below names = disk.tree.below names :=
  grows.tree.below_eq fun _ _ isMade =>
    List.append_right_eq_self.1 (isMade.1.eq_of_length_le (by simp))

/-! ### Writing files -/

/-- The files that are written into a directory. -/
def WrittenInto (directory : Location) (files : List (String × Bytes)) (location : Location)
    (entry : Entry) : Prop :=
  ∃ file ∈ files, location = directory ++ [file.1] ∧ entry = .file file.2

/-- Writing a file at a free name in a directory puts it there, if the path is not too long. -/
theorem write_of_free (isResolved : disk.tree.IsResolved path)
    (free : disk.tree.entry? path.names = none)
    (above : disk.tree.entry? path.parent.names = some .directory) (content : Bytes) :
    disk.write path content = do
      checkPath path
      return { disk with tree := disk.tree.put path.names (.file content) } := by
  rw [write, walkTo, origin_of_isAbsolute isResolved.isAbsolute,
    isResolved.walk_free true linkLimit free above, bind_assoc]
  rfl

/-- Holds of a resolved directory where nothing has the names of some files, which differ and are
such as entries have. -/
structure RoomFor (tree : FileTree) (directory : Path) (files : List (String × Bytes)) : Prop where
  resolved : tree.IsResolved directory
  isDirectory : tree.entry? directory.names = some .directory
  named : ∀ file ∈ files, IsFileName file.1 ∧ file.1.utf8ByteSize ≤ nameLimit
  distinct : (files.map Prod.fst).Nodup
  free : ∀ file ∈ files, tree.entry? (directory.names ++ [file.1]) = none

namespace RoomFor

variable {tree : FileTree} {directory : Path} {file : String × Bytes}
  {rest : List (String × Bytes)} (room : RoomFor tree directory (file :: rest))

include room

theorem free_first : tree.entry? (directory.names ++ [file.1]) = none :=
  room.free file List.mem_cons_self

theorem child_resolved : tree.IsResolved (directory.child file.1) :=
  room.resolved.child (room.named file List.mem_cons_self) (by rw [room.free_first]; simp)

theorem canPut : tree.CanPut (directory.names ++ [file.1]) :=
  FileTree.canPut_of_free room.free_first
    (fun name member => (room.child_resolved.named name member).1)
    (by rw [List.dropLast_concat]; exact room.isDirectory)

theorem adds : FileTree.Grows (WrittenInto directory.names (file :: rest)) tree
    (tree.put (directory.names ++ [file.1]) (.file file.2)) :=
  .single (.put room.free_first room.canPut ⟨file, List.mem_cons_self, rfl, rfl⟩)

/-- After the first file there is room for the others. -/
theorem after_first :
    RoomFor (tree.put (directory.names ++ [file.1]) (.file file.2)) directory rest where
  resolved := by
    refine room.resolved.of_grows room.adds fun location target isFile => ?_
    obtain ⟨_, _, _, isContent⟩ := isFile
    cases isContent
  isDirectory := room.adds.kept room.isDirectory
  named := fun other member => room.named other (List.mem_cons_of_mem file member)
  distinct := (List.nodup_cons.1 room.distinct).2
  free := by
    intro other member
    have differs : other.1 ≠ file.1 := fun same =>
      (List.nodup_cons.1 room.distinct).1 (same ▸ List.mem_map_of_mem member)
    rw [FileTree.entry?_put room.canPut, if_neg (by simpa using differs)]
    exact room.free other (List.mem_cons_of_mem file member)

theorem write_first (disk : Disk) (isTree : disk.tree = tree) :
    disk.write (directory.child file.1) file.2 = do
      checkPath (directory.child file.1)
      return { disk with tree := tree.put (directory.names ++ [file.1]) (.file file.2) } := by
  subst isTree
  refine write_of_free room.child_resolved room.free_first ?_ file.2
  rw [Path.parent, Path.child, List.dropLast_concat]
  exact room.isDirectory

end RoomFor

/-- Writing files into a directory with room for them adds them at the end of what is there. -/
theorem writeFiles_of_room {written : Disk} {files : List (String × Bytes)}
    (room : RoomFor disk.tree path files)
    (isWritten : disk.writeFiles path files = (written, .ok ())) :
    GrowsTo (WrittenInto path.names files) disk written ∧
      written.tree.below path.names =
        disk.tree.below path.names ++ files.map (fun file => ([file.1], .file file.2)) ∧
      ∀ file ∈ files, checkPath (path.child file.1) = .ok () := by
  induction files generalizing disk with
  | nil =>
    obtain rfl := (Prod.mk.inj isWritten).1
    exact ⟨.refl disk, by simp, by simp⟩
  | cons file rest inductionHypothesis =>
    rw [writeFiles, room.write_first disk rfl] at isWritten
    cases checked : checkPath (path.child file.1) with
    | error failure =>
      rw [checked] at isWritten
      cases (Prod.mk.inj isWritten).2
    | ok _ =>
      rw [checked] at isWritten
      obtain ⟨growsRest, belowRest, checkedRest⟩ := inductionHypothesis room.after_first isWritten
      have growsFirst : GrowsTo (WrittenInto path.names (file :: rest)) disk
          { disk with tree := disk.tree.put (path.names ++ [file.1]) (.file file.2) } :=
        ⟨room.adds, rfl, rfl, rfl⟩
      refine ⟨growsFirst.trans (growsRest.mono ?_), ?_,
        List.forall_mem_cons.2 ⟨checked, checkedRest⟩⟩
      · rintro location entry ⟨other, member, isOther⟩
        exact ⟨other, List.mem_cons_of_mem file member, isOther⟩
      · rw [belowRest, FileTree.below_put_child room.canPut room.free_first, List.append_assoc]
        rfl

/-- Writing files into a directory with room for them succeeds, if their paths are not too long. -/
theorem writeFiles_succeeds {files : List (String × Bytes)} (room : RoomFor disk.tree path files)
    (checked : ∀ file ∈ files, checkPath (path.child file.1) = .ok ()) :
    ∃ written, disk.writeFiles path files = (written, .ok ()) := by
  induction files generalizing disk with
  | nil => exact ⟨disk, rfl⟩
  | cons file rest inductionHypothesis =>
    rw [writeFiles, room.write_first disk rfl, checked file List.mem_cons_self]
    exact inductionHypothesis room.after_first fun other member =>
      checked other (List.mem_cons_of_mem file member)

/-! ### Writing a slice -/

/-- The entries that writing files into a directory adds, with the directories that it makes. -/
def Placed (directory : Location) (files : List (String × Bytes)) (location : Location)
    (entry : Entry) : Prop :=
  MadeAlong directory location entry ∨ WrittenInto directory files location entry

/-- An empty directory has room for a slice. -/
theorem roomFor_of_empty {tree : FileTree} {directory : Path} {slice : Slice}
    (isResolved : tree.IsResolved directory)
    (isDirectory : tree.entry? directory.names = some .directory)
    (empty : tree.below directory.names = []) : RoomFor tree directory slice.artifacts where
  resolved := isResolved
  isDirectory := isDirectory
  named := slice.isFileName_artifacts
  distinct := slice.distinct_artifacts
  free := by
    intro file _
    by_contra present
    obtain ⟨entry, found⟩ := Option.ne_none_iff_exists'.1 present
    have below : ([file.1], entry) ∈ tree.below directory.names :=
      FileTree.mem_below_iff.2 ⟨List.cons_ne_nil _ _, found⟩
    rw [empty] at below
    exact List.not_mem_nil below

/-- Writing a slice into a resolved directory with nothing in it leaves the files of the slice there
and adds nothing else but the directories on the way. -/
theorem writeSlice_of_isResolved {written : Disk} {slice : Slice}
    (isResolved : disk.tree.IsResolved path) (empty : disk.tree.below path.names = [])
    (isWritten : disk.writeSlice path slice = (written, .ok ())) :
    GrowsTo (Placed path.names slice.artifacts) disk written ∧
      (checkPath path = .ok () ∧ written.tree.entry? path.names = some .directory) ∧
      written.tree.below path.names =
        slice.artifacts.map (fun file => ([file.1], .file file.2)) ∧
      ∀ file ∈ slice.artifacts, checkPath (path.child file.1) = .ok () := by
  rw [writeSlice] at isWritten
  split at isWritten
  · next made isMade =>
    obtain ⟨grows, checked, isDirectory⟩ := makeDirectories_of_isResolved isResolved isMade
    have stillEmpty : made.tree.below path.names = [] := (below_of_madeAlong grows).trans empty
    have room : RoomFor made.tree path slice.artifacts := roomFor_of_empty
      (isResolved_of_madeAlong isResolved grows) isDirectory stillEmpty
    obtain ⟨growsFiles, isBelow, checkedFiles⟩ := writeFiles_of_room room isWritten
    refine ⟨(grows.mono fun _ _ => .inl).trans (growsFiles.mono fun _ _ => .inr),
      ⟨checked, growsFiles.tree.kept isDirectory⟩, ?_, checkedFiles⟩
    rw [isBelow, stillEmpty, List.nil_append]
  · cases (Prod.mk.inj isWritten).2

/-- Writing a slice into a directory that is yet to be made succeeds if there is no file on the way
and the paths are not too long. -/
theorem writeSlice_succeeds {slice : Slice} (isResolved : disk.tree.IsResolved path)
    (free : disk.tree.entry? path.names = none)
    (clear : ∀ above content, above <+: path.names → disk.tree.entry? above ≠ some (.file content))
    (empty : disk.tree.below path.names = [])
    (checked : ∀ names ∈ path.names.inits, checkPath { path with names } = .ok ())
    (checkedFiles : ∀ file ∈ slice.artifacts, checkPath (path.child file.1) = .ok ()) :
    ∃ written, disk.writeSlice path slice = (written, .ok ()) := by
  obtain ⟨made, isMade⟩ := makeDirectories_succeeds isResolved free clear checked
  obtain ⟨grows, _, isDirectory⟩ := makeDirectories_of_isResolved isResolved isMade
  rw [writeSlice, isMade]
  refine writeFiles_succeeds (roomFor_of_empty
    (isResolved_of_madeAlong isResolved grows) isDirectory ?_)
    checkedFiles
  exact (below_of_madeAlong grows).trans empty

end Disk

end SwiftSlice

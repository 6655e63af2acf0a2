/-
What writing changes. A file is written at a free name or in the place of another
file, and a directory is made at a free name. So whatever is written, every
directory and every link stays, and every file stays a file. Walks look at nothing
else: the place that a path leads to stays the same while files are written. Files
written one after the other until one is refused leave those before it whole, new
directories on the way, and nothing else.
-/

import SwiftSlice.Proofs.Writing

namespace SwiftSlice

open Text

namespace FileTree

variable {tree middle later : FileTree} {location : Location}

/-! ### Placing one entry -/

theorem entry?_put_of_ne {other : Location} (entry : Entry) (differs : other ≠ location) :
    FileTree.entry? (tree.put location entry) other = tree.entry? other := by
  by_cases canPut : tree.CanPut location
  · rw [entry?_put canPut, if_neg differs]
  · rw [put, dif_neg canPut]

theorem entry?_put_self (tree : FileTree) (location : Location) (entry : Entry) :
    FileTree.entry? (tree.put location entry) location = tree.entry? location ∨
      FileTree.entry? (tree.put location entry) location = some entry := by
  by_cases canPut : tree.CanPut location
  · exact .inr (by rw [entry?_put canPut, if_pos rfl])
  · exact .inl (by rw [put, dif_neg canPut])

/-- Holds of a location where a file can be written: nothing is there, or a file. -/
def Overwritable (tree : FileTree) (location : Location) : Prop :=
  tree.entry? location = none ∨ ∃ content, tree.entry? location = some (.file content)

/-- Holds of a location that has a name such as no entry has. -/
def IsUnnamed (location : Location) : Prop :=
  ∀ tree : FileTree, tree.entry? location = none

/-- A file that is placed below a directory, not in the place of one, is there afterwards, unless no
entry can have its name. -/
theorem entry?_put_file (overwritable : tree.Overwritable location) (nonempty : location ≠ [])
    (above : tree.entry? location.dropLast = some .directory) (content : Bytes) :
    FileTree.entry? (tree.put location (.file content)) location = some (.file content) ∨
      IsUnnamed location := by
  by_cases named : ∀ name ∈ location, IsFileName name
  · have noDirectory : ¬ DirectoryIn tree.entries location := by
      rw [directoryIn_iff]
      rcases overwritable with free | ⟨_, isFile⟩
      · rw [free]
        simp
      · rw [isFile]
        simp
    have canPut : tree.CanPut location := ⟨nonempty, named, directoryIn_iff.2 above, noDirectory⟩
    exact .inl (by rw [entry?_put canPut, if_pos rfl])
  · refine .inr fun other => ?_
    by_contra present
    obtain ⟨entry, found⟩ := Option.ne_none_iff_exists'.1 present
    exact named fun name member => isFileName_of_entry? found member

/-! ### What stays -/

/-- Holds of a tree and a later one in which every directory and every link is still there and every
file is still a file. -/
structure Keeps (tree later : FileTree) : Prop where
  directory : ∀ location, tree.entry? location = some .directory →
    later.entry? location = some .directory
  link : ∀ location target, tree.entry? location = some (.link target) →
    later.entry? location = some (.link target)
  file : ∀ location content, tree.entry? location = some (.file content) →
    ∃ newer, later.entry? location = some (.file newer)

namespace Keeps

theorem refl (tree : FileTree) : tree.Keeps tree :=
  ⟨fun _ found => found, fun _ _ found => found, fun _ content found => ⟨content, found⟩⟩

theorem trans (first : tree.Keeps middle) (second : middle.Keeps later) : tree.Keeps later where
  directory location found := second.directory location (first.directory location found)
  link location target found := second.link location target (first.link location target found)
  file location content found := by
    obtain ⟨newer, isNewer⟩ := first.file location content found
    exact second.file location newer isNewer

/-- Placing a file where one can be written keeps what is there. -/
theorem put_file (overwritable : tree.Overwritable location) (content : Bytes) :
    tree.Keeps (tree.put location (.file content)) := by
  have elsewhere : ∀ other entry, tree.entry? other = some entry → (∀ old, entry ≠ .file old) →
      FileTree.entry? (tree.put location (.file content)) other = some entry := by
    intro other entry found noFile
    rw [entry?_put_of_ne _ ?_]
    · exact found
    · rintro rfl
      rcases overwritable with free | ⟨old, isFile⟩
      · cases free.symm.trans found
      · exact noFile old (Option.some.inj (found.symm.trans isFile))
  refine ⟨fun other found => elsewhere other _ found (by simp),
    fun other target found => elsewhere other _ found (by simp), fun other old found => ?_⟩
  by_cases same : other = location
  · subst same
    rcases entry?_put_self tree other (.file content) with kept | isFile
    · exact ⟨old, kept.trans found⟩
    · exact ⟨content, isFile⟩
  · exact ⟨old, (entry?_put_of_ne _ same).trans found⟩

/-- Where a file can be written, one can be written later, unless a directory is made there. -/
theorem overwritable (keeps : tree.Keeps later) {content : Bytes}
    (held : tree.entry? location = some (.file content) ∨ IsUnnamed location) :
    later.Overwritable location := by
  rcases held with isFile | isUnnamed
  · exact .inr (keeps.file location content isFile)
  · exact .inl (isUnnamed later)

end Keeps

/-- Holds of a tree and a later one where nothing changed but directories that were made at free
names. -/
def AddsDirectories (tree later : FileTree) : Prop :=
  ∀ location, later.entry? location = tree.entry? location ∨
    tree.entry? location = none ∧ later.entry? location = some .directory

namespace AddsDirectories

theorem refl (tree : FileTree) : tree.AddsDirectories tree :=
  fun _ => .inl rfl

theorem trans (first : tree.AddsDirectories middle) (second : middle.AddsDirectories later) :
    tree.AddsDirectories later := by
  intro location
  rcases first location with same | ⟨free, isDirectory⟩
  · rw [← same]
    exact second location
  · rcases second location with same | ⟨stillFree, _⟩
    · exact .inr ⟨free, same.trans isDirectory⟩
    · cases isDirectory.symm.trans stillFree

theorem put (free : tree.entry? location = none) :
    tree.AddsDirectories (tree.put location .directory) := by
  intro other
  by_cases same : other = location
  · subst same
    exact (entry?_put_self tree other .directory).imp_right fun isDirectory => ⟨free, isDirectory⟩
  · exact .inl (entry?_put_of_ne _ same)

theorem keeps (adds : tree.AddsDirectories later) : tree.Keeps later := by
  have kept : ∀ location entry, tree.entry? location = some entry →
      later.entry? location = some entry := by
    intro location entry found
    rcases adds location with same | ⟨free, _⟩
    · exact same.trans found
    · cases free.symm.trans found
  exact ⟨fun location => kept location _, fun location target => kept location _,
    fun location content found => ⟨content, kept location _ found⟩⟩

end AddsDirectories

/-! ### Walks -/

end FileTree

/-- The location at the end of a walk. -/
def Spot.location : Spot → Location
  | .taken location => location
  | .free location => location

namespace FileTree

variable {tree later : FileTree} {creates : Bool} {budget : Nat} {here : Location}
  {names : List String} {spot : Spot}

/-- Holds of a location with an entry that is no link. -/
def HoldsUnlinked (tree : FileTree) (location : Location) : Prop :=
  ∃ entry, tree.entry? location = some entry ∧ ∀ target, entry ≠ .link target

theorem holdsUnlinked_of_directory {location : Location}
    (isDirectory : tree.entry? location = some .directory) : tree.HoldsUnlinked location :=
  ⟨.directory, isDirectory, fun _ => nofun⟩

/-- A walk ends at an entry that is no link, or at a free name in a directory. -/
theorem walk_ends (start : tree.HoldsUnlinked here)
    (walked : tree.walk creates budget here names = .ok spot) :
    (∃ last, spot = .taken last ∧ tree.HoldsUnlinked last) ∨
      ∃ last, spot = .free last ∧ tree.entry? last = none ∧
        tree.entry? last.dropLast = some .directory := by
  fun_induction tree.walk creates budget here names with
  | case1 budget here => exact .inl ⟨here, (Except.ok.inj walked).symm, start⟩
  | case3 budget here name rest _ _ inductionHypothesis => exact inductionHypothesis start walked
  | case4 budget here rest isDirectory _ inductionHypothesis =>
    exact inductionHypothesis (holdsUnlinked_of_directory
      (directory_above (not_not_isDirectory_iff.1 isDirectory))) walked
  | case7 budget here name rest isDirectory _ _ _ _ free isLast =>
    refine .inr ⟨here ++ [name], (Except.ok.inj walked).symm, free, ?_⟩
    rw [List.dropLast_concat]
    exact not_not_isDirectory_iff.1 isDirectory
  | case10 here name rest isDirectory _ _ _ _ target found left inductionHypothesis =>
    refine inductionHypothesis ?_ walked
    split
    · exact holdsUnlinked_of_directory rfl
    · exact start
  | case11 budget here name rest _ _ _ _ _ entry noLink found inductionHypothesis =>
    exact inductionHypothesis ⟨entry, found, noLink⟩ walked
  | _ => cases walked

/-- A walk ends at the same location after what was there has been kept, unless a link was made at
that location. -/
theorem walk_of_keeps (keeps : tree.Keeps later)
    (walked : tree.walk creates budget here names = .ok spot)
    (notLink : ∀ target, later.entry? spot.location ≠ some (.link target)) :
    ∃ other, later.walk creates budget here names = .ok other ∧ other.location = spot.location := by
  have stays : ∀ {location}, ¬ (!tree.isDirectory location) = true →
      ¬ (!later.isDirectory location) = true := by
    intro location isDirectory
    rw [not_not_isDirectory_iff] at isDirectory ⊢
    exact keeps.directory location isDirectory
  fun_induction tree.walk creates budget here names with
  | case1 budget here =>
    obtain rfl := Except.ok.inj walked
    exact ⟨.taken here, by rw [walk], rfl⟩
  | case3 budget here name rest isDirectory skipped inductionHypothesis =>
    rw [walk, if_neg (stays isDirectory), if_pos skipped]
    exact inductionHypothesis walked
  | case4 budget here rest isDirectory notSkipped inductionHypothesis =>
    rw [walk, if_neg (stays isDirectory), if_neg notSkipped, if_pos rfl]
    exact inductionHypothesis walked
  | case7 budget here name rest isDirectory notSkipped notUp plain short free isLast =>
    obtain rfl := Except.ok.inj walked
    rw [walk, if_neg (stays isDirectory), if_neg notSkipped, if_neg notUp, if_neg plain,
      if_neg short]
    split
    · exact ⟨_, if_pos isLast, rfl⟩
    · next target isLink => exact absurd isLink (notLink target)
    · rw [List.isEmpty_iff.1 isLast, walk]
      exact ⟨_, rfl, rfl⟩
  | case10 here name rest isDirectory notSkipped notUp plain short target found left
      inductionHypothesis =>
    rw [walk, if_neg (stays isDirectory), if_neg notSkipped, if_neg notUp, if_neg plain,
      if_neg short, keeps.link _ target found]
    exact inductionHypothesis walked
  | case11 budget here name rest isDirectory notSkipped notUp plain short entry noLink found
      inductionHypothesis =>
    rw [walk, if_neg (stays isDirectory), if_neg notSkipped, if_neg notUp, if_neg plain,
      if_neg short]
    cases entry with
    | directory =>
      rw [keeps.directory _ found]
      exact inductionHypothesis walked
    | file content =>
      obtain ⟨newer, isNewer⟩ := keeps.file _ content found
      rw [isNewer]
      exact inductionHypothesis walked
    | link target => exact absurd rfl (noLink target)
  | _ => cases walked

end FileTree

/-! ### Writing one file -/

namespace Disk

variable {disk later : Disk} {path : Path} {location : Location}

/-- The location that a file is written at, if there is one. -/
def place? (disk : Disk) (path : Path) : Option Location :=
  (disk.walkTo true path).toOption.map Spot.location

theorem place?_eq_some_iff : disk.place? path = some location ↔
    ∃ spot, disk.walkTo true path = .ok spot ∧ spot.location = location := by
  rw [place?]
  cases disk.walkTo true path with
  | error failure => simp [Except.toOption]
  | ok spot => simp [Except.toOption]

/-- A file that was written is at the place that its path leads to, which was free or held a file;
everything else is as it was. -/
theorem of_write {content : Bytes} (isAbsolute : path.isAbsolute = true)
    (isWritten : disk.write path content = .ok later) :
    ∃ location, disk.place? path = some location ∧ disk.tree.Overwritable location ∧
      later = { disk with tree := disk.tree.put location (.file content) } ∧
      (later.tree.entry? location = some (.file content) ∨ FileTree.IsUnnamed location) := by
  obtain ⟨spot, walked, isWritten⟩ := bind_eq_ok_iff.1 isWritten
  have ends := FileTree.walk_ends
    (FileTree.holdsUnlinked_of_directory (by rw [origin_of_isAbsolute isAbsolute]; rfl))
    (walkTo_eq_ok_iff.1 walked).2
  have isPlace := place?_eq_some_iff.2 ⟨spot, walked, rfl⟩
  rcases ends with ⟨last, rfl, entry, found, noLink⟩ | ⟨last, rfl, free, above⟩
  · have isFile : ∃ old, disk.tree.entry? last = some (.file old) := by
      cases entry with
      | file old => exact ⟨old, found⟩
      | link target => exact absurd rfl (noLink target)
      | directory =>
        dsimp only at isWritten
        rw [if_pos (FileTree.isDirectory_iff.2 found)] at isWritten
        cases isWritten
    obtain ⟨old, isFile⟩ := isFile
    have noDirectory : ¬ disk.tree.isDirectory last = true := by
      rw [FileTree.isDirectory_iff, isFile]
      simp
    dsimp only at isWritten
    rw [if_neg noDirectory] at isWritten
    obtain rfl := Except.ok.inj isWritten
    refine ⟨last, isPlace, .inr ⟨old, isFile⟩, rfl, FileTree.entry?_put_file (.inr ⟨old, isFile⟩) ?_
      (FileTree.directory_above isFile) content⟩
    rintro rfl
    cases isFile
  · obtain rfl := Except.ok.inj isWritten
    exact ⟨last, isPlace, .inl free, rfl, FileTree.entry?_put_file (.inl free)
      (FileTree.ne_nil_of_free free) above content⟩

/-- The place that a path leads to stays the same while files are written. -/
theorem place?_of_keeps (isAbsolute : path.isAbsolute = true)
    (keeps : disk.tree.Keeps later.tree) (isPlace : disk.place? path = some location)
    (overwritable : later.tree.Overwritable location) : later.place? path = some location := by
  obtain ⟨spot, walked, rfl⟩ := place?_eq_some_iff.1 isPlace
  obtain ⟨checked, walked⟩ := walkTo_eq_ok_iff.1 walked
  have notLink : ∀ target, later.tree.entry? spot.location ≠ some (.link target) := by
    intro target isLink
    rcases overwritable with free | ⟨_, isFile⟩
    · cases free.symm.trans isLink
    · cases isFile.symm.trans isLink
  obtain ⟨other, walkedLater, same⟩ := FileTree.walk_of_keeps keeps walked notLink
  refine place?_eq_some_iff.2 ⟨other, walkTo_eq_ok_iff.2 ⟨checked, ?_⟩, same⟩
  rw [origin_of_isAbsolute isAbsolute] at walkedLater ⊢
  exact walkedLater

/-- A file is not written in the place of a directory. -/
theorem write_of_directory (isResolved : disk.tree.IsResolved path)
    (isDirectory : disk.tree.entry? path.names = some .directory)
    (checked : checkPath path = .ok ()) (content : Bytes) :
    disk.write path content = .error (.access .isDirectory path.text) := by
  rw [write, walkTo, checked, origin_of_isAbsolute isResolved.isAbsolute,
    isResolved.walk_present true linkLimit (by rw [isDirectory]; simp)]
  exact if_pos (FileTree.isDirectory_iff.2 isDirectory)

/-! ### Making directories -/

/-- A directory is made at a free name. -/
theorem of_makeOne (isMade : disk.makeOne path = .ok later) :
    ∃ location, disk.tree.entry? location = none ∧
      later.tree = disk.tree.put location .directory := by
  obtain ⟨_, _, isMade⟩ := bind_eq_ok_iff.1 isMade
  split at isMade
  · obtain ⟨_, _, isMade⟩ := bind_eq_ok_iff.1 isMade
    cases isMade
  · obtain ⟨spot, _, isMade⟩ := bind_eq_ok_iff.1 isMade
    cases spot with
    | free _ => cases isMade
    | taken above =>
      dsimp only at isMade
      split at isMade
      · cases isMade
      · split at isMade
        · cases isMade
        · split at isMade
          · cases isMade
          · next absent =>
            obtain rfl := Except.ok.inj isMade
            exact ⟨above ++ [path.name], by simpa using absent, rfl⟩

/-- Making a directory and those above it changes nothing else, whether it succeeds or not. -/
theorem addsDirectories_makeDirectories (disk : Disk) (path : Path) :
    disk.tree.AddsDirectories (disk.makeDirectories path).1.tree := by
  -- The cases are those of the calls: made at once; refused; made or found after what is above it;
  -- refused above; found to be there.
  fun_induction disk.makeDirectories path with
  | case1 path made isMade =>
    obtain ⟨location, free, isTree⟩ := of_makeOne isMade
    rw [isTree]
    exact .put free
  | case2 path place refused isEmpty => exact .refl disk.tree
  | case3 path place refused nonempty above madeAbove made isMade inductionHypothesis =>
    rw [madeAbove] at inductionHypothesis
    obtain ⟨location, free, isTree⟩ := of_makeOne isMade
    rw [isTree]
    exact inductionHypothesis.trans (.put free)
  | case4 path place refused nonempty above madeAbove failure notMade inductionHypothesis =>
    rwa [madeAbove] at inductionHypothesis
  | case5 path place refused nonempty above failure notMade inductionHypothesis =>
    rwa [notMade] at inductionHypothesis
  | case6 path failure notMissing refused => exact .refl disk.tree

/-- A directory that is there is left alone. -/
theorem makeDirectories_of_present (isResolved : disk.tree.IsResolved path)
    (nonempty : path.names ≠ []) (present : disk.tree.entry? path.names = some .directory)
    (checked : checkPath path = .ok ()) (checkedAbove : checkPath path.parent = .ok ()) :
    disk.makeDirectories path = (disk, .ok ()) := by
  have isDirectory : disk.isDirectory path = .ok true :=
    isDirectory_eq_true_iff.2 (entry_of_present isResolved checked present)
  rw [makeDirectories, makeOne_in_directory isResolved nonempty (FileTree.directory_above present)
    checked checkedAbove, present]
  show (disk, disk.tolerate path _) = _
  rw [tolerate, isDirectory]
  rfl

/-! ### Writing files one after the other -/

variable {directory : Path} {files : List (String × Bytes)} {written : Disk}

/-- Files that were written are whole, at the places that their paths lead to; everything else is as
it was. -/
theorem of_writeFiles (isAbsolute : directory.isAbsolute = true)
    (isWritten : disk.writeFiles directory files = (written, .ok ())) :
    disk.tree.Keeps written.tree ∧ ∀ location,
      written.tree.entry? location = disk.tree.entry? location ∨
        ∃ file ∈ files, written.place? (directory.child file.1) = some location ∧
          written.tree.entry? location = some (.file file.2) := by
  induction files generalizing disk with
  | nil =>
    obtain rfl := (Prod.mk.inj isWritten).1
    exact ⟨.refl disk.tree, fun _ => .inl rfl⟩
  | cons file rest inductionHypothesis =>
    rw [writeFiles] at isWritten
    cases isFirst : disk.write (directory.child file.1) file.2 with
    | error failure =>
      rw [isFirst] at isWritten
      cases (Prod.mk.inj isWritten).2
    | ok first =>
      rw [isFirst] at isWritten
      have childAbsolute : (directory.child file.1).isAbsolute = true := isAbsolute
      obtain ⟨place, isPlace, overwritable, rfl, held⟩ := of_write childAbsolute isFirst
      obtain ⟨keeps, changes⟩ := inductionHypothesis isWritten
      refine ⟨(FileTree.Keeps.put_file overwritable file.2).trans keeps, fun location => ?_⟩
      rcases changes location with same | ⟨later, member, isLater⟩
      · by_cases isFile : location = place
        · subst isFile
          rcases held with isThere | isUnnamed
          · have stillPlace := place?_of_keeps childAbsolute
              ((FileTree.Keeps.put_file overwritable file.2).trans keeps) isPlace
              (keeps.overwritable (.inl isThere))
            exact .inr ⟨file, List.mem_cons_self, stillPlace, same.trans isThere⟩
          · exact .inl ((isUnnamed _).trans (isUnnamed _).symm)
        · exact .inl (same.trans (FileTree.entry?_put_of_ne _ isFile))
      · exact .inr ⟨later, List.mem_cons_of_mem file member, isLater⟩

/-- Where writing files ends with a failure, those before the refused one were written. -/
theorem writeFiles_error {failure : Failure}
    (refused : disk.writeFiles directory files = (written, .error failure)) :
    ∃ done file rest, files = done ++ file :: rest ∧
      disk.writeFiles directory done = (written, .ok ()) ∧
      written.write (directory.child file.1) file.2 = .error failure := by
  induction files generalizing disk with
  | nil => cases (Prod.mk.inj refused).2
  | cons file rest inductionHypothesis =>
    rw [writeFiles] at refused
    cases isFirst : disk.write (directory.child file.1) file.2 with
    | error other =>
      rw [isFirst] at refused
      obtain ⟨rfl, isFailure⟩ := Prod.mk.inj refused
      obtain rfl := Except.error.inj isFailure
      exact ⟨[], file, rest, rfl, rfl, isFirst⟩
    | ok first =>
      rw [isFirst] at refused
      obtain ⟨done, next, more, rfl, isDone, isRefused⟩ := inductionHypothesis refused
      refine ⟨file :: done, next, more, rfl, ?_, isRefused⟩
      rw [writeFiles, isFirst]
      exact isDone

/-! ### Refused writing -/

/-- What is left of writing files into a directory that was refused, with the files that were
written before: the directory was refused, or one of the files. -/
inductive RefusedWriting (disk : Disk) (directory : Path) (files : List (String × Bytes)) :
    Disk → List (String × Bytes) → Prop
  | directory {made : Disk} {failure : Failure}
      (refused : disk.makeDirectories directory = (made, .error failure)) :
      RefusedWriting disk directory files made []
  | file {made written : Disk} {done rest : List (String × Bytes)} {file : String × Bytes}
      {failure : Failure} (isMade : disk.makeDirectories directory = (made, .ok ()))
      (split : files = done ++ file :: rest)
      (isDone : made.writeFiles directory done = (written, .ok ()))
      (refused : written.write (directory.child file.1) file.2 = .error failure) :
      RefusedWriting disk directory files written done

theorem refusedWriting_of_writeSlice {slice : Slice} {failure : Failure}
    (refused : disk.writeSlice directory slice = (written, .error failure)) :
    ∃ done, RefusedWriting disk directory slice.artifacts written done := by
  rw [writeSlice] at refused
  split at refused
  · next made isMade =>
    obtain ⟨done, file, rest, isSplit, isDone, isRefused⟩ := writeFiles_error refused
    exact ⟨done, .file isMade isSplit isDone isRefused⟩
  · next made other isMade =>
    obtain ⟨rfl, _⟩ := Prod.mk.inj refused
    exact ⟨[], .directory isMade⟩

/-- Refused writing leaves new directories and the files before the refused one, whole; everything
else is as it was. -/
theorem RefusedWriting.changes {done : List (String × Bytes)}
    (refused : RefusedWriting disk directory files written done)
    (isAbsolute : directory.isAbsolute = true) :
    disk.tree.Keeps written.tree ∧ ∀ location,
      written.tree.entry? location = disk.tree.entry? location ∨
      disk.tree.entry? location = none ∧ written.tree.entry? location = some .directory ∨
      ∃ file ∈ done, written.place? (directory.child file.1) = some location ∧
        written.tree.entry? location = some (.file file.2) := by
  have adds := addsDirectories_makeDirectories disk directory
  cases refused with
  | directory isRefused =>
    rw [isRefused] at adds
    exact ⟨adds.keeps, fun location => (adds location).imp_right .inl⟩
  | file isMade _ isDone _ =>
    rw [isMade] at adds
    obtain ⟨keeps, changes⟩ := of_writeFiles isAbsolute isDone
    refine ⟨adds.keeps.trans keeps, fun location => ?_⟩
    rcases changes location with same | isFile
    · rw [same]
      exact (adds location).imp_right .inl
    · exact .inr (.inr isFile)

end Disk

end SwiftSlice

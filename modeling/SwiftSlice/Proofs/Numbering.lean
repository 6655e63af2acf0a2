/-
The numbering of declarations. The files of a scan stand for different locations
and so have different texts; the start file is one of them or comes last. A file
that is passed over takes no number, and each record goes on where the one before
ended, so the declarations of all records are numbered without gaps, and the one
with a number stands at that position. The start file is blamed exactly if the
scan does not fail and the start file holds no text.
-/

import SwiftSlice.Proofs.EntryPoint
import SwiftSlice.Proofs.Refusal

namespace SwiftSlice

open Text

/-! ### Numbers in a row -/

/-- Holds of declarations that are numbered in a row from an index. -/
def NumberedFrom (startIndex : Int) (declarations : List Declaration) : Prop :=
  ∀ (position : Nat) (declaration : Declaration), declarations[position]? = some declaration →
    declaration.discoveryIndex = startIndex + position

namespace NumberedFrom

variable {startIndex : Int} {declarations : List Declaration}

theorem nil (startIndex : Int) : NumberedFrom startIndex [] :=
  fun _ _ isThere => by cases isThere

theorem append {others : List Declaration} (first : NumberedFrom startIndex declarations)
    (second : NumberedFrom (startIndex + declarations.length) others) :
    NumberedFrom startIndex (declarations ++ others) := by
  intro position declaration isThere
  by_cases early : position < declarations.length
  · rw [List.getElem?_append_left early] at isThere
    exact first position declaration isThere
  · have late : declarations.length ≤ position := Nat.le_of_not_lt early
    rw [List.getElem?_append_right late] at isThere
    rw [second _ declaration isThere]
    omega

theorem fileRecord (source : Bytes) (root : Node) (path : String) (startIndex : Int) :
    NumberedFrom startIndex (fileRecord source root path startIndex).declarations := by
  intro position declaration isThere
  rw [getElem?_declarations_fileRecord] at isThere
  obtain ⟨unit, _, rfl⟩ := Option.map_eq_some_iff.1 isThere
  rfl

/-- Declarations numbered from zero have the numbers below their count. -/
theorem map_discoveryIndex (numbered : NumberedFrom 0 declarations) :
    declarations.map (·.discoveryIndex) = (List.range declarations.length).map Int.ofNat := by
  refine List.ext_getElem? fun position => ?_
  rw [List.getElem?_map, List.getElem?_map]
  by_cases inside : position < declarations.length
  · rw [List.getElem?_range inside, List.getElem?_eq_getElem inside]
    have isNumber := numbered position _ (List.getElem?_eq_getElem inside)
    rw [Option.map_some, Option.map_some, isNumber, Int.zero_add]
    rfl
  · rw [List.getElem?_eq_none (Nat.le_of_not_lt inside),
      List.getElem?_eq_none (by rw [List.length_range]; exact Nat.le_of_not_lt inside)]
    rfl

end NumberedFrom

/-! ### Files that hold text -/

namespace Disk

variable {disk : Disk} {path : Path} {failure : Failure}

/-- Holds of a path that leads to a file of well-formed text. -/
def holdsText (disk : Disk) (path : Path) : Bool :=
  match disk.read path with
  | .ok source => isWellFormed source
  | .error _ => false

theorem access_of_entry_error (noNul : checkNames path = .ok ())
    (failed : disk.entry path = .error failure) : ∃ errno place, failure = .access errno place := by
  rw [entry, spot, walkTo, checkPath, noNul] at failed
  by_cases long : pathLimit < path.text.utf8ByteSize
  · rw [if_pos long] at failed
    exact ⟨_, _, (Except.error.inj failed).symm⟩
  · rw [if_neg long] at failed
    cases walked : disk.tree.walk false linkLimit (disk.origin path) path.names with
    | error errno =>
      rw [walked] at failed
      exact ⟨_, _, (Except.error.inj failed).symm⟩
    | ok spot =>
      rw [walked] at failed
      cases spot with
      | free location => exact ⟨_, _, (Except.error.inj failed).symm⟩
      | taken location =>
        dsimp only [blame, bind, Except.bind, pure, Except.pure] at failed
        split at failed
        · cases failed
        · exact ⟨_, _, (Except.error.inj failed).symm⟩

/-- A file that cannot be read is refused by the file system, unless its path has a null
character. -/
theorem access_of_read_error (noNul : checkNames path = .ok ())
    (failed : disk.read path = .error failure) : ∃ errno place, failure = .access errno place := by
  rw [read] at failed
  cases found : disk.entry path with
  | error other =>
    rw [found] at failed
    obtain rfl : other = failure := Except.error.inj failed
    exact access_of_entry_error noNul found
  | ok entry =>
    rw [found] at failed
    cases entry with
    | file content => cases failed
    | directory => exact ⟨_, _, (Except.error.inj failed).symm⟩
    | link target => exact ⟨_, _, (Except.error.inj failed).symm⟩

end Disk

theorem IsNamed.checkNames {path : Path} (named : IsNamed path.names) :
    Disk.checkNames path = .ok () :=
  Disk.checkNames_eq_ok_iff.2 fun name member => (named name member).2.2.2.2

/-- Holds of a record whose declarations come from the file with its path. -/
def FileRecord.IsOwn (record : FileRecord) : Prop :=
  ∀ declaration ∈ record.declarations, declaration.originFile = record.path

namespace Workspace

variable {workspace : Workspace}

/-! ### Collecting one file -/

theorem collectFile_eq_none_iff {path : Path} (named : IsNamed path.names) (startIndex : Int) :
    (workspace.collectFile path startIndex).outcome = .ok none ↔
      workspace.holdsText path = false := by
  rw [outcome_collectFile, Disk.holdsText]
  cases isRead : workspace.read path with
  | error failure =>
    obtain ⟨errno, place, rfl⟩ := Disk.access_of_read_error named.checkNames isRead
    exact iff_of_true rfl rfl
  | ok source =>
    dsimp only
    cases isWellFormed source with
    | false => exact iff_of_true rfl rfl
    | true =>
      rw [if_pos rfl]
      refine iff_of_false ?_ (by simp)
      split <;> exact nofun

theorem of_collectFile {path : Path} {startIndex : Int} {record : FileRecord}
    (collected : (workspace.collectFile path startIndex).outcome = .ok (some record)) :
    workspace.holdsText path = true ∧ record.path = path.text ∧ record.IsOwn ∧
      NumberedFrom startIndex record.declarations := by
  rw [outcome_collectFile] at collected
  split at collected
  · next source isRead =>
    split at collected
    · next wellFormed =>
      split at collected
      · obtain rfl := Option.some.inj (Except.ok.inj collected)
        refine ⟨?_, rfl, fun declaration member => ?_, NumberedFrom.fileRecord _ _ _ _⟩
        · rw [Disk.holdsText, isRead]
          exact wellFormed
        · obtain ⟨position, isThere⟩ := List.mem_iff_getElem?.1 member
          rw [getElem?_declarations_fileRecord] at isThere
          obtain ⟨unit, _, rfl⟩ := Option.map_eq_some_iff.1 isThere
          rfl
      · cases collected
    · cases Except.ok.inj collected
  · cases Except.ok.inj collected
  · cases collected

theorem failsOnFiles_collectFile (path : Path) (startIndex : Int) :
    FailsOnFiles (workspace.collectFile path startIndex).outcome := by
  rw [outcome_collectFile]
  split
  · split
    · split
      · exact .ok _
      · exact .error trivial
    · exact .ok _
  · exact .ok _
  · next failure _ failed => exact .error (FailsOnFiles.read _ path failure failed)

/-! ### Collecting the files of a scan -/

theorem failsOnFiles_collectFiles (startIndex : Int) (files : List Path) :
    FailsOnFiles (workspace.collectFiles startIndex files).outcome := by
  induction files generalizing startIndex with
  | nil => exact .ok []
  | cons file rest inductionHypothesis =>
    rw [outcome_collectFiles_cons]
    refine .bind (.normalize _ file) fun path =>
      .bind (failsOnFiles_collectFile path _) fun found => ?_
    cases found with
    | none => exact inductionHypothesis startIndex
    | some record => exact .bind (inductionHypothesis _) fun _ => .ok _

/-- Holds of the records of those among some places that hold text, in their order, with the
declarations numbered in a row across them. -/
structure Collects (workspace : Workspace) (startIndex : Int) (places : List Path)
    (records : List FileRecord) : Prop where
  paths : records.map (·.path) = (places.filter workspace.holdsText).map Path.text
  own : ∀ record ∈ records, record.IsOwn
  numbered : NumberedFrom startIndex (records.flatMap (·.declarations))

namespace Collects

variable {startIndex : Int} {place : Path} {places : List Path} {records : List FileRecord}

theorem nil (startIndex : Int) : workspace.Collects startIndex [] [] :=
  ⟨rfl, by simp, .nil startIndex⟩

/-- A place without text changes nothing. -/
theorem cons_skipped (collects : workspace.Collects startIndex places records)
    (noText : workspace.holdsText place = false) :
    workspace.Collects startIndex (place :: places) records := by
  refine ⟨?_, collects.own, collects.numbered⟩
  rw [List.filter_cons_of_neg (by rw [noText]; simp)]
  exact collects.paths

/-- A record in front takes the first numbers. -/
theorem cons {record : FileRecord}
    (collected : (workspace.collectFile place startIndex).outcome = .ok (some record))
    (collects : workspace.Collects (startIndex + record.declarations.length) places records) :
    workspace.Collects startIndex (place :: places) (record :: records) := by
  obtain ⟨holdsText, isPath, isOwn, numbered⟩ := of_collectFile collected
  refine ⟨?_, List.forall_mem_cons.2 ⟨isOwn, collects.own⟩, ?_⟩
  · rw [List.filter_cons_of_pos holdsText, List.map_cons, List.map_cons, isPath, collects.paths]
  · rw [List.flatMap_cons]
    exact numbered.append collects.numbered

end Collects

theorem collects_of_collectFiles {startIndex : Int} {files places : List Path}
    {records : List FileRecord} (normalized : files.mapM workspace.normalize = .ok places)
    (named : ∀ place ∈ places, IsNamed place.names)
    (collected : (workspace.collectFiles startIndex files).outcome = .ok records) :
    workspace.Collects startIndex places records := by
  induction files generalizing startIndex places records with
  | nil =>
    obtain rfl := Except.ok.inj normalized
    obtain rfl := Except.ok.inj collected
    exact .nil startIndex
  | cons file rest inductionHypothesis =>
    rw [List.mapM_cons, bind_eq_ok_iff] at normalized
    obtain ⟨place, isPlace, normalized⟩ := normalized
    obtain ⟨others, areOthers, isWhole⟩ := bind_eq_ok_iff.1 normalized
    obtain rfl := Except.ok.inj isWhole
    obtain ⟨placeNamed, othersNamed⟩ := List.forall_mem_cons.1 named
    rw [outcome_collectFiles_cons, isPlace] at collected
    obtain ⟨_, ⟨⟩, collected⟩ := bind_eq_ok_iff.1 collected
    obtain ⟨found, isFound, collected⟩ := bind_eq_ok_iff.1 collected
    cases found with
    | none =>
      exact (inductionHypothesis areOthers othersNamed collected).cons_skipped
        ((collectFile_eq_none_iff placeNamed startIndex).1 isFound)
    | some record =>
      obtain ⟨more, collectedMore, isAll⟩ := bind_eq_ok_iff.1 collected
      obtain rfl := Except.ok.inj isAll
      exact .cons isFound (inductionHypothesis areOthers othersNamed collectedMore)

/-- Places that hold text can be collected, if the grammar cuts no keyword of a text. -/
theorem exists_collectFiles {files places : List Path} (startIndex : Int)
    (normalized : files.mapM workspace.normalize = .ok places)
    (named : ∀ place ∈ places, IsNamed place.names)
    (keepsKeywords : ∀ source, isWellFormed source = true →
      (codeUnits source (workspace.grammar source)).all (·.isReadable source) = true) :
    ∃ records, (workspace.collectFiles startIndex files).outcome = .ok records := by
  induction files generalizing startIndex places with
  | nil => exact ⟨[], rfl⟩
  | cons file rest inductionHypothesis =>
    rw [List.mapM_cons, bind_eq_ok_iff] at normalized
    obtain ⟨place, isPlace, normalized⟩ := normalized
    obtain ⟨others, areOthers, isWhole⟩ := bind_eq_ok_iff.1 normalized
    obtain rfl := Except.ok.inj isWhole
    obtain ⟨placeNamed, othersNamed⟩ := List.forall_mem_cons.1 named
    have further := fun index => inductionHypothesis index areOthers othersNamed
    rw [outcome_collectFiles_cons, isPlace]
    cases holdsText : workspace.holdsText place with
    | false =>
      obtain ⟨records, collected⟩ := further startIndex
      refine ⟨records, bind_eq_ok_iff.2 ⟨place, rfl, bind_eq_ok_iff.2 ⟨none, ?_, collected⟩⟩⟩
      exact (collectFile_eq_none_iff placeNamed startIndex).2 holdsText
    | true =>
      rw [Disk.holdsText] at holdsText
      split at holdsText
      · next source isRead =>
        have first := outcome_collectFile_of_read isRead holdsText (keepsKeywords source holdsText)
          startIndex
        obtain ⟨records, collected⟩ := further (startIndex +
          (fileRecord source (workspace.grammar source) place.text startIndex).declarations.length)
        exact ⟨_, bind_eq_ok_iff.2 ⟨place, rfl, bind_eq_ok_iff.2 ⟨_, first,
          bind_eq_ok_iff.2 ⟨records, collected, rfl⟩⟩⟩⟩
      · cases holdsText

/-! ### Collecting the sources -/

/-- The files of a scan stand for different locations of the tree. -/
theorem exists_locations_of_candidateFiles {sourcesDir : Option Path} {config : Config}
    {files : List Path} (isAbsolute : ∀ base ∈ sourcesDir, base.isAbsolute = true)
    (scanned : workspace.candidateFiles sourcesDir config = .ok files) :
    ∃ locations : List Location, files.mapM workspace.normalize =
        .ok (locations.map Disk.pathOf) ∧ locations.Nodup ∧
      ∀ place ∈ locations.map Disk.pathOf, IsNamed place.names := by
  cases sourcesDir with
  | none =>
    obtain rfl := Except.ok.inj scanned
    exact ⟨[], rfl, List.nodup_nil, by simp⟩
  | some base =>
    obtain ⟨locations, normalized, distinct, areFiles⟩ :=
      Disk.exists_locations_of_swiftFiles (isAbsolute base rfl) scanned
    refine ⟨locations, normalized, distinct, fun place member => ?_⟩
    obtain ⟨location, inLocations, rfl⟩ := List.mem_map.1 member
    obtain ⟨content, held⟩ := areFiles location inLocations
    exact IsNamed.of_entry? held

/-- Different locations of a tree have different texts. -/
theorem nodup_texts {locations : List Location} (distinct : locations.Nodup)
    (named : ∀ place ∈ locations.map Disk.pathOf, IsNamed place.names) (keep : Path → Bool) :
    (((locations.map Disk.pathOf).filter keep).map Path.text).Nodup := by
  have places : (locations.map Disk.pathOf).Nodup :=
    distinct.map fun _ _ same => congrArg Path.names same
  refine (List.nodup_map_iff_inj_on (places.filter keep)).2
    fun place member other isOther same => ?_
  have placeMember := (List.mem_filter.1 member).1
  have otherMember := (List.mem_filter.1 isOther).1
  have sameNames :=
    Path.names_eq_of_text_eq (named place placeMember) (named other otherMember) same
  obtain ⟨location, _, rfl⟩ := List.mem_map.1 placeMember
  obtain ⟨otherLocation, _, rfl⟩ := List.mem_map.1 otherMember
  exact congrArg Disk.pathOf sameNames

/-- Holds of the records of a start file and of the files of a scan, given the places that these
stand for. -/
structure IsNumbering (workspace : Workspace) (start : Path) (places : List Path)
    (records : List FileRecord) : Prop where
  distinct : (records.map (·.path)).Nodup
  startOnce : (records.map (·.path)).count start.text = 1
  own : ∀ record ∈ records, ∀ declaration ∈ record.declarations,
    declaration.originFile = record.path
  scanned : records.map (·.path) = (places.filter workspace.holdsText).map Path.text ++
    if start.text ∈ (places.filter workspace.holdsText).map Path.text then [] else [start.text]
  numbered : (records.flatMap (·.declarations)).map (·.discoveryIndex) =
    (List.range (countDeclarations records)).map Int.ofNat
  placed : ∀ (position : Nat) (declaration : Declaration),
    (ReferenceIndex.ofRecords records).declarations[position]? = some declaration →
      declaration.discoveryIndex = position

/-- Records with the paths that a scan and a start file ask for, numbered in a row from zero. -/
theorem isNumbering_of_paths {start : Path} {places : List Path} {records : List FileRecord}
    (texts : ((places.filter workspace.holdsText).map Path.text).Nodup)
    (paths : records.map (·.path) = (places.filter workspace.holdsText).map Path.text ++
      if start.text ∈ (places.filter workspace.holdsText).map Path.text then [] else [start.text])
    (own : ∀ record ∈ records, record.IsOwn)
    (numbered : NumberedFrom 0 (records.flatMap (·.declarations))) :
    workspace.IsNumbering start places records := by
  have isDistinct : (records.map (·.path)).Nodup ∧ start.text ∈ records.map (·.path) := by
    rw [paths]
    split
    · next member => exact ⟨by rwa [List.append_nil], List.mem_append_left _ member⟩
    · next absent =>
      refine ⟨texts.append (List.nodup_singleton _) ?_,
        List.mem_append_right _ (List.mem_singleton_self _)⟩
      exact List.disjoint_singleton.2 absent
  refine ⟨isDistinct.1, List.count_eq_one_of_mem isDistinct.1 isDistinct.2, own, paths,
    numbered.map_discoveryIndex, fun position declaration isThere => ?_⟩
  rw [numbered position declaration isThere, Int.zero_add]

theorem Collects.any_path_iff {start : Path} {places : List Path} {records : List FileRecord}
    (collects : workspace.Collects 0 places records) :
    records.any (·.path == start.text) = true ↔
      start.text ∈ (places.filter workspace.holdsText).map Path.text := by
  rw [← collects.paths, List.any_eq_true, List.mem_map]
  simp only [beq_iff_eq]

/-- What is collected from the sources is numbered. -/
theorem isNumbering_of_collectSources {startFile : Path} {sourcesDir : Option Path}
    {config : Config} {records : List FileRecord}
    (isAbsolute : ∀ base ∈ sourcesDir, base.isAbsolute = true)
    (collected : (workspace.collectSources startFile sourcesDir config).outcome = .ok records) :
    ∃ start files places, workspace.normalize startFile = .ok start ∧
      workspace.candidateFiles sourcesDir config = .ok files ∧
      files.mapM workspace.normalize = .ok places ∧
      workspace.IsNumbering start places records := by
  rw [outcome_collectSources, bind_eq_ok_iff] at collected
  obtain ⟨start, normalized, collected⟩ := collected
  obtain ⟨files, scannedFiles, collected⟩ := bind_eq_ok_iff.1 collected
  obtain ⟨scanned, collectedFiles, collected⟩ := bind_eq_ok_iff.1 collected
  obtain ⟨locations, areLocations, distinct, named⟩ :=
    exists_locations_of_candidateFiles isAbsolute scannedFiles
  have collects := collects_of_collectFiles areLocations named collectedFiles
  have texts := nodup_texts distinct named workspace.holdsText
  refine ⟨start, files, _, normalized, scannedFiles, areLocations, ?_⟩
  split at collected
  · next isScanned =>
    obtain rfl := Except.ok.inj collected
    refine isNumbering_of_paths texts ?_ collects.own collects.numbered
    rw [if_pos (collects.any_path_iff.1 isScanned), List.append_nil, collects.paths]
  · next notScanned =>
    obtain ⟨found, isFound, collected⟩ := bind_eq_ok_iff.1 collected
    cases found with
    | none => cases collected
    | some record =>
      obtain rfl := Except.ok.inj collected
      obtain ⟨_, isPath, isOwn, numbered⟩ := of_collectFile isFound
      refine isNumbering_of_paths texts ?_ ?_ ?_
      · rw [if_neg (mt collects.any_path_iff.2 notScanned), List.map_append, collects.paths,
          List.map_singleton, isPath]
      · exact List.forall_mem_append.2 ⟨collects.own, List.forall_mem_singleton.2 isOwn⟩
      · rw [List.flatMap_append, List.flatMap_singleton]
        refine collects.numbered.append ?_
        rw [Int.zero_add]
        exact numbered

/-- A start file that the scan has found holds text. -/
theorem holdsText_of_scanned {startFile start : Path} {locations : List Location}
    (named : ∀ place ∈ locations.map Disk.pathOf, IsNamed place.names)
    (normalized : workspace.normalize startFile = .ok start) (startNamed : IsNamed start.names)
    (member : start.text ∈ ((locations.map Disk.pathOf).filter workspace.holdsText).map Path.text) :
    workspace.holdsText start = true := by
  obtain ⟨place, isPlace, sameText⟩ := List.mem_map.1 member
  obtain ⟨inPlaces, holdsText⟩ := List.mem_filter.1 isPlace
  have sameNames := Path.names_eq_of_text_eq (named place inPlaces) startNamed sameText
  obtain ⟨location, _, rfl⟩ := List.mem_map.1 inPlaces
  obtain ⟨startLocation, rfl⟩ := Disk.exists_pathOf_of_normalize normalized
  obtain rfl : location = startLocation := sameNames
  exact holdsText

/-- The start file is blamed if the scan succeeds and the start file holds no text, and only
then. -/
theorem startUnreadable_iff {startFile : Path} {sourcesDir : Option Path} {config : Config}
    (isPlaced : workspace.IsPlaced) (noSlash : ∀ name ∈ startFile.names, ¬ '/' ∈ name.toList)
    (isAbsolute : ∀ base ∈ sourcesDir, base.isAbsolute = true) :
    (∃ place, (workspace.collectSources startFile sourcesDir config).outcome =
        .error (.startUnreadable place)) ↔
      ∃ start files scanned, workspace.normalize startFile = .ok start ∧
        workspace.candidateFiles sourcesDir config = .ok files ∧
        (workspace.collectFiles 0 files).outcome = .ok scanned ∧
        workspace.holdsText start = false := by
  have scanFails : FailsOnFiles (workspace.candidateFiles sourcesDir config) := by
    cases sourcesDir with
    | none => exact .ok []
    | some base => exact .swiftFiles _ base _
  constructor
  · rintro ⟨place, blamed⟩
    rw [outcome_collectSources, FailsOnFiles.bind_eq_startUnreadable_iff (.normalize _ _)] at blamed
    obtain ⟨start, normalized, blamed⟩ := blamed
    obtain ⟨files, scannedFiles, blamed⟩ :=
      (FailsOnFiles.bind_eq_startUnreadable_iff scanFails).1 blamed
    obtain ⟨scanned, collectedFiles, blamed⟩ :=
      (FailsOnFiles.bind_eq_startUnreadable_iff (failsOnFiles_collectFiles 0 files)).1 blamed
    refine ⟨start, files, scanned, normalized, scannedFiles, collectedFiles, ?_⟩
    split at blamed
    · cases blamed
    · obtain ⟨found, isFound, blamed⟩ :=
        (FailsOnFiles.bind_eq_startUnreadable_iff (failsOnFiles_collectFile start _)).1 blamed
      cases found with
      | some record => cases blamed
      | none =>
        have startNamed := Disk.isNamed_of_normalize isPlaced noSlash normalized
        exact (collectFile_eq_none_iff startNamed _).1 isFound
  · rintro ⟨start, files, scanned, normalized, scannedFiles, collectedFiles, noText⟩
    obtain ⟨locations, areLocations, _, named⟩ :=
      exists_locations_of_candidateFiles isAbsolute scannedFiles
    have collects := collects_of_collectFiles areLocations named collectedFiles
    have startNamed := Disk.isNamed_of_normalize isPlaced noSlash normalized
    have notScanned : ¬ scanned.any (·.path == start.text) = true := by
      intro isScanned
      have holdsText := holdsText_of_scanned named normalized startNamed
        (collects.any_path_iff.1 isScanned)
      exact Bool.false_ne_true (noText.symm.trans holdsText)
    refine ⟨start.text, ?_⟩
    rw [outcome_collectSources]
    refine (FailsOnFiles.bind_eq_startUnreadable_iff (.normalize _ _)).2 ⟨start, normalized, ?_⟩
    refine (FailsOnFiles.bind_eq_startUnreadable_iff scanFails).2 ⟨files, scannedFiles, ?_⟩
    refine (FailsOnFiles.bind_eq_startUnreadable_iff (failsOnFiles_collectFiles 0 files)).2
      ⟨scanned, collectedFiles, ?_⟩
    rw [if_neg notScanned, (collectFile_eq_none_iff startNamed _).2 noText]
    rfl

/-- Collecting the sources numbers their declarations. If records are returned, their paths are
different, the start file is exactly one of them, each declaration is of the file with its record's
path, the records are those of the scanned files that hold text, in the order of the scan, with the
start file behind them if it is not among them, and the declarations in the order of the records
have the numbers from zero on, so that each stands at its number in the index. The start file is
blamed exactly if the scan does not fail and the start file holds no text; with a grammar that cuts
no keyword of a text, no file that the scan finds can fail. -/
theorem collectSources_numbering (workspace : Workspace) (isPlaced : workspace.IsPlaced)
    (startText : String) (sourcesDir : Option Path)
    (isAbsolute : ∀ base ∈ sourcesDir, base.isAbsolute = true) (config : Config) :
    (∀ records,
      (workspace.collectSources (Path.parse startText) sourcesDir config).outcome = .ok records →
      ∃ start files places, workspace.normalize (Path.parse startText) = .ok start ∧
        workspace.candidateFiles sourcesDir config = .ok files ∧
        files.mapM workspace.normalize = .ok places ∧
        workspace.IsNumbering start places records) ∧
    ((∃ place, (workspace.collectSources (Path.parse startText) sourcesDir config).outcome =
        .error (.startUnreadable place)) ↔
      ∃ start files scanned, workspace.normalize (Path.parse startText) = .ok start ∧
        workspace.candidateFiles sourcesDir config = .ok files ∧
        (workspace.collectFiles 0 files).outcome = .ok scanned ∧
        workspace.holdsText start = false) ∧
    ((∀ source, isWellFormed source = true →
        (codeUnits source (workspace.grammar source)).all (·.isReadable source) = true) →
      ∀ files, workspace.candidateFiles sourcesDir config = .ok files →
        ∃ scanned, (workspace.collectFiles 0 files).outcome = .ok scanned) := by
  refine ⟨fun records => isNumbering_of_collectSources isAbsolute,
    startUnreadable_iff isPlaced (Path.parse_no_slash startText) isAbsolute, ?_⟩
  intro keepsKeywords files scannedFiles
  obtain ⟨locations, areLocations, _, named⟩ :=
    exists_locations_of_candidateFiles isAbsolute scannedFiles
  exact exists_collectFiles 0 areLocations named keepsKeywords

end Workspace

namespace NestedApp

theorem isPlaced : workspace.IsPlaced :=
  ⟨fun _ member => absurd member List.not_mem_nil, fun _ member => absurd member List.not_mem_nil⟩

theorem isPlain_root : Disk.IsPlain workspace.tree [] where
  linksAside := by simp [workspace]
  isDirectory := rfl
  noIgnoreFile := by decide
  reachable := by decide
  swiftFile := by
    have below : workspace.tree.below [] = [(["App.swift"], .file source)] := by decide
    rw [below]
    exact List.forall_mem_singleton.2 fun _ => ⟨source, rfl⟩

theorem candidateFiles_root :
    workspace.candidateFiles (some (Disk.pathOf [])) {} = .ok [start] := by
  have below : workspace.tree.below [] = [(["App.swift"], .file source)] := by decide
  have found : workspace.swiftFiles (Disk.pathOf []) (Config.scanRules {}) = _ :=
    isPlain_root.swiftFiles_eq rfl
  rw [below] at found
  exact found.trans (congrArg Except.ok (List.mergeSort_singleton start))

theorem normalize_start : workspace.normalize (Path.parse "/App.swift") = .ok start := by
  have parsed : Path.parse "/App.swift" = start := by decide
  rw [parsed]
  exact Disk.normalize_of_isResolved isResolved_start

theorem outcome_collectFiles_start : (workspace.collectFiles 0 [start]).outcome =
    .ok [fileRecord source file start.text 0] :=
  workspace.outcome_collectFiles_of_collected (Disk.normalize_of_isResolved isResolved_start)
    (Workspace.outcome_collectFile_of_read read_start (by decide)
      (show (codeUnits source file).all _ = true by decide +kernel) 0) rfl

/-- A scan of the root finds the start file, which gives one record. -/
theorem outcome_collectSources_root :
    (workspace.collectSources (Path.parse "/App.swift") (some (Disk.pathOf [])) {}).outcome =
      .ok [fileRecord source file start.text 0] := by
  have isScanned : [fileRecord source file start.text 0].any (·.path == start.text) = true :=
    List.any_eq_true.2 ⟨_, List.mem_singleton_self _, beq_iff_eq.2 rfl⟩
  rw [Workspace.outcome_collectSources]
  refine bind_eq_ok_iff.2 ⟨start, normalize_start, bind_eq_ok_iff.2 ⟨_, candidateFiles_root,
    bind_eq_ok_iff.2 ⟨_, outcome_collectFiles_start, ?_⟩⟩⟩
  rw [if_pos isScanned]
  rfl

/-- A file that is not there holds no text. -/
theorem holdsText_missing : ∃ missing,
    workspace.normalize (Path.parse "/Gone.swift") = .ok missing ∧
      workspace.holdsText missing = false := by
  have parsed : Path.parse "/Gone.swift" = Disk.pathOf ["Gone.swift"] := by decide
  have isResolved : workspace.tree.IsResolved (Disk.pathOf ["Gone.swift"]) :=
    Disk.isResolved_of_linkFree (by simp [workspace]) (by decide)
  refine ⟨Disk.pathOf ["Gone.swift"], by rw [parsed, Disk.normalize_of_isResolved isResolved], ?_⟩
  have probed := Disk.probe_of_isResolved isResolved (by decide)
  rw [Disk.holdsText]
  split
  · next content isRead =>
    rw [Disk.probe_eq_some_iff.2 (Disk.read_eq_ok_iff.1 isRead)] at probed
    cases (Except.ok.inj probed).trans (by decide : _ = (none : Option Entry))
  · rfl

end NestedApp

namespace Workspace

/-- A start file that the scan finds is collected once, and its two declarations are numbered; one
that is missing is blamed. -/
theorem collectSources_numbering_nested :
    NestedApp.workspace.IsPlaced ∧
      (∀ base ∈ some (Disk.pathOf []), base.isAbsolute = true) ∧
      (∃ start places, NestedApp.workspace.IsNumbering start places
        [fileRecord NestedApp.source NestedApp.file NestedApp.start.text 0]) ∧
      ∃ place, (NestedApp.workspace.collectSources (Path.parse "/Gone.swift")
        (some (Disk.pathOf [])) {}).outcome = .error (.startUnreadable place) := by
  have isAbsolute : ∀ base ∈ some (Disk.pathOf []), base.isAbsolute = true := by
    rintro _ ⟨⟩
    rfl
  have numbering := fun startText => collectSources_numbering NestedApp.workspace
    NestedApp.isPlaced startText (some (Disk.pathOf [])) isAbsolute {}
  refine ⟨NestedApp.isPlaced, isAbsolute, ?_, ?_⟩
  · obtain ⟨start, _, places, _, _, _, isNumbering⟩ :=
      (numbering "/App.swift").1 _ NestedApp.outcome_collectSources_root
    exact ⟨start, places, isNumbering⟩
  · obtain ⟨missing, normalized, noText⟩ := NestedApp.holdsText_missing
    exact (numbering "/Gone.swift").2.1.2 ⟨missing, _, _, normalized,
      NestedApp.candidateFiles_root, NestedApp.outcome_collectFiles_start, noText⟩

end Workspace

end SwiftSlice

/-
The spelling of locations. A location made of file names can be read back from the
text of its path, so that two files never share one text. Resolving a path gives
such a location: every name is that of an entry met on the way, a name that the
path spells, or one in the target of a link, and neither of the latter holds a
slash; double dots are steps and null characters are refused.
-/

import SwiftSlice.Proofs.Lines
import SwiftSlice.Proofs.Rescanning

namespace SwiftSlice

open Text

/-- Holds of a location made of names that entries may have. -/
def IsNamed (location : Location) : Prop :=
  ∀ name ∈ location, IsFileName name

namespace IsNamed

variable {location : Location}

theorem dropLast (named : IsNamed location) : IsNamed location.dropLast :=
  fun name member => named name (List.dropLast_subset _ member)

theorem append {names : List String} (named : IsNamed location) (more : IsNamed names) :
    IsNamed (location ++ names) :=
  List.forall_mem_append.2 ⟨named, more⟩

theorem no_slash (named : IsNamed location) : ∀ name ∈ location, ¬ '/' ∈ name.toList :=
  fun name member => (named name member).2.2.2.1

theorem of_entry? {tree : FileTree} {entry : Entry} (found : tree.entry? location = some entry) :
    IsNamed location :=
  fun _ member => FileTree.isFileName_of_entry? found member

end IsNamed

/-! ### Reading a text back -/

namespace Path

/-- Names without a slash are what a text of them is cut into. -/
theorem components_intercalate {names : List String} (nonempty : names ≠ [])
    (noSlash : ∀ name ∈ names, ¬ '/' ∈ name.toList) :
    components ("/".intercalate names) = names := by
  have split : (['/'].intercalate (names.map String.toList)).splitOn '/' =
      names.map String.toList :=
    List.splitOn_intercalate '/' (by simpa using noSlash) (by simpa using nonempty)
  rw [components, String.toList_intercalate]
  show (List.splitOn '/' (['/'].intercalate (names.map String.toList))).map String.ofList = names
  rw [split, List.map_map]
  simp [Function.comp_def]

/-- A slash in front of a text cuts off an empty name. -/
theorem components_slash (text : String) : components ("/" ++ text) = "" :: components text := by
  rw [components, components, String.toList_append]
  show (List.splitOn '/' ([] ++ '/' :: text.toList)).map String.ofList = _
  rw [List.splitOn_append_cons_self_of_not_mem List.not_mem_nil]
  rfl

/-- The names of a path can be read back from its text. -/
theorem names_parse_text (path : Path) (named : IsNamed path.names) :
    (parse path.text).names = path.names := by
  obtain ⟨anchor, names⟩ := path
  have kept : names.filter (fun name => name != "" && name != ".") = names := by
    refine List.filter_eq_self.2 fun name member => ?_
    obtain ⟨nonempty, noDot, _⟩ := named name member
    simp [nonempty, noDot]
  by_cases empty : names = []
  · subst empty
    cases anchor <;> decide
  · have read := components_intercalate empty named.no_slash
    cases anchor with
    | relative => simpa [parse, text, empty, Anchor.text, read] using kept
    | absolute => simpa [parse, text, Anchor.text, components_slash, read] using kept
    | doubled =>
      have twice : "//" ++ "/".intercalate names = "/" ++ ("/" ++ "/".intercalate names) := by
        rw [← String.append_assoc]
        rfl
      simpa [parse, text, Anchor.text, twice, components_slash, read] using kept

theorem head?_intercalate_ne {names : List String} (named : IsNamed names) :
    ("/".intercalate names).toList.head? ≠ some '/' := by
  cases names with
  | nil => simp
  | cons first rest =>
    obtain ⟨nonempty, _, _, noSlash, _⟩ := named first List.mem_cons_self
    obtain ⟨char, chars, isFirst⟩ :=
      List.exists_cons_of_ne_nil (mt String.toList_eq_nil_iff.1 nonempty)
    have inFront : ∃ after, ("/".intercalate (first :: rest)).toList = first.toList ++ after := by
      rw [String.toList_intercalate]
      cases rest with
      | nil => exact ⟨[], by simp [List.intercalate]⟩
      | cons second others => exact ⟨_, by simp [List.intercalate]; rfl⟩
    obtain ⟨after, isText⟩ := inFront
    rw [isFirst] at isText noSlash
    rw [isText]
    exact fun isSlash => noSlash (Option.some.inj isSlash ▸ List.mem_cons_self)

theorem anchorOf_append (anchor : Anchor) {text : String}
    (noSlash : text.toList.head? ≠ some '/') : anchorOf (anchor.text ++ text) = anchor := by
  have none : text.toList.takeWhile (· == '/') = [] := by
    cases isText : text.toList with
    | nil => rfl
    | cons char rest =>
      rw [isText] at noSlash
      refine List.takeWhile_cons_of_neg fun isSlash => noSlash ?_
      rw [List.head?_cons, beq_iff_eq.1 isSlash]
  rw [anchorOf, String.toList_append]
  cases anchor with
  | relative => simp [Anchor.text, none]
  | absolute => simp [Anchor.text, none]
  | doubled => simp [Anchor.text, none]

/-- A path made of file names can be read back from its text. -/
theorem parse_text {path : Path} (named : IsNamed path.names) : parse path.text = path := by
  obtain ⟨anchor, names⟩ := path
  have isAnchor : (parse (text ⟨anchor, names⟩)).anchor = anchor := by
    show anchorOf (text ⟨anchor, names⟩) = anchor
    rw [text]
    split
    · next isDot =>
      obtain ⟨rfl, _⟩ : anchor = .relative ∧ names = [] := by simpa using isDot
      decide
    · exact anchorOf_append anchor (head?_intercalate_ne named)
  have isNames := names_parse_text ⟨anchor, names⟩ named
  show (⟨(parse (text ⟨anchor, names⟩)).anchor, (parse (text ⟨anchor, names⟩)).names⟩ : Path) = _
  rw [isAnchor, isNames]

/-- Where there are no double dots, nothing is folded away. -/
theorem foldDots_of_no_up {names : List String} (noUp : ∀ name ∈ names, name ≠ "..") :
    foldDots names = names := by
  have folded : ∀ done : List String, names.foldl
      (fun done name => if name = ".." then done.dropLast else done ++ [name]) done =
        done ++ names := by
    induction names with
    | nil => exact fun done => (List.append_nil done).symm
    | cons first rest inductionHypothesis =>
      intro done
      obtain ⟨notUp, restNoUp⟩ := List.forall_mem_cons.1 noUp
      rw [List.foldl_cons, if_neg notUp, inductionHypothesis restNoUp, List.append_assoc]
      rfl
  exact folded []

/-- An absolute path made of file names is its own absolute form. -/
theorem lexical_of_named {path : Path} (isAbsolute : path.isAbsolute = true)
    (named : IsNamed path.names) (directory : List String) : path.lexical directory = path := by
  have isWhole : (⟨.absolute, directory⟩ : Path) ++ path = path := if_pos isAbsolute
  rw [lexical, isWhole, foldDots_of_no_up fun name member => (named name member).not_up]

/-- Locations that are spelled alike are the same. -/
theorem names_eq_of_text_eq {path other : Path} (named : IsNamed path.names)
    (otherNamed : IsNamed other.names) (same : path.text = other.text) :
    path.names = other.names := by
  rw [← names_parse_text path named, same, names_parse_text other otherNamed]

theorem components_no_slash (text : String) : ∀ name ∈ components text, ¬ '/' ∈ name.toList := by
  intro name member
  obtain ⟨piece, isPiece, rfl⟩ := List.mem_map.1 member
  rw [String.toList_ofList]
  exact not_mem_of_mem_splitOn isPiece

theorem parse_no_slash (text : String) : ∀ name ∈ (parse text).names, ¬ '/' ∈ name.toList :=
  fun name member => components_no_slash text name (List.mem_filter.1 member).1

end Path

/-! ### Following links -/

/-- Holds of pending names without a slash. -/
def Pending.NoSlash : Pending → Prop
  | .name text => ¬ '/' ∈ text.toList
  | .leave _ => True

/-- Holds of a real location made of file names, and of one that runs into a loop if its names
are not empty and hold no slash. -/
def Followed.IsNamed : Followed → Prop
  | .real location => SwiftSlice.IsNamed location
  | .looping location => ∀ name ∈ location, name ≠ "" ∧ ¬ '/' ∈ name.toList

/-- Holds of a log in which every link that was read has a real location made of file names. -/
def LinkLog.IsNamed (log : LinkLog) : Prop :=
  ∀ link real, log.lookup link = some (some real) → SwiftSlice.IsNamed real.location

namespace LinkLog.IsNamed

variable {log : LinkLog}

theorem open_cons (named : LinkLog.IsNamed log) (link : Standing) :
    LinkLog.IsNamed ((link, none) :: log) :=
  fun other real met => named other real (read_of_open_cons met)

theorem markRead (named : LinkLog.IsNamed log) {link real : Standing}
    (isReal : SwiftSlice.IsNamed real.location) : LinkLog.IsNamed (markRead log link real) := by
  intro other found met
  rcases read_of_markRead met with ⟨_, rfl⟩ | wasRead
  · exact isReal
  · exact named other found wasRead

end LinkLog.IsNamed

/-- Names put behind a location are those of the location and of what is pending. -/
theorem mem_behind {here : Location} {atFirst : Bool} {pending : List Pending} {name : String}
    (member : name ∈ behind here atFirst pending) :
    name ∈ here ∨ name ≠ "" ∧ .name name ∈ pending := by
  fun_induction behind here atFirst pending with
  | case1 here atFirst => exact .inl member
  | case2 here atFirst link rest inductionHypothesis =>
    exact (inductionHypothesis member).imp_right (And.imp_right (List.mem_cons_of_mem _))
  | case3 here atFirst next rest inductionHypothesis =>
    rcases inductionHypothesis member with inHere | ⟨nonempty, isPending⟩
    · split at inHere
      · exact absurd inHere List.not_mem_nil
      · exact .inl inHere
    · exact .inr ⟨nonempty, List.mem_cons_of_mem _ isPending⟩
  | case4 here atFirst rest _ inductionHypothesis =>
    exact (inductionHypothesis member).imp_right (And.imp_right (List.mem_cons_of_mem _))
  | case5 here atFirst text rest nonempty inductionHypothesis =>
    rcases inductionHypothesis member with inHere | ⟨notEmpty, isPending⟩
    · rcases List.mem_append.1 inHere with before | isText
      · exact .inl before
      · rw [List.mem_singleton.1 isText]
        exact .inr ⟨nonempty, List.mem_cons_self⟩
    · exact .inr ⟨notEmpty, List.mem_cons_of_mem _ isPending⟩

/-- Following pending names without a slash from a location made of file names keeps to such
locations. -/
theorem isNamed_of_follow {tree : FileTree} {log : LinkLog} {here : Standing}
    {pending : List Pending} {followed : Followed} (isLog : LinkLog.IsNamed log)
    (isHere : IsNamed here.location) (noSlash : ∀ next ∈ pending, next.NoSlash)
    (isFollowed : follow tree log here pending = .ok followed) : followed.IsNamed := by
  -- The cases are those of the calls: arrived; a link was read; a name that is no step; a step up;
  -- a null character; a link read before, being read, and new; and a name that is no link.
  fun_induction follow tree log here pending with
  | case1 log here =>
    obtain rfl := Except.ok.inj isFollowed
    exact isHere
  | case2 log here link rest inductionHypothesis =>
    exact inductionHypothesis (isLog.markRead isHere) isHere
      (List.forall_mem_cons.1 noSlash).2 isFollowed
  | case3 log here text rest _ inductionHypothesis =>
    exact inductionHypothesis isLog isHere (List.forall_mem_cons.1 noSlash).2 isFollowed
  | case4 log here rest _ inductionHypothesis =>
    exact inductionHypothesis isLog isHere.dropLast (List.forall_mem_cons.1 noSlash).2 isFollowed
  | case5 => cases isFollowed
  | case6 log here text rest _ _ _ target found real met inductionHypothesis =>
    exact inductionHypothesis isLog (isLog _ real met) (List.forall_mem_cons.1 noSlash).2
      isFollowed
  | case7 log here text rest _ _ _ target found met =>
    obtain rfl := Except.ok.inj isFollowed
    intro name member
    rcases mem_behind member with onTheWay | ⟨nonempty, isPending⟩
    · have isName := FileTree.isFileName_of_entry? found onTheWay
      exact ⟨isName.1, isName.2.2.2.1⟩
    · exact ⟨nonempty, noSlash _ (List.mem_cons_of_mem _ isPending)⟩
  | case8 log here text rest _ _ _ target found met inductionHypothesis =>
    refine inductionHypothesis (isLog.open_cons _) ?_ ?_ isFollowed
    · split
      · exact fun name member => absurd member List.not_mem_nil
      · exact isHere
    · refine List.forall_mem_append.2 ⟨fun next member => ?_,
        List.forall_mem_cons.2 ⟨trivial, (List.forall_mem_cons.1 noSlash).2⟩⟩
      obtain ⟨name, inTarget, rfl⟩ := List.mem_map.1 member
      exact Path.components_no_slash target name inTarget
  | case9 log here text rest notSkipped notUp noNul _ inductionHypothesis =>
    obtain ⟨textNoSlash, restNoSlash⟩ := List.forall_mem_cons.1 noSlash
    refine inductionHypothesis isLog (isHere.append fun name member => ?_) restNoSlash isFollowed
    rw [List.mem_singleton.1 member]
    rw [Bool.or_eq_true, decide_eq_true_iff, decide_eq_true_iff, not_or] at notSkipped
    exact ⟨notSkipped.1, notSkipped.2, notUp, textNoSlash, by rwa [List.contains_iff_mem] at noNul⟩

/-! ### Resolving -/

theorem Path.mem_foldl_dots {names done : List String} {name : String}
    (member : name ∈ names.foldl
      (fun done name => if name = ".." then done.dropLast else done ++ [name]) done) :
    name ∈ done ∨ name ∈ names ∧ name ≠ ".." := by
  induction names generalizing done with
  | nil => exact .inl member
  | cons first rest inductionHypothesis =>
    rw [List.foldl_cons] at member
    rcases inductionHypothesis member with inDone | ⟨inRest, notUp⟩
    · split at inDone
      · exact .inl (List.dropLast_subset _ inDone)
      · next firstNotUp =>
        rcases List.mem_append.1 inDone with before | isFirst
        · exact .inl before
        · rw [List.mem_singleton.1 isFirst]
          exact .inr ⟨List.mem_cons_self, firstNotUp⟩
    · exact .inr ⟨List.mem_cons_of_mem first inRest, notUp⟩

/-- Double dots are folded away, and no name is new. -/
theorem Path.mem_foldDots {names : List String} {name : String}
    (member : name ∈ Path.foldDots names) : name ∈ names ∧ name ≠ ".." :=
  (Path.mem_foldl_dots member).resolve_left List.not_mem_nil

namespace Disk

variable {disk : Disk} {path place : Path}

theorem checkNames_eq_ok_iff :
    checkNames path = .ok () ↔ ∀ name ∈ path.names, ¬ Char.ofNat 0 ∈ name.toList := by
  rw [checkNames]
  split
  · next holds =>
    obtain ⟨name, member, hasNul⟩ := List.any_eq_true.1 holds
    exact iff_of_false nofun fun noNul => noNul name member (List.contains_iff_mem.1 hasNul)
  · next free =>
    refine iff_of_true rfl fun name member hasNul => free (List.any_eq_true.2 ⟨name, member, ?_⟩)
    exact List.contains_iff_mem.2 hasNul

/-- Holds of a disk whose working directory is spelled with file names, and whose home with names
that have no slash in them. -/
structure IsPlaced (disk : Disk) : Prop where
  directory : IsNamed disk.directory
  home : ∀ name ∈ disk.home, ¬ '/' ∈ name.toList

/-- Resolving a path spelled without slashes in its names gives a location made of file names. -/
theorem isNamed_of_resolve (isPlaced : disk.IsPlaced)
    (noSlash : ∀ name ∈ path.names, ¬ '/' ∈ name.toList)
    (resolved : disk.resolve path = .ok place) : IsNamed place.names := by
  obtain ⟨followed, isFollowed, settled⟩ := bind_eq_ok_iff.1 resolved
  have named : followed.IsNamed := by
    refine isNamed_of_follow (by simp [LinkLog.IsNamed]) ?_ ?_ isFollowed
    · split
      · exact fun name member => absurd member List.not_mem_nil
      · exact isPlaced.directory
    · intro next member
      obtain ⟨name, inPath, rfl⟩ := List.mem_map.1 member
      exact noSlash name inPath
  cases followed with
  | real location =>
    obtain rfl := Except.ok.inj settled
    exact named
  | looping location =>
    obtain ⟨_, checked, settled⟩ := bind_eq_ok_iff.1 settled
    split at settled
    · cases settled
    · obtain rfl := Except.ok.inj settled
      intro name member
      obtain ⟨inLocation, notUp⟩ := Path.mem_foldDots member
      obtain ⟨inLocation, noDot⟩ := List.mem_filter.1 inLocation
      obtain ⟨nonempty, withoutSlash⟩ := named name inLocation
      exact ⟨nonempty, by simpa using noDot, notUp, withoutSlash,
        checkNames_eq_ok_iff.1 checked name member⟩

/-- The path under which a file is known is made of file names. -/
theorem isNamed_of_normalize (isPlaced : disk.IsPlaced)
    (noSlash : ∀ name ∈ path.names, ¬ '/' ∈ name.toList)
    (normalized : disk.normalize path = .ok place) : IsNamed place.names := by
  obtain ⟨expanded, isExpanded, resolved⟩ := bind_eq_ok_iff.1 normalized
  refine isNamed_of_resolve isPlaced ?_ resolved
  rw [expandHome] at isExpanded
  split at isExpanded
  · next first rest _ isNames =>
    rw [isNames] at noSlash
    split at isExpanded
    · obtain rfl := Except.ok.inj isExpanded
      exact List.forall_mem_append.2 ⟨isPlaced.home, (List.forall_mem_cons.1 noSlash).2⟩
    · split at isExpanded
      · split at isExpanded <;> cases isExpanded
      · obtain rfl := Except.ok.inj isExpanded
        rwa [isNames]
  · obtain rfl := Except.ok.inj isExpanded
    exact noSlash

/-! ### Lengths -/

theorem checkPath_eq_ok_iff : checkPath path = .ok () ↔
    checkNames path = .ok () ∧ path.text.utf8ByteSize ≤ pathLimit := by
  rw [checkPath, bind_eq_ok_iff]
  constructor
  · rintro ⟨_, checked, short⟩
    split at short
    · cases short
    · exact ⟨checked, by omega⟩
  · rintro ⟨checked, short⟩
    exact ⟨(), checked, by rw [if_neg (by omega)]; rfl⟩

/-- The path of the directory above is no longer than the path. -/
theorem utf8ByteSize_text_parent (isAbsolute : path.isAbsolute = true) :
    path.parent.text.utf8ByteSize ≤ path.text.utf8ByteSize := by
  obtain ⟨anchor, names⟩ := path
  have anchored : anchor ≠ .relative := by simpa [Path.isAbsolute] using isAbsolute
  simp only [Path.text, Path.parent, anchored, decide_false, Bool.false_and, Bool.false_eq_true,
    if_false, String.utf8ByteSize_append, Nat.add_le_add_iff_left]
  rcases List.eq_nil_or_concat names with rfl | ⟨above, name, rfl⟩
  · exact Nat.le_refl _
  · rw [List.concat_eq_append, List.dropLast_concat]
    by_cases empty : above = []
    · rw [empty]
      exact Nat.zero_le _
    · rw [String.intercalate_append_of_ne_nil empty (by simp), String.utf8ByteSize_append,
        String.utf8ByteSize_append]
      omega

/-- Where a path can be walked, so can the path of the directory above. -/
theorem checkPath_parent (isAbsolute : path.isAbsolute = true) (checked : checkPath path = .ok ()) :
    checkPath path.parent = .ok () := by
  obtain ⟨noNul, short⟩ := checkPath_eq_ok_iff.1 checked
  refine checkPath_eq_ok_iff.2 ⟨checkNames_eq_ok_iff.2 fun name member => ?_,
    (utf8ByteSize_text_parent isAbsolute).trans short⟩
  exact checkNames_eq_ok_iff.1 noNul name (List.dropLast_subset _ member)

end Disk

end SwiftSlice

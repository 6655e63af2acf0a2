/-
Resolving paths that lead somewhere. A walk replaces each link by its target and
forgets it; resolving keeps a log of the links that it has met and gives up at a
link whose target it is still reading. The two agree wherever the walk arrives:
the least budget with which a link can be followed is greater than those of the
links in its target, so that a link is never met while its own target is read, and
what the log says of a link that was read is where the walk along it arrives. So
resolving an existing path gives the location of its entry.

A real location has no link on the way to it. Following links keeps to such
locations unless it meets a loop, and an absolute path to one stands for itself.
-/

import SwiftSlice.Proofs.Walk

namespace SwiftSlice

open Text

/-! ### One pending name -/

namespace IsFileName

variable {name : String}

theorem no_nul (isName : IsFileName name) : ¬ name.toList.contains (Char.ofNat 0) = true := by
  rw [List.contains_iff_mem]
  exact isName.2.2.2.2

end IsFileName

section Follow

variable {tree : FileTree} {log : LinkLog} {here : Standing} {name : String} {rest : List Pending}

theorem follow_up :
    follow tree log here (.name ".." :: rest) = follow tree log here.parent rest := by
  rw [follow, if_neg (by decide), if_pos rfl]

theorem follow_unlinked (notSkipped : ¬ (name = "" || name = ".") = true) (notUp : name ≠ "..")
    (noNul : ¬ name.toList.contains (Char.ofNat 0) = true)
    (unlinked : ∀ target, tree.entry? (here.child name).location ≠ some (.link target)) :
    follow tree log here (.name name :: rest) = follow tree log (here.child name) rest := by
  rw [follow, if_neg notSkipped, if_neg notUp, if_neg noNul]
  split
  · next target found => exact absurd found (unlinked target)
  · rfl

theorem follow_link {target : String}
    (found : tree.entry? (here.child name).location = some (.link target)) :
    follow tree log here (.name name :: rest) =
      match log.lookup (here.child name) with
      | some (some real) => follow tree log real rest
      | some none => .ok (.looping (behind (here.child name).location true rest))
      | none =>
        follow tree ((here.child name, none) :: log)
          (if beginsWith target "/" then ⟨true, []⟩ else here)
          ((Path.components target).map .name ++ .leave (here.child name) :: rest) := by
  have isName : IsFileName name := FileTree.isFileName_of_entry? found (by simp [Standing.child])
  rw [follow, if_neg isName.not_skipped, if_neg isName.not_up,
    if_neg isName.no_nul]
  split
  · next other isOther =>
    obtain rfl := Entry.link.inj (Option.some.inj (isOther.symm.trans found))
    split <;> next met => rw [met]
  · next noLink => exact absurd found (noLink target)

end Follow

/-! ### The log -/

theorem lookup_markRead (log : LinkLog) (link real other : Standing) :
    (markRead log link real).lookup other =
      if other = link then (log.lookup other).map fun _ => some real else log.lookup other := by
  induction log with
  | nil => simp [markRead]
  | cons item rest inductionHypothesis =>
    have sameKey : (if item.1 = link then (item.1, some real) else item).1 = item.1 := by
      split <;> rfl
    rw [markRead, List.map_cons, List.lookup_cons, List.lookup_cons, ← markRead,
      inductionHypothesis, sameKey]
    by_cases isItem : other = item.1
    · by_cases isLink : item.1 = link <;> simp [isItem, isLink]
    · rw [beq_false_of_ne isItem]

/-- A link that was read is not the one that is opened. -/
theorem read_of_open_cons {log : LinkLog} {link other real : Standing}
    (met : List.lookup other ((link, none) :: log) = some (some real)) :
    log.lookup other = some (some real) := by
  rw [List.lookup_cons] at met
  split at met
  · cases met
  · exact met

theorem open_of_open_cons {log : LinkLog} {link other : Standing}
    (isOpen : List.lookup other ((link, none) :: log) = some none) :
    other = link ∨ log.lookup other = some none := by
  rw [List.lookup_cons] at isOpen
  split at isOpen
  · next isLink => exact .inl (beq_iff_eq.1 isLink)
  · exact .inr isOpen

theorem read_of_markRead {log : LinkLog} {link real other found : Standing}
    (met : (markRead log link real).lookup other = some (some found)) :
    other = link ∧ found = real ∨ log.lookup other = some (some found) := by
  rw [lookup_markRead] at met
  split at met
  · next isLink =>
    obtain ⟨_, _, isFound⟩ := Option.map_eq_some_iff.1 met
    exact .inl ⟨isLink, (Option.some.inj isFound).symm⟩
  · exact .inr met

/-- A link that was read is not open any more. -/
theorem open_of_markRead {log : LinkLog} {link real other : Standing}
    (isOpen : (markRead log link real).lookup other = some none) :
    other ≠ link ∧ log.lookup other = some none := by
  rw [lookup_markRead] at isOpen
  split at isOpen
  · obtain ⟨_, _, isNone⟩ := Option.map_eq_some_iff.1 isOpen
    cases isNone
  · next notLink => exact ⟨notLink, isOpen⟩

/-- Holds of a location from which the link there can be followed within the budget, to the other
location. -/
def LinkLeads (tree : FileTree) (budget : Nat) (link last : Location) : Prop :=
  Leads tree budget link.dropLast [link.getLastD ""] last

theorem linkLeads_child {tree : FileTree} {budget : Nat} {here : Standing} {name : String}
    {last : Location} : LinkLeads tree budget (here.child name).location last ↔
      Leads tree budget here.location [name] last := by
  simp [LinkLeads, Standing.child]

/-- Holds of a log that gives each link that was read the location to which it leads. -/
def SoundLog (tree : FileTree) (log : LinkLog) : Prop :=
  ∀ link real, log.lookup link = some (some real) →
    ∃ budget, LinkLeads tree budget link.location real.location

/-- Holds of a log in which no link that is still being read can be followed within the budget. -/
def OpenBeyond (tree : FileTree) (budget : Nat) (log : LinkLog) : Prop :=
  ∀ link, log.lookup link = some none → ∀ last, ¬ LinkLeads tree budget link.location last

namespace SoundLog

variable {tree : FileTree} {log : LinkLog}

theorem open_cons (sound : SoundLog tree log) (link : Standing) :
    SoundLog tree ((link, none) :: log) :=
  fun other real met => sound other real (read_of_open_cons met)

theorem markRead (sound : SoundLog tree log) {budget : Nat} {link real : Standing}
    (leads : LinkLeads tree budget link.location real.location) :
    SoundLog tree (markRead log link real) := by
  intro other found met
  rcases read_of_markRead met with ⟨rfl, rfl⟩ | wasRead
  · exact ⟨budget, leads⟩
  · exact sound other found wasRead

end SoundLog

namespace OpenBeyond

variable {tree : FileTree} {log : LinkLog} {budget : Nat}

theorem mono (beyond : OpenBeyond tree budget log) {less : Nat} (fewer : less ≤ budget) :
    OpenBeyond tree less log :=
  fun link isOpen last leads => beyond link isOpen last (Leads.mono leads fewer)

theorem open_cons (beyond : OpenBeyond tree budget log) {link : Standing}
    (unreachable : ∀ last, ¬ LinkLeads tree budget link.location last) :
    OpenBeyond tree budget ((link, none) :: log) := by
  intro other isOpen
  rcases open_of_open_cons isOpen with rfl | wasOpen
  · exact unreachable
  · exact beyond other wasOpen

end OpenBeyond

theorem lookup_of_reopened {log later : LinkLog} {link real : Standing}
    (opened : ∀ other, later.lookup other = some none →
      List.lookup other ((link, none) :: log) = some none) {other : Standing}
    (isOpen : (markRead later link real).lookup other = some none) :
    log.lookup other = some none := by
  obtain ⟨notLink, laterOpen⟩ := open_of_markRead isOpen
  exact (open_of_open_cons (opened other laterOpen)).resolve_left notLink

/-! ### Following what a walk arrives at -/

/-- Some budget is just enough for the target of a link, and so not enough for the link. -/
theorem exists_least_budget {tree : FileTree} {left : Nat} {here middle : Location}
    {name target : String} (found : tree.entry? (here ++ [name]) = some (.link target))
    (leads : Leads tree left (if beginsWith target "/" then [] else here)
      (Path.components target) middle) :
    ∃ least, least ≤ left ∧ Leads tree least (if beginsWith target "/" then [] else here)
      (Path.components target) middle ∧ ∀ last, ¬ Leads tree least here [name] last := by
  induction left with
  | zero =>
    refine ⟨0, Nat.le_refl 0, leads, fun last viaLink => ?_⟩
    obtain ⟨left, isZero, _⟩ := viaLink.of_link found
    exact absurd isZero (by omega)
  | succ left inductionHypothesis =>
    by_cases less : Leads tree left (if beginsWith target "/" then [] else here)
      (Path.components target) middle
    · obtain ⟨least, below, enough, notEnough⟩ := inductionHypothesis less
      exact ⟨least, by omega, enough, notEnough⟩
    · refine ⟨left + 1, Nat.le_refl _, leads, fun last viaLink => ?_⟩
      obtain ⟨other, isOther, alongTarget⟩ := viaLink.of_link found
      obtain rfl : left = other := Nat.succ.inj isOther
      rw [List.append_nil] at alongTarget
      exact less (leads.unique alongTarget ▸ alongTarget)

/-- Reading the names along which a walk arrives ends where the walk does, and leaves no link open
that was not open before. -/
theorem follow_of_leads (tree : FileTree) (budget : Nat) (names : List String)
    (here last : Location) (leads : Leads tree budget here names last) (log : LinkLog)
    (sound : SoundLog tree log) (beyond : OpenBeyond tree budget log) (fromRoot : Bool)
    (rest : List Pending) :
    ∃ later still, SoundLog tree later ∧
      (∀ link, later.lookup link = some none → log.lookup link = some none) ∧
      follow tree log ⟨fromRoot, here⟩ (names.map .name ++ rest) =
        follow tree later ⟨still, last⟩ rest := by
  induction budget using Nat.strongRecOn generalizing names here last log fromRoot rest with
  | ind budget smaller =>
  -- A step that follows no link keeps the budget; one that does has smaller budgets left, for the
  -- target and for what comes after it.
  induction leads generalizing log fromRoot with
  | arrives budget here => exact ⟨log, fromRoot, sound, fun _ isOpen => isOpen, rfl⟩
  | @stays budget here last name more isDirectory skipped further inductionHypothesis =>
    have step : follow tree log ⟨fromRoot, here⟩ (.name name :: (more.map .name ++ rest)) =
        follow tree log ⟨fromRoot, here⟩ (more.map .name ++ rest) := by
      rw [follow, if_pos (by simpa using skipped)]
    rw [List.map_cons, List.cons_append, step]
    exact inductionHypothesis smaller log sound beyond fromRoot
  | @rises budget here last more isDirectory further inductionHypothesis =>
    rw [List.map_cons, List.cons_append, follow_up]
    exact inductionHypothesis smaller log sound beyond fromRoot
  | @enters budget here last name more entry short found noLink further inductionHypothesis =>
    have isName :=
      FileTree.isFileName_of_entry? found (List.mem_append_right here List.mem_cons_self)
    have unlinked : ∀ target, tree.entry? (Standing.child ⟨fromRoot, here⟩ name).location ≠
        some (.link target) := by
      intro target isLink
      exact noLink target (Option.some.inj (found.symm.trans isLink))
    rw [List.map_cons, List.cons_append, follow_unlinked isName.not_skipped
      isName.not_up isName.no_nul unlinked]
    exact inductionHypothesis smaller log sound beyond fromRoot
  | @follows left here last name target more short found further _ =>
    obtain ⟨middle, less, fewer, toMiddle, toLast⟩ := further.split
    have viaLink : Leads tree (left + 1) here [name] middle :=
      .follows short found (by rwa [List.append_nil])
    rw [List.map_cons, List.cons_append, follow_link found]
    cases met : log.lookup (Standing.child ⟨fromRoot, here⟩ name) with
    | some known =>
      cases known with
      | none => exact absurd (linkLeads_child.2 viaLink) (beyond _ met middle)
      | some real =>
        obtain ⟨other, known⟩ := sound _ real met
        obtain rfl := viaLink.unique (linkLeads_child.1 known)
        exact smaller less (by omega) more _ last toLast log sound (beyond.mono (by omega))
          real.fromRoot rest
    | none =>
      obtain ⟨least, isLess, enough, notEnough⟩ := exists_least_budget found toMiddle
      have standing : (if beginsWith target "/" then ⟨true, []⟩ else ⟨fromRoot, here⟩ : Standing) =
          ⟨if beginsWith target "/" then true else fromRoot,
            if beginsWith target "/" then [] else here⟩ := by
        split <;> rfl
      have outOfReach : ∀ end', ¬ LinkLeads tree least
          (Standing.child ⟨fromRoot, here⟩ name).location end' :=
        fun end' leads => notEnough end' (linkLeads_child.1 leads)
      obtain ⟨later, still, soundLater, opened, readTarget⟩ := smaller least (by omega) _ _ middle
        enough _ (sound.open_cons _) ((beyond.mono (by omega)).open_cons outOfReach)
        (if beginsWith target "/" then true else fromRoot)
        (.leave (Standing.child ⟨fromRoot, here⟩ name) :: (more.map .name ++ rest))
      have soundRead : SoundLog tree
          (markRead later (Standing.child ⟨fromRoot, here⟩ name) ⟨still, middle⟩) :=
        soundLater.markRead (linkLeads_child.2 viaLink)
      have beyondRead : OpenBeyond tree less
          (markRead later (Standing.child ⟨fromRoot, here⟩ name) ⟨still, middle⟩) :=
        fun link isOpen => beyond.mono (by omega) link (lookup_of_reopened opened isOpen)
      obtain ⟨final, finally', soundFinal, closed, readRest⟩ := smaller less (by omega) more middle
        last toLast _ soundRead beyondRead still rest
      refine ⟨final, finally', soundFinal,
        fun link isOpen => lookup_of_reopened opened (closed link isOpen), ?_⟩
      rw [standing, readTarget, follow, readRest]

/-! ### Trees with the same links -/

/-- Following looks at nothing but links. -/
theorem follow_congr {tree other : FileTree}
    (sameLinks : ∀ location target, tree.entry? location = some (.link target) ↔
      other.entry? location = some (.link target))
    (log : LinkLog) (here : Standing) (pending : List Pending) :
    follow tree log here pending = follow other log here pending := by
  fun_induction follow tree log here pending with
  | case1 => rw [follow]
  | case2 _ _ _ _ inductionHypothesis => rw [follow, inductionHypothesis]
  | case3 _ _ _ _ skipped inductionHypothesis => rw [follow, if_pos skipped, inductionHypothesis]
  | case4 _ _ _ notSkipped inductionHypothesis =>
    rw [follow, if_neg notSkipped, if_pos rfl, inductionHypothesis]
  | case5 _ _ _ _ notSkipped notUp nul =>
    rw [follow, if_neg notSkipped, if_neg notUp, if_pos nul]
  | case6 _ _ _ _ _ _ _ target found _ met inductionHypothesis =>
    rw [follow_link ((sameLinks _ target).1 found), met, inductionHypothesis]
  | case7 _ _ _ _ _ _ _ target found met =>
    rw [follow_link ((sameLinks _ target).1 found), met]
  | case8 _ _ _ _ _ _ _ target found met inductionHypothesis =>
    rw [follow_link ((sameLinks _ target).1 found), met]
    exact inductionHypothesis
  | case9 _ _ _ _ notSkipped notUp noNul unlinked inductionHypothesis =>
    rw [follow_unlinked notSkipped notUp noNul
      fun target found => unlinked target ((sameLinks _ target).2 found), inductionHypothesis]

/-! ### Real locations -/

/-- Holds of a location with no link on the way to it, itself included. -/
def FileTree.Unlinked (tree : FileTree) (location : Location) : Prop :=
  ∀ above target, above <+: location → tree.entry? above ≠ some (.link target)

namespace FileTree.Unlinked

variable {tree : FileTree} {location : Location}

theorem root (tree : FileTree) : tree.Unlinked [] := by
  intro above target onTheWay isLink
  rw [List.prefix_nil.1 onTheWay] at isLink
  cases isLink

theorem dropLast (unlinked : tree.Unlinked location) : tree.Unlinked location.dropLast :=
  fun above target onTheWay => unlinked above target (onTheWay.trans (List.dropLast_prefix _))

theorem child (unlinked : tree.Unlinked location) {name : String}
    (noLink : ∀ target, tree.entry? (location ++ [name]) ≠ some (.link target)) :
    tree.Unlinked (location ++ [name]) := by
  intro above target onTheWay
  rcases List.prefix_concat_iff.1 onTheWay with rfl | before
  · exact noLink target
  · exact unlinked above target before

end FileTree.Unlinked

/-- Holds of a real location: each of its names is one step down, and none of them stands for a
link. Nothing has to exist there. -/
structure FileTree.IsReal (tree : FileTree) (location : Location) : Prop where
  steps : ∀ name ∈ location, ¬ (name = "" || name = ".") = true ∧ name ≠ ".."
  unlinked : ∀ above target, above <+: location → tree.entry? above ≠ some (.link target)

namespace FileTree.IsReal

variable {tree : FileTree} {location : Location} {name : String}

theorem root (tree : FileTree) : tree.IsReal [] where
  steps := by simp
  unlinked := Unlinked.root tree

theorem dropLast (isReal : tree.IsReal location) : tree.IsReal location.dropLast where
  steps := fun name member => isReal.steps name (List.dropLast_subset _ member)
  unlinked := Unlinked.dropLast isReal.unlinked

theorem concat (isReal : tree.IsReal location) (notSkipped : ¬ (name = "" || name = ".") = true)
    (notUp : name ≠ "..")
    (noLink : ∀ target, tree.entry? (location ++ [name]) ≠ some (.link target)) :
    tree.IsReal (location ++ [name]) where
  steps := by
    intro other member
    rcases List.mem_append.1 member with before | isLast
    · exact isReal.steps other before
    · rw [List.mem_singleton.1 isLast]
      exact ⟨notSkipped, notUp⟩
  unlinked := Unlinked.child isReal.unlinked noLink

/-- A directory is at a real location. -/
theorem of_directory (isDirectory : tree.entry? location = some .directory) :
    tree.IsReal location where
  steps := fun name member =>
    have isName := isFileName_of_entry? isDirectory member
    ⟨isName.not_skipped, isName.not_up⟩
  unlinked := by
    rintro above target ⟨rest, rfl⟩ isLink
    by_cases empty : rest = []
    · rw [empty, List.append_nil, isLink] at isDirectory
      cases isDirectory
    · rw [directory_of_append empty isDirectory] at isLink
      cases isLink

end FileTree.IsReal

/-- Holds of a log in which every link that was read has a real location. -/
def LinkLog.IsReal (tree : FileTree) (log : LinkLog) : Prop :=
  ∀ link real, log.lookup link = some (some real) → tree.IsReal real.location

/-- Following pending names from a real location to their end gives a real location, if it meets no
loop. -/
theorem isReal_of_follow {tree : FileTree} {log : LinkLog} {here : Standing}
    {pending : List Pending} {last : Location} (isLog : LinkLog.IsReal tree log)
    (isHere : tree.IsReal here.location)
    (followed : follow tree log here pending = .ok (.real last)) : tree.IsReal last := by
  -- The cases are those of the calls: arrived; a link was read; a name that is no step; a step up;
  -- a null character; a link read before, being read, and new; and a name that is no link.
  fun_induction follow tree log here pending with
  | case1 log here =>
    obtain rfl := Followed.real.inj (Except.ok.inj followed)
    exact isHere
  | case2 log here link rest inductionHypothesis =>
    refine inductionHypothesis (fun other real met => ?_) isHere followed
    rcases read_of_markRead met with ⟨_, rfl⟩ | wasRead
    · exact isHere
    · exact isLog other real wasRead
  | case3 log here text rest _ inductionHypothesis => exact inductionHypothesis isLog isHere followed
  | case4 log here rest _ inductionHypothesis =>
    exact inductionHypothesis isLog isHere.dropLast followed
  | case5 => cases followed
  | case6 log here text rest _ _ _ target found real met inductionHypothesis =>
    exact inductionHypothesis isLog (isLog _ real met) followed
  | case7 => cases Except.ok.inj followed
  | case8 log here text rest _ _ _ target found met inductionHypothesis =>
    refine inductionHypothesis (fun other real met => isLog other real (read_of_open_cons met)) ?_
      followed
    split
    · exact .root tree
    · exact isHere
  | case9 log here text rest notSkipped notUp _ unlinked inductionHypothesis =>
    exact inductionHypothesis isLog (isHere.concat notSkipped notUp unlinked) followed

/-! ### Resolved paths -/

/-- Holds of an absolute path without dots and links: its names are such as entries have, and
nothing on the way along them is a link. Nothing has to exist there. -/
structure FileTree.IsResolved (tree : FileTree) (path : Path) : Prop where
  absolute : path.anchor = .absolute
  named : ∀ name ∈ path.names, IsFileName name ∧ name.utf8ByteSize ≤ nameLimit
  unlinked : ∀ above target, above <+: path.names → tree.entry? above ≠ some (.link target)

theorem follow_names_unlinked (tree : FileTree) (log : LinkLog) (fromRoot : Bool)
    (here : Location) (names : List String) (named : ∀ name ∈ names, IsFileName name)
    (unlinked : ∀ above target, above <+: here ++ names →
      tree.entry? above ≠ some (.link target)) :
    follow tree log ⟨fromRoot, here⟩ (names.map .name) = .ok (.real (here ++ names)) := by
  induction names generalizing here with
  | nil => rw [List.map_nil, follow, List.append_nil]
  | cons name rest inductionHypothesis =>
    have isName := named name List.mem_cons_self
    rw [List.append_cons] at unlinked ⊢
    rw [List.map_cons, follow_unlinked isName.not_skipped isName.not_up
      isName.no_nul fun target => unlinked _ target (List.prefix_append _ _)]
    exact inductionHypothesis (here ++ [name])
      (fun other member => named other (List.mem_cons_of_mem name member)) unlinked

/-- The names of a path are those of the directory above it and its own. -/
theorem Path.names_parent_append {path : Path} (nonempty : path.names ≠ []) :
    path.parent.names ++ [path.name] = path.names := by
  rw [Path.parent, Path.name, List.getLast?_eq_some_getLast nonempty]
  exact List.dropLast_concat_getLast nonempty

namespace FileTree.IsResolved

variable {tree : FileTree} {path : Path}

theorem isAbsolute (isResolved : tree.IsResolved path) : path.isAbsolute = true := by
  rw [Path.isAbsolute, isResolved.absolute]
  rfl

theorem eq_pathOf (isResolved : tree.IsResolved path) : path = Disk.pathOf path.names :=
  congrArg (Path.mk · path.names) isResolved.absolute

theorem parent (isResolved : tree.IsResolved path) : tree.IsResolved path.parent where
  absolute := isResolved.absolute
  named := fun name member => isResolved.named name (List.dropLast_subset _ member)
  unlinked := Unlinked.dropLast isResolved.unlinked

/-- The last name of a resolved path is such as entries have. -/
theorem name_named (isResolved : tree.IsResolved path) (nonempty : path.names ≠ []) :
    IsFileName path.name ∧ path.name.utf8ByteSize ≤ nameLimit := by
  refine isResolved.named path.name ?_
  rw [← Path.names_parent_append nonempty]
  exact List.mem_append_right _ List.mem_cons_self

theorem child_eq_pathOf (isResolved : tree.IsResolved path) (name : String) :
    path.child name = Disk.pathOf (path.names ++ [name]) := by
  rw [Path.child, isResolved.absolute]
  rfl

/-- The root is resolved. -/
theorem root (tree : FileTree) : tree.IsResolved (Disk.pathOf []) where
  absolute := rfl
  named := by simp [Disk.pathOf]
  unlinked := Unlinked.root tree

/-- What a resolved directory may hold is resolved, if it is no link. -/
theorem child {directory : Path} (isResolved : tree.IsResolved directory)
    {name : String} (isName : IsFileName name ∧ name.utf8ByteSize ≤ nameLimit)
    (noLink : ∀ target, tree.entry? (directory.names ++ [name]) ≠ some (.link target)) :
    tree.IsResolved (directory.child name) where
  absolute := isResolved.absolute
  named := by
    intro other member
    rcases List.mem_append.1 member with onTheWay | isLast
    · exact isResolved.named other onTheWay
    · rwa [List.mem_singleton.1 isLast]
  unlinked := Unlinked.child isResolved.unlinked noLink

/-- A walk along a resolved path arrives there if something exists there. -/
theorem walk_present (isResolved : tree.IsResolved path) (creates : Bool) (budget : Nat)
    (present : tree.entry? path.names ≠ none) :
    tree.walk creates budget [] path.names = .ok (.taken path.names) := by
  obtain ⟨entry, found⟩ := Option.ne_none_iff_exists'.1 present
  have noLink : ∀ target, entry ≠ .link target := by
    rintro target rfl
    exact isResolved.unlinked path.names target (List.prefix_refl _) found
  have arrives : tree.walk creates budget [] (path.names ++ []) = _ :=
    FileTree.walk_append_present found noLink (by simp)
  rw [List.append_nil] at arrives
  rw [arrives, if_pos fun name member => (isResolved.named name member).2, FileTree.walk]
  rfl

/-- A walk along a resolved path where nothing exists ends at a free name or breaks off. -/
theorem walk_absent (isResolved : tree.IsResolved path) (creates : Bool) (budget : Nat)
    (absent : tree.entry? path.names = none) :
    tree.walk creates budget [] path.names = .ok (.free path.names) ∨
      tree.walk creates budget [] path.names = .error .noEntry ∨
      tree.walk creates budget [] path.names = .error .notDirectory ∧
        ∃ above content, above <+: path.names ∧ tree.entry? above = some (.file content) :=
  FileTree.walk_absent (Option.some_ne_none _) absent isResolved.named isResolved.unlinked

/-- A walk along a resolved path to a free name in a directory ends there. -/
theorem walk_free (isResolved : tree.IsResolved path) (creates : Bool) (budget : Nat)
    (free : tree.entry? path.names = none)
    (above : tree.entry? path.parent.names = some .directory) :
    tree.walk creates budget [] path.names = .ok (.free path.names) := by
  have nonempty := FileTree.ne_nil_of_free free
  obtain ⟨isName, short⟩ := isResolved.name_named nonempty
  have toAbove : tree.walk creates budget [] (path.parent.names ++ [path.name]) = _ :=
    FileTree.walk_append_present above (by simp) (by simp [isName.1])
  rw [Path.names_parent_append nonempty, List.nil_append, FileTree.walk_cons tree budget [] above
    isName.not_skipped isName.not_up (by simp), Path.names_parent_append nonempty, free,
    if_neg (Nat.not_lt.2 short), if_pos fun name member => (isResolved.parent.named name member).2]
    at toAbove
  exact toAbove

end FileTree.IsResolved

namespace Disk

variable {disk : Disk} {path : Path}

theorem origin_of_isAbsolute (isAbsolute : path.isAbsolute = true) : disk.origin path = [] :=
  if_pos isAbsolute

/-- A location made of file names that are not too long is resolved if no link is on the way. -/
theorem isResolved_of_linksAside {tree : FileTree} {location : Location}
    (aside : ∀ item ∈ tree.entries, ∀ target, item.2 = .link target → ¬ item.1 <+: location)
    (named : ∀ name ∈ location, IsFileName name ∧ name.utf8ByteSize ≤ nameLimit) :
    tree.IsResolved (pathOf location) where
  absolute := rfl
  named := named
  unlinked := by
    intro above target onTheWay isLink
    by_cases root : above = []
    · rw [root] at isLink
      cases isLink
    · exact aside _ ((FileTree.entry?_eq_some_iff root _).1 isLink) target rfl onTheWay

/-- Where there are no links, a location made of file names that are not too long is resolved. -/
theorem isResolved_of_linkFree {tree : FileTree} {location : Location}
    (linkFree : ∀ item ∈ tree.entries, ∀ target, item.2 ≠ .link target)
    (named : ∀ name ∈ location, IsFileName name ∧ name.utf8ByteSize ≤ nameLimit) :
    tree.IsResolved (pathOf location) :=
  isResolved_of_linksAside
    (fun item member target isLink => absurd isLink (linkFree item member target)) named

/-- The walk along a resolved path starts at the root. -/
theorem spot_of_isResolved (isResolved : disk.tree.IsResolved path)
    (checked : checkPath path = .ok ()) :
    disk.spot path = blame path (disk.tree.walk false linkLimit [] path.names) := by
  rw [spot, walkTo, checked, origin_of_isAbsolute isResolved.isAbsolute]
  rfl

/-- The walk along a resolved path ends there, if something is there. -/
theorem spot_of_present (isResolved : disk.tree.IsResolved path)
    (checked : checkPath path = .ok ()) (present : disk.tree.entry? path.names ≠ none) :
    disk.spot path = .ok (.taken path.names) := by
  rw [spot_of_isResolved isResolved checked, isResolved.walk_present false linkLimit present]
  rfl

/-- The walk along a resolved path ends there, if it ends. -/
theorem walkTo_of_isResolved {creates : Bool} {spot : Spot}
    (isResolved : disk.tree.IsResolved path) (walked : disk.walkTo creates path = .ok spot) :
    checkPath path = .ok () ∧
      (spot = .taken path.names ∧ disk.tree.entry? path.names ≠ none ∨
        spot = .free path.names ∧ disk.tree.entry? path.names = none) := by
  obtain ⟨_, checked, blamed⟩ := bind_eq_ok_iff.1 walked
  refine ⟨checked, ?_⟩
  rw [origin_of_isAbsolute isResolved.isAbsolute] at blamed
  by_cases absent : disk.tree.entry? path.names = none
  · rcases isResolved.walk_absent creates linkLimit absent with free | missed | ⟨missed, _⟩
    · rw [free] at blamed
      exact .inr ⟨(Except.ok.inj blamed).symm, absent⟩
    · rw [missed] at blamed
      cases blamed
    · rw [missed] at blamed
      cases blamed
  · rw [isResolved.walk_present creates linkLimit absent] at blamed
    exact .inl ⟨(Except.ok.inj blamed).symm, absent⟩

/-- What a resolved path leads to is what its location holds. -/
theorem probe_of_isResolved (isResolved : disk.tree.IsResolved path)
    (checked : checkPath path = .ok ()) :
    disk.probe path = .ok (disk.tree.entry? path.names) := by
  by_cases absent : disk.tree.entry? path.names = none
  · have missing : ∃ errno, disk.entry path = .error (.access errno path.text) ∧
        errno ≠ .nameTooLong := by
      rw [entry, spot_of_isResolved isResolved checked]
      rcases isResolved.walk_absent false linkLimit absent with free | missed | ⟨missed, _⟩
      · exact ⟨.noEntry, by rw [free]; rfl, by simp⟩
      · exact ⟨.noEntry, by rw [missed]; rfl, by simp⟩
      · exact ⟨.notDirectory, by rw [missed]; rfl, by simp⟩
    obtain ⟨errno, isMissing, notTooLong⟩ := missing
    rw [probe, isMissing, absent]
    cases errno with
    | nameTooLong => exact absurd rfl notTooLong
    | _ => rfl
  · obtain ⟨found, isFound⟩ := Option.ne_none_iff_exists'.1 absent
    have leads : Leads disk.tree linkLimit (disk.origin path) path.names path.names := by
      rw [origin_of_isAbsolute isResolved.isAbsolute]
      exact .of_walk (isResolved.walk_present false linkLimit absent)
    rw [probe, entry_eq_ok_iff.2 ⟨checked, path.names, leads, isFound⟩, isFound]

/-- A resolved path leads to what its location holds. -/
theorem entry_of_present (isResolved : disk.tree.IsResolved path)
    (checked : checkPath path = .ok ()) {found : Entry}
    (held : disk.tree.entry? path.names = some found) :
    disk.entry path = .ok found :=
  probe_eq_some_iff.1 (held ▸ probe_of_isResolved isResolved checked)

/-- An absolute path made of file names stands for itself if there is no link on the way. -/
theorem resolve_of_unlinked (absolute : path.anchor = .absolute)
    (named : ∀ name ∈ path.names, IsFileName name) (unlinked : disk.tree.Unlinked path.names) :
    disk.resolve path = .ok path := by
  have isAbsolute : path.isAbsolute = true := by
    rw [Path.isAbsolute, absolute]
    rfl
  have followed := follow_names_unlinked disk.tree [] true [] path.names named unlinked
  have isPathOf : path = pathOf path.names := congrArg (Path.mk · path.names) absolute
  rw [resolve, if_pos isAbsolute, followed]
  exact congrArg Except.ok isPathOf.symm

/-- A resolved path stands for itself. -/
theorem resolve_of_isResolved (isResolved : disk.tree.IsResolved path) :
    disk.resolve path = .ok path :=
  resolve_of_unlinked isResolved.absolute (fun name member => (isResolved.named name member).1)
    isResolved.unlinked

/-- A path along which a walk arrives stands for the location of the entry. -/
theorem resolve_of_leads {budget : Nat} {last : Location}
    (leads : Leads disk.tree budget (disk.origin path) path.names last) :
    disk.resolve path = .ok (pathOf last) := by
  have standing : (if path.isAbsolute then ⟨true, []⟩ else ⟨false, disk.directory⟩ : Standing) =
      ⟨path.isAbsolute, disk.origin path⟩ := by
    unfold origin
    split <;> simp_all
  obtain ⟨later, still, _, _, followed⟩ := follow_of_leads disk.tree budget path.names _ last leads
    [] (by simp [SoundLog]) (by simp [OpenBeyond]) path.isAbsolute []
  rw [List.append_nil, follow] at followed
  rw [resolve, standing, followed]
  rfl

theorem normalize_pathOf (disk : Disk) (location : Location) :
    disk.normalize (pathOf location) = disk.resolve (pathOf location) := rfl

/-- An absolute path made of file names is known under itself if there is no link on the way. -/
theorem normalize_of_unlinked (absolute : path.anchor = .absolute)
    (named : ∀ name ∈ path.names, IsFileName name) (unlinked : disk.tree.Unlinked path.names) :
    disk.normalize path = .ok path := by
  have isPathOf : path = pathOf path.names := congrArg (Path.mk · path.names) absolute
  rw [isPathOf, normalize_pathOf, ← isPathOf, resolve_of_unlinked absolute named unlinked]

theorem normalize_of_isResolved (isResolved : disk.tree.IsResolved path) :
    disk.normalize path = .ok path :=
  normalize_of_unlinked isResolved.absolute (fun name member => (isResolved.named name member).1)
    isResolved.unlinked

/-- Resolving gives an absolute path. -/
theorem exists_pathOf_of_resolve {resolved : Path} (isResolved : disk.resolve path = .ok resolved) :
    ∃ location, resolved = pathOf location := by
  obtain ⟨followed, _, settled⟩ := bind_eq_ok_iff.1 isResolved
  cases followed with
  | real location => exact ⟨location, (Except.ok.inj settled).symm⟩
  | looping location =>
    obtain ⟨_, _, settled⟩ := bind_eq_ok_iff.1 settled
    split at settled
    · cases settled
    · exact ⟨_, (Except.ok.inj settled).symm⟩

theorem exists_pathOf_of_normalize {resolved : Path}
    (normalized : disk.normalize path = .ok resolved) : ∃ location, resolved = pathOf location := by
  obtain ⟨expanded, _, isResolved⟩ := bind_eq_ok_iff.1 normalized
  exact exists_pathOf_of_resolve isResolved

end Disk

end SwiftSlice

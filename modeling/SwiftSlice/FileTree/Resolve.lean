/-
Real locations. Resolving a path follows every link on the way and takes each
double dot as a step to the directory above, but needs no entry to exist: a name
that leads nowhere is kept as it is. A link whose target is being read when it is
met again makes a loop; the names not yet read are then put behind it unread, and
the result is refused if walking it runs into the loop.
-/

import SwiftSlice.FileTree.Access

namespace SwiftSlice

open Text

/-! ### Following links -/

/-- A location as a walk writes it: from the root, or from where the walk started. The same link
written in both ways counts as two. -/
structure Standing where
  fromRoot : Bool
  location : Location
deriving DecidableEq, Repr

namespace Standing

/-- One name further. -/
def child (here : Standing) (name : String) : Standing :=
  { here with location := here.location ++ [name] }

/-- The directory above. -/
def parent (here : Standing) : Standing :=
  { here with location := here.location.dropLast }

end Standing

/-- What is left to read: a name, or the end of a link's target. -/
inductive Pending
  | name (text : String)
  | leave (link : Standing)
deriving DecidableEq, Repr

/-- The links met so far, each with its real location once its target has been read. -/
abbrev LinkLog := List (Standing × Option Standing)

/-- The ways to write the locations of a tree. -/
def standings (tree : FileTree) : List Standing :=
  tree.entries.flatMap fun item => [⟨false, item.1⟩, ⟨true, item.1⟩]

/-- The ways to write the locations of a tree that are not in the log. -/
def unlogged (tree : FileTree) (log : LinkLog) : Nat :=
  ((standings tree).filter fun here => !(log.any (·.1 == here))).length

/-- Logging a link that is new to the log leaves fewer to log. -/
theorem unlogged_lt (tree : FileTree) (log : LinkLog) (link : Standing)
    (present : link ∈ standings tree) (new : log.lookup link = none) :
    unlogged tree ((link, none) :: log) < unlogged tree log := by
  have fewer : ((standings tree).filter fun here => !(((link, none) :: log).any (·.1 == here))) =
      ((standings tree).filter fun here => !(log.any (·.1 == here))).filter
        fun here => !(link == here) := by
    rw [List.filter_filter]
    refine List.filter_congr fun here _ => ?_
    simp
  rw [unlogged, unlogged, fewer, List.length_filter_lt_length_iff_exists]
  refine ⟨link, List.mem_filter.2 ⟨present, ?_⟩, by simp⟩
  have absent := List.lookup_eq_none_iff.1 new
  simp only [Bool.not_eq_eq_eq_not, Bool.not_true, List.any_eq_false]
  intro item member same
  have := absent item member
  simp_all

/-- The location of a link can be written. -/
theorem mem_standings_of_link (tree : FileTree) (here : Standing) (target : String)
    (found : tree.entry? here.location = some (.link target)) : here ∈ standings tree := by
  unfold FileTree.entry? at found
  split at found
  · simp at found
  · obtain ⟨before, after, split, _⟩ := List.lookup_eq_some_iff.1 found
    refine List.mem_flatMap.2 ⟨(here.location, .link target), by simp [split], ?_⟩
    obtain ⟨fromRoot, location⟩ := here
    cases fromRoot <;> simp

/-- Marks a link as read. -/
def markRead (log : LinkLog) (link real : Standing) : LinkLog :=
  log.map fun item => if item.1 = link then (item.1, some real) else item

theorem unlogged_markRead (tree : FileTree) (log : LinkLog) (link real : Standing) :
    unlogged tree (markRead log link real) = unlogged tree log := by
  have same : ∀ here : Standing,
      (markRead log link real).any (·.1 == here) = log.any (·.1 == here) := by
    intro here
    rw [markRead, List.any_map]
    congr 1
    funext item
    simp only [Function.comp]
    split <;> rfl
  simp [unlogged, same]

/-- The names of what is still pending, put behind a location. Within a target, an empty name in
front of others stands for the root. -/
def behind (here : Location) (atFirst : Bool) : List Pending → Location
  | [] => here
  | .leave _ :: rest => behind here true rest
  | .name text :: rest =>
    if text = "" then
      match rest with
      | .name _ :: _ => behind (if atFirst then [] else here) false rest
      | _ => behind here false rest
    else behind (here ++ [text]) false rest

/-- The outcome of following links: a real location, or a location that runs into a loop. -/
inductive Followed
  | real (location : Location)
  | looping (location : Location)
deriving DecidableEq, Repr

/-- Reads the pending names from a real location. -/
def follow (tree : FileTree) (log : LinkLog) (here : Standing) :
    List Pending → Except Failure Followed
  | [] => .ok (.real here.location)
  | .leave link :: rest => follow tree (markRead log link here) here rest
  | .name text :: rest =>
    if text = "" || text = "." then follow tree log here rest
    else if text = ".." then follow tree log here.parent rest
    else if text.toList.contains (Char.ofNat 0) then .error .nulInPath
    else
      match _found : tree.entry? (here.child text).location with
      | some (.link target) =>
        match met : log.lookup (here.child text) with
        | some (some real) => follow tree log real rest
        | some none => .ok (.looping (behind (here.child text).location true rest))
        | none =>
          follow tree ((here.child text, none) :: log)
            (if beginsWith target "/" then ⟨true, []⟩ else here)
            ((Path.components target).map .name ++ .leave (here.child text) :: rest)
      | _ => follow tree log (here.child text) rest
termination_by pending => (unlogged tree log, pending.length)
decreasing_by
  · rw [unlogged_markRead]
    exact Prod.Lex.right _ (by simp)
  · exact Prod.Lex.right _ (by simp)
  · exact Prod.Lex.right _ (by simp)
  · exact Prod.Lex.right _ (by simp)
  · exact Prod.Lex.left _ _ (unlogged_lt tree log _ (mem_standings_of_link tree _ _ _found) met)
  · exact Prod.Lex.right _ (by simp)

namespace Disk

/-- The path of a location. -/
def pathOf (location : Location) : Path :=
  ⟨.absolute, location⟩

/-- The absolute path without links that a path stands for. -/
def resolve (disk : Disk) (path : Path) : Except Failure Path := do
  let here : Standing := if path.isAbsolute then ⟨true, []⟩ else ⟨false, disk.directory⟩
  match ← follow disk.tree [] here (path.names.map .name) with
  | .real location => .ok (pathOf location)
  | .looping location =>
    let settled := pathOf (Path.foldDots (location.filter (· != ".")))
    checkNames settled
    match disk.tree.walk false linkLimit [] settled.names with
    | .error .linkLoop => .error (.linkLoop settled.text)
    | _ => .ok settled

/-- Replaces a leading tilde by the home directory; no other user is known. -/
def expandHome (disk : Disk) (path : Path) : Except Failure Path :=
  match path.anchor, path.names with
  | .relative, first :: rest =>
    if first = "~" then .ok (pathOf (disk.home ++ rest))
    else if beginsWith first "~" then
      if first.toList.contains (Char.ofNat 0) then .error .nulInPath else .error .noHome
    else .ok path
  | _, _ => .ok path

/-- The one path under which a file is known: home expanded, absolute and without links. -/
def normalize (disk : Disk) (path : Path) : Except Failure Path := do
  disk.resolve (← disk.expandHome path)

end Disk

end SwiftSlice

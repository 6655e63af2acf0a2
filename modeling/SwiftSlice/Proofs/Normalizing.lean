/-
The one path under which a file is known. Resolving reads names from a location,
and reading is a relation between states: a link puts the names of its target in
front of those that are still to be read, and a name that leads nowhere is passed
as it is written. Reading loops if a link is met again while its own target is being
read. Where this never happens the log of the links that were met is never used up:
a link in it is either still being read, and then it is not met, or it was read, and
then the log says where it leads.

So a resolved path has no link on the way, and none of the names that are steps.
Reading it again takes its names one by one and gives it back, and whoever resolves
a path twice compares the same text. A walk reads the same names, but breaks off at
one that leads nowhere: where reading never loops no walk follows links forever, but
the law fails for a tree in which only walks are known to end.
-/

import Mathlib
import SwiftSlice.Proofs.Spelling
import SwiftSlice.Slice.Basic

namespace SwiftSlice

open Text

/-! ### Reading names -/

/-- A location together with the names still to be read from there. -/
abbrev ReadState := Location × List String

/-- Reads one name. A name that leads nowhere is passed as it is written, like a file. -/
inductive ReadStep (tree : FileTree) : ReadState → ReadState → Prop
  | stays {here : Location} {name : String} {rest : List String}
      (skipped : (name = "" || name = ".") = true) : ReadStep tree (here, name :: rest) (here, rest)
  | rises {here : Location} {rest : List String} :
      ReadStep tree (here, ".." :: rest) (here.dropLast, rest)
  | enters {here : Location} {name : String} {rest : List String}
      (notSkipped : ¬ (name = "" || name = ".") = true) (notUp : name ≠ "..")
      (unlinked : ∀ target, tree.entry? (here ++ [name]) ≠ some (.link target)) :
      ReadStep tree (here, name :: rest) (here ++ [name], rest)
  | follows {here : Location} {name target : String} {rest : List String}
      (found : tree.entry? (here ++ [name]) = some (.link target)) :
      ReadStep tree (here, name :: rest)
        (if beginsWith target "/" then [] else here, Path.components target ++ rest)

/-- Holds of a tree in which reading never loops: nothing that is read to the end in place of a name
leads to the name again. -/
def FileTree.LoopFree (tree : FileTree) : Prop :=
  ∀ here name rest, ¬ Relation.TransGen (ReadStep tree) (here, [name]) (here, name :: rest)

namespace FileTree

/-- Reading never loops if names have weights and each link outweighs its target. -/
theorem loopFree_of_weight {tree : FileTree} (weight : String → Nat)
    (positive : ∀ name, 0 < weight name)
    (outweighs : ∀ above name target, (above ++ [name], .link target) ∈ tree.entries →
      ((Path.components target).map weight).sum < weight name) : tree.LoopFree := by
  have lighter {state later : ReadState} (step : ReadStep tree state later) :
      (later.2.map weight).sum < (state.2.map weight).sum := by
    cases step with
    | @stays here name rest => simpa using positive name
    | @rises here rest => simpa using positive ".."
    | @enters here name rest => simpa using positive name
    | @follows here name target rest found =>
      have isEntry := (entry?_eq_some_iff (by simp) _).1 found
      simpa using outweighs here name target isEntry
  have lightest {state later : ReadState}
      (steps : Relation.TransGen (ReadStep tree) state later) :
      (later.2.map weight).sum < (state.2.map weight).sum := by
    induction steps with
    | single step => exact lighter step
    | tail _ step inductionHypothesis => exact (lighter step).trans inductionHypothesis
  intro here name rest loop
  have less := lightest loop
  simp only [List.map_cons, List.map_nil, List.sum_cons, List.sum_nil] at less
  omega

end FileTree

/-! ### Walks that end -/

/-- Holds of a state from which a walk ends if it may follow enough links. -/
def FileTree.Ends (tree : FileTree) (creates : Bool) (state : ReadState) : Prop :=
  ∃ budget, tree.walk creates budget state.1 state.2 ≠ .error .linkLoop

/-- Holds of a tree in which no walk follows links forever. -/
def FileTree.NeverLoops (tree : FileTree) : Prop :=
  ∀ creates state, tree.Ends creates state

namespace FileTree.Ends

variable {tree : FileTree} {creates : Bool} {state later : ReadState}

/-- A walk ends if it ends from where it gets to by reading a name; it may break off before. -/
theorem of_step (step : ReadStep tree state later) (ends : tree.Ends creates later) :
    tree.Ends creates state := by
  obtain ⟨budget, ends⟩ := ends
  cases step with
  | stays skipped =>
    refine ⟨budget, ?_⟩
    rw [walk]
    split
    · simp
    · exact ends
  | rises =>
    refine ⟨budget, ?_⟩
    rw [walk]
    split
    · simp
    · exact ends
  | @enters here name rest notSkipped notUp unlinked =>
    refine ⟨budget, ?_⟩
    rw [walk]
    split
    · simp
    · cases found : tree.entry? (here ++ [name]) with
      | none => grind
      | some entry =>
        cases entry with
        | link target => exact absurd found (unlinked target)
        | file content => grind
        | directory => grind
  | @follows here name target rest found =>
    have isName : IsFileName name :=
      isFileName_of_entry? found (List.mem_append_right here (List.mem_singleton_self name))
    refine ⟨budget + 1, ?_⟩
    rw [walk]
    split
    · simp
    · rw [if_neg isName.not_skipped, if_neg isName.not_up, found]
      grind

theorem of_steps (steps : Relation.ReflTransGen (ReadStep tree) state later)
    (ends : tree.Ends creates later) : tree.Ends creates state := by
  induction steps with
  | refl => exact ends
  | tail _ step inductionHypothesis => exact inductionHypothesis (of_step step ends)

/-- A walk breaks off at a name that leads nowhere. -/
theorem of_absent {here : Location} {name : String} (rest : List String)
    (notSkipped : ¬ (name = "" || name = ".") = true) (notUp : name ≠ "..")
    (absent : tree.entry? (here ++ [name]) = none) : tree.Ends creates (here, name :: rest) := by
  refine ⟨0, ?_⟩
  rw [walk]
  split
  · simp
  · grind

end FileTree.Ends

/-- No walk follows links forever if, where the names behind a link end a walk from anywhere, a walk
along the target of the link and these names ends. -/
theorem FileTree.neverLoops_of_links {tree : FileTree}
    (links : ∀ creates here name target rest,
      tree.entry? (here ++ [name]) = some (.link target) →
      (∀ next, tree.Ends creates (next, rest)) →
      tree.Ends creates (if beginsWith target "/" then [] else here,
        Path.components target ++ rest)) : tree.NeverLoops := by
  rintro creates ⟨here, names⟩
  induction names generalizing here with
  | nil => exact ⟨0, by simp [walk]⟩
  | cons name rest inductionHypothesis =>
    by_cases skipped : (name = "" || name = ".") = true
    · exact .of_step (.stays skipped) (inductionHypothesis here)
    · by_cases isUp : name = ".."
      · exact isUp ▸ .of_step .rises (inductionHypothesis here.dropLast)
      · by_cases isLink : ∃ target, tree.entry? (here ++ [name]) = some (.link target)
        · obtain ⟨target, found⟩ := isLink
          exact .of_step (.follows found) (links _ _ _ _ _ found inductionHypothesis)
        · exact .of_step (.enters skipped isUp fun target found => isLink ⟨target, found⟩)
            (inductionHypothesis _)

/-! ### Links that are being read -/

/-- The state of reading right in front of a link, with names behind it. -/
def Standing.inFront (link : Standing) (rest : List String) : ReadState :=
  (link.location.dropLast, link.location.getLastD "" :: rest)

@[simp] theorem Standing.inFront_child (here : Standing) (name : String) (rest : List String) :
    (here.child name).inFront rest = (here.location, name :: rest) := by
  simp [inFront, child]

/-- The location from which the target of a link is read. -/
theorem Standing.location_ofTarget (here : Standing) (target : String) :
    (if beginsWith target "/" then ⟨true, []⟩ else here : Standing).location =
      if beginsWith target "/" then [] else here.location := by
  split <;> rfl

/-- The end of a link that is pending behind a name is pending when the name is read. -/
theorem leave_mem_of_cons {link : Standing} {text : String} {pending : List Pending}
    (member : .leave link ∈ Pending.name text :: pending) : .leave link ∈ pending := by
  rcases List.mem_cons.1 member with same | inRest
  · cases same
  · exact inRest

/-- Holds if every link whose end is pending has led to here: reading it gives the names before its
end, some of which are read already. -/
def Opened (tree : FileTree) (here : Location) (names : List String) : List Pending → Prop
  | [] => True
  | .name text :: pending => Opened tree here (names ++ [text]) pending
  | .leave link :: pending =>
    (∀ rest, Relation.TransGen (ReadStep tree) (link.inFront rest) (here, names ++ rest)) ∧
      Opened tree here names pending

namespace Opened

variable {tree : FileTree} {here next : Location} {pending : List Pending}

theorem names_append_iff (names more : List String) :
    Opened tree here names (more.map .name ++ pending) ↔
      Opened tree here (names ++ more) pending := by
  induction more generalizing names with
  | nil => rw [List.map_nil, List.nil_append, List.append_nil]
  | cons first rest inductionHypothesis =>
    rw [List.map_cons, List.cons_append, Opened, inductionHypothesis, List.append_assoc]
    rfl

/-- Reading on from here keeps what the pending ends say. -/
theorem onward (first second : List String)
    (reads : ∀ rest, Relation.ReflTransGen (ReadStep tree) (here, first ++ rest)
      (next, second ++ rest)) (names : List String)
    (opened : Opened tree here (first ++ names) pending) :
    Opened tree next (second ++ names) pending := by
  induction pending generalizing names with
  | nil => trivial
  | cons head pending inductionHypothesis =>
    cases head with
    | name text =>
      rw [Opened, List.append_assoc] at opened ⊢
      exact inductionHypothesis _ opened
    | leave link =>
      refine ⟨fun rest => ?_, inductionHypothesis _ opened.2⟩
      have before := opened.1 rest
      rw [List.append_assoc] at before ⊢
      exact before.trans_left (reads _)

/-- A link whose end is pending has led to here, with more names than those that are given. -/
theorem reaches {link : Standing} (names : List String) (opened : Opened tree here names pending)
    (isOpen : .leave link ∈ pending) :
    ∃ more, Relation.TransGen (ReadStep tree) (link.inFront []) (here, names ++ more) := by
  induction pending generalizing names with
  | nil => exact absurd isOpen List.not_mem_nil
  | cons head pending inductionHypothesis =>
    cases head with
    | name text =>
      obtain ⟨more, leads⟩ := inductionHypothesis _ opened (leave_mem_of_cons isOpen)
      exact ⟨text :: more, by rwa [List.append_assoc] at leads⟩
    | leave other =>
      rcases List.mem_cons.1 isOpen with isOther | inRest
      · obtain rfl := Pending.leave.inj isOther
        exact ⟨[], opened.1 []⟩
      · exact inductionHypothesis _ opened.2 inRest

end Opened

/-- What holds of the log while names are read: the end of each link that is being read is pending,
and each link that was read leads where the log says. -/
structure Reading (tree : FileTree) (log : LinkLog) (here : Standing) (pending : List Pending) :
    Prop where
  opened : Opened tree here.location [] pending
  stillOpen : ∀ link, log.lookup link = some none → .leave link ∈ pending
  wasRead : ∀ link real, log.lookup link = some (some real) → ∀ rest,
    Relation.ReflTransGen (ReadStep tree) (link.inFront rest) (real.location, rest)

namespace Reading

variable {tree : FileTree} {log : LinkLog} {here : Standing} {pending : List Pending}

/-- Nothing is logged before the first name is read. -/
theorem start (tree : FileTree) (here : Standing) (names : List String) :
    Reading tree [] here (names.map .name) where
  opened := by
    rw [← List.append_nil (names.map _), Opened.names_append_iff]
    trivial
  stillOpen := by simp
  wasRead := by simp

/-- A name that leads on leaves the log as it is. -/
theorem onward {text : String} (reading : Reading tree log here (.name text :: pending))
    {next : Standing} (reads : ∀ rest, Relation.ReflTransGen (ReadStep tree)
      (here.location, text :: rest) (next.location, rest)) : Reading tree log next pending where
  opened := Opened.onward [text] [] reads [] reading.opened
  stillOpen := fun link isOpen => leave_mem_of_cons (reading.stillOpen link isOpen)
  wasRead := reading.wasRead

/-- A link whose end is reached was read. -/
theorem leave {link : Standing} (reading : Reading tree log here (.leave link :: pending)) :
    Reading tree (markRead log link here) here pending where
  opened := reading.opened.2
  stillOpen := by
    intro other isOpen
    obtain ⟨notLink, wasOpen⟩ := open_of_markRead isOpen
    refine (List.mem_cons.1 (reading.stillOpen other wasOpen)).resolve_left fun isLink => ?_
    exact notLink (Pending.leave.inj isLink)
  wasRead := by
    intro other real met rest
    rcases read_of_markRead met with ⟨rfl, rfl⟩ | wasRead
    · exact (reading.opened.1 rest).to_reflTransGen
    · exact reading.wasRead other real wasRead rest

/-- A link that is new to the log is being read from now on. -/
theorem enter {text target : String} (reading : Reading tree log here (.name text :: pending))
    (found : tree.entry? (here.child text).location = some (.link target)) :
    Reading tree ((here.child text, none) :: log)
      (if beginsWith target "/" then ⟨true, []⟩ else here)
      ((Path.components target).map .name ++ .leave (here.child text) :: pending) := by
  have follows (rest : List String) : ReadStep tree (here.location, text :: rest)
      ((if beginsWith target "/" then ⟨true, []⟩ else here : Standing).location,
        Path.components target ++ rest) := by
    rw [Standing.location_ofTarget]
    exact .follows found
  refine ⟨?_, fun link isOpen => ?_, fun link real met rest => ?_⟩
  · rw [Opened.names_append_iff, List.nil_append]
    refine ⟨fun rest => ?_, ?_⟩
    · rw [Standing.inFront_child]
      exact .single (follows rest)
    · have further := Opened.onward [text] (Path.components target)
        (fun rest => .single (follows rest)) [] reading.opened
      rwa [List.append_nil] at further
  · rcases open_of_open_cons isOpen with rfl | wasOpen
    · exact List.mem_append_right _ List.mem_cons_self
    · have inPending := leave_mem_of_cons (reading.stillOpen link wasOpen)
      exact List.mem_append_right _ (List.mem_cons_of_mem _ inPending)
  · exact reading.wasRead link real (read_of_open_cons met) rest

/-- Where reading never loops, a link is not met while its own target is being read. -/
theorem not_open (loopFree : tree.LoopFree) {text : String}
    (reading : Reading tree log here (.name text :: pending)) :
    log.lookup (here.child text) ≠ some none := by
  intro met
  obtain ⟨more, leads⟩ := Opened.reaches [text] reading.opened
    (leave_mem_of_cons (reading.stillOpen _ met))
  rw [Standing.inFront_child] at leads
  exact loopFree here.location text more leads

end Reading

/-- Where reading never loops, reading does not end in a loop. -/
theorem not_looping_of_follow {tree : FileTree} (loopFree : tree.LoopFree) {log : LinkLog}
    {here : Standing} {pending : List Pending} (reading : Reading tree log here pending)
    (location : Location) : follow tree log here pending ≠ .ok (.looping location) := by
  -- The cases are those of the calls: arrived; a link was read; a name that is no step; a step up;
  -- a null character; a link read before, being read, and new; and a name that is no link.
  fun_induction follow tree log here pending with
  | case1 => simp
  | case2 log here link rest inductionHypothesis => exact inductionHypothesis reading.leave
  | case3 log here text rest skipped inductionHypothesis =>
    exact inductionHypothesis (reading.onward fun _ => .single (.stays skipped))
  | case4 log here rest _ inductionHypothesis =>
    exact inductionHypothesis (reading.onward fun _ => .single .rises)
  | case5 => simp
  | case6 log here text rest _ _ _ target found real met inductionHypothesis =>
    refine inductionHypothesis (reading.onward fun more => ?_)
    have leads := reading.wasRead _ real met more
    rwa [Standing.inFront_child] at leads
  | case7 log here text rest _ _ _ target found met =>
    exact absurd met (reading.not_open loopFree)
  | case8 log here text rest _ _ _ target found met inductionHypothesis =>
    exact inductionHypothesis (reading.enter found)
  | case9 log here text rest notSkipped notUp _ unlinked inductionHypothesis =>
    exact inductionHypothesis (reading.onward fun _ => .single (.enters notSkipped notUp unlinked))

/-- The text of a pending name. -/
def Pending.name? : Pending → Option String
  | .name text => some text
  | .leave _ => none

theorem Pending.filterMap_name? (names : List String) (pending : List Pending) :
    (names.map Pending.name ++ pending).filterMap name? = names ++ pending.filterMap name? := by
  rw [List.filterMap_append, List.filterMap_map]
  exact congrArg (· ++ _) List.filterMap_some

/-- Where reading never loops, a walk along what is being read ends. -/
theorem ends_of_reading {tree : FileTree} (loopFree : tree.LoopFree) (creates : Bool)
    {log : LinkLog} {here : Standing} {pending : List Pending}
    (reading : Reading tree log here pending) :
    tree.Ends creates (here.location, pending.filterMap Pending.name?) := by
  -- The cases are those of the calls, as before.
  fun_induction follow tree log here pending with
  | case1 => exact ⟨0, by simp [FileTree.walk]⟩
  | case2 log here link rest inductionHypothesis => exact inductionHypothesis reading.leave
  | case3 log here text rest skipped inductionHypothesis =>
    exact .of_step (.stays skipped)
      (inductionHypothesis (reading.onward fun _ => .single (.stays skipped)))
  | case4 log here rest _ inductionHypothesis =>
    exact .of_step .rises (inductionHypothesis (reading.onward fun _ => .single .rises))
  | case5 log here text rest notSkipped notUp hasNul =>
    have absent : tree.entry? (here.location ++ [text]) = none := by
      by_contra present
      obtain ⟨entry, found⟩ := Option.ne_none_iff_exists'.1 present
      have isName : IsFileName text := FileTree.isFileName_of_entry? found
        (List.mem_append_right here.location (List.mem_singleton_self text))
      exact isName.2.2.2.2 (by simpa using hasNul)
    exact .of_absent _ notSkipped notUp absent
  | case6 log here text rest _ _ _ target found real met inductionHypothesis =>
    have wasRead := reading.wasRead _ real met
    simp only [Standing.inFront_child] at wasRead
    exact .of_steps (wasRead _) (inductionHypothesis (reading.onward wasRead))
  | case7 log here text rest _ _ _ target found met =>
    exact absurd met (reading.not_open loopFree)
  | case8 log here text rest _ _ _ target found met inductionHypothesis =>
    have ends := inductionHypothesis (reading.enter found)
    rw [dite_eq_ite, Standing.location_ofTarget, Pending.filterMap_name?] at ends
    exact .of_step (.follows found) ends
  | case9 log here text rest notSkipped notUp _ unlinked inductionHypothesis =>
    have step (more : List String) :
        ReadStep tree (here.location, text :: more) ((here.child text).location, more) :=
      .enters notSkipped notUp unlinked
    exact .of_step (step _) (inductionHypothesis (reading.onward fun _ => .single (step _)))

/-- Where reading never loops, no walk follows links forever. -/
theorem FileTree.LoopFree.neverLoops {tree : FileTree} (loopFree : tree.LoopFree) :
    tree.NeverLoops := by
  rintro creates ⟨here, names⟩
  have ends := ends_of_reading loopFree creates (.start tree ⟨true, here⟩ names)
  rwa [← List.append_nil (names.map _), Pending.filterMap_name?, List.filterMap_nil,
    List.append_nil] at ends

/-! ### Normal paths -/

/-- Where reading never loops, resolving ends at a real location. -/
theorem Disk.isReal_of_loopFree {disk : Disk} {path place : Path}
    (isDirectory : disk.tree.entry? disk.directory = some .directory)
    (loopFree : disk.tree.LoopFree) (resolved : disk.resolve path = .ok place) :
    disk.tree.IsReal place.names := by
  obtain ⟨followed, isFollowed, settled⟩ := bind_eq_ok_iff.1 resolved
  cases followed with
  | looping location =>
    exact absurd isFollowed (not_looping_of_follow loopFree (.start disk.tree _ _) location)
  | real location =>
    obtain rfl := Except.ok.inj settled
    refine isReal_of_follow (by simp [LinkLog.IsReal]) ?_ isFollowed
    split
    · exact .root disk.tree
    · exact .of_directory isDirectory

/-- The pieces of the text of an absolute path are its names and what is in front of a slash. -/
theorem Path.mem_components_text {path : Path} (absolute : path.anchor = .absolute)
    (named : IsNamed path.names) {name : String} (member : name ∈ components path.text) :
    name = "" ∨ name ∈ path.names := by
  have isText : path.text = "/" ++ "/".intercalate path.names := by
    simp [text, absolute, Anchor.text]
  rw [isText, components_slash] at member
  by_cases empty : path.names = []
  · rw [empty] at member
    have pieces : components ("/".intercalate []) = [""] := by decide
    rw [pieces] at member
    exact .inl (by simpa using member)
  · rw [components_intercalate empty named.no_slash] at member
    exact List.mem_cons.1 member

namespace Workspace

/-- Where reading never loops, the text under which a file is known is absolute, no piece
of it is a step and nothing on the way is a link; normalizing it again gives the same text. So
whatever normalizes the path of the start file does the same with the normalized one. -/
theorem normalize_normalized (workspace : Workspace) (text : String) (place : Path)
    (isPlaced : workspace.IsPlaced)
    (isDirectory : workspace.tree.entry? workspace.directory = some .directory)
    (loopFree : workspace.tree.LoopFree)
    (normalized : workspace.normalize (Path.parse text) = .ok place) :
    place.anchor = .absolute ∧ Path.parse place.text = place ∧
      (∀ name ∈ Path.components place.text, name ≠ "." ∧ name ≠ "..") ∧
      (∀ above target, above <+: place.names →
        workspace.tree.entry? above ≠ some (.link target)) ∧
      workspace.normalize (Path.parse place.text) = .ok place ∧
      (∀ sourcesDir config, workspace.collectSources place sourcesDir config =
        workspace.collectSources (Path.parse text) sourcesDir config) ∧
      (∀ sourcesDir seeds config, workspace.select place sourcesDir seeds config =
        workspace.select (Path.parse text) sourcesDir seeds config) ∧
      ∀ (request : SliceRequest) config, request.startFile = Path.parse text →
        workspace.buildSlice { request with startFile := place } config =
          workspace.buildSlice request config := by
  obtain ⟨location, rfl⟩ := Disk.exists_pathOf_of_normalize normalized
  have named : IsNamed location :=
    Disk.isNamed_of_normalize isPlaced (Path.parse_no_slash text) normalized
  obtain ⟨expanded, _, resolved⟩ := bind_eq_ok_iff.1 normalized
  have unlinked := (Disk.isReal_of_loopFree isDirectory loopFree resolved).unlinked
  have again : workspace.normalize (Disk.pathOf location) = .ok (Disk.pathOf location) :=
    Disk.normalize_of_unlinked rfl named unlinked
  have same : workspace.normalize (Disk.pathOf location) =
      workspace.normalize (Path.parse text) := again.trans normalized.symm
  have read : Path.parse (Disk.pathOf location).text = Disk.pathOf location :=
    Path.parse_text named
  have collected (sourcesDir : Option Path) (config : Config) :
      workspace.collectSources (Disk.pathOf location) sourcesDir config =
        workspace.collectSources (Path.parse text) sourcesDir config := by
    rw [collectSources, collectSources, same]
  refine ⟨rfl, read, fun name member => ?_, unlinked, by rw [read, again], collected,
    fun sourcesDir seeds config => ?_, fun request config isStart => ?_⟩
  · rcases Path.mem_components_text rfl named member with rfl | isName
    · decide
    · exact ⟨(named name isName).2.1, (named name isName).2.2.1⟩
  · rw [select, select, collected, same]
  · rw [buildSlice, buildSlice, isStart, same]
    rfl

end Workspace

namespace Aliased

/-- A tree with a link to a directory two levels down. -/
def tree : FileTree where
  entries := [(["real"], .directory), (["real", "deep"], .directory),
    (["real", "Card.swift"], .file []), (["alias"], .link "real/deep")]
  distinct := by decide
  named := by decide
  rooted := by decide

def workspace : Workspace where
  tree := tree
  directory := []
  home := []
  grammar := fun _ => default

/-- The link outweighs the two names of its target. -/
def weight (name : String) : Nat :=
  if name = "alias" then 3 else 1

theorem loopFree_tree : tree.LoopFree := by
  refine FileTree.loopFree_of_weight weight (fun name => ?_) fun above name target member => ?_
  · rw [weight]
    split <;> omega
  · obtain ⟨isLocation, rfl⟩ : above ++ [name] = ["alias"] ∧ target = "real/deep" := by
      simpa [tree] using member
    obtain rfl : name = "alias" := by simpa using congrArg List.getLast? isLocation
    decide

theorem normalize_card :
    workspace.normalize (Path.parse "alias/../Card.swift") =
      .ok (Disk.pathOf ["real", "Card.swift"]) := by
  have isPath : Path.parse "alias/../Card.swift" = ⟨.relative, ["alias", "..", "Card.swift"]⟩ := by
    decide
  have isAlias : tree.entry? ["alias"] = some (.link "real/deep") := by decide
  have isReal : tree.entry? ["real"] = some .directory := by decide
  have isDeep : tree.entry? ["real", "deep"] = some .directory := by decide
  have isCard : tree.entry? ["real", "Card.swift"] = some (.file []) := by decide
  have leads : Leads tree 1 [] ["alias", "..", "Card.swift"] ["real", "Card.swift"] :=
    .follows (by decide) isAlias <| .enters (by decide) isReal (by simp) <|
      .enters (by decide) isDeep (by simp) <| .rises isDeep <|
      .enters (by decide) isCard (by simp) <| .arrives _ _
  rw [isPath]
  exact Disk.resolve_of_leads leads

end Aliased

namespace Workspace

/-- A path through a link and up again is normalized once and for all. -/
theorem normalize_normalized_alias :
    Aliased.workspace.IsPlaced ∧ Aliased.tree.LoopFree ∧
      Aliased.workspace.normalize (Path.parse "alias/../Card.swift") =
        .ok (Disk.pathOf ["real", "Card.swift"]) ∧
      Aliased.workspace.normalize (Path.parse "/real/Card.swift") =
        .ok (Disk.pathOf ["real", "Card.swift"]) := by
  have isPlaced : Aliased.workspace.IsPlaced := ⟨nofun, nofun⟩
  have law := normalize_normalized Aliased.workspace "alias/../Card.swift" _ isPlaced rfl
    Aliased.loopFree_tree Aliased.normalize_card
  have isText : (Disk.pathOf ["real", "Card.swift"]).text = "/real/Card.swift" := by decide
  exact ⟨isPlaced, Aliased.loopFree_tree, Aliased.normalize_card, isText ▸ law.2.2.2.2.1⟩

end Workspace

namespace Astray

/-- A tree with a link that leads through a missing name back to itself, and on to another link. -/
def tree : FileTree where
  entries := [(["stray"], .link "missing/../stray/../alias"), (["alias"], .link "real"),
    (["real"], .directory)]
  distinct := by decide
  named := by decide
  rooted := by decide

def workspace : Workspace where
  tree := tree
  directory := []
  home := []
  grammar := fun _ => default

theorem entry?_stray : tree.entry? ["stray"] = some (.link "missing/../stray/../alias") := by decide

theorem entry?_alias : tree.entry? ["alias"] = some (.link "real") := by decide

theorem entry?_real : tree.entry? ["real"] = some .directory := by decide

theorem entry?_missing : tree.entry? ["missing"] = none := by decide

theorem pieces :
    Path.components "missing/../stray/../alias" = ["missing", "..", "stray", "..", "alias"] := by
  decide

/-- The links of the tree. -/
theorem of_link {here : Location} {name target : String}
    (found : tree.entry? (here ++ [name]) = some (.link target)) :
    here = [] ∧ (name = "stray" ∧ target = "missing/../stray/../alias" ∨
      name = "alias" ∧ target = "real") := by
  have member := (FileTree.entry?_eq_some_iff (by simp) _).1 found
  simpa [tree, List.append_eq_singleton_iff, and_assoc, and_or_left] using member

/-- A walk breaks off at the missing name of the first link, and the second one leads to a
directory. -/
theorem neverLoops_tree : tree.NeverLoops := by
  refine FileTree.neverLoops_of_links fun creates here name target rest found further => ?_
  obtain ⟨rfl, ⟨rfl, rfl⟩ | ⟨rfl, rfl⟩⟩ := of_link found
  · rw [pieces]
    exact .of_absent _ (by decide) (by decide) entry?_missing
  · rw [show Path.components "real" = ["real"] by decide]
    exact .of_step (.enters (by decide) (by decide) (by simp [entry?_real])) (further ["real"])

theorem follow_stray : follow tree [] ⟨true, []⟩ [.name "stray"] =
    .ok (.looping ["stray", "..", "alias"]) := by
  have unlinked : ∀ target, tree.entry? ["missing"] ≠ some (.link target) := by
    simp [entry?_missing]
  rw [follow_link entry?_stray]
  show follow tree _ _ ((Path.components "missing/../stray/../alias").map .name ++ _) = _
  rw [pieces]
  show follow tree _ ⟨true, []⟩ (.name "missing" :: .name ".." :: .name "stray" :: _) = _
  rw [follow_unlinked (by decide) (by decide) (by decide) unlinked, follow_up]
  show follow tree _ ⟨true, []⟩ (.name "stray" :: _) = _
  rw [follow_link entry?_stray]
  rfl

theorem leads_alias : Leads tree linkLimit [] ["alias"] ["real"] := by
  refine .follows (by decide) entry?_alias ?_
  rw [ite_self, show Path.components "real" ++ [] = ["real"] by decide]
  exact .enters (by decide) entry?_real (by simp) (.arrives _ _)

theorem normalize_stray :
    workspace.normalize (Path.parse "/stray") = .ok (Disk.pathOf ["alias"]) := by
  have isPath : Path.parse "/stray" = Disk.pathOf ["stray"] := by decide
  rw [isPath, Disk.normalize_pathOf]
  refine bind_eq_ok_iff.2
    ⟨.looping ["stray", "..", "alias"], follow_stray, bind_eq_ok_iff.2 ⟨(), rfl, ?_⟩⟩
  have isSettled : Path.foldDots (["stray", "..", "alias"].filter (· != ".")) = ["alias"] := by
    decide
  have walked : workspace.tree.walk false linkLimit []
      (Disk.pathOf (Path.foldDots (["stray", "..", "alias"].filter (· != ".")))).names =
        .ok (.taken ["real"]) := by
    rw [isSettled]
    exact leads_alias.walk_eq
  rw [walked, isSettled]

theorem normalize_alias :
    workspace.normalize (Path.parse (Disk.pathOf ["alias"]).text) = .ok (Disk.pathOf ["real"]) := by
  have isPath : Path.parse (Disk.pathOf ["alias"]).text = Disk.pathOf ["alias"] := by decide
  rw [isPath, Disk.normalize_pathOf]
  exact Disk.resolve_of_leads leads_alias

end Astray

namespace Workspace

/-- That no walk follows links forever is not enough for the law: a link that leads through a
missing name back to itself is normalized to another link, and that is not what it is normalized to
when this is done again. -/
theorem normalize_not_unlinked :
    ¬ ∀ (workspace : Workspace) (text : String) (place : Path), workspace.IsPlaced →
      workspace.tree.entry? workspace.directory = some .directory →
      workspace.tree.NeverLoops → workspace.normalize (Path.parse text) = .ok place →
      place.anchor = .absolute ∧
        (∀ name ∈ Path.components place.text, name ≠ "." ∧ name ≠ "..") ∧
        (workspace.tree.Unlinked place.names ∨
          workspace.normalize (Path.parse place.text) = .ok place) := by
  intro law
  obtain ⟨_, _, isUnlinked | isNormal⟩ := law Astray.workspace "/stray" _ ⟨nofun, nofun⟩ rfl
    Astray.neverLoops_tree Astray.normalize_stray
  · exact isUnlinked ["alias"] "real" (List.prefix_refl _) Astray.entry?_alias
  · exact absurd (Except.ok.inj (isNormal.symm.trans Astray.normalize_alias)) (by decide)

end Workspace

end SwiftSlice

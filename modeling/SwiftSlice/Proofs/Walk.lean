/-
Walks through a file tree. Whatever exists is reached from the root through
directories, so a walk to an existing location passes nothing but directories
until its last name. A walk that arrives at an entry is a relation of its own, with
a rule for each thing that a name can stand for. How many links a walk may follow
matters only to walks that run out of them, and a walk along two lists of names is
a walk along the first and then along the second.
-/

import Mathlib.Data.List.Induction
import SwiftSlice.FileTree.Resolve
import SwiftSlice.Log

namespace SwiftSlice

open Text

namespace FileTree

variable {tree : FileTree} {location here : Location}

/-! ### Entries -/

theorem isDirectory_iff : tree.isDirectory location = true ↔
    tree.entry? location = some .directory :=
  beq_iff_eq

/-- The test of a walk, as it stands before each step. -/
theorem not_not_isDirectory_iff : ¬ (!tree.isDirectory location) = true ↔
    tree.entry? location = some .directory := by
  rw [Bool.not_eq_true', Bool.not_eq_false, isDirectory_iff]

/-- The root is never free. -/
theorem ne_nil_of_free (free : tree.entry? location = none) : location ≠ [] := by
  rintro rfl
  cases free

theorem lookup_eq_some_iff_mem {κ α : Type} [BEq κ] [LawfulBEq κ] (key : κ) (value : α)
    (pairs : List (κ × α)) (distinct : (pairs.map Prod.fst).Nodup) :
    pairs.lookup key = some value ↔ (key, value) ∈ pairs := by
  induction pairs with
  | nil => simp
  | cons pair rest inductionHypothesis =>
    obtain ⟨notInRest, restDistinct⟩ := List.nodup_cons.1 distinct
    rw [List.lookup_cons, List.mem_cons]
    by_cases same : key = pair.1
    · have absent : ¬ (key, value) ∈ rest := fun inRest =>
        notInRest (same ▸ List.mem_map_of_mem inRest)
      rw [same, beq_self_eq_true, Option.some_inj, ← same]
      constructor
      · exact fun isValue => .inl (Prod.ext same isValue.symm)
      · exact fun member => (congrArg Prod.snd (member.resolve_right absent)).symm
    · rw [beq_false_of_ne same, inductionHypothesis restDistinct]
      exact (or_iff_right fun isPair => same (congrArg Prod.fst isPair)).symm

theorem entry?_eq_some_iff (nonempty : location ≠ []) (entry : Entry) :
    tree.entry? location = some entry ↔ (location, entry) ∈ tree.entries := by
  rw [FileTree.entry?, if_neg nonempty]
  exact lookup_eq_some_iff_mem location entry tree.entries tree.distinct

theorem directoryIn_iff : DirectoryIn tree.entries location ↔
    tree.entry? location = some .directory := by
  by_cases root : location = []
  · rw [DirectoryIn, root, entry?, if_pos rfl]
    simp
  · rw [DirectoryIn, entry?_eq_some_iff root, or_iff_right root]

/-- Above an entry there is a directory. -/
theorem directory_above {entry : Entry} (found : tree.entry? location = some entry) :
    tree.entry? location.dropLast = some .directory := by
  by_cases root : location = []
  · rw [root]
    rfl
  · exact directoryIn_iff.1 (tree.rooted _ ((entry?_eq_some_iff root entry).1 found))

/-- Whatever lies on the way to an entry is a directory. -/
theorem directory_of_append {names : List String} {entry : Entry} (nonempty : names ≠ [])
    (found : tree.entry? (here ++ names) = some entry) :
    tree.entry? here = some .directory := by
  induction names using List.reverseRecOn generalizing entry with
  | nil => exact absurd rfl nonempty
  | append_singleton before last inductionHypothesis =>
    have above := directory_above found
    rw [← List.append_assoc, List.dropLast_concat] at above
    by_cases empty : before = []
    · rwa [empty, List.append_nil] at above
    · exact inductionHypothesis empty above

theorem isFileName_of_entry? {entry : Entry} (found : tree.entry? location = some entry)
    {name : String} (member : name ∈ location) : IsFileName name := by
  have nonempty : location ≠ [] := List.ne_nil_of_mem member
  exact (tree.named _ ((entry?_eq_some_iff nonempty entry).1 found)).2 name member

end FileTree

/-! ### One name -/

namespace IsFileName

variable {name : String}

theorem not_skipped (isName : IsFileName name) : ¬ (name = "" || name = ".") = true := by
  obtain ⟨nonempty, noDot, _⟩ := isName
  simp [nonempty, noDot]

theorem not_up (isName : IsFileName name) : name ≠ ".." :=
  isName.2.2.1

end IsFileName

namespace FileTree

variable (tree : FileTree)

/-- A walk on from a directory, along a name that stands for no step of its own. -/
theorem walk_cons {creates : Bool} (budget : Nat) {here : Location} {name : String}
    (rest : List String) (isDirectory : tree.entry? here = some .directory)
    (notSkipped : ¬ (name = "" || name = ".") = true) (notUp : name ≠ "..")
    (plain : (creates && !rest.isEmpty && rest.all (· = "")) = false) :
    tree.walk creates budget here (name :: rest) =
      if nameLimit < name.utf8ByteSize then .error .nameTooLong
      else
        match tree.entry? (here ++ [name]) with
        | none => if rest.isEmpty then .ok (.free (here ++ [name])) else .error .noEntry
        | some (.link target) =>
          match budget with
          | 0 => .error .linkLoop
          | left + 1 =>
            tree.walk creates left (if beginsWith target "/" then [] else here)
              (Path.components target ++ rest)
        | some _ => tree.walk creates budget (here ++ [name]) rest := by
  rw [walk, isDirectory_iff.2 isDirectory, if_neg notSkipped, if_neg notUp, plain]
  rfl

variable {tree}

/-- Names of entries do not stand for a slash at the end of a path. -/
theorem plain_append (creates : Bool) {names : List String} (rest : List String)
    (named : ∀ name ∈ names, IsFileName name)
    (plain : (creates && !rest.isEmpty && rest.all (· = "")) = false) :
    (creates && !(names ++ rest).isEmpty && (names ++ rest).all (· = "")) = false := by
  cases names with
  | nil => exact plain
  | cons name tail => simp [(named name List.mem_cons_self).1]

/-- What stands at a name on the way to an entry that is no link is no link either. -/
theorem walk_cons_present {creates : Bool} {budget : Nat} {here : Location} {name : String}
    {tail rest : List String} {entry : Entry}
    (found : tree.entry? (here ++ name :: tail) = some entry)
    (noLink : ∀ target, entry ≠ .link target)
    (plain : (creates && !rest.isEmpty && rest.all (· = "")) = false) :
    tree.walk creates budget here (name :: (tail ++ rest)) =
      if nameLimit < name.utf8ByteSize then .error .nameTooLong
      else tree.walk creates budget (here ++ [name]) (tail ++ rest) := by
  have named : ∀ other ∈ name :: tail, IsFileName other := fun other member =>
    isFileName_of_entry? found (List.mem_append_right here member)
  have isName := named name List.mem_cons_self
  rw [walk_cons tree budget (tail ++ rest) (directory_of_append (List.cons_ne_nil _ _) found)
    isName.not_skipped isName.not_up
    (plain_append creates rest (fun other member => named other (List.mem_cons_of_mem _ member))
      plain)]
  have first : ∃ met, tree.entry? (here ++ [name]) = some met ∧ ∀ target, met ≠ .link target := by
    rw [List.append_cons] at found
    cases tail with
    | nil => exact ⟨entry, by rwa [List.append_nil] at found, noLink⟩
    | cons next more => exact ⟨_, directory_of_append (List.cons_ne_nil _ _) found, by simp⟩
  obtain ⟨met, isMet, metNoLink⟩ := first
  rw [isMet]
  cases met with
  | file content => rfl
  | directory => rfl
  | link target => exact absurd rfl (metNoLink target)

/-- Walking along the names of an entry that is no link leads to it, unless a name is too long. -/
theorem walk_append_present {creates : Bool} {budget : Nat} {here : Location}
    {names rest : List String} {entry : Entry}
    (found : tree.entry? (here ++ names) = some entry)
    (noLink : ∀ target, entry ≠ .link target)
    (plain : (creates && !rest.isEmpty && rest.all (· = "")) = false) :
    tree.walk creates budget here (names ++ rest) =
      if ∀ name ∈ names, name.utf8ByteSize ≤ nameLimit then
        tree.walk creates budget (here ++ names) rest
      else .error .nameTooLong := by
  induction names generalizing here with
  | nil => simp
  | cons name tail inductionHypothesis =>
    rw [List.cons_append, walk_cons_present found noLink plain]
    rw [List.append_cons] at found
    rw [inductionHypothesis found, ← List.append_cons]
    by_cases long : nameLimit < name.utf8ByteSize
    · have notAll : ¬ ∀ other ∈ name :: tail, other.utf8ByteSize ≤ nameLimit := fun short =>
        Nat.not_lt.2 (short name List.mem_cons_self) long
      rw [if_pos long, if_neg notAll]
    · simp only [if_neg long, List.forall_mem_cons, Nat.not_lt.1 long, true_and]

/-- Walking along the names of something that is missing, past no link, breaks off, for want of an
entry or at a file, or ends at a free name. -/
theorem walk_absent {creates : Bool} {budget : Nat} {here : Location} {names : List String}
    (present : tree.entry? here ≠ none) (absent : tree.entry? (here ++ names) = none)
    (named : ∀ name ∈ names, IsFileName name ∧ name.utf8ByteSize ≤ nameLimit)
    (unlinked : ∀ above target, above <+: here ++ names →
      tree.entry? above ≠ some (.link target)) :
    tree.walk creates budget here names = .ok (.free (here ++ names)) ∨
      tree.walk creates budget here names = .error .noEntry ∨
      tree.walk creates budget here names = .error .notDirectory ∧
        ∃ above content, above <+: here ++ names ∧ tree.entry? above = some (.file content) := by
  induction names generalizing here with
  | nil => exact absurd (by rwa [List.append_nil] at absent) present
  | cons name rest inductionHypothesis =>
    by_cases isDirectory : tree.entry? here = some .directory
    · have plain := plain_append creates []
        (fun other member => (named other (List.mem_cons_of_mem name member)).1) (by simp)
      rw [List.append_nil] at plain
      obtain ⟨isName, short⟩ := named name List.mem_cons_self
      rw [walk_cons tree budget rest isDirectory isName.not_skipped isName.not_up plain,
        if_neg (Nat.not_lt.2 short)]
      rw [List.append_cons here name rest] at absent unlinked ⊢
      have onTheWay := unlinked (here ++ [name])
      cases met : tree.entry? (here ++ [name]) with
      | none =>
        dsimp only
        split
        · next isLast => exact .inl (by rw [List.isEmpty_iff.1 isLast, List.append_nil])
        · exact .inr (.inl rfl)
      | some entry =>
        have further := inductionHypothesis (by rw [met]; simp) absent
          (fun other member => named other (List.mem_cons_of_mem name member)) unlinked
        cases entry with
        | link target => exact absurd met (onTheWay target (List.prefix_append _ _))
        | file content => exact further
        | directory => exact further
    · refine .inr (.inr ⟨?_, ?_⟩)
      · rw [walk, Bool.eq_false_iff.2 (mt isDirectory_iff.1 isDirectory)]
        rfl
      · obtain ⟨entry, found⟩ := Option.ne_none_iff_exists'.1 present
        cases entry with
        | link target => exact absurd found (unlinked here target (List.prefix_append _ _))
        | file content => exact ⟨here, content, List.prefix_append _ _, found⟩
        | directory => exact absurd found isDirectory

end FileTree

/-! ### Walks that arrive -/

/-- The walk along some names from a location that arrives at an entry, with what it meets on the
way: it follows no more links than the budget allows. -/
inductive Leads (tree : FileTree) : Nat → Location → List String → Location → Prop
  | arrives (budget : Nat) (here : Location) : Leads tree budget here [] here
  | stays {budget : Nat} {here last : Location} {name : String} {rest : List String}
      (isDirectory : tree.entry? here = some .directory) (skipped : name = "" ∨ name = ".")
      (further : Leads tree budget here rest last) : Leads tree budget here (name :: rest) last
  | rises {budget : Nat} {here last : Location} {rest : List String}
      (isDirectory : tree.entry? here = some .directory)
      (further : Leads tree budget here.dropLast rest last) :
      Leads tree budget here (".." :: rest) last
  | enters {budget : Nat} {here last : Location} {name : String} {rest : List String}
      {entry : Entry} (short : name.utf8ByteSize ≤ nameLimit)
      (found : tree.entry? (here ++ [name]) = some entry)
      (noLink : ∀ target, entry ≠ .link target)
      (further : Leads tree budget (here ++ [name]) rest last) :
      Leads tree budget here (name :: rest) last
  | follows {left : Nat} {here last : Location} {name target : String} {rest : List String}
      (short : name.utf8ByteSize ≤ nameLimit)
      (found : tree.entry? (here ++ [name]) = some (.link target))
      (further : Leads tree left (if beginsWith target "/" then [] else here)
        (Path.components target ++ rest) last) :
      Leads tree (left + 1) here (name :: rest) last

namespace Leads

variable {tree : FileTree} {budget : Nat} {here last : Location} {names : List String}

theorem of_walk (arrived : tree.walk false budget here names = .ok (.taken last)) :
    Leads tree budget here names last := by
  fun_induction tree.walk false budget here names with
  | case1 budget here =>
    obtain rfl := Spot.taken.inj (Except.ok.inj arrived)
    exact arrives budget here
  | case3 budget here name rest isDirectory skipped inductionHypothesis =>
    exact stays (FileTree.not_not_isDirectory_iff.1 isDirectory) (by simpa using skipped)
      (inductionHypothesis arrived)
  | case4 budget here rest isDirectory _ inductionHypothesis =>
    exact rises (FileTree.not_not_isDirectory_iff.1 isDirectory) (inductionHypothesis arrived)
  | case10 here name rest _ _ _ _ short target found left inductionHypothesis =>
    exact follows (Nat.not_lt.1 short) found (inductionHypothesis arrived)
  | case11 budget here name rest _ _ _ _ short entry noLink found inductionHypothesis =>
    exact enters (Nat.not_lt.1 short) found noLink (inductionHypothesis arrived)
  | _ => cases arrived

theorem walk_eq (leads : Leads tree budget here names last) :
    tree.walk false budget here names = .ok (.taken last) := by
  induction leads with
  | arrives budget here => rw [FileTree.walk]
  | stays isDirectory skipped _ inductionHypothesis =>
    rw [FileTree.walk, FileTree.isDirectory_iff.2 isDirectory]
    rcases skipped with rfl | rfl <;> exact inductionHypothesis
  | rises isDirectory _ inductionHypothesis =>
    rw [FileTree.walk, FileTree.isDirectory_iff.2 isDirectory]
    exact inductionHypothesis
  | @enters budget here last name rest entry short found noLink _ inductionHypothesis =>
    have step : tree.walk false budget here ([name] ++ rest) = _ :=
      FileTree.walk_append_present found noLink (by simp)
    rw [List.singleton_append] at step
    rw [step, if_pos (by simpa using short)]
    exact inductionHypothesis
  | @follows left here last name target rest short found _ inductionHypothesis =>
    have isName :=
      FileTree.isFileName_of_entry? found (List.mem_append_right here List.mem_cons_self)
    rw [FileTree.walk_cons tree _ rest (FileTree.directory_of_append (List.cons_ne_nil _ _) found)
      isName.not_skipped isName.not_up (by simp), if_neg (Nat.not_lt.2 short), found]
    exact inductionHypothesis

/-- A walk that starts at an entry arrives at one. -/
theorem present (leads : Leads tree budget here names last) (start : tree.entry? here ≠ none) :
    tree.entry? last ≠ none := by
  induction leads with
  | arrives => exact start
  | stays _ _ _ inductionHypothesis => exact inductionHypothesis start
  | rises isDirectory _ inductionHypothesis =>
    exact inductionHypothesis (by rw [FileTree.directory_above isDirectory]; simp)
  | enters _ found _ _ inductionHypothesis => exact inductionHypothesis (by rw [found]; simp)
  | @follows left here last name target rest _ found _ inductionHypothesis =>
    refine inductionHypothesis ?_
    split
    · exact Option.some_ne_none _
    · rw [FileTree.directory_of_append (List.cons_ne_nil _ _) found]
      exact Option.some_ne_none _

/-- A greater budget does no harm. -/
theorem mono (leads : Leads tree budget here names last) {more : Nat} (enough : budget ≤ more) :
    Leads tree more here names last := by
  induction leads generalizing more with
  | arrives => exact arrives more _
  | stays isDirectory skipped _ inductionHypothesis =>
    exact stays isDirectory skipped (inductionHypothesis enough)
  | rises isDirectory _ inductionHypothesis => exact rises isDirectory (inductionHypothesis enough)
  | enters short found noLink _ inductionHypothesis =>
    exact enters short found noLink (inductionHypothesis enough)
  | follows short found _ inductionHypothesis =>
    obtain ⟨left, rfl⟩ := Nat.exists_eq_add_one_of_ne_zero (by omega : more ≠ 0)
    exact follows short found (inductionHypothesis (by omega))

/-- A walk arrives at one entry only, whatever the budgets. -/
theorem unique (leads : Leads tree budget here names last) {other : Nat} {end' : Location}
    (leads' : Leads tree other here names end') : last = end' := by
  have first := (leads.mono (Nat.le_max_left budget other)).walk_eq
  have second := (leads'.mono (Nat.le_max_right budget other)).walk_eq
  exact Spot.taken.inj (Except.ok.inj (first.symm.trans second))

/-- A walk that arrives past a link arrives along its target. -/
theorem of_link {name target : String} {rest : List String}
    (leads : Leads tree budget here (name :: rest) last)
    (found : tree.entry? (here ++ [name]) = some (.link target)) :
    ∃ left, budget = left + 1 ∧ Leads tree left (if beginsWith target "/" then [] else here)
      (Path.components target ++ rest) last := by
  have isName := FileTree.isFileName_of_entry? found (List.mem_append_right here List.mem_cons_self)
  cases leads with
  | stays _ skipped _ => exact absurd skipped (not_or.2 ⟨isName.1, isName.2.1⟩)
  | rises _ _ => exact absurd rfl isName.not_up
  | enters _ isEntry noLink _ =>
    exact absurd (Option.some.inj (isEntry.symm.trans found)) (noLink target)
  | follows _ isLink further =>
    obtain rfl := Entry.link.inj (Option.some.inj (isLink.symm.trans found))
    exact ⟨_, rfl, further⟩

/-- A walk along two lists of names is a walk along the first and then along the second. -/
theorem split {first second : List String} (leads : Leads tree budget here (first ++ second) last) :
    ∃ middle left, left ≤ budget ∧ Leads tree budget here first middle ∧
      Leads tree left middle second last := by
  generalize whole : first ++ second = names at leads
  induction leads generalizing first with
  | arrives budget here =>
    obtain ⟨rfl, rfl⟩ := List.append_eq_nil_iff.1 whole
    exact ⟨here, budget, Nat.le_refl _, arrives budget here, arrives budget here⟩
  | @stays budget here last name rest isDirectory skipped further inductionHypothesis =>
    cases first with
    | nil =>
      obtain rfl : second = name :: rest := whole
      exact ⟨here, budget, Nat.le_refl _, arrives budget here, stays isDirectory skipped further⟩
    | cons head tail =>
      obtain ⟨rfl, split⟩ := List.cons.inj whole
      obtain ⟨middle, left, fewer, toMiddle, toLast⟩ := inductionHypothesis split
      exact ⟨middle, left, fewer, stays isDirectory skipped toMiddle, toLast⟩
  | @rises budget here last rest isDirectory further inductionHypothesis =>
    cases first with
    | nil =>
      obtain rfl : second = ".." :: rest := whole
      exact ⟨here, budget, Nat.le_refl _, arrives budget here, rises isDirectory further⟩
    | cons head tail =>
      obtain ⟨rfl, split⟩ := List.cons.inj whole
      obtain ⟨middle, left, fewer, toMiddle, toLast⟩ := inductionHypothesis split
      exact ⟨middle, left, fewer, rises isDirectory toMiddle, toLast⟩
  | @enters budget here last name rest entry short found noLink further inductionHypothesis =>
    cases first with
    | nil =>
      obtain rfl : second = name :: rest := whole
      exact ⟨here, budget, Nat.le_refl _, arrives budget here, enters short found noLink further⟩
    | cons head tail =>
      obtain ⟨rfl, split⟩ := List.cons.inj whole
      obtain ⟨middle, left, fewer, toMiddle, toLast⟩ := inductionHypothesis split
      exact ⟨middle, left, fewer, enters short found noLink toMiddle, toLast⟩
  | @follows left here last name target rest short found further inductionHypothesis =>
    cases first with
    | nil =>
      obtain rfl : second = name :: rest := whole
      exact ⟨here, _, Nat.le_refl _, arrives _ here, follows short found further⟩
    | cons head tail =>
      obtain ⟨rfl, split⟩ := List.cons.inj whole
      obtain ⟨middle, less, fewer, toMiddle, toLast⟩ :=
        inductionHypothesis ((List.append_assoc _ tail second).trans (congrArg _ split))
      exact ⟨middle, less, by omega, follows short found toMiddle, toLast⟩

end Leads

/-! ### Access by path -/

namespace Disk

variable {disk : Disk} {path : Path}

theorem walkTo_eq_ok_iff {creates : Bool} {spot : Spot} :
    disk.walkTo creates path = .ok spot ↔ checkPath path = .ok () ∧
      disk.tree.walk creates linkLimit (disk.origin path) path.names = .ok spot := by
  rw [walkTo, bind_eq_ok_iff]
  constructor
  · rintro ⟨_, checked, blamed⟩
    cases walked : disk.tree.walk creates linkLimit (disk.origin path) path.names with
    | error errno => rw [walked] at blamed; cases blamed
    | ok other =>
      rw [walked] at blamed
      exact ⟨checked, congrArg Except.ok (Except.ok.inj blamed)⟩
  · rintro ⟨checked, walked⟩
    exact ⟨(), checked, by rw [walked]; rfl⟩

/-- A path leads to an entry if the walk along it arrives there. -/
theorem entry_eq_ok_iff {found : Entry} :
    disk.entry path = .ok found ↔ checkPath path = .ok () ∧
      ∃ last, Leads disk.tree linkLimit (disk.origin path) path.names last ∧
        disk.tree.entry? last = some found := by
  rw [entry, bind_eq_ok_iff]
  constructor
  · rintro ⟨spot, walked, isFound⟩
    obtain ⟨checked, walked⟩ := walkTo_eq_ok_iff.1 walked
    cases spot with
    | free location => cases isFound
    | taken last =>
      refine ⟨checked, last, .of_walk walked, ?_⟩
      dsimp only at isFound
      cases held : disk.tree.entry? last with
      | none => rw [held] at isFound; cases isFound
      | some other => rw [held] at isFound; exact congrArg some (Except.ok.inj isFound)
  · rintro ⟨checked, last, leads, isFound⟩
    refine ⟨.taken last, walkTo_eq_ok_iff.2 ⟨checked, leads.walk_eq⟩, ?_⟩
    dsimp only
    rw [isFound]

theorem probe_eq_some_iff {found : Entry} :
    disk.probe path = .ok (some found) ↔ disk.entry path = .ok found := by
  unfold probe
  constructor
  · intro probed
    split at probed
    · next other isOther => rw [isOther, Option.some.inj (Except.ok.inj probed)]
    · cases probed
    · cases Except.ok.inj probed
  · intro isFound
    rw [isFound]

theorem isFile_eq_true_iff : disk.isFile path = .ok true ↔
    ∃ content, disk.entry path = .ok (.file content) := by
  rw [isFile, bind_eq_ok_iff]
  constructor
  · rintro ⟨probed, isProbed, isTrue⟩
    split at isTrue
    · next content => exact ⟨content, probe_eq_some_iff.1 isProbed⟩
    · cases Except.ok.inj isTrue
  · rintro ⟨content, isFile⟩
    exact ⟨_, probe_eq_some_iff.2 isFile, rfl⟩

theorem isDirectory_eq_true_iff : disk.isDirectory path = .ok true ↔
    disk.entry path = .ok .directory := by
  rw [isDirectory, bind_eq_ok_iff]
  constructor
  · rintro ⟨probed, isProbed, isTrue⟩
    obtain rfl := beq_iff_eq.1 (Except.ok.inj isTrue)
    exact probe_eq_some_iff.1 isProbed
  · intro isDirectory
    exact ⟨_, probe_eq_some_iff.2 isDirectory, rfl⟩

theorem read_eq_ok_iff {content : Bytes} :
    disk.read path = .ok content ↔ disk.entry path = .ok (.file content) := by
  rw [read, bind_eq_ok_iff]
  constructor
  · rintro ⟨found, isFound, isContent⟩
    split at isContent
    · rw [isFound, Except.ok.inj isContent]
    · cases isContent
  · intro isFile
    exact ⟨_, isFile, rfl⟩

end Disk

end SwiftSlice

/-
How steps fail. What a computation can fail with is a predicate on failures, and
steps in a row fail only for what each of them fails for. Finding files and reading
ignore files has failures of its own: a refused access, a link that loops, a home
that is not known, a text that cannot be decoded, a pattern that cannot be read.
Each step of a scan fails in one of these ways or not at all, and so does the scan;
in particular no scan blames the start file.
-/

import SwiftSlice.Proofs.Scanning

namespace SwiftSlice

open Text

/-- Holds of an outcome that fails, if it does, for one of the given causes. -/
def FailsOnly (cause : Failure → Prop) (outcome : Except Failure α) : Prop :=
  ∀ failure, outcome = .error failure → cause failure

namespace FailsOnly

/-! ### Steps in a row -/

section Steps

variable {cause : Failure → Prop}

theorem ok (value : α) : FailsOnly cause (.ok value) := nofun

theorem error {failure : Failure} (isCause : cause failure) :
    FailsOnly cause (.error failure : Except Failure α) := by
  rintro _ ⟨⟩
  exact isCause

theorem of_eq_ok {outcome : Except Failure α} {value : α} (isOk : outcome = .ok value) :
    FailsOnly cause outcome :=
  fun _ failed => nomatch isOk.symm.trans failed

theorem mono {other : Failure → Prop} {outcome : Except Failure α}
    (weaker : ∀ failure, cause failure → other failure) (fails : FailsOnly cause outcome) :
    FailsOnly other outcome :=
  fun failure failed => weaker failure (fails failure failed)

/-- What comes behind a step has to be looked at only where the step succeeds. -/
theorem bind {first : Except Failure α} {next : α → Except Failure β}
    (isFirst : FailsOnly cause first)
    (isNext : ∀ value, first = .ok value → FailsOnly cause (next value)) :
    FailsOnly cause (first >>= next) := by
  cases first with
  | error failure => exact error (isFirst failure rfl)
  | ok value => exact isNext value rfl

theorem mapM {step : α → Except Failure β} {items : List α}
    (isStep : ∀ item ∈ items, FailsOnly cause (step item)) :
    FailsOnly cause (items.mapM step) := by
  induction items with
  | nil => exact ok []
  | cons item rest inductionHypothesis =>
    obtain ⟨isItem, areRest⟩ := List.forall_mem_cons.1 isStep
    rw [List.mapM_cons]
    exact bind isItem fun _ _ => bind (inductionHypothesis areRest) fun _ _ => ok _

theorem filterAuxM {test : α → Except Failure Bool} {items : List α}
    (isTest : ∀ item ∈ items, FailsOnly cause (test item)) (done : List α) :
    FailsOnly cause (items.filterAuxM test done) := by
  induction items generalizing done with
  | nil => exact ok done
  | cons item rest inductionHypothesis =>
    obtain ⟨isItem, areRest⟩ := List.forall_mem_cons.1 isTest
    exact bind isItem fun _ _ => inductionHypothesis areRest _

theorem filterM {test : α → Except Failure Bool} {items : List α}
    (isTest : ∀ item ∈ items, FailsOnly cause (test item)) :
    FailsOnly cause (items.filterM test) :=
  bind (filterAuxM isTest []) fun _ _ => ok _

end Steps

end FailsOnly

/-- Holds of the failures that resolving a path can have. -/
def Failure.IsOfPaths : Failure → Prop
  | .nulInPath | .linkLoop _ | .noHome => True
  | _ => False

/-- Holds of the failures that finding and reading files can have. -/
def Failure.IsOfFiles : Failure → Prop
  | .access _ _ | .nulInPath | .linkLoop _ | .noHome | .undecodable | .emptyPattern | .badPattern
  | .outsideBase _ _ => True
  | _ => False

theorem Failure.IsOfPaths.isOfFiles {failure : Failure} (isOfPaths : failure.IsOfPaths) :
    failure.IsOfFiles := by
  cases failure <;> trivial

/-- Holds of an outcome that fails, if it does, for what finding and reading files can have. -/
def FailsOnFiles (outcome : Except Failure α) : Prop :=
  ∀ failure, outcome = .error failure → failure.IsOfFiles

namespace FailsOnly

/-! ### Resolving -/

variable (disk : Disk) (path : Path)

theorem checkNames : FailsOnly Failure.IsOfPaths (Disk.checkNames path) := by
  unfold Disk.checkNames
  split
  · exact error trivial
  · exact ok ()

theorem follow (tree : FileTree) (log : LinkLog) (here : Standing) (pending : List Pending) :
    FailsOnly Failure.IsOfPaths (follow tree log here pending) := by
  fun_induction SwiftSlice.follow tree log here pending with
  | case1 | case7 => exact ok _
  | case5 => exact error trivial
  | _ => assumption

theorem resolve : FailsOnly Failure.IsOfPaths (disk.resolve path) := by
  refine bind (follow _ _ _ _) fun followed _ => ?_
  cases followed with
  | real location => exact ok _
  | looping location =>
    refine bind (checkNames _) fun _ _ => ?_
    split
    · exact error trivial
    · exact ok _

theorem expandHome : FailsOnly Failure.IsOfPaths (disk.expandHome path) := by
  unfold Disk.expandHome
  split
  · split
    · exact ok _
    · split
      · split
        · exact error trivial
        · exact error trivial
      · exact ok _
  · exact ok _

/-- A path that cannot be brought into its one form has a null character, names a home that is not
known, or runs into a link that loops. -/
theorem normalize : FailsOnly Failure.IsOfPaths (disk.normalize path) :=
  bind (expandHome disk path) fun expanded _ => resolve disk expanded

/-! ### Reading rules -/

theorem setContent (content : List Char) :
    FailsOnly (· = .emptyPattern) (IgnoreRule.setContent content) := by
  unfold IgnoreRule.setContent
  dsimp only
  split
  · exact error rfl
  · exact ok _
  · exact ok _
  · exact ok _

theorem spell (fuel : Nat) (pattern : List Char) :
    FailsOnly (· = .emptyPattern) (IgnoreRule.spell fuel pattern) := by
  fun_induction IgnoreRule.spell fuel pattern with
  | case1 | case2 => exact ok []
  | case8 fuel rest content after _ inductionHypothesis =>
    exact bind (setContent content) fun _ _ => bind inductionHypothesis fun _ _ => ok _
  | _ => exact bind (by assumption) fun _ _ => ok _

theorem expressionOf (pattern : List Char) (isAnchored directoryOnly isNegated : Bool) :
    FailsOnly (· = .emptyPattern)
      (IgnoreRule.expressionOf pattern isAnchored directoryOnly isNegated) :=
  bind (spell _ pattern) fun _ _ => ok _

theorem nonEmpty (pattern : List Char) :
    FailsOnly (· = .emptyPattern) (IgnoreRule.nonEmpty pattern) := by
  unfold IgnoreRule.nonEmpty
  split
  · exact error rfl
  · exact ok pattern

theorem dropEscape (pattern : List Char) :
    FailsOnly (· = .emptyPattern) (IgnoreRule.dropEscape pattern) := by
  unfold IgnoreRule.dropEscape
  split
  · exact error rfl
  · exact ok _
  · exact ok _

theorem ofPattern (pattern : List Char) (isNegated : Bool) :
    FailsOnly (· = .emptyPattern) (IgnoreRule.ofPattern pattern isNegated) := by
  unfold IgnoreRule.ofPattern
  dsimp only
  split
  · exact ok none
  · exact bind (nonEmpty _) fun _ _ => bind (nonEmpty _) fun _ _ => bind (nonEmpty _) fun _ _ =>
      bind (nonEmpty _) fun _ _ => bind (nonEmpty _) fun _ _ => bind (dropEscape _) fun _ _ =>
      bind (expressionOf _ _ _ _) fun _ _ => ok _

theorem ofLine (line : List Char) :
    FailsOnly (· = .emptyPattern) (IgnoreRule.ofLine line) := by
  unfold IgnoreRule.ofLine
  split
  · exact ok none
  · split
    · exact ok none
    · exact ofPattern _ true
    · exact ofPattern line false

/-- Lines that give no rules hold a pattern with nothing left in it. -/
theorem rulesOf (lines : List (List Char)) :
    FailsOnly (· = .emptyPattern) (IgnoreFile.rulesOf lines) :=
  bind (mapM fun line _ => ofLine line) fun _ _ => ok _

end FailsOnly

namespace FailsOnFiles

/-! ### Steps in a row -/

theorem ok (value : α) : FailsOnFiles (.ok value) :=
  FailsOnly.ok value

theorem error {failure : Failure} (isOfFiles : failure.IsOfFiles) :
    FailsOnFiles (.error failure : Except Failure α) :=
  FailsOnly.error isOfFiles

theorem bind {first : Except Failure α} {next : α → Except Failure β} (isFirst : FailsOnFiles first)
    (isNext : ∀ value, FailsOnFiles (next value)) : FailsOnFiles (first >>= next) :=
  FailsOnly.bind isFirst fun value _ => isNext value

/-- The start file is blamed by what comes behind a step that only finds and reads files. -/
theorem bind_eq_startUnreadable_iff {first : Except Failure α} {next : α → Except Failure β}
    (isFirst : FailsOnFiles first) {place : String} :
    (first >>= next) = .error (.startUnreadable place) ↔
      ∃ value, first = .ok value ∧ next value = .error (.startUnreadable place) := by
  cases first with
  | ok value => simp [Bind.bind, Except.bind]
  | error failure =>
    refine iff_of_false (fun blamed => ?_) (by simp)
    rw [Except.error.inj blamed] at isFirst
    exact isFirst _ rfl

/-! ### Access -/

variable (disk : Disk) (path : Path)

theorem checkNames : FailsOnFiles (Disk.checkNames path) :=
  (FailsOnly.checkNames path).mono fun _ => Failure.IsOfPaths.isOfFiles

theorem checkPath : FailsOnFiles (Disk.checkPath path) := by
  refine bind (checkNames path) fun _ => ?_
  split
  · exact error trivial
  · exact ok ()

theorem walkTo (creates : Bool) : FailsOnFiles (disk.walkTo creates path) := by
  refine bind (checkPath path) fun _ => ?_
  cases disk.tree.walk creates linkLimit (disk.origin path) path.names with
  | error errno => exact error trivial
  | ok spot => exact ok spot

theorem entry : FailsOnFiles (disk.entry path) := by
  refine bind (walkTo disk path false) fun spot => ?_
  cases spot with
  | free location => exact error trivial
  | taken location =>
    dsimp only
    split
    · exact ok _
    · exact error trivial

theorem probe : FailsOnFiles (disk.probe path) := by
  unfold Disk.probe
  split
  · exact ok _
  · exact error trivial
  · exact ok _

theorem isFile : FailsOnFiles (disk.isFile path) := by
  refine bind (probe disk path) fun found => ?_
  split
  · exact ok _
  · exact ok _

theorem isDirectory : FailsOnFiles (disk.isDirectory path) :=
  bind (probe disk path) fun _ => ok _

theorem read : FailsOnFiles (disk.read path) := by
  refine bind (entry disk path) fun found => ?_
  split
  · exact ok _
  · exact error trivial

/-! ### Resolving -/

theorem resolve : FailsOnFiles (disk.resolve path) :=
  (FailsOnly.resolve disk path).mono fun _ => Failure.IsOfPaths.isOfFiles

theorem normalize : FailsOnFiles (disk.normalize path) :=
  (FailsOnly.normalize disk path).mono fun _ => Failure.IsOfPaths.isOfFiles

/-! ### Ignore files -/

theorem load : FailsOnFiles (IgnoreFile.load disk path) := by
  refine bind (read disk path) fun content => ?_
  split
  · exact error trivial
  · refine bind ((FailsOnly.rulesOf _).mono ?_) fun _ => ok _
    rintro _ rfl
    trivial

theorem appliesTo (directory : Location) (base : Path) (text : String) (rule : IgnoreRule) :
    FailsOnFiles (rule.appliesTo directory base text) := by
  unfold IgnoreRule.appliesTo
  dsimp only
  split
  · exact error trivial
  · split
    · exact error trivial
    · split
      · exact ok _
      · exact error trivial

theorem firstApplying? (directory : Location) (base : Path) (text : String)
    (rules : List IgnoreRule) :
    FailsOnFiles (IgnoreFile.firstApplying? directory base text rules) := by
  induction rules with
  | nil => exact ok none
  | cons rule rest inductionHypothesis =>
    refine bind (appliesTo directory base text rule) fun applies => ?_
    split
    · exact ok _
    · exact inductionHypothesis

theorem fileIgnores (file : IgnoreFile) (directory : Location) (text : String) :
    FailsOnFiles (file.ignores directory text) := by
  refine bind (firstApplying? _ _ _ _) fun found => ?_
  split
  · exact ok _
  · exact ok _

theorem anyIgnores (directory : Location) (text : String) (files : List IgnoreFile) :
    FailsOnFiles (IgnoreFile.anyIgnores directory text files) := by
  induction files with
  | nil => exact ok false
  | cons file rest inductionHypothesis =>
    unfold IgnoreFile.anyIgnores
    split
    · exact ok true
    · exact inductionHypothesis
    · exact inductionHypothesis
    · next failure _ failed => exact error (fileIgnores file directory text failure failed)

theorem ignores (directory : Location) (text : String) (policy : IgnorePolicy) :
    FailsOnFiles (policy.ignores directory text) := by
  cases policy with
  | none => exact ok false
  | single file => exact fileIgnores file directory text
  | nested files => exact anyIgnores directory text files

/-! ### Scans -/

variable (base : Path)

theorem ignorePolicy (nested : Bool) : FailsOnFiles (disk.ignorePolicy base nested) := by
  unfold Disk.ignorePolicy
  split
  · refine bind (bind (FailsOnly.filterM fun path _ => isFile disk path) fun _ => ok _)
      fun paths => ?_
    split
    · exact ok _
    · exact bind (FailsOnly.mapM fun path _ => load disk path) fun _ => ok _
  · refine bind (isFile disk _) fun found => ?_
    split
    · exact bind (load disk _) fun _ => ok _
    · exact ok _

theorem includes (rules : ScanRules) (policy : IgnorePolicy) :
    FailsOnFiles (disk.includes base rules policy path) := by
  refine bind (isFile disk path) fun found => ?_
  split
  · exact ok false
  · refine bind (bind (resolve disk base) fun _ => bind (resolve disk path) fun _ => ok _)
      fun stays => ?_
    split
    · exact ok false
    · split
      · exact ok false
      · split
        · exact ok false
        · refine bind (ignores _ _ policy) fun ignored => ?_
          split
          · exact ok false
          · exact ok _

/-- A scan fails in one of the ways of finding and reading files, if it fails. -/
theorem swiftFiles (rules : ScanRules) : FailsOnFiles (disk.swiftFiles base rules) := by
  refine bind (isDirectory disk base) fun found => ?_
  split
  · exact ok []
  · refine bind (ignorePolicy disk base _) fun policy => ?_
    exact bind (FailsOnly.filterM fun path _ => includes disk path base rules policy) fun _ => ok _

end FailsOnFiles

end SwiftSlice

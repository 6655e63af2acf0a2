/-
What keeps a workspace from being worked with. Most of what an operation refuses it
reports in words of its own: a file without a preview, a malformed configuration, an
output directory that is not allowed, a start file that cannot be read. What is left
are the defects listed here, each of them found at a path that was asked for, or
below one. However many calls a reader may make inside one another, there is a
configuration that is nested too deeply for it. A scan fails for a defect only: what
it has found is there to be resolved, and is spelled so that an ignore file above it
has a say on it.
-/

import SwiftSlice.Command.Run
import SwiftSlice.Proofs.Numbering
import SwiftSlice.Proofs.OutputDirectory

namespace SwiftSlice

open Text

/-! ### Documents that are nested too deeply -/

namespace Toml

/-- No value is read without room for the calls that this takes. -/
theorem value_of_lt {room : Nat} (deep : room < valueCalls) (fuel : Nat) (text : List Char) :
    value room (fuel + 1) text = .error .tooDeep := by
  unfold value
  exact if_pos deep

/-- An array is not read if the array that it starts with is not. -/
theorem value_bracket {room fuel : Nat} {rest : List Char}
    (deep : value (room - arrayCalls) fuel ('[' :: rest) = .error .tooDeep) :
    value room (fuel + 2) ('[' :: '[' :: rest) = .error .tooDeep := by
  have noItems : items (room - arrayCalls) (fuel + 1) ('[' :: rest) = .error .tooDeep := by
    show (value (room - arrayCalls) fuel ('[' :: rest) >>= _) = _
    rw [deep]
    rfl
  show (if room < valueCalls then _
    else items (room - arrayCalls) (fuel + 1) ('[' :: rest) >>= _) = _
  rw [noItems]
  split <;> rfl

/-- Arrays that are opened inside one another take two calls each, and the last of them three. -/
theorem value_brackets {room depth fuel : Nat} (deep : room < arrayCalls * depth + valueCalls)
    (enough : 2 * depth < fuel) :
    value room fuel ('[' :: List.replicate depth '[') = .error .tooDeep := by
  induction depth generalizing room fuel with
  | zero =>
    obtain ⟨less, rfl⟩ := Nat.exists_eq_add_of_lt enough
    exact value_of_lt (by simpa using deep) _ _
  | succ depth inductionHypothesis =>
    obtain ⟨less, rfl⟩ : ∃ less, fuel = less + 2 := ⟨fuel - 2, by omega⟩
    refine value_bracket (inductionHypothesis ?_ (by omega))
    unfold arrayCalls valueCalls at *
    omega

/-- A pair whose value opens an array and so many arrays inside it. -/
def openArrays (depth : Nat) : List Char :=
  'x' :: '=' :: '[' :: List.replicate depth '['

theorem unifyBreaks_openArrays (depth : Nat) :
    unifyBreaks (openArrays depth) = openArrays depth := by
  have plain : unifyBreaks (List.replicate depth '[') = List.replicate depth '[' := by
    induction depth with
    | zero => rfl
    | succ depth inductionHypothesis => exact congrArg (List.cons '[') inductionHypothesis
  exact congrArg (fun rest => 'x' :: '=' :: '[' :: rest) plain

theorem keyValue_openArrays (room : Nat) : keyValue room (openArrays room) = .error .tooDeep := by
  have isKey : key? ((openArrays room).length + 1) (openArrays room) =
      some (["x"], '=' :: '[' :: List.replicate room '[') := rfl
  have isDeep : value room (2 * ('[' :: List.replicate room '[').length + 2)
      ('[' :: List.replicate room '[') = .error .tooDeep := by
    refine value_brackets ?_ ?_
    · unfold arrayCalls valueCalls
      omega
    · rw [List.length_cons, List.length_replicate]
      omega
  rw [keyValue, isKey]
  show (value room (2 * ('[' :: List.replicate room '[').length + 2)
    ('[' :: List.replicate room '[') >>= _) = _
  rw [isDeep]
  rfl

/-- However many calls there is room for, a document can be nested too deeply. -/
theorem parse_openArrays (room : Nat) :
    parse room (String.ofList (openArrays room)) = .error .tooDeep := by
  rw [parse, String.toList_ofList, unifyBreaks_openArrays]
  show ((keyValue room (openArrays room) >>= _) >>= _) >>= _ = _
  rw [keyValue_openArrays]
  rfl

end Toml

/-! ### Defects -/

/-- Holds of the failures that a command reports, whatever file it works on. -/
def Failure.IsReported (failure : Failure) : Prop :=
  ∀ file, (Command.reportedUnder? file failure).isSome = true

/-- Holds of how the content of a configuration file is of no use without being refused as
malformed, where there is room for so many calls. -/
inductive Config.Unusable (room : Nat) (content : Bytes) : Failure → Prop
  | undecodable (isBroken : decode? content = none) : Unusable room content .undecodable
  | hugeInteger {text : String} {digits : Nat} (isText : decode? content = some text)
    (isHuge : Toml.parse room text = .error (.hugeInteger digits)) :
    Unusable room content (.hugeInteger digits)
  | tooDeep {text : String} (isText : decode? content = some text)
    (isDeep : Toml.parse room text = .error .tooDeep) : Unusable room content .tooDeep

theorem Config.Unusable.of_openArrays {room : Nat} {content : Bytes}
    (isText : decode? content = some (String.ofList (Toml.openArrays room))) :
    Config.Unusable room content .tooDeep :=
  .tooDeep isText (Toml.parse_openArrays room)

/-- A configuration that is of no use is not loaded. -/
theorem Config.load_of_unusable {disk : Disk} {root : Path} {content : Bytes} {failure : Failure}
    (isRead : disk.read (root.child Config.fileName) = .ok content)
    (isUnusable : Config.Unusable disk.callRoom content failure) :
    Config.load disk root = .error failure := by
  have isThere : disk.isFile (root.child Config.fileName) = .ok true :=
    Disk.isFile_eq_true_iff.2 ⟨content, Disk.read_eq_ok_iff.1 isRead⟩
  rw [Config.load, isThere]
  show (disk.read (root.child Config.fileName) >>= _) = _
  rw [isRead]
  dsimp only [bind, Except.bind]
  cases isUnusable with
  | undecodable isBroken => rw [isBroken]
  | hugeInteger isText isRefused | tooDeep isText isRefused =>
    rw [isText]
    dsimp only
    rw [isRefused]

/-- Holds of how the content of an ignore file is of no use. -/
inductive IgnoreFile.Unusable (content : Bytes) : Failure → Prop
  | undecodable (isBroken : decode? content = none) : Unusable content .undecodable
  | emptyPattern {text : String} (isText : decode? content = some text)
    (isEmpty : rulesOf (splitLines (universalBreaks text.toList)) = .error .emptyPattern) :
    Unusable content .emptyPattern
  | badPattern {text : String} {rules : List IgnoreRule} {rule : IgnoreRule}
    (isText : decode? content = some text)
    (areRules : rulesOf (splitLines (universalBreaks text.toList)) = .ok rules)
    (member : rule ∈ rules) (isBad : Expression.parse? rule.expression = none) :
    Unusable content .badPattern

/-- Holds of a path at or below one that is asked for. -/
def Within (asked : Path → Prop) (path : Path) : Prop :=
  ∃ base, asked base ∧ path.isInside base = true

/-- The defects of what some paths lead to, each with the failure that shows it: a path that has no
one form, a name that is too long to be looked for, an output directory that has no one form, a
configuration or an ignore file that is of no use, and a source that the grammar cuts in the middle
of a character. -/
inductive Workspace.Defect (workspace : Workspace) (asked : Path → Prop) : Failure → Prop
  | unresolved {path : Path} {failure : Failure} (isAsked : asked path)
    (failed : workspace.normalize path = .error failure) : Defect workspace asked failure
  | tooLong {path : Path} {failure : Failure} (within : Within asked path)
    (failed : workspace.probe path = .error failure) : Defect workspace asked failure
  | output {root : Path} {config : Config} {top : Path} {failure : Failure} (isAsked : asked root)
    (isConfig : Config.load workspace.toDisk root = .ok config)
    (isTop : workspace.resolve root = .ok top)
    (failed : workspace.resolve (top ++ Path.parse config.outputDir) = .error failure) :
    Defect workspace asked failure
  | config {root : Path} {content : Bytes} {failure : Failure} (isAsked : asked root)
    (isRead : workspace.read (root.child Config.fileName) = .ok content)
    (isUnusable : Config.Unusable workspace.callRoom content failure) :
    Defect workspace asked failure
  | ignoreFile {directory : Path} {content : Bytes} {failure : Failure}
    (within : Within asked directory)
    (isRead : workspace.read (directory.child ".gitignore") = .ok content)
    (isUnusable : IgnoreFile.Unusable content failure) : Defect workspace asked failure
  | source {file place : Path} {content : Bytes} (within : Within asked file)
    (isPlace : workspace.normalize file = .ok place) (isRead : workspace.read place = .ok content)
    (wellFormed : isWellFormed content = true)
    (isCut : ¬ (codeUnits content (workspace.grammar content)).all (·.isReadable content) = true) :
    Defect workspace asked .undecodable

/-- Holds of a failure that a command reports, or that a defect explains. -/
def Workspace.Explains (workspace : Workspace) (asked : Path → Prop) (failure : Failure) : Prop :=
  failure.IsReported ∨ workspace.Defect asked failure

namespace FailsOnly

variable {workspace : Workspace} {asked : Path → Prop} {outcome : Except Failure α}

theorem explained (fails : FailsOnly (workspace.Defect asked) outcome) :
    FailsOnly (workspace.Explains asked) outcome :=
  fails.mono fun _ => .inr

theorem reported (fails : FailsOnly Failure.IsReported outcome) :
    FailsOnly (workspace.Explains asked) outcome :=
  fails.mono fun _ => .inl

/-- What is logged has no part in how a computation fails. -/
theorem bind_logged {cause : Failure → Prop} {first : Logged α} {next : α → Logged β}
    (isFirst : FailsOnly cause first.outcome)
    (isNext : ∀ value, first.outcome = .ok value → FailsOnly cause (next value).outcome) :
    FailsOnly cause (first >>= next).outcome := by
  rw [Logged.outcome_bind]
  exact bind isFirst isNext

end FailsOnly

/-- Holds of paths spelled without slashes in their names that have with them the paths under which
they are known. -/
structure Workspace.Knows (workspace : Workspace) (asked : Path → Prop) : Prop where
  noSlash : ∀ {path}, asked path → ∀ name ∈ path.names, ¬ '/' ∈ name.toList
  known : ∀ {path place}, asked path → workspace.normalize path = .ok place → asked place

/-- Holds of an absolute path made of file names. -/
structure Path.IsSpelled (path : Path) : Prop where
  isAbsolute : path.isAbsolute = true
  named : IsNamed path.names

theorem Path.IsSpelled.append {path : Path} {names : List String} (spelled : path.IsSpelled)
    (named : IsNamed names) : (path ++ (⟨.relative, names⟩ : Path)).IsSpelled where
  isAbsolute := spelled.isAbsolute
  named := spelled.named.append named

namespace Within

variable {asked : Path → Prop} {path : Path}

theorem of_asked (isAsked : asked path) : Within asked path :=
  ⟨path, isAsked, Path.isInside_iff.2 ⟨rfl, List.prefix_rfl⟩⟩

theorem append (within : Within asked path) (names : List String) :
    Within asked (path ++ (⟨.relative, names⟩ : Path)) := by
  obtain ⟨base, isAsked, isInside⟩ := within
  have isBelow : (path ++ (⟨.relative, names⟩ : Path)).isInside path = true :=
    Path.isInside_iff.2 ⟨rfl, List.prefix_append path.names names⟩
  exact ⟨base, isAsked, Path.isInside_trans isBelow isInside⟩

theorem child (within : Within asked path) (name : String) : Within asked (path.child name) :=
  within.append [name]

end Within

/-- A path that has one form has one that is absolute and made of file names. -/
theorem Disk.isSpelled_of_normalize {disk : Disk} {path place : Path} (isPlaced : disk.IsPlaced)
    (noSlash : ∀ name ∈ path.names, ¬ '/' ∈ name.toList)
    (normalized : disk.normalize path = .ok place) : place.IsSpelled where
  isAbsolute := by
    obtain ⟨location, rfl⟩ := exists_pathOf_of_normalize normalized
    rfl
  named := isNamed_of_normalize isPlaced noSlash normalized

/-- What is there can be resolved. -/
theorem Disk.exists_resolve {disk : Disk} {path : Path} {found : Entry}
    (isFound : disk.entry path = .ok found) : ∃ place, disk.resolve path = .ok place := by
  obtain ⟨_, last, leads, _⟩ := entry_eq_ok_iff.1 isFound
  exact ⟨_, resolve_of_leads leads⟩

/-- What the steps of a list give, one of the steps gives. -/
theorem exists_mem_of_mapM {ε α β : Type} {step : α → Except ε β} {items : List α}
    {results : List β} (mapped : items.mapM step = .ok results) :
    ∀ result ∈ results, ∃ item ∈ items, step item = .ok result := by
  induction items generalizing results with
  | nil =>
    obtain rfl := Except.ok.inj mapped
    exact fun result member => absurd member List.not_mem_nil
  | cons item rest inductionHypothesis =>
    rw [List.mapM_cons] at mapped
    obtain ⟨first, isFirst, mapped⟩ := bind_eq_ok_iff.1 mapped
    obtain ⟨others, areOthers, mapped⟩ := bind_eq_ok_iff.1 mapped
    obtain rfl := Except.ok.inj mapped
    refine List.forall_mem_cons.2 ⟨⟨item, List.mem_cons_self, isFirst⟩, fun result member => ?_⟩
    obtain ⟨other, isOther, isResult⟩ := inductionHypothesis areOthers result member
    exact ⟨other, List.mem_cons_of_mem item isOther, isResult⟩

/-- Each of the steps of a list gives something. -/
theorem exists_result_of_mapM {ε α β : Type} {step : α → Except ε β} {items : List α}
    {results : List β} (mapped : items.mapM step = .ok results) :
    ∀ item ∈ items, ∃ result ∈ results, step item = .ok result := by
  induction items generalizing results with
  | nil => exact fun item member => absurd member List.not_mem_nil
  | cons item rest inductionHypothesis =>
    rw [List.mapM_cons] at mapped
    obtain ⟨first, isFirst, mapped⟩ := bind_eq_ok_iff.1 mapped
    obtain ⟨others, areOthers, mapped⟩ := bind_eq_ok_iff.1 mapped
    obtain rfl := Except.ok.inj mapped
    refine List.forall_mem_cons.2 ⟨⟨first, List.mem_cons_self, isFirst⟩, fun other member => ?_⟩
    obtain ⟨result, isResult, isStep⟩ := inductionHypothesis areOthers other member
    exact ⟨result, List.mem_cons_of_mem first isResult, isStep⟩

/-! ### Missing entries -/

theorem FailsOnly.probe (disk : Disk) (path : Path) :
    FailsOnly (fun failure => ∃ place, failure = .access .nameTooLong place)
      (disk.probe path) := by
  unfold Disk.probe
  split
  · exact ok _
  · exact error ⟨_, rfl⟩
  · exact ok _

theorem Disk.isDirectory_of_missing {disk : Disk} {path : Path}
    (isMissing : disk.pathExists path = .ok false) : disk.isDirectory path = .ok false := by
  rw [pathExists] at isMissing
  cases probed : disk.probe path with
  | error failure =>
    rw [probed] at isMissing
    cases isMissing
  | ok found =>
    rw [probed] at isMissing
    cases found with
    | none =>
      rw [isDirectory, probed]
      rfl
    | some entry => cases Except.ok.inj isMissing

/-- Holds of the failures that say that a path leads to no directory. -/
def Failure.IsMissing : Failure → Prop
  | .artifactsMissing _ | .artifactsNotDirectory _ | .access .noEntry _
  | .access .notDirectory _ => True
  | _ => False

theorem Failure.IsReported.not_isMissing {failure : Failure} (isReported : failure.IsReported) :
    ¬ failure.IsMissing := by
  intro isMissing
  have isSome := isReported ⟨.relative, []⟩
  cases failure <;> first | exact isMissing | cases isSome

theorem Failure.IsOfPaths.not_isMissing {failure : Failure} (isOfPaths : failure.IsOfPaths) :
    ¬ failure.IsMissing := by
  cases failure <;> first | exact id | cases isOfPaths

/-- No defect shows as a path that leads to no directory. -/
theorem Workspace.Defect.not_isMissing {workspace : Workspace} {asked : Path → Prop}
    {failure : Failure} (isDefect : workspace.Defect asked failure) : ¬ failure.IsMissing := by
  cases isDefect with
  | unresolved _ failed => exact (FailsOnly.normalize _ _ _ failed).not_isMissing
  | output _ _ _ failed => exact (FailsOnly.resolve _ _ _ failed).not_isMissing
  | tooLong _ failed =>
    obtain ⟨place, rfl⟩ := FailsOnly.probe _ _ _ failed
    exact id
  | config _ _ isUnusable => cases isUnusable <;> exact id
  | ignoreFile _ _ isUnusable => cases isUnusable <;> exact id
  | source => exact id

/-- No command reports a defect. -/
theorem Workspace.Defect.unreported {workspace : Workspace} {asked : Path → Prop}
    {failure : Failure} (isDefect : workspace.Defect asked failure) (file : Path) :
    Command.reportedUnder? file failure = none := by
  have ofPaths : ∀ {failure : Failure}, failure.IsOfPaths →
      Command.reportedUnder? file failure = none := by
    intro failure isOfPaths
    cases failure <;> first | rfl | cases isOfPaths
  cases isDefect with
  | unresolved _ failed => exact ofPaths (FailsOnly.normalize _ _ _ failed)
  | output _ _ _ failed => exact ofPaths (FailsOnly.resolve _ _ _ failed)
  | tooLong _ failed =>
    obtain ⟨place, rfl⟩ := FailsOnly.probe _ _ _ failed
    rfl
  | config _ _ isUnusable => cases isUnusable <;> rfl
  | ignoreFile _ _ isUnusable => cases isUnusable <;> rfl
  | source => rfl

/-! ### Rules -/

namespace FailsOnly

variable {cause : Failure → Prop} {directory : Location} {base : Path} {text : String}

/-- Testing a path fails if it lies elsewhere, or if the expression of the rule cannot be read. -/
theorem appliesTo {rule : IgnoreRule} (nonempty : text ≠ "")
    (isElsewhere : ((Path.parse text).lexical directory).relativeTo? base = none →
      cause (.outsideBase ((Path.parse text).lexical directory).text base.text))
    (isBad : Expression.parse? rule.expression = none → cause .badPattern) :
    FailsOnly cause (rule.appliesTo directory base text) := by
  unfold IgnoreRule.appliesTo
  dsimp only
  split
  · next elsewhere => exact error (isElsewhere elsewhere)
  · split
    · next isEmpty =>
      rw [Bool.and_eq_true, decide_eq_true_iff] at isEmpty
      exact absurd isEmpty.2 nonempty
    · split
      · exact ok _
      · next unread => exact error (isBad unread)

theorem firstApplying? {rules : List IgnoreRule} (nonempty : text ≠ "")
    (isElsewhere : ((Path.parse text).lexical directory).relativeTo? base = none →
      cause (.outsideBase ((Path.parse text).lexical directory).text base.text))
    (isBad : ∀ rule ∈ rules, Expression.parse? rule.expression = none → cause .badPattern) :
    FailsOnly cause (IgnoreFile.firstApplying? directory base text rules) := by
  induction rules with
  | nil => exact ok none
  | cons rule rest inductionHypothesis =>
    obtain ⟨isBadRule, areRest⟩ := List.forall_mem_cons.1 isBad
    refine bind (appliesTo nonempty isElsewhere isBadRule) fun applies _ => ?_
    split
    · exact ok _
    · exact inductionHypothesis areRest

theorem fileIgnores {file : IgnoreFile} (nonempty : text ≠ "")
    (isElsewhere : ((Path.parse text).lexical directory).relativeTo? file.base = none →
      cause (.outsideBase ((Path.parse text).lexical directory).text file.base.text))
    (isBad : ∀ rule ∈ file.rules, Expression.parse? rule.expression = none → cause .badPattern) :
    FailsOnly cause (file.ignores directory text) := by
  refine bind (firstApplying? nonempty isElsewhere fun rule member => isBad rule ?_)
    fun found _ => ?_
  · split at member
    · exact List.mem_reverse.1 member
    · exact member
  · split
    · exact ok _
    · exact ok _

/-- Of several ignore files each has a say on what lies below it; elsewhere is no failure. -/
theorem anyIgnores {files : List IgnoreFile} (nonempty : text ≠ "")
    (isBad : ∀ file ∈ files, ∀ rule ∈ file.rules, Expression.parse? rule.expression = none →
      cause .badPattern) :
    FailsOnly cause (IgnoreFile.anyIgnores directory text files) := by
  induction files with
  | nil => exact ok false
  | cons file rest inductionHypothesis =>
    obtain ⟨isBadFile, areRest⟩ := List.forall_mem_cons.1 isBad
    have further := inductionHypothesis areRest
    have ofFile : FailsOnly (fun failure => cause failure ∨ ∃ place above,
        failure = .outsideBase place above) (file.ignores directory text) :=
      fileIgnores nonempty (fun _ => .inr ⟨_, _, rfl⟩)
        fun rule member unread => .inl (isBadFile rule member unread)
    unfold IgnoreFile.anyIgnores
    split
    · exact ok true
    · exact further
    · exact further
    · next failure notElsewhere failed =>
      rcases ofFile failure failed with isCause | ⟨place, above, rfl⟩
      · exact error isCause
      · exact absurd rfl (notElsewhere place above)

end FailsOnly

/-! ### Scans -/

namespace Workspace

variable {workspace : Workspace} {asked : Path → Prop} {path base : Path}

/-- A name that is too long to be looked for is a defect. -/
theorem defect_probe (within : Within asked path) :
    FailsOnly (workspace.Defect asked) (workspace.probe path) :=
  fun _ failed => .tooLong within failed

theorem defect_isFile (within : Within asked path) :
    FailsOnly (workspace.Defect asked) (workspace.isFile path) := by
  refine .bind (defect_probe within) fun found _ => ?_
  split
  · exact .ok _
  · exact .ok _

theorem defect_isDirectory (within : Within asked path) :
    FailsOnly (workspace.Defect asked) (workspace.isDirectory path) :=
  .bind (defect_probe within) fun _ _ => .ok _

/-- An ignore file that is there is read unless its content is of no use. -/
theorem defect_load (within : Within asked base)
    (isThere : workspace.isFile (base.child ".gitignore") = .ok true) :
    FailsOnly (workspace.Defect asked)
      (IgnoreFile.load workspace.toDisk (base.child ".gitignore")) := by
  obtain ⟨content, isFile⟩ := Disk.isFile_eq_true_iff.1 isThere
  have isRead := Disk.read_eq_ok_iff.2 isFile
  refine .bind (.of_eq_ok isRead) fun other isOther => ?_
  obtain rfl := Except.ok.inj (isRead.symm.trans isOther)
  split
  · next isBroken => exact .error (.ignoreFile within isRead (.undecodable isBroken))
  · next text isText =>
    refine .bind (fun failure failed => ?_) fun _ _ => .ok _
    obtain rfl := FailsOnly.rulesOf _ failure failed
    exact .ignoreFile within isRead (.emptyPattern isText failed)

/-- Holds of an ignore file that was read from a directory within what is asked for. -/
def HasRead (workspace : Workspace) (asked : Path → Prop) (file : IgnoreFile) : Prop :=
  ∃ directory, Within asked directory ∧
    IgnoreFile.load workspace.toDisk (directory.child ".gitignore") = .ok file

/-- A rule that cannot be read comes from an ignore file that is of no use. -/
theorem HasRead.defect {file : IgnoreFile} {rule : IgnoreRule}
    (hasRead : workspace.HasRead asked file) (member : rule ∈ file.rules)
    (isBad : Expression.parse? rule.expression = none) : workspace.Defect asked .badPattern := by
  obtain ⟨directory, within, isLoaded⟩ := hasRead
  obtain ⟨content, isRead, isLoaded⟩ := bind_eq_ok_iff.1 isLoaded
  split at isLoaded
  · cases isLoaded
  · next text isText =>
    obtain ⟨rules, areRules, isLoaded⟩ := bind_eq_ok_iff.1 isLoaded
    obtain rfl := Except.ok.inj isLoaded
    exact .ignoreFile within isRead (.badPattern isText areRules member isBad)

/-- The ignore files of a scan are looked for in directories within what is asked for. -/
theorem exists_directory_of_candidate (within : Within asked base)
    (member : path ∈ (base :: (workspace.below base).filterMap fun item =>
        if item.2 = .directory then some (base ++ ⟨.relative, item.1⟩) else none).map
      (·.child ".gitignore")) :
    ∃ directory, Within asked directory ∧ path = directory.child ".gitignore" := by
  obtain ⟨above, isAbove, rfl⟩ := List.mem_map.1 member
  refine ⟨above, ?_, rfl⟩
  rcases List.mem_cons.1 isAbove with rfl | inner
  · exact within
  · obtain ⟨item, _, isItem⟩ := List.mem_filterMap.1 inner
    split at isItem
    · obtain rfl := Option.some.inj isItem
      exact within.append item.1
    · cases isItem

theorem defect_ignorePaths (within : Within asked base) :
    FailsOnly (workspace.Defect asked) (workspace.ignorePaths base) := by
  refine .bind (.filterM fun path member => ?_) fun _ _ => .ok _
  obtain ⟨directory, withinDirectory, rfl⟩ := exists_directory_of_candidate within member
  exact defect_isFile (withinDirectory.child _)

theorem exists_directory_of_mem_ignorePaths {paths : List Path} (within : Within asked base)
    (found : workspace.ignorePaths base = .ok paths) (member : path ∈ paths) :
    ∃ directory, Within asked directory ∧ path = directory.child ".gitignore" ∧
      workspace.isFile path = .ok true := by
  obtain ⟨kept, filtered, isSorted⟩ := bind_eq_ok_iff.1 found
  obtain rfl := Except.ok.inj isSorted
  obtain ⟨isCandidate, isThere⟩ := of_mem_filterM filtered path (List.mem_mergeSort.1 member)
  obtain ⟨directory, withinDirectory, rfl⟩ := exists_directory_of_candidate within isCandidate
  exact ⟨directory, withinDirectory, rfl, isThere⟩

theorem defect_ignorePolicy (within : Within asked base) (nested : Bool) :
    FailsOnly (workspace.Defect asked) (workspace.ignorePolicy base nested) := by
  unfold Disk.ignorePolicy
  split
  · refine .bind (defect_ignorePaths within) fun paths arePaths => ?_
    split
    · exact .ok _
    · refine .bind (.mapM fun path member => ?_) fun _ _ => .ok _
      obtain ⟨directory, withinDirectory, rfl, isThere⟩ :=
        exists_directory_of_mem_ignorePaths within arePaths member
      exact defect_load withinDirectory isThere
  · refine .bind (defect_isFile (within.child _)) fun found isFound => ?_
    split
    · next isThere =>
      rw [isThere] at isFound
      exact .bind (defect_load within isFound) fun _ _ => .ok _
    · exact .ok _

/-- An ignore file is about what lies below its directory. -/
theorem base_of_load {name : String} {file : IgnoreFile} (spelled : base.IsSpelled)
    (isLoaded : IgnoreFile.load workspace.toDisk (base.child name) = .ok file) :
    file.base = base := by
  have isParent : (base.child name).parent = base :=
    congrArg (Path.mk base.anchor) (List.dropLast_concat ..)
  obtain ⟨content, _, isLoaded⟩ := bind_eq_ok_iff.1 isLoaded
  split at isLoaded
  · cases isLoaded
  · obtain ⟨rules, _, isLoaded⟩ := bind_eq_ok_iff.1 isLoaded
    obtain rfl := Except.ok.inj isLoaded
    dsimp only
    rw [isParent, Path.lexical_of_named spelled.isAbsolute spelled.named]

/-- The ignore files of a scan have a say on everything below the scanned directory; they fail only
if a rule cannot be read. -/
theorem defect_ignores {nested : Bool} {policy : IgnorePolicy} {names : List String}
    (within : Within asked base) (spelled : base.IsSpelled) (named : IsNamed names)
    (isPolicy : workspace.ignorePolicy base nested = .ok policy) :
    FailsOnly (workspace.Defect asked)
      (policy.ignores workspace.directory (base ++ (⟨.relative, names⟩ : Path)).text) := by
  have below := spelled.append named
  have readBack := Path.parse_text below.named
  have nonempty : (base ++ (⟨.relative, names⟩ : Path)).text ≠ "" := by
    intro isEmpty
    have isAbsolute := below.isAbsolute
    rw [← readBack, isEmpty] at isAbsolute
    cases isAbsolute
  unfold Disk.ignorePolicy at isPolicy
  split at isPolicy
  · obtain ⟨paths, arePaths, isPolicy⟩ := bind_eq_ok_iff.1 isPolicy
    split at isPolicy
    · obtain rfl := Except.ok.inj isPolicy
      exact .ok false
    · obtain ⟨files, areFiles, isPolicy⟩ := bind_eq_ok_iff.1 isPolicy
      obtain rfl := Except.ok.inj isPolicy
      refine FailsOnly.anyIgnores nonempty fun file isFile rule isRule unread => ?_
      obtain ⟨path, isPath, isLoaded⟩ := exists_mem_of_mapM areFiles file isFile
      obtain ⟨directory, withinDirectory, rfl, _⟩ :=
        exists_directory_of_mem_ignorePaths within arePaths isPath
      exact HasRead.defect ⟨directory, withinDirectory, isLoaded⟩ isRule unread
  · obtain ⟨found, _, isPolicy⟩ := bind_eq_ok_iff.1 isPolicy
    split at isPolicy
    · obtain ⟨file, isLoaded, isPolicy⟩ := bind_eq_ok_iff.1 isPolicy
      obtain rfl := Except.ok.inj isPolicy
      refine FailsOnly.fileIgnores nonempty (fun isElsewhere => ?_) fun rule isRule unread =>
        HasRead.defect ⟨base, within, isLoaded⟩ isRule unread
      rw [readBack, Path.lexical_of_named below.isAbsolute below.named,
        base_of_load spelled isLoaded, Disk.relativeTo?_append_relative] at isElsewhere
      cases isElsewhere
    · obtain rfl := Except.ok.inj isPolicy
      exact .ok false

/-- What a scan looks at is tested unless a defect is met: what is there can be resolved. -/
theorem defect_includes {rules : ScanRules} {nested : Bool} {policy : IgnorePolicy}
    (within : Within asked base) (spelled : base.IsSpelled)
    (isDirectory : workspace.isDirectory base = .ok true)
    (isPolicy : workspace.ignorePolicy base nested = .ok policy)
    (member : path ∈ workspace.swiftPaths base) :
    FailsOnly (workspace.Defect asked) (workspace.includes base rules policy path) := by
  obtain ⟨item, inBelow, _, rfl⟩ := Disk.mem_swiftPaths_iff.1 member
  refine .bind (defect_isFile (within.append item.1)) fun found isFound => ?_
  split
  · exact .ok false
  · next isPlain =>
    obtain ⟨rfl, _⟩ : found = true ∧ _ := by simpa using isPlain
    obtain ⟨content, isFile⟩ := Disk.isFile_eq_true_iff.1 isFound
    obtain ⟨top, isTop⟩ := Disk.exists_resolve (Disk.isDirectory_eq_true_iff.1 isDirectory)
    obtain ⟨place, isPlace⟩ := Disk.exists_resolve isFile
    refine .bind (.bind (.of_eq_ok isTop) fun _ _ => .bind (.of_eq_ok isPlace) fun _ _ => .ok _)
      fun stays _ => ?_
    split
    · exact .ok false
    · split
      · exact .ok false
      · split
        · exact .ok false
        · refine .bind (defect_ignores within spelled (Disk.isNamed_of_mem_below inBelow) isPolicy)
            fun ignored _ => ?_
          split
          · exact .ok false
          · exact .ok _

/-- A scan succeeds unless a defect is met. -/
theorem defect_swiftFiles (within : Within asked base) (spelled : base.IsSpelled)
    (rules : ScanRules) :
    FailsOnly (workspace.Defect asked) (workspace.swiftFiles base rules) := by
  refine .bind (defect_isDirectory within) fun found isFound => ?_
  split
  · exact .ok []
  · next isThere =>
    obtain rfl : found = true := by simpa using isThere
    refine .bind (defect_ignorePolicy within _) fun policy isPolicy => ?_
    exact .bind (.filterM fun path member =>
      defect_includes within spelled isFound isPolicy member) fun _ _ => .ok _

/-- What a scan finds is within what is asked for, and has a place. -/
theorem exists_place_of_scanned {rules : ScanRules} {files : List Path} (within : Within asked base)
    (spelled : base.IsSpelled) (scanned : workspace.swiftFiles base rules = .ok files) :
    ∀ file ∈ files, Within asked file ∧
      ∃ place, workspace.normalize file = .ok place ∧ IsNamed place.names := by
  intro file member
  rcases Disk.swiftFiles_eq_ok_iff.1 scanned with
    ⟨_, rfl⟩ | ⟨isDirectory, policy, keep, _, passes, rfl⟩
  · exact absurd member List.not_mem_nil
  · obtain ⟨inPaths, kept⟩ := List.mem_filter.1 (List.mem_mergeSort.1 member)
    obtain ⟨checked, top, toTop, _⟩ :=
      Disk.entry_eq_ok_iff.1 (Disk.isDirectory_eq_true_iff.1 isDirectory)
    obtain ⟨⟨content, found⟩, normalized⟩ := Disk.normalize_of_includes spelled.isAbsolute toTop
      (Disk.below_of_leads checked toTop) inPaths (kept ▸ passes file inPaths)
    refine ⟨?_, _, normalized, IsNamed.of_entry? found⟩
    obtain ⟨item, _, _, rfl⟩ := Disk.mem_swiftPaths_iff.1 inPaths
    exact within.append item.1

end Workspace

end SwiftSlice

/-
What a selection of whole files holds. One file leads to another by rules that
look at the declarations of the two: the first mentions a name that it does not
declare, and the second declares or extends it, or the second extends a name that
the first declares. The loop visits exactly the files that the start file leads to
in any number of steps, those with an entry point among them; the selection then
parts the visited files in two.

Where no type is declared in two files, the selection of declarations stays inside
the files visited here. The two walks take different names to follow: this one
leaves out what a file declares itself, the other does not. A name that is left out
leads back to the file that declares it, or to its extensions, which are followed
in any case.
-/

import SwiftSlice.Proofs.Selection
import SwiftSlice.Reference.FileSelection

namespace SwiftSlice

/-! ### Files that lead to others -/

namespace FileRecord

/-- Holds of a file with a declaration of a type, be it in an extension. -/
def Declares (record : FileRecord) (name : String) : Prop :=
  ∃ declaration ∈ record.declarations, name ∈ declaration.typeNames

/-- Holds of a file with an extension of a type. -/
def Extends (record : FileRecord) (name : String) : Prop :=
  ∃ declaration ∈ record.declarations, declaration.extendedType = some name

/-- Holds of a file that uses a name in a preview or refers to it in a declaration. -/
def Mentions (record : FileRecord) (name : String) : Prop :=
  name ∈ record.snippetTypes ∨
    ∃ declaration ∈ record.declarations, name ∈ declaration.referencedTypes

/-- Holds if one file leads to another: through a name that it mentions and does not declare, unless
the name is builtin, or through an extension of a type that it declares. -/
def LeadsTo (isBuiltin : String → Bool) (source target : FileRecord) : Prop :=
  (∃ name, source.Mentions name ∧ ¬ source.Declares name ∧ isBuiltin name = false ∧
      (target.Declares name ∨ target.Extends name)) ∨
    ∃ name, source.Declares name ∧ target.Extends name

theorem mem_foreignNames_iff (record : FileRecord) (name : String) :
    name ∈ FileIndex.foreignNames record ↔ record.Mentions name ∧ ¬ record.Declares name := by
  rw [FileIndex.foreignNames, NameSet.mem_diff, NameSet.mem_union, mem_referencedTypes,
    mem_typeNames]
  rfl

end FileRecord

/-- Holds if one file leads to another one of some files. -/
def FileStep (records : List FileRecord) (isBuiltin : String → Bool)
    (source target : FileRecord) : Prop :=
  target ∈ records ∧ source.LeadsTo isBuiltin target

/-- Holds of the files that a start file leads to in any number of steps. -/
def FileReached (records : List FileRecord) (isBuiltin : String → Bool) (start : FileRecord) :
    FileRecord → Prop :=
  Relation.ReflTransGen (FileStep records isBuiltin) start

/-- What is reached from one of some files is one of them. -/
theorem FileReached.mem {records : List FileRecord} {isBuiltin : String → Bool}
    {start record : FileRecord} (reached : FileReached records isBuiltin start record)
    (member : start ∈ records) : record ∈ records := by
  cases reached with
  | refl => exact member
  | tail _ step => exact step.1

namespace FileIndex

variable (records : List FileRecord) (isBuiltin : String → Bool)

/-! ### Lookup -/

theorem record?_path (distinct : (records.map (·.path)).Nodup) (record : FileRecord)
    (member : record ∈ records) : (ofRecords records).record? record.path = some record :=
  ReferenceIndex.lookup_foldl_assign id records distinct record member

theorem mem_keys_assign {α : Type} (key other : String) (value : α) (pairs : List (String × α)) :
    other ∈ (ReferenceIndex.assign key value pairs).map (·.1) ↔
      other = key ∨ other ∈ pairs.map (·.1) := by
  induction pairs with
  | nil => simp [ReferenceIndex.assign]
  | cons pair rest inductionHypothesis =>
    by_cases found : pair.1 = key
    · rw [ReferenceIndex.assign, if_pos found, List.map_cons, List.map_cons, List.mem_cons,
        List.mem_cons, found, or_self_left]
    · rw [ReferenceIndex.assign, if_neg found, List.map_cons, List.map_cons, List.mem_cons,
        List.mem_cons, inductionHypothesis, or_left_comm]

/-- The index knows the paths of its records. -/
theorem mem_paths_iff (path : String) :
    path ∈ (ofRecords records).records.map (·.1) ↔ ∃ record ∈ records, record.path = path := by
  -- The table is filled from the left, so the rows that it had before are kept apart.
  suffices general : ∀ known : List (String × FileRecord),
      path ∈ (records.foldl (fun known record =>
          ReferenceIndex.assign record.path record known) known).map (·.1) ↔
        path ∈ known.map (·.1) ∨ ∃ record ∈ records, record.path = path by
    refine (general []).trans (or_iff_right ?_)
    exact List.not_mem_nil
  induction records with
  | nil => simp
  | cons head rest inductionHypothesis =>
    intro known
    rw [List.foldl_cons, inductionHypothesis, mem_keys_assign, List.exists_mem_cons_iff, or_assoc,
      or_left_comm, eq_comm]

/-- A path is found under a name exactly if its record was listed with the name. -/
theorem mem_find_paths_iff (names : FileRecord → NameSet) (name path : String) :
    path ∈ (Table.ofPairs (records.flatMap fun record =>
        (names record).toList.map (·, record.path))).find name ↔
      ∃ record ∈ records, record.path = path ∧ name ∈ names record := by
  rw [ReferenceIndex.mem_find_ofPairs_iff, List.mem_flatMap]
  refine exists_congr fun record => and_congr_right fun _ => ?_
  rw [List.mem_map]
  constructor
  · rintro ⟨listed, member, same⟩
    obtain ⟨rfl, rfl⟩ := Prod.mk.inj same
    exact ⟨rfl, member⟩
  · rintro ⟨rfl, member⟩
    exact ⟨name, member, rfl⟩

theorem mem_declarers_iff (name path : String) :
    path ∈ (ofRecords records).declarers.find name ↔
      ∃ record ∈ records, record.path = path ∧ record.Declares name := by
  refine (mem_find_paths_iff records FileRecord.typeNames name path).trans ?_
  simp only [FileRecord.mem_typeNames, FileRecord.Declares]

theorem mem_extenders_iff (name path : String) :
    path ∈ (ofRecords records).extenders.find name ↔
      ∃ record ∈ records, record.path = path ∧ record.Extends name := by
  refine (mem_find_paths_iff records FileRecord.extendedTypes name path).trans ?_
  simp only [FileRecord.mem_extendedTypes, FileRecord.Extends]

/-- The successors of a path are the paths of the files that its file leads to. -/
theorem mem_successors_path_iff (distinct : (records.map (·.path)).Nodup) (source : FileRecord)
    (member : source ∈ records) (path : String) :
    path ∈ (ofRecords records).successors isBuiltin source.path ↔
      ∃ target, target.path = path ∧ FileStep records isBuiltin source target := by
  simp only [successors, record?_path records distinct source member]
  rw [List.mem_append, List.mem_flatMap, List.mem_flatMap]
  constructor
  · rintro (⟨name, foreign, found⟩ | ⟨name, declared, found⟩)
    · obtain ⟨mentions, notDeclared⟩ := (source.mem_foreignNames_iff name).1 foreign
      cases builtin : isBuiltin name with
      | true => simp [builtin] at found
      | false =>
        rw [builtin, if_neg Bool.false_ne_true, List.mem_append, mem_declarers_iff,
          mem_extenders_iff] at found
        rcases found with
          ⟨target, inRecords, atPath, declares⟩ | ⟨target, inRecords, atPath, extended⟩
        · exact ⟨target, atPath, inRecords,
            .inl ⟨name, mentions, notDeclared, builtin, .inl declares⟩⟩
        · exact ⟨target, atPath, inRecords,
            .inl ⟨name, mentions, notDeclared, builtin, .inr extended⟩⟩
    · obtain ⟨target, inRecords, atPath, extended⟩ := (mem_extenders_iff records name path).1 found
      exact ⟨target, atPath, inRecords,
        .inr ⟨name, (source.mem_typeNames name).1 declared, extended⟩⟩
  · rintro ⟨target, atPath, inRecords,
      ⟨name, mentions, notDeclared, builtin, answers⟩ | ⟨name, declares, extended⟩⟩
    · refine .inl ⟨name, (source.mem_foreignNames_iff name).2 ⟨mentions, notDeclared⟩, ?_⟩
      rw [builtin, if_neg Bool.false_ne_true, List.mem_append, mem_declarers_iff,
        mem_extenders_iff]
      exact answers.imp (⟨target, inRecords, atPath, ·⟩) (⟨target, inRecords, atPath, ·⟩)
    · exact .inr ⟨name, (source.mem_typeNames name).2 declares,
        (mem_extenders_iff records name path).2 ⟨target, inRecords, atPath, extended⟩⟩

/-! ### Visited files -/

variable {records}

/-- The loop visits a path exactly if the start file leads to its file. -/
theorem mem_visited_iff (distinct : (records.map (·.path)).Nodup) {start : FileRecord}
    (member : start ∈ records) (path : String) :
    path ∈ (ofRecords records).visited isBuiltin start.path ↔
      ∃ record, record.path = path ∧ FileReached records isBuiltin start record := by
  rw [visited, NameSet.mem_ofList, Worklist.mem_reach_iff]
  constructor
  · intro leads
    induction leads with
    | ofStart _ isStart => exact ⟨start, (List.mem_singleton.1 isStart).symm, .refl⟩
    | ofNext _ _ follows inductionHypothesis =>
      obtain ⟨source, rfl, reached⟩ := inductionHypothesis
      obtain ⟨target, atPath, step⟩ := (mem_successors_path_iff records isBuiltin distinct source
        (reached.mem member) _).1 follows
      exact ⟨target, atPath, reached.tail step⟩
  · rintro ⟨record, rfl, reached⟩
    induction reached with
    | refl => exact .ofStart List.mem_cons_self (List.mem_singleton_self _)
    | @tail source target reached step inductionHypothesis =>
      have known := (mem_paths_iff records target.path).2 ⟨target, step.1, rfl⟩
      exact .ofNext inductionHypothesis (List.mem_cons_of_mem _ known)
        ((mem_successors_path_iff records isBuiltin distinct source (FileReached.mem reached member)
          _).2 ⟨target, rfl, step⟩)

/-- A file is taken out if it has an entry point and is not the start file. -/
theorem isExcluded_path (distinct : (records.map (·.path)).Nodup) {start record : FileRecord}
    (inRecords : record ∈ records) (member : start ∈ records) :
    (ofRecords records).isExcluded start.path record.path = true ↔
      record ≠ start ∧ record.hasEntryPoint = true := by
  rw [isExcluded, record?_path records distinct record inRecords, Option.any_some, Bool.and_eq_true,
    bne_iff_ne]
  refine and_congr_left fun _ => not_congr ⟨fun samePath => ?_, congrArg _⟩
  exact List.inj_on_of_nodup_map distinct inRecords member samePath

/-- The visited files that are taken out, or those that are not, by the rules. -/
theorem mem_filter_visited_iff (distinct : (records.map (·.path)).Nodup) {start : FileRecord}
    (member : start ∈ records) (keep : String → Bool) (path : String) :
    path ∈ ((ofRecords records).visited isBuiltin start.path).toList.filter keep ↔
      ∃ record, record.path = path ∧ FileReached records isBuiltin start record ∧
        keep record.path = true := by
  rw [List.mem_filter, NameSet.mem_toList, mem_visited_iff isBuiltin distinct member]
  constructor
  · rintro ⟨⟨record, rfl, reached⟩, kept⟩
    exact ⟨record, rfl, reached, kept⟩
  · rintro ⟨record, rfl, reached, kept⟩
    exact ⟨⟨record, rfl, reached⟩, kept⟩

theorem mem_resolvedFiles_iff (distinct : (records.map (·.path)).Nodup) {start : FileRecord}
    (member : start ∈ records) (path : String) :
    path ∈ ((ofRecords records).select isBuiltin start.path).resolvedFiles ↔
      ∃ record, record.path = path ∧ FileReached records isBuiltin start record ∧
        (record.hasEntryPoint = false ∨ record = start) := by
  refine (mem_filter_visited_iff isBuiltin distinct member _ path).trans ?_
  refine exists_congr fun record => and_congr_right fun _ => and_congr_right fun reached => ?_
  rw [Bool.not_eq_true', ← Bool.not_eq_true, isExcluded_path distinct (reached.mem member) member,
    not_and_or, not_not, Bool.not_eq_true, or_comm]

/-- The files that are followed and then taken out, in the order of their paths. -/
def takenOut (index : FileIndex) (isBuiltin : String → Bool) (startFile : String) : List String :=
  (index.visited isBuiltin startFile).toList.filter (index.isExcluded startFile)

theorem mem_takenOut_iff (distinct : (records.map (·.path)).Nodup) {start : FileRecord}
    (member : start ∈ records) (path : String) :
    path ∈ (ofRecords records).takenOut isBuiltin start.path ↔
      ∃ record, record.path = path ∧ FileReached records isBuiltin start record ∧
        record.hasEntryPoint = true ∧ record ≠ start := by
  refine (mem_filter_visited_iff isBuiltin distinct member _ path).trans ?_
  refine exists_congr fun record => and_congr_right fun _ => and_congr_right fun reached => ?_
  rw [isExcluded_path distinct (reached.mem member) member, and_comm]

/-- The loop finishes and visits exactly the files that the start file leads to, through files with
an entry point as through all others. Of the visited files the selection has, in ascending order,
those without an entry point and the start file; of the others it has the names, in the order of
their paths. -/
theorem select_visited (records : List FileRecord) (isBuiltin : String → Bool) (start : FileRecord)
    (distinct : (records.map (·.path)).Nodup) (member : start ∈ records) :
    let index := ofRecords records
    let selection := index.select isBuiltin start.path
    let known := start.path :: index.records.map (·.1)
    Relation.ReflTransGen (Worklist.Step known (index.successors isBuiltin)) ([], [start.path])
        (Worklist.reach known (index.successors isBuiltin) [start.path], []) ∧
      (∀ path, path ∈ index.visited isBuiltin start.path ↔
        ∃ record, record.path = path ∧ FileReached records isBuiltin start record) ∧
      selection.resolvedFiles.Pairwise (· < ·) ∧
      (∀ path, path ∈ selection.resolvedFiles ↔
        ∃ record, record.path = path ∧ FileReached records isBuiltin start record ∧
          (record.hasEntryPoint = false ∨ record = start)) ∧
      start.path ∈ selection.resolvedFiles ∧
      ∃ others : List String, others.Pairwise (· < ·) ∧
        (∀ path, path ∈ others ↔
          ∃ record, record.path = path ∧ FileReached records isBuiltin start record ∧
            record.hasEntryPoint = true ∧ record ≠ start) ∧
        selection.excludedEntryPoints = others.map fun path => (Path.parse path).name := by
  intro index selection known
  have ascending := (index.visited isBuiltin start.path).ascending
  refine ⟨Worklist.run_steps _ _ _ _, mem_visited_iff isBuiltin distinct member,
    ascending.filter _, mem_resolvedFiles_iff isBuiltin distinct member, ?_,
    index.takenOut isBuiltin start.path, ascending.filter _,
    mem_takenOut_iff isBuiltin distinct member, rfl⟩
  exact (mem_resolvedFiles_iff isBuiltin distinct member _).2 ⟨start, rfl, .refl, .inr rfl⟩

end FileIndex

namespace Followed

/-- A screen that refers to a view of the file of the application. -/
def screen : Declaration := Stray.unit .type ["Screen"] ["Start"] "Screen.swift" 0

def start : Declaration := Stray.unit .type ["Start"] [] "App.swift" 1

/-- The application, which refers to a type of a third file. -/
def app : Declaration :=
  { Stray.unit .type ["MainApp"] ["Theme"] "App.swift" 2 with hasEntryPoint := true }

def theme : Declaration := Stray.unit .type ["Theme"] [] "Theme.swift" 3

def screenFile : FileRecord := ⟨"Screen.swift", ∅, [screen], ∅⟩

def records : List FileRecord :=
  [screenFile, ⟨"App.swift", ∅, [start, app], ∅⟩, ⟨"Theme.swift", ∅, [theme], ∅⟩]

theorem select_records :
    (FileIndex.ofRecords records).select noBuiltins "Screen.swift" =
      ⟨["Screen.swift", "Theme.swift"], ["App.swift"], 3⟩ := by
  cbv

/-- No type is declared in two of the files. -/
theorem declared_once : ∀ first ∈ records, ∀ second ∈ records, ∀ name,
    first.Declares name → second.Declares name → first.path = second.path := by
  have once : ∀ first ∈ records, ∀ second ∈ records, ∀ left ∈ first.declarations,
      ∀ right ∈ second.declarations, ∀ name ∈ left.typeNames.toList, name ∈ right.typeNames →
        first.path = second.path := by
    decide
  rintro first inFirst second inSecond name ⟨left, inLeft, leftName⟩ ⟨right, inRight, rightName⟩
  exact once first inFirst second inSecond left inLeft right inRight name leftName rightName

end Followed

namespace FileIndex

/-- The file of the application is followed to the theme, and then taken out. -/
theorem select_visited_app :
    let selection := (ofRecords Followed.records).select noBuiltins "Screen.swift"
    (Followed.records.map (·.path)).Nodup ∧ Followed.screenFile ∈ Followed.records ∧
      selection.resolvedFiles = ["Screen.swift", "Theme.swift"] ∧
      selection.excludedEntryPoints = ["App.swift"] ∧
      ∃ record, record.path = "Theme.swift" ∧
        FileReached Followed.records noBuiltins Followed.screenFile record := by
  intro selection
  have distinct : (Followed.records.map (·.path)).Nodup := by decide
  have member : Followed.screenFile ∈ Followed.records := List.mem_cons_self
  obtain ⟨_, _, _, resolved, _⟩ :=
    select_visited Followed.records noBuiltins Followed.screenFile distinct member
  have isResolved : "Theme.swift" ∈ selection.resolvedFiles := by
    rw [show selection = _ from Followed.select_records]
    decide
  obtain ⟨record, atPath, reached, _⟩ := (resolved "Theme.swift").1 isResolved
  exact ⟨distinct, member, congrArg FileSelection.resolvedFiles Followed.select_records,
    congrArg FileSelection.excludedEntryPoints Followed.select_records, record, atPath, reached⟩

end FileIndex

/-! ### Declarations and files -/

section

variable {records : List FileRecord} {isBuiltin : String → Bool}

/-- A declaration that a name leads to stands in the file where the name is mentioned, or in one
that this file leads to. -/
theorem FileRecord.Mentions.leadsTo {source target : FileRecord} {name : String}
    (mentions : source.Mentions name) (followed : isBuiltin name = false)
    (unique : source.Declares name → target.Declares name → source.path = target.path)
    {declaration : Declaration} (held : declaration ∈ target.declarations)
    (answers : declaration.AnswersTo name) :
    source.path = target.path ∨ source.LeadsTo isBuiltin target := by
  by_cases declares : source.Declares name
  · -- The name is not followed: what it leads to is here, or extends a declared name.
    rcases answers with declared | extended
    · exact .inl (unique declares ⟨declaration, held, declared⟩)
    · exact .inr (.inr ⟨name, declares, declaration, held, extended⟩)
  · refine .inr (.inl ⟨name, mentions, declares, followed, ?_⟩)
    exact answers.imp (⟨declaration, held, ·⟩) (⟨declaration, held, ·⟩)

/-- The file of a needed declaration is reached. -/
theorem Needed.fileReached (distinct : (records.map (·.path)).Nodup)
    (origins : ∀ record ∈ records, ∀ declaration ∈ record.declarations,
      declaration.originFile = record.path)
    (unique : ∀ first ∈ records, ∀ second ∈ records, ∀ name,
      first.Declares name → second.Declares name → first.path = second.path)
    {start : FileRecord} (member : start ∈ records) {seedNames : NameSet}
    (seeds : ∀ name ∈ seedNames, name ∈ start.snippetTypes) {declaration : Declaration}
    (needed :
      Needed (records.flatMap (·.declarations)) isBuiltin start.path seedNames declaration) :
    ∃ record ∈ records, declaration ∈ record.declarations ∧
      FileReached records isBuiltin start record := by
  -- What a mentioned name leads to, from a file that is reached already.
  have mentioned {source : FileRecord} {name : String} {other : Declaration}
      (inRecords : source ∈ records) (reached : FileReached records isBuiltin start source)
      (mentions : source.Mentions name) (followed : isBuiltin name = false)
      (inIndex : other ∈ records.flatMap (·.declarations)) (answers : other.AnswersTo name) :
      ∃ record ∈ records, other ∈ record.declarations ∧
        FileReached records isBuiltin start record := by
    obtain ⟨target, inTargets, held⟩ := List.mem_flatMap.1 inIndex
    rcases mentions.leadsTo followed (unique source inRecords target inTargets name) held answers
      with same | leads
    · obtain rfl := List.inj_on_of_nodup_map distinct inRecords inTargets same
      exact ⟨source, inRecords, held, reached⟩
    · exact ⟨target, inTargets, held, reached.tail ⟨inTargets, leads⟩⟩
  induction needed with
  | inStartFile inIndex _ here =>
    obtain ⟨record, inRecords, held⟩ := List.mem_flatMap.1 inIndex
    rw [origins record inRecords _ held] at here
    obtain rfl := List.inj_on_of_nodup_map distinct inRecords member here
    exact ⟨record, inRecords, held, .refl⟩
  | seeded seed followed inIndex _ answers =>
    exact mentioned member .refl (.inl (seeds _ seed)) followed inIndex answers
  | referenced _ refers followed inIndex _ answers inductionHypothesis =>
    obtain ⟨source, inRecords, held, reached⟩ := inductionHypothesis
    exact mentioned inRecords reached (.inr ⟨_, held, refers⟩) followed inIndex answers
  | extending _ declares inIndex _ extended inductionHypothesis =>
    obtain ⟨source, inRecords, held, reached⟩ := inductionHypothesis
    obtain ⟨target, inTargets, heldTarget⟩ := List.mem_flatMap.1 inIndex
    have leads : source.LeadsTo isBuiltin target :=
      .inr ⟨_, ⟨_, held, declares⟩, _, heldTarget, extended⟩
    exact ⟨target, inTargets, heldTarget, reached.tail ⟨inTargets, leads⟩⟩

end

namespace FileIndex

/-- Where no type is declared in two files and the seeds are names that the previews of the start
file use, every file that contributes declarations is visited: it is among the selected files, or
it was taken out on account of an entry point. -/
theorem contributingFiles_visited (records : List FileRecord) (isBuiltin : String → Bool)
    (start : FileRecord) (seedNames : NameSet) (distinct : (records.map (·.path)).Nodup)
    (member : start ∈ records)
    (origins : ∀ record ∈ records, ∀ declaration ∈ record.declarations,
      declaration.originFile = record.path)
    (unique : ∀ first ∈ records, ∀ second ∈ records, ∀ name,
      first.Declares name → second.Declares name → first.path = second.path)
    (seeds : ∀ name ∈ seedNames, name ∈ start.snippetTypes) (path : String)
    (contributes : path ∈ ((ReferenceIndex.ofRecords records).select isBuiltin start.path
      seedNames).contributingFiles) :
    let index := ofRecords records
    let selection := index.select isBuiltin start.path
    path ∈ index.visited isBuiltin start.path ∧
      (path ∈ selection.resolvedFiles ∨
        ∃ record ∈ records, record.path = path ∧ record.hasEntryPoint = true ∧ record ≠ start ∧
          (Path.parse path).name ∈ selection.excludedEntryPoints) := by
  intro index selection
  obtain ⟨declaration, needed, rfl⟩ := (ReferenceIndex.mem_contributingFiles_iff records isBuiltin
    start.path seedNames path).1 contributes
  obtain ⟨record, inRecords, held, reached⟩ :=
    needed.fileReached distinct origins unique member seeds
  rw [origins record inRecords declaration held]
  refine ⟨(mem_visited_iff isBuiltin distinct member _).2 ⟨record, rfl, reached⟩, ?_⟩
  by_cases stays : record.hasEntryPoint = false ∨ record = start
  · exact .inl ((mem_resolvedFiles_iff isBuiltin distinct member _).2
      ⟨record, rfl, reached, stays⟩)
  · obtain ⟨hasEntry, notStart⟩ := not_or.1 stays
    rw [Bool.not_eq_false] at hasEntry
    have isTakenOut : record.path ∈ index.takenOut isBuiltin start.path :=
      (mem_takenOut_iff isBuiltin distinct member _).2 ⟨record, rfl, reached, hasEntry, notStart⟩
    exact .inr ⟨record, inRecords, rfl, hasEntry, notStart, List.mem_map_of_mem isTakenOut⟩

/-- The file of the application contributes a view; it is visited, and taken out. -/
theorem contributingFiles_visited_app :
    let selection := (ReferenceIndex.ofRecords Followed.records).select noBuiltins "Screen.swift" ∅
    "App.swift" ∈ selection.contributingFiles ∧
      "App.swift" ∈ (ofRecords Followed.records).visited noBuiltins "Screen.swift" ∧
      ¬ "App.swift" ∈
        ((ofRecords Followed.records).select noBuiltins "Screen.swift").resolvedFiles := by
  intro selection
  have contributes : selection.contributingFiles = ["App.swift", "Screen.swift"] := by cbv
  have isFile : "App.swift" ∈ selection.contributingFiles := by
    rw [contributes]
    exact List.mem_cons_self
  have law := contributingFiles_visited Followed.records noBuiltins Followed.screenFile ∅
    (by decide) List.mem_cons_self (by decide) Followed.declared_once (by decide) "App.swift" isFile
  refine ⟨isFile, law.1, ?_⟩
  rw [Followed.select_records]
  decide

end FileIndex

end SwiftSlice

/-
Paths below a directory. Once a walk has arrived at a directory it goes on from there as
it would from the location itself, with what is left of its budget, and past what is no
link it needs none of it. So what lies below a directory is reached under every spelling
of the directory, unless a name or the whole path is too long to be looked for; it is no
link itself, and it is known by the location of the directory and the names from there.
-/

import SwiftSlice.Proofs.OutputDirectory

namespace SwiftSlice

open Text

/-- From where it arrives a walk goes on as one from there does. -/
theorem Leads.walk_append {tree : FileTree} {budget : Nat} {here middle : Location}
    {names : List String} (leads : Leads tree budget here names middle) (more : List String) :
    ∃ left, tree.walk false budget here (names ++ more) = tree.walk false left middle more := by
  -- Only a link takes from the budget; what is left of it at the end is what is left further on.
  induction leads with
  | arrives budget here => exact ⟨budget, rfl⟩
  | @stays budget here last name rest isDirectory skipped _ inductionHypothesis =>
    obtain ⟨left, further⟩ := inductionHypothesis
    refine ⟨left, ?_⟩
    rw [List.cons_append, FileTree.walk, FileTree.isDirectory_iff.2 isDirectory]
    rcases skipped with rfl | rfl <;> exact further
  | @rises budget here last rest isDirectory _ inductionHypothesis =>
    obtain ⟨left, further⟩ := inductionHypothesis
    refine ⟨left, ?_⟩
    rw [List.cons_append, FileTree.walk, FileTree.isDirectory_iff.2 isDirectory]
    exact further
  | @enters budget here last name rest entry short found noLink _ inductionHypothesis =>
    obtain ⟨left, further⟩ := inductionHypothesis
    refine ⟨left, ?_⟩
    have step : tree.walk false budget here ([name] ++ (rest ++ more)) = _ :=
      FileTree.walk_append_present found noLink (by simp)
    rw [List.singleton_append] at step
    rw [List.cons_append, step, if_pos (by simpa using short)]
    exact further
  | @follows left here last name target rest short found _ inductionHypothesis =>
    obtain ⟨less, further⟩ := inductionHypothesis
    refine ⟨less, ?_⟩
    have isName :=
      FileTree.isFileName_of_entry? found (List.mem_append_right here List.mem_cons_self)
    rw [List.append_assoc] at further
    rw [List.cons_append, FileTree.walk_cons tree _ _
      (FileTree.directory_of_append (List.cons_ne_nil _ _) found) isName.not_skipped isName.not_up
      (by simp), if_neg (Nat.not_lt.2 short), found]
    exact further

namespace Disk

variable {disk : Disk} {base : Path} {top : Location}

/-- Where the base can be walked, so can what is below it, unless it is too long. -/
theorem checkPath_below {names : List String} (checked : checkPath base = .ok ())
    (named : IsNamed names) :
    checkPath (base ++ ⟨.relative, names⟩) = .ok () ∨
      checkPath (base ++ ⟨.relative, names⟩) =
        .error (.access .nameTooLong (base ++ (⟨.relative, names⟩ : Path)).text) := by
  have noNul : checkNames (base ++ ⟨.relative, names⟩) = .ok () := by
    rw [checkNames_eq_ok_iff]
    refine List.forall_mem_append.2 ⟨?_, fun name member => (named name member).2.2.2.2⟩
    exact checkNames_eq_ok_iff.1 (checkPath_eq_ok_iff.1 checked).1
  rw [checkPath, noNul]
  show (if _ then _ else _) = _ ∨ (if _ then _ else _) = _
  split
  · exact .inr rfl
  · exact .inl rfl

section Held

variable {names : List String} {entry : Entry}
  (toTop : Leads disk.tree linkLimit (disk.origin base) base.names top)
  (held : disk.tree.entry? (top ++ names) = some entry) (noLink : ∀ target, entry ≠ .link target)

include toTop held noLink

theorem walk_below :
    disk.tree.walk false linkLimit (disk.origin base) (base.names ++ names) =
      if ∀ name ∈ names, name.utf8ByteSize ≤ nameLimit then .ok (.taken (top ++ names))
      else .error .nameTooLong := by
  obtain ⟨left, further⟩ := toTop.walk_append names
  have arrives : disk.tree.walk false left top (names ++ []) = _ :=
    FileTree.walk_append_present held noLink (by simp)
  rw [List.append_nil, FileTree.walk] at arrives
  rw [further, arrives]

/-- A path below the directory leads to what is there, if the path can be looked for. -/
theorem leads_of_held (short : ∀ name ∈ names, name.utf8ByteSize ≤ nameLimit) :
    Leads disk.tree linkLimit (disk.origin base) (base.names ++ names) (top ++ names) := by
  have arrives := walk_below toTop held noLink
  rw [if_pos short] at arrives
  exact .of_walk arrives

theorem entry_of_held (checkedPath : checkPath (base ++ ⟨.relative, names⟩) = .ok ())
    (short : ∀ name ∈ names, name.utf8ByteSize ≤ nameLimit) :
    disk.entry (base ++ ⟨.relative, names⟩) = .ok entry :=
  entry_eq_ok_iff.2 ⟨checkedPath, top ++ names, leads_of_held toTop held noLink short, held⟩

/-- A path below the directory that can be looked for has no name that is too long, and is not too
long itself. -/
theorem short_of_probed (checked : checkPath base = .ok ()) {found : Option Entry}
    (probed : disk.probe (base ++ ⟨.relative, names⟩) = .ok found) :
    checkPath (base ++ ⟨.relative, names⟩) = .ok () ∧
      ∀ name ∈ names, name.utf8ByteSize ≤ nameLimit := by
  have named : IsNamed names :=
    fun name member => IsNamed.of_entry? held name (List.mem_append_right top member)
  -- Of all failures a probe passes on only that something is too long: here, the path or a name.
  rcases checkPath_below checked named with checkedPath | tooLong
  · refine ⟨checkedPath, ?_⟩
    by_contra long
    have refused : disk.entry (base ++ ⟨.relative, names⟩) =
        .error (.access .nameTooLong (base ++ (⟨.relative, names⟩ : Path)).text) := by
      have arrives := walk_below toTop held noLink
      rw [if_neg long] at arrives
      rw [Disk.entry, spot, walkTo, checkedPath]
      show (blame _ (disk.tree.walk false linkLimit (disk.origin base)
        (base.names ++ names)) >>= _) = _
      rw [arrives]
      rfl
    rw [probe, refused] at probed
    cases probed
  · have refused : disk.entry (base ++ ⟨.relative, names⟩) =
        .error (.access .nameTooLong (base ++ (⟨.relative, names⟩ : Path)).text) := by
      rw [Disk.entry, spot, walkTo, tooLong]
      rfl
    rw [probe, refused] at probed
    cases probed

/-- What is below the directory and no link is known to be none. -/
theorem isLink_of_held (isAbsolute : base.isAbsolute = true) (nonempty : names ≠ [])
    (checkedPath : checkPath (base ++ ⟨.relative, names⟩) = .ok ())
    (short : ∀ name ∈ names, name.utf8ByteSize ≤ nameLimit) :
    disk.isLink (base ++ ⟨.relative, names⟩) = false := by
  obtain ⟨above, name, rfl⟩ := (List.eq_nil_or_concat names).resolve_left nonempty
  rw [List.concat_eq_append] at *
  rw [← List.append_assoc] at held
  have isDirectory := FileTree.directory_of_append (List.cons_ne_nil _ _) held
  have toAbove := leads_of_held toTop isDirectory (by simp)
    fun other member => short other (List.mem_append_left _ member)
  have walked : disk.spot (base ++ (⟨.relative, above ++ [name]⟩ : Path)).parent =
      .ok (.taken (top ++ above)) := by
    refine walkTo_eq_ok_iff.2 ⟨checkPath_parent isAbsolute checkedPath, ?_⟩
    rw [parent_append_relative]
    exact toAbove.walk_eq
  rw [isLink, walked, name_append_relative]
  dsimp only
  rw [held]
  cases entry with
  | link target => exact absurd rfl (noLink target)
  | _ => rfl

/-- What is below the directory and no link lies inside of it. -/
theorem staysWithin_of_held (short : ∀ name ∈ names, name.utf8ByteSize ≤ nameLimit) :
    disk.staysWithin (base ++ ⟨.relative, names⟩) base = .ok true := by
  have isPlace : disk.resolve (base ++ ⟨.relative, names⟩) = .ok (pathOf (top ++ names)) :=
    resolve_of_leads (leads_of_held toTop held noLink short)
  have isInside : ((pathOf (top ++ names)).relativeTo? (pathOf top)).isSome = true :=
    Path.isInside_iff.2 ⟨rfl, List.prefix_append top names⟩
  rw [staysWithin, resolve_of_leads toTop, isPlace]
  exact congrArg Except.ok isInside

end Held

end Disk

end SwiftSlice

/-
Cutting and joining texts. Trimming takes from the ends of a list what is of a
class, and stops at the first item that is not. A text that is cut at a character
is joined from the pieces again, and pieces without that character come back from
the text that they are joined to; so a text and its lines are two views of one
thing, and what folds carriage returns or trims the end of a text is said of its
lines.
-/

import Mathlib.Data.List.DropRight
import SwiftSlice.Text.Lines

namespace SwiftSlice

namespace Text

/-! ### Trimming -/

/-- Trimming at the end stays behind the last item that is not of the class. -/
theorem dropEndWhile_append {α : Type} {inClass : α → Bool} {right : List α}
    (kept : ∃ item ∈ right, inClass item = false) (left : List α) :
    dropEndWhile inClass (left ++ right) = left ++ dropEndWhile inClass right := by
  obtain ⟨item, member, outside⟩ := kept
  have stops : right.reverse.dropWhile inClass ≠ [] := by
    rw [ne_eq, List.dropWhile_eq_nil_iff]
    intro all
    exact Bool.false_ne_true (outside.symm.trans (all item (List.mem_reverse.2 member)))
  rw [dropEndWhile, dropEndWhile, List.reverse_append, List.dropWhile_append,
    if_neg (by simpa using stops), List.reverse_append, List.reverse_reverse]

/-- A list that ends outside of the class stays as it is. -/
theorem dropEndWhile_eq_self {α : Type} {inClass : α → Bool} {items : List α}
    (ends : ∀ item, items.getLast? = some item → inClass item = false) :
    dropEndWhile inClass items = items := by
  refine (List.rdropWhile_eq_self_iff (p := inClass)).2 fun nonempty => ?_
  rw [ends _ (List.getLast?_eq_getLast_of_ne_nil nonempty)]
  exact Bool.false_ne_true

/-- What trimming at the end leaves does not end in the class. -/
theorem getLast?_dropEndWhile {α : Type} {inClass : α → Bool} {items : List α} {item : α}
    (last : (dropEndWhile inClass items).getLast? = some item) : inClass item = false := by
  rw [dropEndWhile, List.getLast?_reverse] at last
  have stops := List.head?_dropWhile_not inClass items.reverse
  rw [last] at stops
  simpa using stops

/-- Trimming takes items of the class from the two ends, and stops at the first that is not of
it. -/
theorem exists_append_trimWhile {α : Type} (inClass : α → Bool) (items : List α) :
    ∃ left right, items = left ++ trimWhile inClass items ++ right ∧
      (∀ item ∈ left, inClass item = true) ∧ (∀ item ∈ right, inClass item = true) ∧
      (∀ item, (trimWhile inClass items).head? = some item → inClass item = false) ∧
      ∀ item, (trimWhile inClass items).getLast? = some item → inClass item = false := by
  have onFront : items.takeWhile inClass ++ items.dropWhile inClass = items :=
    List.takeWhile_append_dropWhile
  have onBack : trimWhile inClass items ++
      ((items.dropWhile inClass).reverse.takeWhile inClass).reverse = items.dropWhile inClass := by
    rw [trimWhile, dropEndWhile, ← List.reverse_append, List.takeWhile_append_dropWhile,
      List.reverse_reverse]
  refine ⟨_, _, (by rw [List.append_assoc, onBack, onFront]),
    fun item member => List.mem_takeWhile_imp member,
    fun item member => List.mem_takeWhile_imp (List.mem_reverse.1 member), ?_, ?_⟩
  · intro item first
    have stops := List.head?_dropWhile_not inClass items
    rw [← onBack, List.head?_append, first, Option.some_or] at stops
    simpa using stops
  · exact fun item last => getLast?_dropEndWhile last

/-- What begins and ends outside of the class is all that trimming leaves. -/
theorem trimWhile_append {α : Type} (inClass : α → Bool) {left kept right : List α}
    (onLeft : ∀ item ∈ left, inClass item = true) (onRight : ∀ item ∈ right, inClass item = true)
    (begins : ∀ item, kept.head? = some item → inClass item = false)
    (ends : ∀ item, kept.getLast? = some item → inClass item = false) :
    trimWhile inClass (left ++ kept ++ right) = kept := by
  rw [trimWhile, dropEndWhile, List.append_assoc, List.dropWhile_append_of_pos onLeft]
  cases kept with
  | nil =>
    rw [List.nil_append, List.dropWhile_eq_nil_iff.2 onRight]
    rfl
  | cons first rest =>
    have onReverse : ∀ item ∈ right.reverse, inClass item = true :=
      fun item member => onRight item (List.mem_reverse.1 member)
    rw [List.cons_append, List.dropWhile_cons_of_neg (by simp [begins first rfl]),
      ← List.cons_append, List.reverse_append, List.dropWhile_append_of_pos onReverse]
    cases turned : (first :: rest).reverse with
    | nil => exact absurd turned (by simp)
    | cons last others =>
      have isLast : (first :: rest).getLast? = some last := by
        rw [← List.head?_reverse, turned, List.head?_cons]
      rw [List.dropWhile_cons_of_neg (by simp [ends last isLast]), ← turned, List.reverse_reverse]

/-! ### Cutting and joining -/

/-- The pieces that a list is cut into do not hold the item that it is cut at. -/
theorem not_mem_of_mem_splitOn {separator : Char} {chars piece : List Char}
    (member : piece ∈ chars.splitOn separator) : ¬ separator ∈ piece := by
  -- A character in front either ends a piece or makes the first piece longer.
  induction chars generalizing piece with
  | nil =>
    rw [List.splitOn_nil, List.mem_singleton] at member
    rw [member]
    exact List.not_mem_nil
  | cons char rest inductionHypothesis =>
    rw [List.splitOn_cons_eq_if_modifyHead] at member
    split at member
    · rcases List.mem_cons.1 member with rfl | inRest
      · exact List.not_mem_nil
      · exact inductionHypothesis inRest
    · next different =>
      obtain ⟨first, others, isSplit⟩ :=
        List.exists_cons_of_ne_nil (List.splitOn_ne_nil separator rest)
      rw [isSplit] at member inductionHypothesis
      rcases List.mem_cons.1 member with rfl | inOthers
      · rw [List.mem_cons, not_or]
        exact ⟨fun same => different (beq_iff_eq.2 same.symm),
          inductionHypothesis List.mem_cons_self⟩
      · exact inductionHypothesis (List.mem_cons_of_mem first inOthers)

theorem joinLines_splitLines (text : List Char) : joinLines (splitLines text) = text :=
  List.intercalate_splitOn '\n'

theorem splitLines_joinLines {lines : List (List Char)} (nonempty : lines ≠ [])
    (unbroken : ∀ line ∈ lines, ¬ '\n' ∈ line) : splitLines (joinLines lines) = lines :=
  List.splitOn_intercalate '\n' unbroken nonempty

theorem joinLines_singleton (line : List Char) : joinLines [line] = line :=
  List.intercalate_singleton

theorem joinLines_cons (line : List Char) {lines : List (List Char)} (nonempty : lines ≠ []) :
    joinLines (line :: lines) = line ++ '\n' :: joinLines lines := by
  obtain ⟨next, rest, rfl⟩ := List.exists_cons_of_ne_nil nonempty
  rw [joinLines, List.intercalate_cons_cons, List.append_assoc]
  rfl

theorem mem_joinLines {lines : List (List Char)} {line : List Char} {char : Char}
    (isLine : line ∈ lines) (member : char ∈ line) : char ∈ joinLines lines := by
  induction lines with
  | nil => exact absurd isLine List.not_mem_nil
  | cons head rest inductionHypothesis =>
    by_cases alone : rest = []
    · subst alone
      rwa [joinLines_singleton, ← List.mem_singleton.1 isLine]
    · rw [joinLines_cons head alone, List.mem_append, List.mem_cons]
      rcases List.mem_cons.1 isLine with rfl | inRest
      · exact .inl member
      · exact .inr (.inr (inductionHypothesis inRest))

/-- Trimming a text at its end trims its last line, if there is text on it. -/
theorem dropEndWhile_joinLines {inClass : Char → Bool} {last : List Char}
    (kept : ∃ char ∈ last, inClass char = false) (lines : List (List Char)) :
    dropEndWhile inClass (joinLines (lines ++ [last])) =
      joinLines (lines ++ [dropEndWhile inClass last]) := by
  induction lines with
  | nil => rw [List.nil_append, List.nil_append, joinLines_singleton, joinLines_singleton]
  | cons line rest inductionHypothesis =>
    have later : ∃ char ∈ '\n' :: joinLines (rest ++ [last]), inClass char = false := by
      obtain ⟨char, member, outside⟩ := kept
      exact ⟨char, List.mem_cons_of_mem _ (mem_joinLines (by simp) member), outside⟩
    have behind : ∃ char ∈ joinLines (rest ++ [last]), inClass char = false := by
      obtain ⟨char, member, outside⟩ := kept
      exact ⟨char, mem_joinLines (by simp) member, outside⟩
    rw [List.cons_append, List.cons_append, joinLines_cons line (by simp),
      joinLines_cons line (by simp), dropEndWhile_append later, ← List.singleton_append,
      dropEndWhile_append behind, inductionHypothesis, List.singleton_append]

/-! ### Carriage returns -/

theorem unifyBreaks_cons {char : Char} {rest : List Char}
    (notPair : char = '\r' → rest.head? ≠ some '\n') :
    unifyBreaks (char :: rest) = char :: unifyBreaks rest := by
  rw [unifyBreaks]
  rintro after rfl rfl
  exact notPair rfl rfl

theorem unifyBreaks_unbroken {text : List Char} (unbroken : ¬ '\n' ∈ text) :
    unifyBreaks text = text := by
  induction text with
  | nil => rfl
  | cons char rest inductionHypothesis =>
    rw [List.mem_cons, not_or] at unbroken
    rw [unifyBreaks_cons fun _ isFirst => unbroken.2 (List.mem_of_head? isFirst),
      inductionHypothesis unbroken.2]

/-- A line that does not end in a carriage return keeps its end. -/
theorem unifyBreaks_line {line : List Char} (unbroken : ¬ '\n' ∈ line)
    (noReturn : line.getLast? ≠ some '\r') (rest : List Char) :
    unifyBreaks (line ++ '\n' :: rest) = line ++ '\n' :: unifyBreaks rest := by
  induction line with
  | nil => exact unifyBreaks_cons fun isReturn => absurd isReturn (by decide)
  | cons char others inductionHypothesis =>
    rw [List.mem_cons, not_or] at unbroken
    cases others with
    | nil =>
      have notReturn : char ≠ '\r' := by simpa using noReturn
      rw [List.singleton_append, unifyBreaks_cons fun isReturn => absurd isReturn notReturn,
        unifyBreaks_cons fun isReturn => absurd isReturn (by decide), List.singleton_append]
    | cons next after =>
      have notPair : char = '\r' → (next :: after ++ '\n' :: rest).head? ≠ some '\n' :=
        fun _ isFirst => unbroken.2 (Option.some.inj isFirst ▸ List.mem_cons_self)
      rw [List.getLast?_cons_cons] at noReturn
      rw [List.cons_append, unifyBreaks_cons notPair, inductionHypothesis unbroken.2 noReturn]
      rfl

theorem unifyBreaks_joinLines {lines : List (List Char)} (unbroken : ∀ line ∈ lines, ¬ '\n' ∈ line)
    (noReturn : ∀ line ∈ lines, line.getLast? ≠ some '\r') :
    unifyBreaks (joinLines lines) = joinLines lines := by
  induction lines with
  | nil => rfl
  | cons line rest inductionHypothesis =>
    by_cases alone : rest = []
    · subst alone
      rw [joinLines_singleton]
      exact unifyBreaks_unbroken (unbroken line List.mem_cons_self)
    · rw [joinLines_cons line alone, unifyBreaks_line (unbroken line List.mem_cons_self)
        (noReturn line List.mem_cons_self), inductionHypothesis
          (fun other member => unbroken other (List.mem_cons_of_mem line member))
          (fun other member => noReturn other (List.mem_cons_of_mem line member))]

/-- Where no two carriage returns stand before a line feed, none is left before one. -/
theorem not_return_unifyBreaks {text : List Char} (single : ¬ ['\r', '\r', '\n'] <:+: text) :
    ¬ ['\r', '\n'] <:+: unifyBreaks text := by
  fun_induction unifyBreaks text with
  | case1 => decide
  | case2 rest inductionHypothesis =>
    rw [List.infix_cons_iff, not_or]
    refine ⟨by simp, inductionHypothesis fun inRest => single ?_⟩
    exact inRest.trans ((List.suffix_cons _ _).trans (List.suffix_cons _ _)).isInfix
  | case3 char rest notPair inductionHypothesis =>
    rw [List.infix_cons_iff, not_or]
    refine ⟨fun begins => ?_, inductionHypothesis fun inRest => single ?_⟩
    · rw [List.cons_prefix_cons] at begins
      obtain ⟨rfl, isNext⟩ := begins
      cases rest with
      | nil => exact absurd isNext (by decide)
      | cons next after =>
        by_cases isPair : next = '\r' ∧ after.head? = some '\n'
        · obtain ⟨rfl, begins⟩ := isPair
          obtain ⟨others, rfl⟩ := List.head?_eq_some_iff.1 begins
          exact single ⟨[], others, rfl⟩
        · rw [unifyBreaks_cons fun isReturn begins => isPair ⟨isReturn, begins⟩,
            List.cons_prefix_cons] at isNext
          exact notPair after rfl (by rw [isNext.1])
    · exact inRest.trans (List.suffix_cons _ _).isInfix

theorem not_return_of_mem_dropLast {lines : List (List Char)} {line : List Char}
    (noReturn : ¬ ['\r', '\n'] <:+: joinLines lines) (member : line ∈ lines.dropLast) :
    line.getLast? ≠ some '\r' := by
  induction lines with
  | nil => exact absurd member List.not_mem_nil
  | cons head rest inductionHypothesis =>
    cases rest with
    | nil => exact absurd member List.not_mem_nil
    | cons next others =>
      rw [joinLines_cons head (List.cons_ne_nil next others)] at noReturn
      rcases List.mem_cons.1 member with rfl | inRest
      · intro isReturn
        obtain ⟨front, rfl⟩ := List.getLast?_eq_some_iff.1 isReturn
        exact noReturn ⟨front, joinLines (next :: others), by simp⟩
      · refine inductionHypothesis (fun isIn => noReturn ?_) inRest
        exact isIn.trans ((List.suffix_cons _ _).trans (List.suffix_append _ _)).isInfix

end Text

end SwiftSlice

/-
What removing the margin of a block of code does to its lines. The blank lines
around the block go; of the others each blank one becomes empty, and each line with
text loses the smallest indentation of such a line, which is all spaces and tabs.
The end of the last line is trimmed, and nothing else, since there is text on it.

The result is flush: it begins and ends with text, its blank lines are empty and a
line of it has no indentation. Flush lines come back from any margin that is put in
front of them, so removing the margin a second time changes nothing; but the
carriage returns before line feeds that do not count as text must be gone by then.
-/

import Mathlib.Data.List.Forall2
import SwiftSlice.Proofs.Lines

namespace SwiftSlice

namespace Text

/-! ### Blank lines -/

theorem isIndent_iff {char : Char} : isIndent char = true ↔ char = ' ' ∨ char = '\t' := by
  rw [isIndent, Bool.or_eq_true, beq_iff_eq, beq_iff_eq]

theorem isBlank_of_isIndent {char : Char} (space : isIndent char = true) : isBlank char = true := by
  rcases isIndent_iff.1 space with rfl | rfl <;> rfl

theorem isBlankLine_eq_false_iff {line : List Char} :
    isBlankLine line = false ↔ ∃ char ∈ line, isBlank char = false :=
  List.all_eq_false.trans (by simp)

theorem isBlankLine_append (left right : List Char) :
    isBlankLine (left ++ right) = (isBlankLine left && isBlankLine right) :=
  List.all_append

theorem isBlankLine_of_spaces {margin : List Char}
    (spaces : ∀ char ∈ margin, isIndent char = true) : isBlankLine margin = true :=
  List.all_eq_true.2 fun char member => isBlank_of_isIndent (spaces char member)

/-! ### Margins -/

/-- Holds of the smallest indentation of the lines with text. -/
structure IsMargin (lines : List (List Char)) (width : Nat) : Prop where
  reached : ∃ line ∈ lines, isBlankLine line = false ∧ indentWidth line = width
  least : ∀ line ∈ lines, isBlankLine line = false → width ≤ indentWidth line

theorem margin_eq {lines : List (List Char)} {width : Nat} (isMargin : IsMargin lines width) :
    margin lines = width := by
  have isLeast : ((lines.filter (!isBlankLine ·)).map indentWidth).min? = some width := by
    rw [List.min?_eq_some_iff]
    constructor
    · obtain ⟨line, member, filled, wide⟩ := isMargin.reached
      exact List.mem_map.2 ⟨line, List.mem_filter.2 ⟨member, by rw [filled]; rfl⟩, wide⟩
    · intro other isWidth
      obtain ⟨line, member, rfl⟩ := List.mem_map.1 isWidth
      obtain ⟨inLines, filled⟩ := List.mem_filter.1 member
      exact isMargin.least line inLines (by simpa using filled)
  rw [margin, isLeast, Option.getD_some]

theorem isMargin_margin {lines : List (List Char)}
    (filled : ∃ line ∈ lines, isBlankLine line = false) : IsMargin lines (margin lines) := by
  obtain ⟨line, member, hasText⟩ := filled
  have nonempty : (lines.filter (!isBlankLine ·)).map indentWidth ≠ [] :=
    List.ne_nil_of_mem (List.mem_map_of_mem (List.mem_filter.2 ⟨member, by rw [hasText]; rfl⟩))
  obtain ⟨width, isLeast⟩ := Option.ne_none_iff_exists'.1 (mt List.min?_eq_none_iff.1 nonempty)
  rw [margin, isLeast, Option.getD_some]
  rw [List.min?_eq_some_iff] at isLeast
  obtain ⟨isWidth, least⟩ := isLeast
  obtain ⟨lowest, inFilter, wide⟩ := List.mem_map.1 isWidth
  obtain ⟨inLines, lowestFilled⟩ := List.mem_filter.1 inFilter
  refine ⟨⟨lowest, inLines, by simpa using lowestFilled, wide⟩, fun other inLines otherFilled => ?_⟩
  exact least _ (List.mem_map_of_mem (List.mem_filter.2 ⟨inLines, by rw [otherFilled]; rfl⟩))

/-- What is left of a line whose margin is cut off: nothing of a blank line, and of a line with text
all but so many spaces and tabs. -/
inductive LosesMargin (width : Nat) : List Char → List Char → Prop
  | blank {line : List Char} (nothing : isBlankLine line = true) : LosesMargin width line []
  | filled {margin rest : List Char} (hasText : isBlankLine (margin ++ rest) = false)
      (wide : margin.length = width) (spaces : ∀ char ∈ margin, char = ' ' ∨ char = '\t') :
      LosesMargin width (margin ++ rest) rest

theorem losesMargin_cutMargin {width : Nat} {line : List Char}
    (wide : isBlankLine line = false → width ≤ indentWidth line) :
    LosesMargin width line (cutMargin width line) := by
  rw [cutMargin]
  cases nothing : isBlankLine line with
  | true => exact .blank nothing
  | false =>
    have within := wide nothing
    have inMargin : line.take width = (line.takeWhile isIndent).take width := by
      conv_lhs => rw [← List.takeWhile_append_dropWhile (p := isIndent) (l := line)]
      exact List.take_append_of_le_length within
    have isLong : (line.take width).length = width := by
      rw [inMargin, List.length_take]
      exact Nat.min_eq_left within
    have spaces : ∀ char ∈ line.take width, char = ' ' ∨ char = '\t' := by
      intro char member
      rw [inMargin] at member
      exact isIndent_iff.1 (List.mem_takeWhile_imp (List.mem_of_mem_take member))
    have whole := List.take_append_drop width line
    have loses : LosesMargin width (line.take width ++ line.drop width) (line.drop width) :=
      .filled (by rwa [whole]) isLong spaces
    rwa [whole] at loses

namespace LosesMargin

variable {width : Nat} {line rest : List Char}

theorem isBlankLine_eq (loses : LosesMargin width line rest) :
    isBlankLine rest = isBlankLine line := by
  cases loses with
  | blank nothing => exact nothing.symm
  | @filled margin _ hasText _ spaces =>
    have isMargin : isBlankLine margin = true :=
      isBlankLine_of_spaces fun char member => isIndent_iff.2 (spaces char member)
    rw [isBlankLine_append, isMargin, Bool.true_and]

theorem isSuffix (loses : LosesMargin width line rest) : rest <:+ line := by
  cases loses with
  | blank => exact List.nil_suffix
  | filled => exact List.suffix_append _ _

theorem eq_nil_of_blank (loses : LosesMargin width line rest) (nothing : isBlankLine rest = true) :
    rest = [] := by
  cases loses with
  | blank => rfl
  | @filled margin _ hasText wide spaces =>
    have := (LosesMargin.filled hasText wide spaces).isBlankLine_eq
    rw [nothing, hasText] at this
    exact absurd this Bool.noConfusion

/-- A line with text loses its whole margin. -/
theorem indentWidth_add (loses : LosesMargin width line rest) (hasText : isBlankLine line = false) :
    indentWidth rest + width = indentWidth line := by
  cases loses with
  | blank nothing => exact absurd (nothing.symm.trans hasText) Bool.noConfusion
  | @filled margin _ _ wide spaces =>
    have onMargin : ∀ char ∈ margin, isIndent char = true :=
      fun char member => isIndent_iff.2 (spaces char member)
    rw [indentWidth, indentWidth, List.takeWhile_append_of_pos onMargin, List.length_append, wide,
      Nat.add_comm]

theorem exists_margin (loses : LosesMargin width line rest) (hasText : isBlankLine rest = false) :
    ∃ margin, line = margin ++ rest ∧ ∀ char ∈ margin, char = ' ' ∨ char = '\t' := by
  cases loses with
  | blank => exact absurd hasText (by decide)
  | @filled margin _ _ _ spaces => exact ⟨margin, rfl, spaces⟩

end LosesMargin

/-! ### Blocks -/

/-- The lines of a text; a carriage return before a line feed is a part of the line feed. -/
def sourceLines (text : String) : List (List Char) :=
  splitLines (unifyBreaks text.toList)

theorem unbroken_sourceLines {text : String} : ∀ line ∈ sourceLines text, ¬ '\n' ∈ line :=
  fun _ member => not_mem_of_mem_splitOn member

/-- Holds of the lines from the first to the last one with text. -/
structure IsBlock (lines block : List (List Char)) : Prop where
  within : ∃ before after, lines = before ++ block ++ after ∧
    (∀ line ∈ before, isBlankLine line = true) ∧ ∀ line ∈ after, isBlankLine line = true
  begins : ∀ line, block.head? = some line → isBlankLine line = false
  ends : ∀ line, block.getLast? = some line → isBlankLine line = false

theorem isBlock_trimBlankLines (lines : List (List Char)) :
    IsBlock lines (trimBlankLines lines) := by
  obtain ⟨before, after, whole, onFront, onBack, begins, ends⟩ :=
    exists_append_trimWhile isBlankLine lines
  exact ⟨⟨before, after, whole, onFront, onBack⟩, begins, ends⟩

namespace IsBlock

variable {lines block : List (List Char)}

theorem trimBlankLines_eq (isBlock : IsBlock lines block) : trimBlankLines lines = block := by
  obtain ⟨before, after, rfl, onFront, onBack⟩ := isBlock.within
  exact trimWhile_append isBlankLine onFront onBack isBlock.begins isBlock.ends

theorem mem_of_mem (isBlock : IsBlock lines block) {line : List Char} (member : line ∈ block) :
    line ∈ lines := by
  obtain ⟨before, after, rfl, _⟩ := isBlock.within
  exact List.mem_append_left _ (List.mem_append_right _ member)

/-- All lines with text are in the block. -/
theorem mem_of_filled (isBlock : IsBlock lines block) {line : List Char} (member : line ∈ lines)
    (hasText : isBlankLine line = false) : line ∈ block := by
  obtain ⟨before, after, rfl, onFront, onBack⟩ := isBlock.within
  rw [List.mem_append, List.mem_append] at member
  rcases member with (inFront | inBlock) | inBack
  · exact absurd ((onFront line inFront).symm.trans hasText) Bool.noConfusion
  · exact inBlock
  · exact absurd ((onBack line inBack).symm.trans hasText) Bool.noConfusion

theorem isMargin_iff (isBlock : IsBlock lines block) (width : Nat) :
    IsMargin block width ↔ IsMargin lines width := by
  constructor
  · rintro ⟨⟨line, member, hasText, wide⟩, least⟩
    exact ⟨⟨line, isBlock.mem_of_mem member, hasText, wide⟩,
      fun other isLine filled => least other (isBlock.mem_of_filled isLine filled) filled⟩
  · rintro ⟨⟨line, member, hasText, wide⟩, least⟩
    exact ⟨⟨line, isBlock.mem_of_filled member hasText, hasText, wide⟩,
      fun other inBlock filled => least other (isBlock.mem_of_mem inBlock) filled⟩

theorem eq_of_length (isBlock : IsBlock lines block)
    (same : block.length = lines.length) : block = lines := by
  obtain ⟨before, after, rfl, _⟩ := isBlock.within
  rw [List.length_append, List.length_append] at same
  have onFront : before = [] := List.eq_nil_of_length_eq_zero (by omega)
  have onBack : after = [] := List.eq_nil_of_length_eq_zero (by omega)
  rw [onFront, onBack, List.nil_append, List.append_nil]

end IsBlock

/-! ### Blocks without their margins -/

/-- Whatever is on the left of a list of pairs has something on the right. -/
theorem exists_right_of_forall₂ {α β : Type} {related : α → β → Prop} {left : List α}
    {right : List β} (pairs : List.Forall₂ related left right) {item : α} (member : item ∈ left) :
    ∃ other ∈ right, related item other := by
  induction pairs with
  | nil => exact absurd member List.not_mem_nil
  | cons first _ inductionHypothesis =>
    rcases List.mem_cons.1 member with rfl | inRest
    · exact ⟨_, List.mem_cons_self, first⟩
    · obtain ⟨other, isOther, later⟩ := inductionHypothesis inRest
      exact ⟨other, List.mem_cons_of_mem _ isOther, later⟩

theorem exists_left_of_forall₂ {α β : Type} {related : α → β → Prop} {left : List α}
    {right : List β} (pairs : List.Forall₂ related left right) {other : β}
    (member : other ∈ right) : ∃ item ∈ left, related item other :=
  have turned : List.Forall₂ (flip related) right left := pairs.flip
  exists_right_of_forall₂ turned member

section Block

variable {width : Nat} {block rest : List (List Char)}

theorem map_isBlankLine_eq (loses : List.Forall₂ (LosesMargin width) block rest) :
    rest.map isBlankLine = block.map isBlankLine := by
  induction loses with
  | nil => rfl
  | cons first _ inductionHypothesis =>
    rw [List.map_cons, List.map_cons, first.isBlankLine_eq, inductionHypothesis]

theorem isBlankLine_last {lines front : List (List Char)} {last : List Char}
    (isBlock : IsBlock lines block)
    (loses : List.Forall₂ (LosesMargin width) block (front ++ [last])) :
    isBlankLine last = false := by
  have atEnd : (block.map isBlankLine).getLast? = some (isBlankLine last) := by
    rw [← map_isBlankLine_eq loses, List.getLast?_map, List.getLast?_concat, Option.map_some]
  rw [List.getLast?_map, Option.map_eq_some_iff] at atEnd
  obtain ⟨whole, isLast, same⟩ := atEnd
  exact same.symm.trans (isBlock.ends whole isLast)

theorem unbroken_of_losesMargin {lines : List (List Char)} (isBlock : IsBlock lines block)
    (loses : List.Forall₂ (LosesMargin width) block rest)
    (unbroken : ∀ line ∈ lines, ¬ '\n' ∈ line) : ∀ line ∈ rest, ¬ '\n' ∈ line := by
  intro line member isBreak
  obtain ⟨whole, isWhole, loss⟩ := exists_left_of_forall₂ loses member
  exact unbroken whole (isBlock.mem_of_mem isWhole) (loss.isSuffix.subset isBreak)

theorem unbroken_trimmed {front : List (List Char)} {last : List Char}
    (unbroken : ∀ line ∈ front ++ [last], ¬ '\n' ∈ line) :
    ∀ line ∈ front ++ [dropEndWhile isBlank last], ¬ '\n' ∈ line := by
  intro line member
  rcases List.mem_append.1 member with inFront | isLast
  · exact unbroken line (List.mem_append_left _ inFront)
  · rw [List.mem_singleton.1 isLast]
    have isPart : dropEndWhile isBlank last <+: last := List.rdropWhile_prefix isBlank last
    exact fun isBreak => unbroken last (by simp) (isPart.subset isBreak)

end Block

/-- Holds of the lines that are left of a block of code: those from the first to the last one with
text, each without the smallest indentation of a line with text, and the end of the last one
trimmed. -/
def IsDedented (lines rest : List (List Char)) : Prop :=
  ∃ block width front last, IsBlock lines block ∧ IsMargin lines width ∧
    List.Forall₂ (LosesMargin width) block (front ++ [last]) ∧
    rest = front ++ [dropEndWhile isBlank last]

theorem losesMargin_dedentLines (lines : List (List Char)) :
    List.Forall₂ (LosesMargin (margin (trimBlankLines lines))) (trimBlankLines lines)
      (dedentLines lines) := by
  rw [dedentLines, List.forall₂_map_right_iff, List.forall₂_same]
  intro line member
  refine losesMargin_cutMargin fun hasText => ?_
  exact (isMargin_margin ⟨line, member, hasText⟩).least line member hasText

theorem dropEndWhile_last {lines front : List (List Char)} {last : List Char} {width : Nat}
    {block : List (List Char)} (isBlock : IsBlock lines block)
    (loses : List.Forall₂ (LosesMargin width) block (front ++ [last])) :
    dropEndWhile isBlank (joinLines (front ++ [last])) =
      joinLines (front ++ [dropEndWhile isBlank last]) :=
  dropEndWhile_joinLines (isBlankLine_eq_false_iff.1 (isBlankLine_last isBlock loses)) front

theorem isDedented_dedent {text : String}
    (filled : ∃ line ∈ sourceLines text, isBlankLine line = false) :
    IsDedented (sourceLines text) (splitLines (dedent text).toList) := by
  have isBlock := isBlock_trimBlankLines (sourceLines text)
  have loses := losesMargin_dedentLines (sourceLines text)
  obtain ⟨line, isLine, hasText⟩ := filled
  have inBlock := isBlock.mem_of_filled isLine hasText
  have isMargin := (isBlock.isMargin_iff _).1 (isMargin_margin ⟨line, inBlock, hasText⟩)
  obtain ⟨first, isFirst, _⟩ := exists_right_of_forall₂ loses inBlock
  obtain ⟨front, last, isCut⟩ :=
    (List.eq_nil_or_concat' _).resolve_left (List.ne_nil_of_mem isFirst)
  rw [isCut] at loses
  refine ⟨_, _, front, last, isBlock, isMargin, loses, ?_⟩
  have unbroken := unbroken_of_losesMargin isBlock loses unbroken_sourceLines
  have joined : (dedent text).toList = joinLines (front ++ [dropEndWhile isBlank last]) := by
    rw [dedent, String.toList_ofList, ← dropEndWhile_last isBlock loses, ← isCut]
    rfl
  rw [joined, splitLines_joinLines (by simp) (unbroken_trimmed unbroken)]

/-! ### Flush lines -/

/-- Holds of lines that begin and end with text, where no other line holds only blanks, no blank
stands at the end and the margin is empty. -/
structure IsFlush (lines : List (List Char)) : Prop where
  unbroken : ∀ line ∈ lines, ¬ '\n' ∈ line
  blank : ∀ line ∈ lines, isBlankLine line = true → line = []
  begins : ∀ line, lines.head? = some line → isBlankLine line = false
  ends : ∃ front last, lines = front ++ [last] ∧ isBlankLine last = false ∧
    ∀ char, last.getLast? = some char → isBlank char = false
  flush : IsMargin lines 0

theorem isBlankLine_dropEndWhile {line : List Char} (hasText : isBlankLine line = false) :
    isBlankLine (dropEndWhile isBlank line) = false := by
  have nonempty : dropEndWhile isBlank line ≠ [] := by
    intro isEmpty
    have blank := List.rdropWhile_eq_nil_iff.1 isEmpty
    obtain ⟨char, member, outside⟩ := isBlankLine_eq_false_iff.1 hasText
    exact absurd ((blank char member).symm.trans outside) Bool.noConfusion
  have isLast := List.getLast?_eq_getLast_of_ne_nil nonempty
  exact isBlankLine_eq_false_iff.2
    ⟨_, List.getLast_mem nonempty, getLast?_dropEndWhile isLast⟩

theorem indentWidth_le_append (line rest : List Char) :
    indentWidth line ≤ indentWidth (line ++ rest) := by
  rw [indentWidth, indentWidth, List.takeWhile_append]
  split
  · next whole =>
    rw [whole, List.length_append]
    exact Nat.le_add_right _ _
  · exact le_refl _

/-- The lowest line with text has lost all its indentation. -/
theorem IsDedented.exists_flush {lines rest : List (List Char)}
    (isDedented : IsDedented lines rest) :
    ∃ line ∈ rest, isBlankLine line = false ∧ indentWidth line = 0 := by
  obtain ⟨block, width, front, last, isBlock, isMargin, loses, rfl⟩ := isDedented
  obtain ⟨whole, isLine, hasText, wide⟩ := isMargin.reached
  obtain ⟨line, member, loss⟩ :=
    exists_right_of_forall₂ loses (isBlock.mem_of_filled isLine hasText)
  have lost := loss.indentWidth_add hasText
  rw [wide, Nat.add_eq_right] at lost
  rcases List.mem_append.1 member with inFront | isLast
  · exact ⟨line, List.mem_append_left _ inFront, loss.isBlankLine_eq.trans hasText, lost⟩
  · -- Trimming the end does not make the indentation wider.
    rw [List.mem_singleton.1 isLast] at lost
    obtain ⟨blanks, whole⟩ := List.rdropWhile_prefix isBlank last
    have less := indentWidth_le_append (last.rdropWhile isBlank) blanks
    rw [whole, lost] at less
    have isKept := isBlankLine_dropEndWhile (isBlankLine_last isBlock loses)
    exact ⟨_, by simp, isKept, Nat.le_zero.1 less⟩

theorem isFlush_of_isDedented {lines rest : List (List Char)}
    (unbroken : ∀ line ∈ lines, ¬ '\n' ∈ line) (isDedented : IsDedented lines rest) :
    IsFlush rest := by
  have isMargin : IsMargin rest 0 := ⟨isDedented.exists_flush, fun line _ _ => Nat.zero_le _⟩
  obtain ⟨block, width, front, last, isBlock, _, loses, rfl⟩ := isDedented
  have isKept := isBlankLine_dropEndWhile (isBlankLine_last isBlock loses)
  refine ⟨unbroken_trimmed (unbroken_of_losesMargin isBlock loses unbroken), ?_, ?_,
    ⟨front, _, rfl, isKept, fun char => getLast?_dropEndWhile⟩, isMargin⟩
  · intro line member nothing
    rcases List.mem_append.1 member with inFront | isLast
    · obtain ⟨whole, _, loss⟩ := exists_left_of_forall₂ loses (List.mem_append_left _ inFront)
      exact loss.eq_nil_of_blank nothing
    · rw [List.mem_singleton.1 isLast, isKept] at nothing
      exact absurd nothing Bool.noConfusion
  · intro line isFirst
    cases front with
    | nil => rwa [← Option.some.inj isFirst]
    | cons first others =>
      have same := congrArg List.head? (map_isBlankLine_eq loses)
      rw [List.cons_append, List.map_cons, List.head?_cons, List.head?_map] at same
      obtain ⟨whole, atHead, isSame⟩ := Option.map_eq_some_iff.1 same.symm
      rw [← Option.some.inj isFirst, ← isSame]
      exact isBlock.begins whole atHead

theorem IsFlush.not_return {lines : List (List Char)} (isFlush : IsFlush lines)
    (single : ¬ ['\r', '\n'] <:+: joinLines lines) :
    ∀ line ∈ lines, line.getLast? ≠ some '\r' := by
  obtain ⟨front, last, rfl, _, ends⟩ := isFlush.ends
  intro line member
  rcases List.mem_append.1 member with inFront | isLast
  · exact not_return_of_mem_dropLast single (by rwa [List.dropLast_concat])
  · rw [List.mem_singleton.1 isLast]
    exact fun isReturn => absurd (ends '\r' isReturn) (by decide)

/-- A line behind a margin; a line without text stays as it is. -/
def shiftLine (space line : List Char) : List Char :=
  if isBlankLine line then line else space ++ line

section Shift

variable {space : List Char} {lines : List (List Char)}

theorem isBlankLine_shiftLine (isSpace : ∀ char ∈ space, isIndent char = true) (line : List Char) :
    isBlankLine (shiftLine space line) = isBlankLine line := by
  rw [shiftLine]
  split
  · rfl
  · rw [isBlankLine_append, isBlankLine_of_spaces isSpace, Bool.true_and]

theorem indentWidth_shiftLine (isSpace : ∀ char ∈ space, isIndent char = true) {line : List Char}
    (hasText : isBlankLine line = false) :
    indentWidth (shiftLine space line) = space.length + indentWidth line := by
  rw [shiftLine, if_neg (by simp [hasText]), indentWidth, indentWidth,
    List.takeWhile_append_of_pos isSpace, List.length_append]

theorem IsFlush.isMargin_shift (isFlush : IsFlush lines)
    (isSpace : ∀ char ∈ space, isIndent char = true) :
    IsMargin (lines.map (shiftLine space)) space.length := by
  constructor
  · obtain ⟨line, member, hasText, isZero⟩ := isFlush.flush.reached
    refine ⟨_, List.mem_map_of_mem member, (isBlankLine_shiftLine isSpace line).trans hasText, ?_⟩
    rw [indentWidth_shiftLine isSpace hasText, isZero, Nat.add_zero]
  · intro shifted member hasText
    obtain ⟨line, _, rfl⟩ := List.mem_map.1 member
    rw [isBlankLine_shiftLine isSpace] at hasText
    rw [indentWidth_shiftLine isSpace hasText]
    exact Nat.le_add_right _ _

theorem IsFlush.isBlock_shift (isFlush : IsFlush lines)
    (isSpace : ∀ char ∈ space, isIndent char = true) :
    IsBlock (lines.map (shiftLine space)) (lines.map (shiftLine space)) := by
  refine ⟨⟨[], [], by simp, by simp, by simp⟩, ?_, ?_⟩
  · intro shifted isFirst
    rw [List.head?_map, Option.map_eq_some_iff] at isFirst
    obtain ⟨line, atHead, rfl⟩ := isFirst
    exact (isBlankLine_shiftLine isSpace line).trans (isFlush.begins line atHead)
  · intro shifted isLast
    obtain ⟨front, last, rfl, hasText, _⟩ := isFlush.ends
    rw [List.getLast?_map, List.getLast?_concat, Option.map_some, Option.some_inj] at isLast
    rw [← isLast, isBlankLine_shiftLine isSpace, hasText]

theorem cutMargin_shiftLine (isSpace : ∀ char ∈ space, isIndent char = true) {line : List Char}
    (blank : isBlankLine line = true → line = []) :
    cutMargin space.length (shiftLine space line) = line := by
  rw [cutMargin, isBlankLine_shiftLine isSpace]
  split
  · next nothing => exact (blank nothing).symm
  · next filled => rw [shiftLine, if_neg filled, List.drop_left]

/-- Flush lines come back from behind a margin of spaces and tabs. -/
theorem IsFlush.dedentLines_shift (isFlush : IsFlush lines)
    (isSpace : ∀ char ∈ space, isIndent char = true) :
    dedentLines (lines.map (shiftLine space)) = lines := by
  have isMargin := margin_eq (isFlush.isMargin_shift isSpace)
  simp only [dedentLines, (isFlush.isBlock_shift isSpace).trimBlankLines_eq, isMargin, List.map_map]
  have back : ∀ line ∈ lines, (cutMargin space.length ∘ shiftLine space) line = id line :=
    fun line member => cutMargin_shiftLine isSpace (isFlush.blank line member)
  rw [List.map_congr_left back, List.map_id]

theorem IsFlush.dropEndWhile_eq (isFlush : IsFlush lines) :
    dropEndWhile isBlank (joinLines lines) = joinLines lines := by
  obtain ⟨front, last, rfl, hasText, ends⟩ := isFlush.ends
  rw [dropEndWhile_joinLines (isBlankLine_eq_false_iff.1 hasText), dropEndWhile_eq_self ends]

theorem sourceLines_joinLines (nonempty : lines ≠ []) (unbroken : ∀ line ∈ lines, ¬ '\n' ∈ line)
    (noReturn : ∀ line ∈ lines, line.getLast? ≠ some '\r') :
    sourceLines (String.ofList (joinLines lines)) = lines := by
  rw [sourceLines, String.toList_ofList, unifyBreaks_joinLines unbroken noReturn,
    splitLines_joinLines nonempty unbroken]

theorem IsFlush.sourceLines_shift (isFlush : IsFlush lines)
    (isSpace : ∀ char ∈ space, isIndent char = true)
    (noReturn : ∀ line ∈ lines, line.getLast? ≠ some '\r') :
    sourceLines (String.ofList (joinLines (lines.map (shiftLine space)))) =
      lines.map (shiftLine space) := by
  have isNotBreak : ¬ '\n' ∈ space := fun member => absurd (isSpace _ member) (by decide)
  refine sourceLines_joinLines ?_ (fun shifted member => ?_) (fun shifted member => ?_)
  · obtain ⟨front, last, rfl, _⟩ := isFlush.ends
    simp
  · obtain ⟨line, isLine, rfl⟩ := List.mem_map.1 member
    rw [shiftLine]
    split
    · exact isFlush.unbroken line isLine
    · rw [List.mem_append, not_or]
      exact ⟨isNotBreak, isFlush.unbroken line isLine⟩
  · obtain ⟨line, isLine, rfl⟩ := List.mem_map.1 member
    rw [shiftLine]
    split
    · exact noReturn line isLine
    · next filled =>
      have nonempty : line ≠ [] := fun isEmpty => filled (isEmpty ▸ rfl)
      rw [List.getLast?_append_of_ne_nil _ nonempty]
      exact noReturn line isLine

/-- A text of flush lines comes back from behind a margin, if no line of it ends in a carriage
return. -/
theorem IsFlush.dedent_shift (isFlush : IsFlush lines)
    (isSpace : ∀ char ∈ space, isIndent char = true)
    (noReturn : ∀ line ∈ lines, line.getLast? ≠ some '\r') :
    dedent (String.ofList (joinLines (lines.map (shiftLine space)))) =
      String.ofList (joinLines lines) := by
  have isSource := isFlush.sourceLines_shift isSpace noReturn
  rw [sourceLines] at isSource
  rw [dedent, isSource, isFlush.dedentLines_shift isSpace, isFlush.dropEndWhile_eq]

end Shift

/-! ### Removing the margin -/

theorem dedent_eq_empty_of_blank {text : String}
    (blank : ∀ line ∈ sourceLines text, isBlankLine line = true) : dedent text = "" := by
  have isBlock : IsBlock (sourceLines text) [] :=
    ⟨⟨sourceLines text, [], by simp, blank, by simp⟩, by simp, by simp⟩
  have nothing := isBlock.trimBlankLines_eq
  rw [sourceLines] at nothing
  rw [dedent, dedentLines, nothing]
  rfl

theorem exists_filled_of_dedent_ne {text : String} (nonempty : dedent text ≠ "") :
    ∃ line ∈ sourceLines text, isBlankLine line = false := by
  by_contra filled
  refine nonempty (dedent_eq_empty_of_blank fun line member => ?_)
  by_contra hasText
  exact filled ⟨line, member, by simpa using hasText⟩

/-- What is left of a text with text on it is flush. -/
theorem isFlush_dedent {text : String}
    (filled : ∃ line ∈ sourceLines text, isBlankLine line = false) :
    IsFlush (splitLines (dedent text).toList) :=
  isFlush_of_isDedented unbroken_sourceLines (isDedented_dedent filled)

theorem dedent_eq_empty_iff (text : String) :
    dedent text = "" ↔ ∀ line ∈ sourceLines text, isBlankLine line = true := by
  refine ⟨fun isEmpty => ?_, dedent_eq_empty_of_blank⟩
  by_contra filled
  simp only [not_forall, Bool.not_eq_true] at filled
  obtain ⟨line, member, hasText⟩ := filled
  have isFlush := isFlush_dedent ⟨line, member, hasText⟩
  rw [isEmpty] at isFlush
  exact absurd (isFlush.begins [] rfl) (by decide)

theorem IsBlock.mem_dropLast {lines block : List (List Char)} (isBlock : IsBlock lines block)
    {line : List Char} (member : line ∈ block.dropLast) : line ∈ lines.dropLast := by
  obtain ⟨before, after, rfl, _⟩ := isBlock.within
  have nonempty : block ≠ [] := by
    rintro rfl
    exact List.not_mem_nil member
  by_cases isEnd : after = []
  · rw [isEnd, List.append_nil, List.dropLast_append_of_ne_nil nonempty]
    exact List.mem_append_right _ member
  · rw [List.dropLast_append_of_ne_nil isEnd]
    exact List.mem_append_left _ (List.mem_append_right _ ((List.dropLast_sublist _).subset member))

/-- No line of the rest ends in a carriage return, unless two stood before a line feed. -/
theorem IsDedented.not_return {lines rest : List (List Char)} (isDedented : IsDedented lines rest)
    (noReturn : ∀ line ∈ lines.dropLast, line.getLast? ≠ some '\r') :
    ∀ line ∈ rest, line.getLast? ≠ some '\r' := by
  obtain ⟨block, width, front, last, isBlock, _, loses, rfl⟩ := isDedented
  intro line member isReturn
  rcases List.mem_append.1 member with inFront | isLast
  · have inner := List.forall₂_take_append block front [last] loses
    have isInner : block.take front.length = block.dropLast := by
      rw [List.dropLast_eq_take, loses.length_eq, List.length_append, List.length_singleton,
        Nat.add_sub_cancel]
    obtain ⟨whole, isWhole, loss⟩ := exists_left_of_forall₂ inner inFront
    rw [isInner] at isWhole
    obtain ⟨cut, rfl⟩ := loss.isSuffix
    have nonempty : line ≠ [] := by
      rintro rfl
      exact absurd isReturn (by simp)
    refine noReturn _ (isBlock.mem_dropLast isWhole) ?_
    rw [List.getLast?_append_of_ne_nil _ nonempty, isReturn]
  · rw [List.mem_singleton.1 isLast] at isReturn
    exact absurd (getLast?_dropEndWhile isReturn) (by decide)

/-- Removing the margin a second time changes nothing, unless two carriage returns stood before a
line feed. -/
theorem dedent_dedent {text : String} (single : ¬ ['\r', '\r', '\n'] <:+: text.toList) :
    dedent (dedent text) = dedent text := by
  by_cases isEmpty : dedent text = ""
  · rw [isEmpty]
    rfl
  · have filled := exists_filled_of_dedent_ne isEmpty
    have noReturn : ∀ line ∈ splitLines (dedent text).toList, line.getLast? ≠ some '\r' := by
      refine (isDedented_dedent filled).not_return fun line member => ?_
      refine not_return_of_mem_dropLast ?_ member
      rw [sourceLines, joinLines_splitLines]
      exact not_return_unifyBreaks single
    have isSpace : ∀ char ∈ ([] : List Char), isIndent char = true := by simp
    have again := (isFlush_dedent filled).dedent_shift isSpace noReturn
    have same : (splitLines (dedent text).toList).map (shiftLine []) =
        splitLines (dedent text).toList :=
      (List.map_congr_left fun line _ => by rw [shiftLine, List.nil_append, ite_self]; rfl).trans
        (List.map_id _)
    rw [same, joinLines_splitLines, String.ofList_toList] at again
    exact again

/-- Removing the margin of a text leaves nothing exactly of blank lines. Of any other text it
leaves, one for one, the lines from the first to the last one with text: of a blank line nothing, of
a line with text all but so many spaces and tabs as the least indented one begins with, and of the
last one no blanks at its end. Doing so again changes nothing, unless the text holds two carriage
returns before a line feed. -/
theorem dedent_exact (text : String) :
    (dedent text = "" ↔ ∀ line ∈ sourceLines text, isBlankLine line = true) ∧
      (dedent text ≠ "" →
        IsDedented (sourceLines text) (splitLines (dedent text).toList) ∧
          ∃ line ∈ splitLines (dedent text).toList,
            isBlankLine line = false ∧ indentWidth line = 0) ∧
      (¬ ['\r', '\r', '\n'] <:+: text.toList → dedent (dedent text) = dedent text) := by
  refine ⟨dedent_eq_empty_iff text, fun nonempty => ?_, dedent_dedent⟩
  have filled := exists_filled_of_dedent_ne nonempty
  exact ⟨isDedented_dedent filled, (isDedented_dedent filled).exists_flush⟩

theorem dedent_exact_modified_view :
    dedent "\n    Text(title)\n \n      .bold() \n" ≠ "" ∧
      ¬ ['\r', '\r', '\n'] <:+: "\n    Text(title)\n \n      .bold() \n".toList ∧
      IsDedented (sourceLines "\n    Text(title)\n \n      .bold() \n")
        (splitLines (dedent "\n    Text(title)\n \n      .bold() \n").toList) ∧
      dedent (dedent "\n    Text(title)\n \n      .bold() \n") =
        dedent "\n    Text(title)\n \n      .bold() \n" :=
  have isExact := dedent_exact "\n    Text(title)\n \n      .bold() \n"
  ⟨by decide +kernel, by decide +kernel, (isExact.2.1 (by decide +kernel)).1,
    isExact.2.2 (by decide +kernel)⟩

end Text

end SwiftSlice

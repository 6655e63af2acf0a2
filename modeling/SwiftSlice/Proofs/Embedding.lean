/-
What stands between the opening and the closing lines of the application: the body of
the preview behind a margin. The margin is put at the start of each piece that the body
is cut into at any of its line boundaries, and more characters than a line feed are one.
So a boundary inside of a line has the margin put behind it, in the middle of the line,
and the line comes out as it should exactly if there is nothing but blanks behind its
first boundary.

Where all lines come out so, the body is back when the margin is removed again, if no
line ends in a carriage return, which removing the margin would take for a part of the
line feed behind it. Where a line does not, what is put into it stays there.
-/

import SwiftSlice.Artifact.Source
import SwiftSlice.Proofs.Dedent

namespace SwiftSlice

open Text

namespace Text

/-! ### Line boundaries -/

theorem isBlank_of_isLineBreak {char : Char} (isBreak : isLineBreak char = true) :
    isBlank char = true := by
  simp only [isLineBreak, Bool.or_eq_true, Bool.and_eq_true, decide_eq_true_eq, beq_iff_eq]
    at isBreak
  simp only [isBlank, Bool.or_eq_true, Bool.and_eq_true, decide_eq_true_eq, beq_iff_eq]
  omega

theorem isLineBreak_of_isIndent {char : Char} (space : isIndent char = true) :
    isLineBreak char = false := by
  rcases isIndent_iff.1 space with rfl | rfl <;> rfl

/-- A line boundary is nothing on a line. -/
theorem isBlankLine_break {char : Char} (isBreak : isLineBreak char = true) (rest : List Char) :
    isBlankLine (char :: rest) = isBlankLine rest := by
  rw [isBlankLine, List.all_cons, isBlank_of_isLineBreak isBreak, Bool.true_and]
  rfl

/-- What holds of a text without line boundaries, and of a text whenever it holds of the part behind
its first boundary, holds of every text. -/
theorem induction_breaks {holds : List Char → Prop}
    (unbroken : ∀ text, (∀ char ∈ text, isLineBreak char = false) → holds text)
    (broken : ∀ front char rest, (∀ char ∈ front, isLineBreak char = false) →
      isLineBreak char = true → holds rest → holds (front ++ char :: rest))
    (text : List Char) : holds text := by
  -- The part in front of the first boundary grows until there is one.
  have behind (front : List Char) (free : ∀ char ∈ front, isLineBreak char = false) :
      holds (front ++ text) := by
    induction text generalizing front with
    | nil =>
      rw [List.append_nil]
      exact unbroken front free
    | cons char rest inductionHypothesis =>
      cases isBreak : isLineBreak char with
      | true =>
        exact broken front char rest free isBreak (inductionHypothesis [] (by simp))
      | false =>
        rw [List.append_cons]
        refine inductionHypothesis (front ++ [char]) fun other member => ?_
        rcases List.mem_append.1 member with inFront | isLast
        · exact free other inFront
        · rwa [List.mem_singleton.1 isLast]
  exact behind [] (by simp)

/-! ### Cutting after each boundary -/

theorem linesWithBreaks_cons {char : Char} {rest : List Char}
    (notPair : char = '\r' → rest.head? ≠ some '\n') :
    linesWithBreaks (char :: rest) =
      if isLineBreak char = true then [char] :: linesWithBreaks rest
      else consLine char (linesWithBreaks rest) := by
  rw [linesWithBreaks]
  rintro after rfl rfl
  exact notPair rfl rfl

section Front

variable {front : List Char} (unbroken : ∀ char ∈ front, isLineBreak char = false)

include unbroken

theorem linesWithBreaks_front {rest first : List Char} {others : List (List Char)}
    (isCut : linesWithBreaks rest = first :: others) :
    linesWithBreaks (front ++ rest) = (front ++ first) :: others := by
  induction front with
  | nil => exact isCut
  | cons char after inductionHypothesis =>
    have notBreak := unbroken char List.mem_cons_self
    have notPair : char = '\r' → (after ++ rest).head? ≠ some '\n' := by
      rintro rfl
      exact absurd notBreak (by decide)
    rw [List.cons_append, linesWithBreaks_cons notPair, if_neg (by simp [notBreak]),
      inductionHypothesis fun other member => unbroken other (List.mem_cons_of_mem char member)]
    rfl

theorem linesWithBreaks_unbroken (nonempty : front ≠ []) : linesWithBreaks front = [front] := by
  obtain ⟨before, last, rfl⟩ := (List.eq_nil_or_concat' front).resolve_left nonempty
  have notBreak := unbroken last (by simp)
  have isCut : linesWithBreaks [last] = [[last]] := by
    rw [linesWithBreaks_cons (by simp), if_neg (by simp [notBreak])]
    rfl
  exact linesWithBreaks_front (fun char member => unbroken char (by simp [member])) isCut

end Front

/-! ### Indented texts -/

/-- A text with a space at the start of each piece that is not blank. -/
def indentPieces (space text : List Char) : List Char :=
  (linesWithBreaks text).flatMap (shiftLine space)

theorem toList_indent (margin text : String) :
    (indent margin text).toList = indentPieces margin.toList text.toList := by
  rw [indent, String.toList_ofList]
  rfl

variable {space : List Char}

theorem shiftLine_blank {line : List Char} (nothing : isBlankLine line = true) :
    shiftLine space line = line :=
  if_pos nothing

theorem shiftLine_append {line ending : List Char} (nothing : isBlankLine ending = true) :
    shiftLine space (line ++ ending) = shiftLine space line ++ ending := by
  rw [shiftLine, shiftLine, isBlankLine_append, nothing, Bool.and_true]
  split
  · rfl
  · rw [List.append_assoc]

theorem indentPieces_unbroken {text : List Char}
    (unbroken : ∀ char ∈ text, isLineBreak char = false) :
    indentPieces space text = shiftLine space text := by
  by_cases isEmpty : text = []
  · subst isEmpty
    rfl
  · rw [indentPieces, linesWithBreaks_unbroken unbroken isEmpty, List.flatMap_singleton]

/-- Only the front of a text up to its first line boundary is put behind the first margin. A
carriage return and a line feed count as one boundary, but there is nothing between them. -/
theorem indentPieces_break {front rest : List Char} {char : Char}
    (unbroken : ∀ char ∈ front, isLineBreak char = false) (isBreak : isLineBreak char = true) :
    indentPieces space (front ++ char :: rest) =
      shiftLine space front ++ char :: indentPieces space rest := by
  have blankEnding : isBlankLine [char] = true := isBlankLine_break isBreak []
  by_cases isPair : char = '\r' ∧ rest.head? = some '\n'
  · obtain ⟨rfl, isNext⟩ := isPair
    obtain ⟨after, rfl⟩ := List.head?_eq_some_iff.1 isNext
    have isCut : linesWithBreaks ('\r' :: '\n' :: after) =
        ['\r', '\n'] :: linesWithBreaks after := by
      rw [linesWithBreaks]
    have onNext : indentPieces space ('\n' :: after) = '\n' :: indentPieces space after := by
      rw [indentPieces, linesWithBreaks_cons (by simp), if_pos (by decide), List.flatMap_cons]
      rfl
    rw [indentPieces, linesWithBreaks_front unbroken isCut, List.flatMap_cons,
      shiftLine_append (by decide), onNext, List.append_assoc]
    rfl
  · have isCut : linesWithBreaks (char :: rest) = [char] :: linesWithBreaks rest := by
      rw [linesWithBreaks_cons fun isReturn isNext => isPair ⟨isReturn, isNext⟩, if_pos isBreak]
    rw [indentPieces, linesWithBreaks_front unbroken isCut, List.flatMap_cons,
      shiftLine_append blankEnding, List.append_assoc]
    rfl

/-- A text is indented part by part, if it is parted at a line boundary. -/
theorem indentPieces_append {char : Char} (isBreak : isLineBreak char = true)
    (text rest : List Char) :
    indentPieces space (text ++ char :: rest) =
      indentPieces space text ++ char :: indentPieces space rest := by
  induction text using induction_breaks with
  | unbroken text free => rw [indentPieces_break free isBreak, indentPieces_unbroken free]
  | broken front other after free isOther inductionHypothesis =>
    rw [List.append_assoc, List.cons_append, indentPieces_break free isOther, inductionHypothesis,
      indentPieces_break free isOther, List.append_assoc, List.cons_append]

theorem indentPieces_joinLines {lines : List (List Char)} (nonempty : lines ≠ []) :
    indentPieces space (joinLines lines) = joinLines (lines.map (indentPieces space)) := by
  induction lines with
  | nil => exact absurd rfl nonempty
  | cons line rest inductionHypothesis =>
    by_cases alone : rest = []
    · subst alone
      rw [List.map_singleton, joinLines_singleton, joinLines_singleton]
    · rw [List.map_cons, joinLines_cons line alone, joinLines_cons _ (by simpa using alone),
        indentPieces_append (by decide), inductionHypothesis alone]

theorem count_indentPieces (noReturn : ¬ '\r' ∈ space) (text : List Char) :
    (indentPieces space text).count '\r' = text.count '\r' := by
  have onLine (line : List Char) : (shiftLine space line).count '\r' = line.count '\r' := by
    rw [shiftLine]
    split
    · rfl
    · rw [List.count_append, List.count_eq_zero_of_not_mem noReturn, Nat.zero_add]
  induction text using induction_breaks with
  | unbroken text free => rw [indentPieces_unbroken free, onLine]
  | broken front char rest free isBreak inductionHypothesis =>
    rw [indentPieces_break free isBreak, List.count_append, List.count_append, onLine,
      List.count_cons, List.count_cons, inductionHypothesis]

theorem getLast?_indentPieces (text : List Char) :
    (indentPieces space text).getLast? = text.getLast? := by
  induction text using induction_breaks with
  | unbroken text free =>
    rw [indentPieces_unbroken free, shiftLine]
    split
    · rfl
    · next filled =>
      have nonempty : text ≠ [] := fun isEmpty => filled (isEmpty ▸ rfl)
      exact List.getLast?_append_of_ne_nil _ nonempty
  | broken front char rest free isBreak inductionHypothesis =>
    rw [indentPieces_break free isBreak, List.getLast?_append, List.getLast?_append,
      List.getLast?_cons, List.getLast?_cons, inductionHypothesis]
    rfl

/-! ### Lines that come out behind one margin -/

/-- Holds of a line with nothing but blanks behind any line boundary in it. -/
def BlankBehindBreaks (line : List Char) : Prop :=
  ∀ front char rest, line = front ++ char :: rest → isLineBreak char = true →
    isBlankLine rest = true

theorem blankBehindBreaks_nil : BlankBehindBreaks [] :=
  fun _ _ _ whole => absurd whole (by simp)

/-- A text is cut at its first line boundary in one way only. -/
theorem append_break_inj {front other rest after : List Char} {char next : Char}
    (free : ∀ char ∈ front, isLineBreak char = false)
    (alsoFree : ∀ char ∈ other, isLineBreak char = false) (isBreak : isLineBreak char = true)
    (isNext : isLineBreak next = true) (same : front ++ char :: rest = other ++ next :: after) :
    front = other ∧ char :: rest = next :: after := by
  have cut (line others : List Char) (mark : Char)
      (unbroken : ∀ char ∈ line, isLineBreak char = false) (marked : isLineBreak mark = true) :
      (line ++ mark :: others).takeWhile (!isLineBreak ·) = line := by
    rw [List.takeWhile_append_of_pos fun char member => by rw [unbroken char member]; rfl,
      List.takeWhile_cons_of_neg (by simp [marked]), List.append_nil]
  have fronts : front = other := by
    rw [← cut front rest char free isBreak, same, cut other after next alsoFree isNext]
  subst fronts
  exact ⟨rfl, List.append_cancel_left same⟩

theorem blankBehindBreaks_break_iff {front rest : List Char} {char : Char}
    (free : ∀ char ∈ front, isLineBreak char = false) (isBreak : isLineBreak char = true) :
    BlankBehindBreaks (front ++ char :: rest) ↔ isBlankLine rest = true := by
  refine ⟨fun blank => blank front char rest rfl isBreak, fun nothing => ?_⟩
  intro before other after same isOther
  rcases List.append_eq_append_iff.1 same with ⟨between, rfl, isRest⟩ | ⟨between, rfl, isRest⟩
  · cases between with
    | nil => rwa [← (List.cons.inj isRest).2]
    | cons next others =>
      rw [List.cons_append] at isRest
      rw [(List.cons.inj isRest).2, isBlankLine_append, isBlankLine_break isOther,
        Bool.and_eq_true] at nothing
      exact nothing.2
  · cases between with
    | nil => rwa [(List.cons.inj isRest).2]
    | cons next others =>
      rw [(List.cons.inj isRest).1] at isOther
      exact absurd (isOther.symm.trans (free next (by simp))) Bool.noConfusion

section Margin

variable (spaceFree : ∀ char ∈ space, isLineBreak char = false)

include spaceFree

theorem free_shiftLine {front : List Char} (free : ∀ char ∈ front, isLineBreak char = false) :
    ∀ char ∈ shiftLine space front, isLineBreak char = false := by
  rw [shiftLine]
  split
  · exact free
  · exact fun char member => (List.mem_append.1 member).elim (spaceFree char) (free char)

theorem isBlankLine_of_indentPieces (nonempty : space ≠ []) {text : List Char}
    (same : indentPieces space text = text) : isBlankLine text = true := by
  have onFront {front : List Char} (isSame : shiftLine space front = front) :
      isBlankLine front = true := by
    by_contra filled
    rw [shiftLine, if_neg filled] at isSame
    exact nonempty (List.append_left_eq_self.1 isSame)
  induction text using induction_breaks with
  | unbroken text free =>
    rw [indentPieces_unbroken free] at same
    exact onFront same
  | broken front char rest free isBreak inductionHypothesis =>
    rw [indentPieces_break free isBreak] at same
    obtain ⟨isSame, behind⟩ :=
      append_break_inj (free_shiftLine spaceFree free) free isBreak isBreak same
    have onRest := inductionHypothesis (List.cons.inj behind).2
    rw [isBlankLine_append, onFront isSame, isBlankLine_break isBreak, onRest]
    rfl

/-- A text that something was put in front of, and nothing else was, has only blanks behind its
first line boundary. -/
theorem blankBehindBreaks_of_indentPieces (nonempty : space ≠ []) {text before : List Char}
    (free : ∀ char ∈ before, isLineBreak char = false)
    (same : indentPieces space text = before ++ text) : BlankBehindBreaks text := by
  induction text using induction_breaks with
  | unbroken text unbroken =>
    rintro front char rest rfl isBreak
    exact absurd (isBreak.symm.trans (unbroken char (by simp))) Bool.noConfusion
  | broken front char rest unbroken isBreak _ =>
    rw [blankBehindBreaks_break_iff unbroken isBreak]
    rw [indentPieces_break unbroken isBreak, ← List.append_assoc] at same
    have isFree : ∀ char ∈ before ++ front, isLineBreak char = false :=
      fun char member => (List.mem_append.1 member).elim (free char) (unbroken char)
    obtain ⟨_, behind⟩ :=
      append_break_inj (free_shiftLine spaceFree unbroken) isFree isBreak isBreak same
    exact isBlankLine_of_indentPieces spaceFree nonempty (List.cons.inj behind).2

end Margin

theorem indentPieces_blank {text : List Char} (nothing : isBlankLine text = true) :
    indentPieces space text = text := by
  induction text using induction_breaks with
  | unbroken text free => rw [indentPieces_unbroken free, shiftLine_blank nothing]
  | broken front char rest free isBreak inductionHypothesis =>
    rw [isBlankLine_append, isBlankLine_break isBreak, Bool.and_eq_true] at nothing
    rw [indentPieces_break free isBreak, shiftLine_blank nothing.1, inductionHypothesis nothing.2]

theorem indentPieces_eq_shiftLine {text : List Char} (blank : BlankBehindBreaks text) :
    indentPieces space text = shiftLine space text := by
  induction text using induction_breaks with
  | unbroken text free => exact indentPieces_unbroken free
  | broken front char rest free isBreak _ =>
    have nothing := (blankBehindBreaks_break_iff free isBreak).1 blank
    rw [indentPieces_break free isBreak, indentPieces_blank nothing,
      shiftLine_append ((isBlankLine_break isBreak rest).trans nothing)]

/-- A line comes out behind one margin exactly if nothing but blanks stands behind a line boundary
in it. -/
theorem indentPieces_eq_shiftLine_iff (spaceFree : ∀ char ∈ space, isLineBreak char = false)
    (nonempty : space ≠ []) (line : List Char) :
    indentPieces space line = shiftLine space line ↔ BlankBehindBreaks line := by
  refine ⟨fun same => ?_, indentPieces_eq_shiftLine⟩
  rw [shiftLine] at same
  split at same
  · have nothingBefore : indentPieces space line = [] ++ line := same
    exact blankBehindBreaks_of_indentPieces spaceFree nonempty (by simp) nothingBefore
  · exact blankBehindBreaks_of_indentPieces spaceFree nonempty spaceFree same

/-! ### Carriage returns -/

theorem count_unifyBreaks_le (text : List Char) :
    (unifyBreaks text).count '\r' ≤ text.count '\r' := by
  fun_induction unifyBreaks text with
  | case1 => exact le_refl _
  | case2 rest inductionHypothesis =>
    simp only [List.count_cons]
    omega
  | case3 char rest _ inductionHypothesis =>
    simp only [List.count_cons]
    omega

/-- A carriage return before a line feed is lost. -/
theorem count_unifyBreaks_lt {text : List Char} (isIn : ['\r', '\n'] <:+: text) :
    (unifyBreaks text).count '\r' < text.count '\r' := by
  fun_induction unifyBreaks text with
  | case1 => exact absurd isIn (by decide)
  | case2 rest _ =>
    have atMost := count_unifyBreaks_le rest
    rw [List.count_cons_of_ne (by decide), List.count_cons_self, List.count_cons_of_ne (by decide)]
    exact Nat.lt_succ_of_le atMost
  | case3 char rest notPair inductionHypothesis =>
    rcases List.infix_cons_iff.1 isIn with begins | inRest
    · obtain ⟨rfl, isNext⟩ := List.cons_prefix_cons.1 begins
      obtain ⟨after, rfl⟩ := isNext
      exact absurd rfl (notPair after rfl)
    · have less := inductionHypothesis inRest
      rw [List.count_cons, List.count_cons]
      exact Nat.add_lt_add_right less _

theorem count_joinLines (lines : List (List Char)) :
    (joinLines lines).count '\r' = lines.flatten.count '\r' := by
  induction lines with
  | nil => rfl
  | cons line rest inductionHypothesis =>
    by_cases alone : rest = []
    · subst alone
      rw [joinLines_singleton, List.flatten_singleton]
    · rw [joinLines_cons line alone, List.flatten_cons, List.count_append, List.count_append,
        List.count_cons_of_ne (by decide), inductionHypothesis]

theorem flatten_dedentLines_sublist (lines : List (List Char)) :
    (dedentLines lines).flatten.Sublist lines.flatten := by
  have onLines (width : Nat) (block : List (List Char)) :
      (block.map (cutMargin width)).flatten.Sublist block.flatten := by
    induction block with
    | nil => exact List.Sublist.refl _
    | cons line rest inductionHypothesis =>
      rw [List.map_cons, List.flatten_cons, List.flatten_cons]
      refine List.Sublist.append ?_ inductionHypothesis
      rw [cutMargin]
      split
      · exact List.nil_sublist line
      · exact List.drop_sublist width line
  obtain ⟨before, after, whole, _⟩ := (isBlock_trimBlankLines lines).within
  refine (onLines _ _).trans ?_
  conv_rhs => rw [whole]
  rw [List.flatten_append, List.flatten_append]
  exact (List.sublist_append_right _ _).trans (List.sublist_append_left _ _)

/-- Removing the margin brings no carriage return back. -/
theorem count_dedent_le (text : String) :
    (dedent text).toList.count '\r' ≤ (unifyBreaks text.toList).count '\r' := by
  rw [dedent, String.toList_ofList]
  calc (dropEndWhile isBlank (joinLines (dedentLines (sourceLines text)))).count '\r'
      ≤ (joinLines (dedentLines (sourceLines text))).count '\r' :=
        (List.rdropWhile_prefix isBlank _).sublist.count_le '\r'
    _ = (dedentLines (sourceLines text)).flatten.count '\r' := count_joinLines _
    _ ≤ (sourceLines text).flatten.count '\r' :=
        (flatten_dedentLines_sublist _).count_le '\r'
    _ = (joinLines (sourceLines text)).count '\r' := (count_joinLines _).symm
    _ = (unifyBreaks text.toList).count '\r' := by rw [sourceLines, joinLines_splitLines]

/-- A text that comes back from behind a margin has no carriage return before a line feed. -/
theorem not_return_of_dedent_indent {margin text : String} (noReturn : ¬ '\r' ∈ margin.toList)
    (back : dedent (indent margin text) = text) : ¬ ['\r', '\n'] <:+: text.toList := by
  rintro ⟨front, rest, whole⟩
  have isIn : ['\r', '\n'] <:+: (indent margin text).toList := by
    have parted : text.toList = front ++ '\r' :: '\n' :: rest := by
      rw [← whole]
      simp
    have onFeed : indentPieces margin.toList ('\n' :: rest) =
        '\n' :: indentPieces margin.toList rest := indentPieces_append (by decide) [] rest
    refine ⟨indentPieces margin.toList front, indentPieces margin.toList rest, ?_⟩
    rw [toList_indent, parted, indentPieces_append (by decide), onFeed]
    simp [indentPieces]
  have less := count_unifyBreaks_lt isIn
  have atMost := count_dedent_le (indent margin text)
  rw [toList_indent, count_indentPieces noReturn] at less
  rw [back, toList_indent] at atMost
  omega

/-! ### Removing the margin again -/

/-- If indented lines are what they were after their margin is removed, each has lost a margin. -/
theorem losesMargin_of_isDedented {space : List Char} {lines : List (List Char)}
    (isDedented : IsDedented (lines.map (indentPieces space)) lines) :
    ∃ width, ∀ line ∈ lines, LosesMargin width (indentPieces space line) line := by
  obtain ⟨block, width, front, last, isBlock, _, loses, isRest⟩ := isDedented
  have sameLength : block.length = (lines.map (indentPieces space)).length := by
    rw [loses.length_eq, List.length_map, isRest, List.length_append, List.length_append,
      List.length_singleton, List.length_singleton]
  have isWhole := isBlock.eq_of_length sameLength
  -- Nothing is trimmed from the last line, which ends as it ended before.
  have untrimmed : dropEndWhile isBlank last = last := by
    have atEnd := List.forall₂_drop_append block front [last] loses
    rw [isWhole, isRest, ← List.map_drop, List.drop_left, List.map_singleton,
      List.forall₂_cons] at atEnd
    obtain ⟨before, whole⟩ := atEnd.1.isSuffix
    refine dropEndWhile_eq_self fun char isLast => ?_
    have nonempty : last ≠ [] := fun isEmpty => absurd (isEmpty ▸ isLast) (by simp)
    rw [← List.getLast?_append_of_ne_nil before nonempty, whole, getLast?_indentPieces] at isLast
    exact getLast?_dropEndWhile isLast
  rw [untrimmed] at isRest
  rw [isWhole, ← isRest, List.forall₂_map_left_iff, List.forall₂_same] at loses
  exact ⟨width, loses⟩

theorem mem_indentPieces {space text : List Char} {char : Char}
    (member : char ∈ indentPieces space text) : char ∈ space ∨ char ∈ text := by
  obtain ⟨piece, isPiece, inPiece⟩ := List.mem_flatMap.1 member
  have inText : char ∈ piece → char ∈ text := fun isIn =>
    linesWithBreaks_flatten text ▸ List.mem_flatten.2 ⟨piece, isPiece, isIn⟩
  rw [shiftLine] at inPiece
  split at inPiece
  · exact .inr (inText inPiece)
  · exact (List.mem_append.1 inPiece).imp_right inText

section Body

variable {margin body : String} (isSpace : ∀ char ∈ margin.toList, isIndent char = true)

include isSpace

/-- Every line is indented for itself. -/
theorem splitLines_indent : splitLines (indent margin body).toList =
    (splitLines body.toList).map (indentPieces margin.toList) := by
  have nonempty : splitLines body.toList ≠ [] := List.splitOn_ne_nil '\n' body.toList
  have notFeed : ¬ '\n' ∈ margin.toList := fun isIn => absurd (isSpace _ isIn) (by decide)
  rw [toList_indent, ← joinLines_splitLines body.toList, indentPieces_joinLines nonempty,
    joinLines_splitLines, splitLines_joinLines (by simpa using nonempty)]
  intro indented member isFeed
  obtain ⟨line, isLine, rfl⟩ := List.mem_map.1 member
  exact (mem_indentPieces isFeed).elim notFeed (not_mem_of_mem_splitOn isLine)

theorem splitLines_indent_iff (nonempty : margin ≠ "") :
    splitLines (indent margin body).toList =
        (splitLines body.toList).map (shiftLine margin.toList) ↔
      ∀ line ∈ splitLines body.toList, BlankBehindBreaks line := by
  have spaceFree : ∀ char ∈ margin.toList, isLineBreak char = false :=
    fun char member => isLineBreak_of_isIndent (isSpace char member)
  rw [splitLines_indent isSpace, List.map_inj_left]
  exact forall₂_congr fun line _ =>
    indentPieces_eq_shiftLine_iff spaceFree (mt String.toList_eq_nil_iff.1 nonempty) line

theorem dedent_indent (isFlush : IsFlush (splitLines body.toList))
    (blank : ∀ line ∈ splitLines body.toList, BlankBehindBreaks line)
    (noReturn : ∀ line ∈ splitLines body.toList, line.getLast? ≠ some '\r') :
    dedent (indent margin body) = body := by
  have shifted : (splitLines body.toList).map (indentPieces margin.toList) =
      (splitLines body.toList).map (shiftLine margin.toList) :=
    List.map_congr_left fun line member => indentPieces_eq_shiftLine (blank line member)
  have back := isFlush.dedent_shift isSpace noReturn
  rwa [← shifted, ← splitLines_indent isSpace, joinLines_splitLines, joinLines_splitLines,
    String.ofList_toList, String.ofList_toList] at back

theorem sourceLines_indent
    (noReturn : ∀ line ∈ splitLines body.toList, line.getLast? ≠ some '\r') :
    sourceLines (indent margin body) =
      (splitLines body.toList).map (indentPieces margin.toList) := by
  have whole := joinLines_splitLines (indent margin body).toList
  have unbroken : ∀ line ∈ splitLines (indent margin body).toList, ¬ '\n' ∈ line :=
    fun line member => not_mem_of_mem_splitOn member
  rw [splitLines_indent isSpace] at whole unbroken
  rw [sourceLines, ← whole, unifyBreaks_joinLines unbroken, whole, splitLines_indent isSpace]
  intro indented member
  obtain ⟨line, isLine, rfl⟩ := List.mem_map.1 member
  rw [getLast?_indentPieces]
  exact noReturn line isLine

/-- A body only comes back if no line ends in a carriage return, and each differed by a margin. -/
theorem of_dedent_indent (nonempty : margin ≠ "") (isFlush : IsFlush (splitLines body.toList))
    (back : dedent (indent margin body) = body) :
    (∀ line ∈ splitLines body.toList, BlankBehindBreaks line) ∧
      ∀ line ∈ splitLines body.toList, line.getLast? ≠ some '\r' := by
  have single : ¬ ['\r', '\n'] <:+: joinLines (splitLines body.toList) := by
    rw [joinLines_splitLines]
    exact not_return_of_dedent_indent (fun isIn => absurd (isSpace _ isIn) (by decide)) back
  have noReturn := isFlush.not_return single
  refine ⟨fun line member => ?_, noReturn⟩
  have filled : ∃ line ∈ sourceLines (indent margin body), isBlankLine line = false := by
    refine exists_filled_of_dedent_ne fun isEmpty => ?_
    rw [back] at isEmpty
    rw [isEmpty] at isFlush
    exact absurd (isFlush.begins [] rfl) (by decide)
  have isDedented := isDedented_dedent filled
  rw [back, sourceLines_indent isSpace noReturn] at isDedented
  obtain ⟨width, loses⟩ := losesMargin_of_isDedented isDedented
  by_cases hasText : isBlankLine line = true
  · rw [isFlush.blank line member hasText]
    exact blankBehindBreaks_nil
  · have filledLine : isBlankLine line = false := by simpa using hasText
    obtain ⟨before, same, spaces⟩ := (loses line member).exists_margin filledLine
    have marginFree : ∀ char ∈ margin.toList, isLineBreak char = false :=
      fun char isIn => isLineBreak_of_isIndent (isSpace char isIn)
    have beforeFree : ∀ char ∈ before, isLineBreak char = false :=
      fun char isIn => isLineBreak_of_isIndent (isIndent_iff.2 (spaces char isIn))
    exact blankBehindBreaks_of_indentPieces marginFree (mt String.toList_eq_nil_iff.1 nonempty)
      beforeFree same

end Body

end Text

/-! ### The body in the application -/

/-- The body of a preview stands in the application between the opening and the closing lines,
behind a margin of eight spaces. The margin is all that its lines differ by, exactly if in each of
them only blanks stand behind a line boundary; and the body is back when the margin is removed,
exactly if no line ends in a carriage return either. -/
theorem hostApp_body (text : String) (modules : List String) (appModule : Option String)
    (testable : List String) :
    let body := dedent text
    let block := indent "        " body
    let imports := (hostModules appModule ["SwiftUI"] modules).map (hostImport testable)
    hostApp body modules appModule testable =
        hostOpening (String.join imports) ++ block ++ hostClosing ∧
      (splitLines block.toList = (splitLines body.toList).map (shiftLine "        ".toList) ↔
        ∀ line ∈ splitLines body.toList, BlankBehindBreaks line) ∧
      (dedent block = body ↔
        (∀ line ∈ splitLines body.toList, BlankBehindBreaks line) ∧
          ∀ line ∈ splitLines body.toList, line.getLast? ≠ some '\r') := by
  intro body block imports
  have isSpace : ∀ char ∈ "        ".toList, isIndent char = true :=
    List.all_eq_true.1 (by decide : "        ".toList.all isIndent = true)
  refine ⟨rfl, splitLines_indent_iff isSpace (by decide), ?_⟩
  by_cases isEmpty : dedent text = ""
  · have empty : body = "" := isEmpty
    have blank : ∀ line ∈ splitLines body.toList, line = [] := by
      rw [empty]
      exact fun line member => List.mem_singleton.1 member
    refine iff_of_true (by simp only [block, empty]; rfl)
      ⟨fun line member => ?_, fun line member => ?_⟩
    · rw [blank line member]
      exact blankBehindBreaks_nil
    · rw [blank line member]
      simp
  · have isFlush := isFlush_dedent (exists_filled_of_dedent_ne isEmpty)
    exact ⟨of_dedent_indent isSpace (by decide) isFlush,
      fun ⟨blank, noReturn⟩ => dedent_indent isSpace isFlush blank noReturn⟩

/-- A line separator in a string has the margin put behind it, so that the application shows another
text than the preview. -/
theorem hostApp_line_separator :
    dedent "Text(\"a\u2028b\")" = "Text(\"a\u2028b\")" ∧
      hostApp "Text(\"a\u2028b\")" [] none [] =
        hostOpening "" ++ "        Text(\"a\u2028        b\")" ++ hostClosing ∧
      dedent "        Text(\"a\u2028        b\")" ≠ "Text(\"a\u2028b\")" := by
  refine ⟨by decide +kernel, ?_, by decide +kernel⟩
  have block : indent "        " "Text(\"a\u2028b\")" = "        Text(\"a\u2028        b\")" := by
    decide +kernel
  rw [← block]
  rfl

end SwiftSlice

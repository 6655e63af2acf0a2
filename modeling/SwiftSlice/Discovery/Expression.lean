/-
Regular expressions, as far as ignore rules need them: single characters and sets,
repetition of these, groups, alternatives, options, and the two ends of the text.
An expression is read from its written form, which can fail, and is then looked
for anywhere in a text.
-/

import SwiftSlice.Discovery.Wildcard

namespace SwiftSlice

/-- A regular expression. -/
inductive Expression
  | empty
  | start
  | finish
  | one (set : CharSet)
  | many (set : CharSet)
  | next (first second : Expression)
  | either (first second : Expression)
  | optional (body : Expression)
deriving DecidableEq, Repr

namespace Expression

/-! ### Matching -/

/-- Whether an expression leads from what is left of a text to a place where a property holds;
`length` is the length of the whole text. The finish lies at the end, or before a line feed that
ends the text. -/
def leadsTo (length : Nat) : Expression → (List Char → Bool) → List Char → Bool
  | .empty, holds => holds
  | .start, holds => fun rest => decide (rest.length = length) && holds rest
  | .finish, holds => fun rest => (rest = [] || rest = ['\n']) && holds rest
  | .one set, holds => set.holdsBehindOne holds
  | .many set, holds => set.holdsBehindRun holds
  | .next first second, holds => first.leadsTo length (second.leadsTo length holds)
  | .either first second, holds => fun rest =>
    first.leadsTo length holds rest || second.leadsTo length holds rest
  | .optional body, holds => fun rest => body.leadsTo length holds rest || holds rest

/-- Keeps the mark of the whole text. -/
def keepStart : List Bool → List Bool
  | [] => []
  | mark :: later => mark :: later.map fun _ => false

/-- Keeps the mark of the empty rest, and that of a line feed that ends the text. -/
def keepFinish : List Char → List Bool → List Bool
  | char :: text, mark :: later =>
    (mark && text.isEmpty && char == '\n') :: keepFinish text later
  | _, later => later

/-- Marks the rests of a text from which an expression leads to a marked one. -/
def markBefore (text : List Char) : Expression → List Bool → List Bool
  | .empty, later => later
  | .start, later => keepStart later
  | .finish, later => keepFinish text later
  | .one set, later => set.markBehindOne text later
  | .many set, later => set.markBehindRun text later
  | .next first second, later => first.markBefore text (second.markBefore text later)
  | .either first second, later =>
    List.zipWith or (first.markBefore text later) (second.markBefore text later)
  | .optional body, later => List.zipWith or (body.markBefore text later) later

/-- No rest of a text is as long as a longer text. -/
theorem marks_start_of_lt (length : Nat) (holds : List Char → Bool) (text : List Char)
    (shorter : text.length < length) :
    marks (fun rest => decide (rest.length = length) && holds rest) text =
      (marks holds text).map fun _ => false := by
  induction text with
  | nil =>
    have : ([] : List Char).length ≠ length := Nat.ne_of_lt shorter
    simp only [marks, this, decide_false, Bool.false_and, List.map_cons, List.map_nil]
  | cons char rest inductionHypothesis =>
    have : rest.length < length := Nat.lt_of_succ_lt shorter
    simp only [marks, inductionHypothesis this, List.map_cons, Nat.ne_of_lt shorter,
      decide_false, Bool.false_and]

theorem keepStart_marks (holds : List Char → Bool) (text : List Char) :
    keepStart (marks holds text) =
      marks (fun rest => decide (rest.length = text.length) && holds rest) text := by
  cases text with
  | nil => simp [marks, keepStart]
  | cons char rest =>
    have := marks_start_of_lt (char :: rest).length holds rest (Nat.lt_succ_self _)
    simp only [marks, keepStart, this, decide_true, Bool.true_and]

theorem keepFinish_marks (holds : List Char → Bool) (text : List Char) :
    keepFinish text (marks holds text) =
      marks (fun rest => (rest = [] || rest = ['\n']) && holds rest) text := by
  induction text with
  | nil => simp [marks, keepFinish]
  | cons char rest inductionHypothesis =>
    simp only [marks, keepFinish, inductionHypothesis, List.cons.injEq, and_true]
    cases rest <;> simp [Bool.and_comm, Bool.beq_eq_decide_eq]

theorem markBefore_marks (text : List Char) (expression : Expression)
    (holds : List Char → Bool) :
    expression.markBefore text (marks holds text) =
      marks (expression.leadsTo text.length holds) text := by
  induction expression generalizing holds with
  | empty => rfl
  | start => exact keepStart_marks holds text
  | finish => exact keepFinish_marks holds text
  | one set => exact set.markBehindOne_marks holds text
  | many set => exact set.markBehindRun_marks holds text
  | next first second ofFirst ofSecond => rw [markBefore, ofSecond, ofFirst, leadsTo]
  | either first second ofFirst ofSecond =>
    rw [markBefore, ofFirst, ofSecond, zipWith_or_marks, leadsTo]
  | optional body ofBody => rw [markBefore, ofBody, zipWith_or_marks, leadsTo]

/-- Whether an expression stands anywhere in a text. -/
def search (expression : Expression) (text : String) : Bool :=
  (expression.markBefore text.toList (marks (fun _ => true) text.toList)).any id

/-! ### Reading sets -/

/-- One character of a set, with the backslash in front of it taken away. -/
def setChar? : List Char → Option (Char × List Char)
  | '\\' :: char :: rest => some (char, rest)
  | '\\' :: [] => none
  | char :: rest => some (char, rest)
  | [] => none

/-- Reads the members of a set up to the bracket that closes it. A bracket right at the start does
not close it, a range sign right before the closing bracket stands for itself, and a range whose
ends are reversed is an error. -/
def setMembers? (fuel : Nat) (isFirst : Bool) (text : List Char) :
    Option (List (Char × Char) × List Char) :=
  match fuel with
  | 0 => none
  | fuel + 1 =>
    match isFirst, text with
    | false, ']' :: rest => some ([], rest)
    | _, _ =>
      (setChar? text).bind fun (low, rest) =>
        match rest with
        | '-' :: ']' :: after => some ([(low, low), ('-', '-')], after)
        | '-' :: after =>
          (setChar? after).bind fun (high, after) =>
            if high < low then none
            else (setMembers? fuel false after).map fun pair => ((low, high) :: pair.1, pair.2)
        | _ => (setMembers? fuel false rest).map fun pair => ((low, low) :: pair.1, pair.2)

/-- Reads a set behind its opening bracket. -/
def set? (text : List Char) : Option (CharSet × List Char) :=
  let isNegated := text.head? = some '^'
  (setMembers? (text.length + 1) true (if isNegated then text.drop 1 else text)).map fun pair =>
    (⟨isNegated, pair.1⟩, pair.2)

/-! ### Reading expressions -/

/-- Adds the repetition or option mark that follows an expression, if one does. -/
def marked? (expression : Expression) : List Char → Option (Expression × List Char)
  | '*' :: rest =>
    match expression with
    | .one set => if rest.head? = some '*' then none else some (.many set, rest)
    | _ => none
  | '?' :: rest => if rest.head? = some '*' then none else some (.optional expression, rest)
  | text => some (expression, text)

mutual

/-- Reads alternatives up to a closing parenthesis or the end. -/
def alternatives? (fuel : Nat) (text : List Char) : Option (Expression × List Char) :=
  match fuel with
  | 0 => none
  | fuel + 1 =>
    (sequence? fuel text).bind fun (first, rest) =>
      match rest with
      | '|' :: after =>
        (alternatives? fuel after).map fun (second, rest) => (.either first second, rest)
      | _ => some (first, rest)

/-- Reads a sequence up to a bar, a closing parenthesis or the end. -/
def sequence? (fuel : Nat) (text : List Char) : Option (Expression × List Char) :=
  match fuel with
  | 0 => none
  | fuel + 1 =>
    match text with
    | [] | '|' :: _ | ')' :: _ => some (.empty, text)
    | _ =>
      (atom? fuel text).bind fun (first, rest) =>
        (marked? first rest).bind fun (first, rest) =>
          (sequence? fuel rest).map fun (second, rest) => (.next first second, rest)

/-- Reads one part of a sequence. -/
def atom? (fuel : Nat) (text : List Char) : Option (Expression × List Char) :=
  match fuel with
  | 0 => none
  | fuel + 1 =>
    match text with
    | '(' :: rest =>
      (alternatives? fuel rest).bind fun (body, rest) =>
        match rest with
        | ')' :: after => some (body, after)
        | _ => none
    | '[' :: rest => (set? rest).map fun (set, rest) => (.one set, rest)
    | '\\' :: char :: rest => some (.one (CharSet.single char), rest)
    | '.' :: rest => some (.one (CharSet.except '\n'), rest)
    | '^' :: rest => some (.start, rest)
    | '$' :: rest => some (.finish, rest)
    | '*' :: _ | '?' :: _ | '\\' :: [] | [] => none
    | char :: rest => some (.one (CharSet.single char), rest)

end

/-- Reads a whole expression; each step of the reading takes a character or goes one level
deeper. -/
def parse? (text : List Char) : Option Expression :=
  match alternatives? (3 * text.length + 3) text with
  | some (expression, []) => some expression
  | _ => none

end Expression

end SwiftSlice

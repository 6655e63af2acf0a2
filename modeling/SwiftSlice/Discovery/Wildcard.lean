/-
Wildcard patterns over whole paths. A star stands for any characters, slashes
included, a question mark for one, and brackets for one of a set, which a leading
exclamation mark turns around. There are no escapes, and a bracket that is not
closed stands for itself.
-/

import SwiftSlice.Discovery.CharSet

namespace SwiftSlice

/-- Cuts what follows an opening bracket into the content of the set and what follows the closing
one. A bracket that closes stands for itself right at the start or behind an exclamation mark. -/
def bracketContent? (text : List Char) : Option (List Char × List Char) :=
  let negation := text.takeWhile (· == '!') |>.take 1
  let afterNegation := text.drop negation.length
  let bracket := afterNegation.takeWhile (· == ']') |>.take 1
  let afterBracket := afterNegation.drop bracket.length
  let content := afterBracket.takeWhile (· != ']')
  match afterBracket.drop content.length with
  | ']' :: rest => some (negation ++ bracket ++ content, rest)
  | _ => none

namespace Wildcard

/-- One piece of a pattern. -/
inductive Piece
  | anything
  | one (set : CharSet)
deriving DecidableEq, Repr

/-- Cuts the content of a set at its range signs. A sign makes a range if it has a character before
it, of which the first `skip` do not count, and at least two places behind the last range sign. -/
def chunks (skip : Nat) (done : List Char) : List Char → List (List Char)
  | [] => [done.reverse]
  | '-' :: rest =>
    if skip = 0 then done.reverse :: chunks 2 [] rest
    else chunks (skip - 1) ('-' :: done) rest
  | char :: rest => chunks (skip - 1) (char :: done) rest

/-- Joins a last chunk that is empty with the one before it, whose sign is then a plain one. -/
def settleLast : List (List Char) → List (List Char)
  | [chunk, []] => [chunk ++ ['-']]
  | chunk :: rest => chunk :: settleLast rest
  | [] => []

/-- Drops each range whose ends are reversed, together with its ends. -/
def dropReversed : List (List Char) → List (List Char)
  | [] => []
  | chunk :: rest =>
    match dropReversed rest with
    | next :: others =>
      match chunk.getLast?, next.head? with
      | some low, some high =>
        if high < low then (chunk.dropLast ++ next.drop 1) :: others else chunk :: next :: others
      | _, _ => chunk :: next :: others
    | [] => [chunk]

/-- The members of a set: the characters of the chunks, and the ranges between them. A range sign
with nothing before it stands for itself. -/
def members : List (List Char) → List (Char × Char)
  | [] => []
  | [chunk] => chunk.map fun char => (char, char)
  | chunk :: next :: rest =>
    let between := match chunk.getLast?, next.head? with
      | some low, some high => [(low, high)]
      | _, _ => [('-', '-')]
    (chunk.map fun char => (char, char)) ++ between ++ members (next :: rest)

/-- The set that the content of brackets stands for. -/
def setOf (content : List Char) : CharSet :=
  let skip := if content.head? = some '!' then 2 else 1
  match dropReversed (settleLast (chunks skip [] content)) with
  | ('!' :: chunk) :: rest => ⟨true, members (chunk :: rest)⟩
  | all => ⟨false, members all⟩

/-- The pieces of a pattern. -/
def pieces (fuel : Nat) (pattern : List Char) : List Piece :=
  match fuel, pattern with
  | 0, _ => []
  | _, [] => []
  | fuel + 1, char :: rest =>
    if char == '*' then .anything :: pieces fuel rest
    else if char == '?' then .one CharSet.everything :: pieces fuel rest
    else if char == '[' then
      match bracketContent? rest with
      | some (content, after) => .one (setOf content) :: pieces fuel after
      | none => .one (CharSet.single '[') :: pieces fuel rest
    else .one (CharSet.single char) :: pieces fuel rest

/-- Whether some pieces stand for the whole of a text. -/
def standFor : List Piece → List Char → Bool
  | [] => List.isEmpty
  | .anything :: rest => CharSet.everything.holdsBehindRun (standFor rest)
  | .one set :: rest => set.holdsBehindOne (standFor rest)

/-- Marks the rests of a text that some pieces stand for. -/
def marksOf (text : List Char) : List Piece → List Bool
  | [] => marks List.isEmpty text
  | .anything :: rest => CharSet.everything.markBehindRun text (marksOf text rest)
  | .one set :: rest => set.markBehindOne text (marksOf text rest)

theorem marksOf_eq_marks (text : List Char) (pieces : List Piece) :
    marksOf text pieces = marks (standFor pieces) text := by
  induction pieces with
  | nil => rfl
  | cons piece rest inductionHypothesis =>
    cases piece with
    | anything => rw [marksOf, inductionHypothesis, CharSet.markBehindRun_marks, standFor]
    | one set => rw [marksOf, inductionHypothesis, CharSet.markBehindOne_marks, standFor]

end Wildcard

/-- Whether a pattern stands for the whole of a text. -/
def matchesWildcard (pattern text : String) : Bool :=
  (Wildcard.marksOf text.toList (Wildcard.pieces (pattern.length + 1) pattern.toList)).headD false

theorem matchesWildcard_eq_standFor (pattern text : String) :
    matchesWildcard pattern text =
      Wildcard.standFor (Wildcard.pieces (pattern.length + 1) pattern.toList) text.toList := by
  rw [matchesWildcard, Wildcard.marksOf_eq_marks, headD_marks]

end SwiftSlice

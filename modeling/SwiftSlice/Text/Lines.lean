/-
Lines of a text. Two notions are needed. Source text is cut at line feeds only.
A text that is to be indented is cut after every line boundary, and there a
carriage return followed by a line feed is one boundary; the boundaries stay at
the end of their lines, so that joining the lines gives the text back. A block of
code loses its margin when the blank lines around it go, and all its lines lose
the width of the smallest indentation of a line that is not blank; a space and a
tab are one column each.
-/

import SwiftSlice.Text.Blank

namespace SwiftSlice.Text

/-- The characters that end a line when a text is indented. -/
def isLineBreak (char : Char) : Bool :=
  let code := char.toNat
  (10 ≤ code && code ≤ 13) || (28 ≤ code && code ≤ 30) || code == 0x85 ||
    code == 0x2028 || code == 0x2029

/-- Puts one more character in front of the first line. -/
def consLine (char : Char) : List (List Char) → List (List Char)
  | [] => [[char]]
  | line :: lines => (char :: line) :: lines

/-- Cuts a text after each of its line boundaries. -/
def linesWithBreaks : List Char → List (List Char)
  | [] => []
  | '\r' :: '\n' :: rest => ['\r', '\n'] :: linesWithBreaks rest
  | char :: rest =>
    if isLineBreak char then [char] :: linesWithBreaks rest
    else consLine char (linesWithBreaks rest)

/-- Cuts a text at its line feeds, which are dropped; there is always a first line. -/
def splitLines (text : List Char) : List (List Char) :=
  text.splitOn '\n'

/-- Joins lines with line feeds. -/
def joinLines (lines : List (List Char)) : List Char :=
  ['\n'].intercalate lines

/-- Turns each carriage return before a line feed into nothing. -/
def unifyBreaks : List Char → List Char
  | [] => []
  | '\r' :: '\n' :: rest => '\n' :: unifyBreaks rest
  | char :: rest => char :: unifyBreaks rest

/-- Turns each line boundary of the kinds CR LF and CR into a line feed. -/
def universalBreaks : List Char → List Char
  | [] => []
  | '\r' :: '\n' :: rest => '\n' :: universalBreaks rest
  | '\r' :: rest => '\n' :: universalBreaks rest
  | char :: rest => char :: universalBreaks rest

/-- Puts the margin in front of every line that is not blank. -/
def indent (margin : String) (text : String) : String :=
  String.ofList <| (linesWithBreaks text.toList).flatMap fun line =>
    if isBlankLine line then line else margin.toList ++ line

theorem consLine_flatten (char : Char) (lines : List (List Char)) :
    (consLine char lines).flatten = char :: lines.flatten := by
  cases lines <;> rfl

/-- Cutting a text into lines loses nothing. -/
theorem linesWithBreaks_flatten (text : List Char) : (linesWithBreaks text).flatten = text := by
  fun_induction linesWithBreaks text with
  | case1 => rfl
  | case2 rest inductionHypothesis => simp [inductionHypothesis]
  | case3 char rest notPair isBreak inductionHypothesis => simp [inductionHypothesis]
  | case4 char rest notPair notBreak inductionHypothesis =>
    rw [consLine_flatten, inductionHypothesis]

/-! ### Margins -/

/-- The number of spaces and tabs that a line starts with. -/
def indentWidth (line : List Char) : Nat :=
  (line.takeWhile isIndent).length

/-- The lines from the first to the last one that is not blank. -/
def trimBlankLines (lines : List (List Char)) : List (List Char) :=
  trimWhile isBlankLine lines

/-- The smallest indentation of the lines that are not blank. -/
def margin (lines : List (List Char)) : Nat :=
  (((lines.filter (!isBlankLine ·)).map indentWidth).min?).getD 0

/-- A line without its margin; a blank line without anything. -/
def cutMargin (width : Nat) (line : List Char) : List Char :=
  if isBlankLine line then [] else line.drop width

/-- The lines of a block without its margin. -/
def dedentLines (lines : List (List Char)) : List (List Char) :=
  let block := trimBlankLines lines
  block.map (cutMargin (margin block))

/-- A block of code without its margin and without blanks at its end. -/
def dedent (text : String) : String :=
  String.ofList <| dropEndWhile isBlank <| joinLines <| dedentLines <|
    splitLines (unifyBreaks text.toList)

end SwiftSlice.Text

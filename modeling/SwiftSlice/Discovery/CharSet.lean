/-
Sets of characters, and the places of a text that they lead to. A place is known by
what is left of the text behind it, so a property of places is a list of marks, one
for each rest of the text. Walking the marks from the end to the start decides a
pattern in one pass for each of its parts.
-/

namespace SwiftSlice

/-- A set of characters, as ranges with both ends included; a negated set holds all others. -/
structure CharSet where
  isNegated : Bool
  ranges : List (Char × Char)
deriving DecidableEq, Repr

namespace CharSet

def contains (set : CharSet) (char : Char) : Bool :=
  (set.ranges.any fun range => range.1 ≤ char && char ≤ range.2) != set.isNegated

/-- The set with one member. -/
def single (char : Char) : CharSet :=
  ⟨false, [(char, char)]⟩

/-- The set of all characters. -/
def everything : CharSet :=
  ⟨true, []⟩

/-- The set of all characters but one. -/
def except (char : Char) : CharSet :=
  ⟨true, [(char, char)]⟩

/-- Whether a text begins with a character of a set and a property holds behind it. -/
def holdsBehindOne (set : CharSet) (holds : List Char → Bool) : List Char → Bool
  | [] => false
  | char :: rest => set.contains char && holds rest

/-- Whether a property holds behind some characters of a set, from none to as many as there are. -/
def holdsBehindRun (set : CharSet) (holds : List Char → Bool) : List Char → Bool
  | [] => holds []
  | char :: rest =>
    holds (char :: rest) || (set.contains char && set.holdsBehindRun holds rest)

end CharSet

/-! ### Marks -/

/-- For each rest of a text, from the whole of it to the empty one, whether a property holds. -/
def marks (holds : List Char → Bool) : List Char → List Bool
  | [] => [holds []]
  | char :: rest => holds (char :: rest) :: marks holds rest

theorem headD_marks (holds : List Char → Bool) (text : List Char) :
    (marks holds text).headD false = holds text := by
  cases text <;> rfl

/-- Marks two properties together. -/
theorem zipWith_or_marks (first second : List Char → Bool) (text : List Char) :
    List.zipWith or (marks first text) (marks second text) =
      marks (fun rest => first rest || second rest) text := by
  induction text with
  | nil => rfl
  | cons char rest inductionHypothesis => simp [marks, inductionHypothesis]

namespace CharSet

/-- Marks the rests of a text that begin with a character of a set and are marked behind it. -/
def markBehindOne (set : CharSet) : List Char → List Bool → List Bool
  | char :: text, _ :: later =>
    (set.contains char && later.headD false) :: set.markBehindOne text later
  | _, _ => [false]

theorem markBehindOne_marks (set : CharSet) (holds : List Char → Bool) (text : List Char) :
    set.markBehindOne text (marks holds text) = marks (set.holdsBehindOne holds) text := by
  induction text with
  | nil => rfl
  | cons char rest inductionHypothesis =>
    simp only [marks, markBehindOne, holdsBehindOne, inductionHypothesis, headD_marks]

/-- Marks the rests of a text that are marked behind some characters of a set. -/
def markBehindRun (set : CharSet) : List Char → List Bool → List Bool
  | char :: text, mark :: later =>
    let behind := set.markBehindRun text later
    (mark || (set.contains char && behind.headD false)) :: behind
  | _, later => later

theorem markBehindRun_marks (set : CharSet) (holds : List Char → Bool) (text : List Char) :
    set.markBehindRun text (marks holds text) = marks (set.holdsBehindRun holds) text := by
  induction text with
  | nil => rfl
  | cons char rest inductionHypothesis =>
    simp only [marks, markBehindRun, holdsBehindRun, inductionHypothesis, headD_marks]

end CharSet

end SwiftSlice

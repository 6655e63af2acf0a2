/-
Checking plain data against the shape that is asked for. A check either gives the
value or the list of everything that is wrong: checks are combined so that no
error hides another. Booleans and integers are also taken from texts and numbers
that stand for one.
-/

import SwiftSlice.Data.Basic
import SwiftSlice.Failure
import SwiftSlice.NameSet
import SwiftSlice.Text.Blank

namespace SwiftSlice

open Text

/-- The outcome of a check. -/
inductive Checked (α : Type)
  | accepted (value : α)
  | refused (errors : List FieldError)
deriving DecidableEq, Repr

namespace Checked

/-- Combines two checks and keeps the errors of both. -/
def seq (first : Checked (α → β)) (second : Checked α) : Checked β :=
  match first, second with
  | .accepted function, .accepted value => .accepted (function value)
  | .accepted _, .refused errors => .refused errors
  | .refused errors, .accepted _ => .refused errors
  | .refused errors, .refused others => .refused (errors ++ others)

instance : Applicative Checked where
  pure := .accepted
  seq first second := first.seq (second ())

/-- Refuses a value. -/
def refuse (problem : Problem) : Checked α :=
  .refused [⟨[], problem⟩]

/-- Puts a step in front of the way to every error. -/
def under (step : FieldStep) : Checked α → Checked α
  | .accepted value => .accepted value
  | .refused errors => .refused (errors.map (FieldError.under step))

/-- The outcome of a check as an ordinary result. -/
def toExcept : Checked α → Except Failure α
  | .accepted value => .ok value
  | .refused errors => .error (.invalidData (.fields errors))

end Checked

namespace Data

/-! ### Single values -/

def asString : Data → Checked String
  | .string text => .accepted text
  | _ => Checked.refuse .notString

/-- The texts that stand for a truth value, in small letters. -/
def boolTexts : List (String × Bool) :=
  [("0", false), ("off", false), ("f", false), ("false", false), ("n", false), ("no", false),
    ("1", true), ("on", true), ("t", true), ("true", true), ("y", true), ("yes", true)]

/-- The truth value of a number. -/
def boolOfInt? (value : Int) : Option Bool :=
  if value = 0 then some false else if value = 1 then some true else none

/-- Holds of the integers that fit into a machine word. -/
def isWordSized (value : Int) : Bool :=
  -0x8000000000000000 ≤ value && value < 0x8000000000000000

/-- The integer that a number with a fraction is equal to, if it lies between the ends of a machine
word. -/
def wordOfFloat? (value : Binary64) : Option Int :=
  value.toInt?.filter fun whole => isWordSized whole && whole != -0x8000000000000000

/-- The truth value that a value stands for, if it does; the outer level tells whether values of
this sort can. -/
def bool? : Data → Option (Option Bool)
  | .bool value => some (some value)
  | .string text => some (boolTexts.lookup (String.ofList (text.toList.map Char.toLower)))
  | .int value => if isWordSized value then some (boolOfInt? value) else none
  | .float value => (wordOfFloat? value).map boolOfInt?
  | _ => none

def asBool (data : Data) : Checked Bool :=
  match data.bool? with
  | some (some value) => .accepted value
  | some none => Checked.refuse .unreadableBool
  | none => Checked.refuse .notBool

/-! ### Integers in texts -/

/-- Blanks that may stand around a number: all but the four separators. -/
def isMargin (char : Char) : Bool :=
  isBlank char && !(28 ≤ char.toNat && char.toNat ≤ 31)

/-- The sign of a negative number, and what follows it. -/
def minusSign (text : List Char) : Bool × List Char :=
  match text with
  | '-' :: rest => (true, rest)
  | _ => (false, text)

/-- The integer that a text writes in the plain way: digits without a zero in front of others, and
a sign if it is negative. -/
def plainInteger? (text : List Char) : Option Int :=
  let (isNegative, digits) := minusSign text
  let isPlain := !digits.isEmpty && digits.all Char.isDigit && digits.length ≤ digitLimit &&
    (digits.head? != some '0' || digits.length == 1)
  if isPlain then
    let value : Int := digits.foldl (fun value digit => value * 10 + (digit.toNat - 48)) 0
    some (if isNegative then -value else value)
  else none

/-- Holds of a text that starts like a plain integer with too many digits. -/
def isOversized (text : List Char) : Bool :=
  let digits := (minusSign text).2.takeWhile Char.isDigit
  digits.head? != some '0' && digitLimit < digits.length

/-- What is left of a number behind the zero `last`: other zeros and underscores are passed over,
and the last of them stays in front of a point or at the end. A sign may follow zeros. -/
def afterZeros? (last : Char) : List Char → Option (List Char)
  | [] => some [last]
  | char :: rest =>
    if char == '0' || char == '_' then afterZeros? char rest
    else if char.isDigit || char == '-' then some (char :: rest)
    else if char == '.' then some (last :: char :: rest)
    else none

/-- Drops the zeros in front of a number, which has to start with a digit. -/
def dropZeros? (text : List Char) : Option (List Char) :=
  match text with
  | '0' :: rest => afterZeros? '0' rest
  | char :: _ => if char.isDigit then some text else none
  | [] => none

/-- Drops a fraction of nothing but zeros. -/
def dropFraction (text : List Char) : List Char :=
  let whole := text.takeWhile (· != '.')
  match text.drop whole.length with
  | '.' :: '0' :: zeros => if zeros.all (· == '0') then whole else text
  | _ => text

/-- Drops the underscores that stand one by one inside of a number. -/
def dropUnderscores (text : List Char) : List Char :=
  let isGrouped := text.head? != some '_' && text.getLast? != some '_' &&
    (text.zip (text.drop 1)).all fun pair => pair != ('_', '_')
  if isGrouped then text.filter (· != '_') else text

/-- Brings a text closer to the plain way to write an integer. -/
def tidyInteger? (text : List Char) : Option (List Char) :=
  let unzeroed := match trimWhile isMargin text with
    | '+' :: '-' :: _ => none
    | '+' :: rest => dropZeros? rest
    | '-' :: rest => (dropZeros? rest).map ('-' :: ·)
    | rest => dropZeros? rest
  unzeroed.map fun number => dropUnderscores (dropFraction number)

/-- The integer that a text stands for. Only a text that is plain from the start can have too many
digits; any other is not an integer then. -/
def integerOfText (text : List Char) : Checked Int :=
  match plainInteger? text with
  | some value => .accepted value
  | none =>
    if isOversized text then Checked.refuse .oversizedInt
    else
      match (tidyInteger? text).bind plainInteger? with
      | some value => .accepted value
      | none => Checked.refuse .unreadableInt

def asInt : Data → Checked Int
  | .int value => .accepted value
  | .bool value => .accepted (if value then 1 else 0)
  | .string text => integerOfText text.toList
  | .float value =>
    match value.toInt? with
    | some _ => (wordOfFloat? value).elim (Checked.refuse .oversizedInt) .accepted
    | none => Checked.refuse (if value.isFinite then .fractionalInt else .infiniteInt)
  | _ => Checked.refuse .notInt

/-- A text, or nothing. -/
def asOptionalString : Data → Checked (Option String)
  | .null => .accepted none
  | data => some <$> data.asString

/-! ### Lists and objects -/

/-- Checks every item, and reports an error with its position. -/
def checkItems (check : Data → Checked α) (position : Nat) : List Data → Checked (List α)
  | [] => .accepted []
  | item :: rest =>
    List.cons <$> (check item).under (.index position) <*> checkItems check (position + 1) rest

def asListOf (check : Data → Checked α) : Data → Checked (List α)
  | .list items => checkItems check 0 items
  | _ => Checked.refuse .notList

/-- A set of names, given as a list. -/
def asNameSet : Data → Checked NameSet
  | .list items => NameSet.ofList <$> checkItems asString 0 items
  | _ => Checked.refuse .notSet

/-- The value of a field that has to be there. -/
def required (fields : List (String × Data)) (name : String) (check : Data → Checked α) :
    Checked α :=
  match fields.lookup name with
  | some value => (check value).under (.field name)
  | none => .refused [⟨[.field name], .missing⟩]

/-- The value of a field that may be absent. -/
def optional (fields : List (String × Data)) (name : String) (default : α)
    (check : Data → Checked α) : Checked α :=
  match fields.lookup name with
  | some value => (check value).under (.field name)
  | none => .accepted default

/-- Checks the fields of an object. -/
def asObject (typeName : String) (check : List (String × Data) → Checked α) : Data → Checked α
  | .object fields => check fields
  | _ => Checked.refuse (.notObject typeName)

end Data

end SwiftSlice

/-
Numbers, dates and times in TOML. A reader takes the longest number, or the whole
date or time, that the text starts with, and leaves it to the caller to object to
what follows. A whole number in decimal digits may not have too many of them.
-/

import SwiftSlice.Data.Basic
import SwiftSlice.Toml.Text

namespace SwiftSlice.Toml

open Text

/-- Why a document is refused: it is not well formed, a whole number has too many digits, or its
values are nested too deeply. -/
inductive Fault
  | malformed
  | hugeInteger (digits : Nat)
  | tooDeep
deriving DecidableEq, Repr

/-- What a reader found; nothing means that the text is not well formed. -/
def orMalformed : Option α → Except Fault α
  | some value => .ok value
  | none => .error .malformed

/-! ### Digits -/

/-- Reads digits of a class, between which single underscores may stand; `afterDigit` tells whether
one may stand first. -/
def digitRun (isDigit : Char → Bool) (afterDigit : Bool) : List Char → List Char × List Char
  | [] => ([], [])
  | '_' :: next :: rest =>
    if afterDigit && isDigit next then
      let (digits, after) := digitRun isDigit true rest
      (next :: digits, after)
    else ([], '_' :: next :: rest)
  | char :: rest =>
    if isDigit char then
      let (digits, after) := digitRun isDigit true rest
      (char :: digits, after)
    else ([], char :: rest)

/-- The number that some digits write in a base. -/
def numberOf (base : Nat) (digits : List Char) : Nat :=
  digits.foldl (fun value digit => value * base + (hexDigit? digit).getD 0) 0

/-- A number with a base mark in front. -/
def basedNumber? (text : List Char) : Option (Nat × List Char) :=
  let read (base : Nat) (isDigit : Char → Bool) (rest : List Char) : Option (Nat × List Char) :=
    let (digits, after) := digitRun isDigit false rest
    if digits.isEmpty then none else some (numberOf base digits, after)
  match text with
  | '0' :: 'x' :: rest => read 16 (fun char => (hexDigit? char).isSome) rest
  | '0' :: 'b' :: rest => read 2 (fun char => char == '0' || char == '1') rest
  | '0' :: 'o' :: rest => read 8 (fun char => '0' ≤ char && char ≤ '7') rest
  | _ => none

/-! ### Decimal numbers -/

/-- The binary number nearest to `digits * 10 ^ exponent`. Far beyond the range of the format it is
infinite or zero. -/
def nearest (negative : Bool) (digits : List Char) (exponent : Int) : Binary64 :=
  let value := numberOf 10 digits
  let magnitude := exponent + (digits.dropWhile (· == '0')).length
  let float :=
    if value == 0 || magnitude < -400 then 0.0
    else if magnitude > 400 then 1.0 / 0.0
    else Float.ofScientific value (decide (exponent < 0)) exponent.natAbs
  ⟨(if negative then -float else float).toBits⟩

/-- The digits before the point: a zero, or digits that do not start with one. -/
def wholeDigits? (text : List Char) : Option (List Char × List Char) :=
  match text with
  | '0' :: rest => some (['0'], rest)
  | _ =>
    let (digits, rest) := digitRun Char.isDigit false text
    if digits.isEmpty then none else some (digits, rest)

/-- The digits behind a point, if there are some. -/
def fractionDigits (text : List Char) : List Char × List Char :=
  match text with
  | '.' :: rest =>
    let (digits, after) := digitRun Char.isDigit false rest
    if digits.isEmpty then ([], text) else (digits, after)
  | _ => ([], text)

/-- The sign in front of a number, negative or not. -/
def sign (text : List Char) : Bool × List Char :=
  match text with
  | '-' :: rest => (true, rest)
  | '+' :: rest => (false, rest)
  | _ => (false, text)

/-- The power of ten behind a number, if there is one. -/
def exponent? (text : List Char) : Option (Int × List Char) :=
  match text with
  | mark :: rest =>
    if mark == 'e' || mark == 'E' then
      let (negative, digitText) := sign rest
      let (digits, after) := digitRun Char.isDigit false digitText
      if digits.isEmpty then none
      else
        let value : Int := numberOf 10 digits
        some (if negative then -value else value, after)
    else none
  | [] => none

/-- A whole number, or a number with a fraction or a power of ten. -/
def decimalNumber? (text : List Char) : Option (Data × List Char) :=
  let (negative, unsigned) := sign text
  (wholeDigits? unsigned).map fun (whole, afterWhole) =>
    let (fraction, afterFraction) := fractionDigits afterWhole
    match exponent? afterFraction with
    | some (power, rest) =>
      (.float (nearest negative (whole ++ fraction) (power - fraction.length)), rest)
    | none =>
      if fraction.isEmpty then
        let value : Int := numberOf 10 whole
        (.int (if negative then -value else value), afterFraction)
      else (.float (nearest negative (whole ++ fraction) (-(fraction.length : Int))), afterFraction)

/-- Infinity or no number, with or without a sign. -/
def specialNumber? (text : List Char) : Option (Data × List Char) :=
  let (negative, unsigned) := sign text
  match unsigned with
  | 'i' :: 'n' :: 'f' :: rest =>
    some (.float ⟨if negative then 0xFFF0000000000000 else 0x7FF0000000000000⟩, rest)
  | 'n' :: 'a' :: 'n' :: rest => some (.float ⟨0x7FF8000000000000⟩, rest)
  | _ => none

/-- A number of any sort that starts here. -/
def anyNumber? (text : List Char) : Option (Data × List Char) :=
  match basedNumber? text with
  | some (value, rest) => some (.int value, rest)
  | none => decimalNumber? text <|> specialNumber? text

/-! ### Dates and times -/

/-- A number of exactly two digits in a range. -/
def twoDigits? (low high : Nat) (text : List Char) : Option (Nat × List Char) :=
  match text with
  | tens :: ones :: rest =>
    let value := numberOf 10 [tens, ones]
    if tens.isDigit && ones.isDigit && low ≤ value && value ≤ high then some (value, rest) else none
  | _ => none

/-- What follows a given character. -/
def after? (expected : Char) (text : List Char) : Option (List Char) :=
  match text with
  | char :: rest => if char == expected then some rest else none
  | [] => none

/-- The microseconds of a fraction of a second, of which six digits count. -/
def microseconds (text : List Char) : Nat × List Char :=
  match text with
  | '.' :: rest =>
    let digits := rest.takeWhile Char.isDigit
    if digits.isEmpty then (0, text)
    else
      let places := digits.take 6
      (numberOf 10 (places ++ List.replicate (6 - places.length) '0'), rest.drop digits.length)
  | _ => (0, text)

/-- A time of day. -/
def time? (text : List Char) : Option (Time × List Char) := do
  let (hour, rest) ← twoDigits? 0 23 text
  let (minute, rest) ← twoDigits? 0 59 (← after? ':' rest)
  let (second, rest) ← twoDigits? 0 59 (← after? ':' rest)
  let (fraction, rest) := microseconds rest
  return (⟨hour, minute, second, fraction⟩, rest)

/-- A date whose month and day are in range; whether the day exists is for the caller to tell. -/
def date? (text : List Char) : Option (Date × List Char) := do
  let year := text.take 4
  if year.length = 4 && year.all Char.isDigit then
    let (month, rest) ← twoDigits? 1 12 (← after? '-' (text.drop 4))
    let (day, rest) ← twoDigits? 1 31 (← after? '-' rest)
    return (⟨numberOf 10 year, month, day⟩, rest)
  else none

/-- An offset from universal time, in minutes. -/
def offset? (text : List Char) : Option (Int × List Char) :=
  match text with
  | 'Z' :: rest | 'z' :: rest => some (0, rest)
  | mark :: rest =>
    if mark == '+' || mark == '-' then do
      let (hour, rest) ← twoDigits? 0 23 rest
      let (minute, rest) ← twoDigits? 0 59 (← after? ':' rest)
      let minutes : Int := hour * 60 + minute
      return (if mark == '-' then -minutes else minutes, rest)
    else none
  | [] => none

/-- A date, with the time of day and the offset behind it if they are there. -/
def dateTime? (text : List Char) : Option (Moment × List Char) :=
  (date? text).map fun (date, rest) =>
    let timed := match rest with
      | mark :: after => if mark == 'T' || mark == 't' || mark == ' ' then time? after else none
      | [] => none
    match timed with
    | none => (.day date, rest)
    | some (time, rest) =>
      match offset? rest with
      | some (minutes, rest) => (.zoned date time minutes, rest)
      | none => (.dayClock date time, rest)

/-- The day of a moment that has one. -/
def dayOf? : Moment → Option Date
  | .day date | .dayClock date _ | .zoned date _ _ => some date
  | .clock _ => none

/-- Refuses a whole number in decimal digits that has too many of them. -/
def checkDigits (text : List Char) (found : Data × List Char) : Except Fault (Data × List Char) :=
  match found.1 with
  | .int value =>
    let digits := (Nat.repr value.natAbs).length
    if (basedNumber? text).isNone && Data.digitLimit < digits then .error (.hugeInteger digits)
    else .ok found
  | _ => .ok found

/-- A number, a date or a time that starts here. A date that does not exist is refused. -/
def scalarValue? (text : List Char) : Option (Data × List Char) :=
  match dateTime? text with
  | some (moment, rest) =>
    if (dayOf? moment).all Date.isValid then some (.moment moment, rest) else none
  | none =>
    match time? text with
    | some (time, rest) => some (.moment (.clock time), rest)
    | none => anyNumber? text

/-- A number, a date or a time that starts here, with no more digits than it may have. -/
def scalarValue (text : List Char) : Except Fault (Data × List Char) := do
  checkDigits text (← orMalformed (scalarValue? text))

end SwiftSlice.Toml

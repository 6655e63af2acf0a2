/-
Dates and times of day, with or without an offset from universal time, as a
configuration file may hold them. Their text in messages spells out the fields;
seconds and fractions are left out from the end while they are zero.
-/

namespace SwiftSlice

/-- A day of the calendar. -/
structure Date where
  year : Nat
  month : Nat
  day : Nat
deriving DecidableEq, Repr

/-- A time of day to the microsecond. -/
structure Time where
  hour : Nat
  minute : Nat
  second : Nat
  microsecond : Nat
deriving DecidableEq, Repr

/-- A date, a time, or both; both together may have an offset in minutes. -/
inductive Moment
  | day (value : Date)
  | clock (value : Time)
  | dayClock (date : Date) (time : Time)
  | zoned (date : Date) (time : Time) (minutes : Int)
deriving DecidableEq, Repr

/-! ### Calendar -/

def isLeapYear (year : Nat) : Bool :=
  year % 4 == 0 && (year % 100 != 0 || year % 400 == 0)

/-- The number of days in a month. -/
def daysInMonth (year month : Nat) : Nat :=
  if month == 2 then (if isLeapYear year then 29 else 28)
  else if month == 4 || month == 6 || month == 9 || month == 11 then 30
  else 31

/-- Holds of the days that exist. -/
def Date.isValid (date : Date) : Bool :=
  1 ≤ date.year && 1 ≤ date.month && date.month ≤ 12 && 1 ≤ date.day &&
    date.day ≤ daysInMonth date.year date.month

/-! ### Text -/

def Date.fields (date : Date) : List Nat :=
  [date.year, date.month, date.day]

/-- Hour and minute, then the seconds and their fraction as far as they are needed. -/
def Time.fields (time : Time) : List Nat :=
  if time.microsecond != 0 then [time.hour, time.minute, time.second, time.microsecond]
  else if time.second != 0 then [time.hour, time.minute, time.second]
  else [time.hour, time.minute]

/-- Numbers between commas. -/
def fieldText (fields : List Nat) : String :=
  ", ".intercalate (fields.map toString)

/-- An offset, with a negative one counted from the day before. -/
def offsetText (minutes : Int) : String :=
  if minutes == 0 then "datetime.timezone.utc"
  else
    let days := if minutes < 0 then "days=-1, " else ""
    let seconds := (if minutes < 0 then minutes + 1440 else minutes) * 60
    "datetime.timezone(datetime.timedelta(" ++ days ++ "seconds=" ++ toString seconds ++ "))"

/-- A moment as messages show it. -/
def Moment.text : Moment → String
  | .day date => "datetime.date(" ++ fieldText date.fields ++ ")"
  | .clock time => "datetime.time(" ++ fieldText time.fields ++ ")"
  | .dayClock date time => "datetime.datetime(" ++ fieldText (date.fields ++ time.fields) ++ ")"
  | .zoned date time minutes =>
    "datetime.datetime(" ++ fieldText (date.fields ++ time.fields) ++ ", tzinfo=" ++
      offsetText minutes ++ ")"

end SwiftSlice

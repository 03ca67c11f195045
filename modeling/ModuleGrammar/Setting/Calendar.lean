/-
# Dates and times

Configuration files may hold dates and times. No setting takes one, so all that
is needed of them is whether they exist in the calendar, and their text in a
message.
-/
import ModuleGrammar.Text.Basic

namespace ModuleGrammar

/-- A day of the calendar. -/
structure Date where
  year : Nat
  month : Nat
  day : Nat
  deriving DecidableEq, Repr

/-- A time of the day. -/
structure TimeOfDay where
  hour : Nat
  minute : Nat
  second : Nat
  microsecond : Nat
  deriving DecidableEq, Repr

/-- A time of a day. The offset from universal time is given in minutes; a local
time has none. -/
structure Moment where
  date : Date
  time : TimeOfDay
  offset : Option Int
  deriving DecidableEq, Repr

namespace Date

/-- Whether a year has a 29th of February. -/
def isLeapYear (year : Nat) : Bool :=
  year % 4 == 0 && (year % 100 != 0 || year % 400 == 0)

/-- The number of days of a month. -/
def daysIn (year month : Nat) : Nat :=
  if month = 2 then if isLeapYear year then 29 else 28
  else if month = 4 || month = 6 || month = 9 || month = 11 then 30
  else 31

/-- Whether a date exists. The calendar starts with the year one. -/
def isValid (date : Date) : Bool :=
  1 ≤ date.year && 1 ≤ date.month && date.month ≤ 12 && 1 ≤ date.day &&
    date.day ≤ daysIn date.year date.month

/-- The parts of a date. -/
def parts (date : Date) : List Nat :=
  [date.year, date.month, date.day]

end Date

namespace TimeOfDay

/-- The parts of a time, without seconds and microseconds that are zero and not
followed by anything else. -/
def parts (time : TimeOfDay) : List Nat :=
  [time.hour, time.minute] ++
    if time.microsecond ≠ 0 then [time.second, time.microsecond]
    else if time.second ≠ 0 then [time.second]
    else []

end TimeOfDay

namespace Calendar

/-- Numbers with commas between them. -/
def commaList (numbers : List Nat) : Text :=
  Text.join ", ".toList (numbers.map Text.ofNat)

/-- The text of an offset from universal time. It is written as days and seconds,
where the seconds are not negative. -/
def offsetText (minutes : Int) : Text :=
  if minutes = 0 then "datetime.timezone.utc".toList
  else
    let seconds := minutes * 60
    let days := seconds / 86400
    let rest := seconds % 86400
    let parts :=
      (if days = 0 then [] else ["days=".toList ++ Text.ofInt days]) ++
        (if rest = 0 then [] else ["seconds=".toList ++ Text.ofInt rest])
    "datetime.timezone(datetime.timedelta(".toList ++ Text.join ", ".toList parts ++ "))".toList

end Calendar

/-- The text of a date. -/
def Date.text (date : Date) : Text :=
  "datetime.date(".toList ++ Calendar.commaList date.parts ++ [')']

/-- The text of a time. -/
def TimeOfDay.text (time : TimeOfDay) : Text :=
  "datetime.time(".toList ++ Calendar.commaList time.parts ++ [')']

/-- The text of a moment. -/
def Moment.text (moment : Moment) : Text :=
  let zone :=
    match moment.offset with
    | none => []
    | some minutes => ", tzinfo=".toList ++ Calendar.offsetText minutes
  "datetime.datetime(".toList ++
    Calendar.commaList (moment.date.parts ++ moment.time.parts) ++ zone ++ [')']

end ModuleGrammar

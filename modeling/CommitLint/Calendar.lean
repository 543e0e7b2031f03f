/-!
# Dates and moments

Days of the proleptic calendar from year 1 to 9999, and moments of a day
with an optional distance from universal time. A part outside its range is
named by the fault.
-/

namespace CommitLint

structure Date where
  year : Nat
  month : Nat
  day : Nat
deriving DecidableEq, Repr, Inhabited

/-- A time of a day, down to the millionth of a second, with the minutes ahead of universal time. -/
structure Moment where
  date : Date
  hour : Nat
  minute : Nat
  second : Nat
  micro : Nat
  offset : Option Int
deriving DecidableEq, Repr, Inhabited

inductive CalendarFault where
  | year (value : Nat)
  | month
  | day
  | hour
  | minute
  | second
  | offset (minutes : Int)
deriving DecidableEq, Repr

namespace Calendar

def isLeap (year : Nat) : Bool :=
  year % 4 == 0 && (year % 100 != 0 || year % 400 == 0)

def daysIn (year month : Nat) : Nat :=
  if month = 2 then if isLeap year then 29 else 28
  else if [4, 6, 9, 11].contains month then 30
  else 31

/-- How many days the years before a year have. -/
def daysBefore (year : Nat) : Nat :=
  let past := year - 1
  past * 365 + past / 4 - past / 100 + past / 400

/-- A value in at least `width` digits. -/
def padded (width value : Nat) : String :=
  let digits := toString value
  String.ofList (List.replicate (width - digits.length) '0') ++ digits

/-- A span of minutes by whole days and the seconds left over, zero parts left out. -/
def spanText (minutes : Int) : String :=
  let seconds := minutes * 60
  let days := seconds.fdiv 86400
  let rest := seconds.fmod 86400
  let parts := (if days = 0 then [] else ["days=" ++ toString days]) ++
    (if rest = 0 then [] else ["seconds=" ++ toString rest])
  "datetime.timedelta(" ++ (if parts.isEmpty then "0" else ", ".intercalate parts) ++ ")"

end Calendar

namespace Date

open Calendar

/-- A day, if the year, the month and the day are in range; the year is asked first. -/
def check (date : Date) : Except CalendarFault Date :=
  if date.year < 1 || 9999 < date.year then .error (.year date.year)
  else if date.month < 1 || 12 < date.month then .error .month
  else if date.day < 1 || daysIn date.year date.month < date.day then .error .day
  else .ok date

/-- The number of a day in the calendar, whose first day has the number one. -/
def number (date : Date) : Nat :=
  daysBefore date.year +
    ((List.range (date.month - 1)).map fun past => daysIn date.year (past + 1)).foldl (· + ·) 0 +
      date.day

def text (date : Date) : String :=
  padded 4 date.year ++ "-" ++ padded 2 date.month ++ "-" ++ padded 2 date.day

def literal (date : Date) : String :=
  "datetime.date(" ++ ", ".intercalate ([date.year, date.month, date.day].map toString) ++ ")"

end Date

namespace Moment

open Calendar

/-- The offset is asked first, then the date, then the time from the hour on. -/
def check (moment : Moment) : Except CalendarFault Moment := do
  if let some minutes := moment.offset then
    if minutes ≤ -1440 || 1440 ≤ minutes then throw (.offset minutes)
  let _ ← moment.date.check
  if 23 < moment.hour then throw .hour
  if 59 < moment.minute then throw .minute
  if 59 < moment.second then throw .second
  return moment

/-- Millionths of a second, in universal time where the distance from it is known. -/
def instant (moment : Moment) : Int :=
  let minutes : Int := (moment.date.number * 24 + moment.hour) * 60 + moment.minute
  ((minutes - moment.offset.getD 0) * 60 + moment.second) * 1000000 + moment.micro

/-- Equality of moments; one that is at a distance from universal time is none without. -/
def sameInstant (first second : Moment) : Bool :=
  first.offset.isSome == second.offset.isSome && first.instant == second.instant

def offsetText (minutes : Int) : String :=
  (if minutes < 0 then "-" else "+") ++ padded 2 (minutes.natAbs / 60) ++ ":" ++
    padded 2 (minutes.natAbs % 60)

/-- The date and the time with `separator` between them; a whole second has no fraction. -/
def textWith (separator : String) (moment : Moment) : String :=
  moment.date.text ++ separator ++ padded 2 moment.hour ++ ":" ++ padded 2 moment.minute ++ ":" ++
    padded 2 moment.second ++ (if moment.micro = 0 then "" else "." ++ padded 6 moment.micro) ++
    (moment.offset.map offsetText).getD ""

def text (moment : Moment) : String :=
  moment.textWith " "

/-- Zero seconds are left out of the literal, and before them zero fractions. -/
def literal (moment : Moment) : String :=
  let date := moment.date
  let fields := [date.year, date.month, date.day, moment.hour, moment.minute] ++
    (if moment.micro = 0 then if moment.second = 0 then [] else [moment.second]
      else [moment.second, moment.micro])
  let zone :=
    match moment.offset with
    | none => ""
    | some minutes =>
        if minutes = 0 then ", tzinfo=datetime.timezone.utc"
        else ", tzinfo=datetime.timezone(" ++ spanText minutes ++ ")"
  "datetime.datetime(" ++ ", ".intercalate (fields.map toString) ++ zone ++ ")"

end Moment

namespace CalendarFault

def message : CalendarFault → String
  | .year value => "year " ++ toString value ++ " is out of range"
  | .month => "month must be in 1..12"
  | .day => "day is out of range for month"
  | .hour => "hour must be in 0..23"
  | .minute => "minute must be in 0..59"
  | .second => "second must be in 0..59"
  | .offset minutes =>
      "offset must be a timedelta strictly between -timedelta(hours=24) and " ++
        "timedelta(hours=24), not " ++ Calendar.spanText minutes ++ "."

end CalendarFault

end CommitLint

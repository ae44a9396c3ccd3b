import QueryAlgebra.Number.Decimal

/-!
# Dates, times and durations

Dates of the calendar from year 1 to year 9999, times of a day, dates with a time,
and durations in days, seconds and microseconds.  A part out of its range is
refused, the first such part first.
-/

namespace QueryAlgebra

/-- A part of a date or time that is out of range. -/
inductive CalendarFault where
  | year (year : Int)
  | month
  | day
  | hour
  | minute
  | second
  | microsecond
  | durationDays (days : Int)
  deriving DecidableEq, Repr

/-- The wording of a fault. -/
def CalendarFault.message : CalendarFault → String
  | year n => "year " ++ toString n ++ " is out of range"
  | month => "month must be in 1..12"
  | day => "day is out of range for month"
  | hour => "hour must be in 0..23"
  | minute => "minute must be in 0..59"
  | second => "second must be in 0..59"
  | microsecond => "microsecond must be in 0..999999"
  | durationDays n => "days=" ++ toString n ++ "; must have magnitude <= 999999999"

/-- A year with a day more than usual. -/
def isLeapYear (year : Int) : Bool :=
  year % 4 == 0 && (year % 100 != 0 || year % 400 == 0)

/-- How many days a month has. -/
def daysInMonth (year month : Int) : Int :=
  if month = 2 then (if isLeapYear year then 29 else 28)
  else if month = 4 ∨ month = 6 ∨ month = 9 ∨ month = 11 then 30
  else 31

/-- A date. -/
structure Date where
  year : Int
  month : Int
  day : Int
  deriving DecidableEq, Repr

/-- A time of a day. -/
structure TimeOfDay where
  hour : Int
  minute : Int
  second : Int
  microsecond : Int
  deriving DecidableEq, Repr

/-- A duration in normal form: only the days may be negative. -/
structure Duration where
  days : Int
  seconds : Int
  microseconds : Int
  deriving DecidableEq, Repr

/-- The date of a year, a month and a day. -/
def Date.ofParts (year month day : Int) : Except CalendarFault Date :=
  if year < 1 ∨ 9999 < year then .error (.year year)
  else if month < 1 ∨ 12 < month then .error .month
  else if day < 1 ∨ daysInMonth year month < day then .error .day
  else .ok ⟨year, month, day⟩

/-- The time of an hour, a minute, a second and a microsecond. -/
def TimeOfDay.ofParts (hour minute second microsecond : Int) : Except CalendarFault TimeOfDay :=
  if hour < 0 ∨ 23 < hour then .error .hour
  else if minute < 0 ∨ 59 < minute then .error .minute
  else if second < 0 ∨ 59 < second then .error .second
  else if microsecond < 0 ∨ 999999 < microsecond then .error .microsecond
  else .ok ⟨hour, minute, second, microsecond⟩

/-- The duration of days, seconds and microseconds, in normal form. -/
def Duration.ofParts (days seconds microseconds : Int) : Except CalendarFault Duration :=
  let allSeconds := seconds + Int.fdiv microseconds 1000000
  let allDays := days + Int.fdiv allSeconds 86400
  if allDays < -999999999 ∨ 999999999 < allDays then .error (.durationDays allDays)
  else .ok ⟨allDays, Int.fmod allSeconds 86400, Int.fmod microseconds 1000000⟩

/-! ## Literals -/

/-- The numbers of a list with a comma and a blank between them. -/
def commaSeparated (numbers : List Int) : Text :=
  Text.join [',', ' '] (numbers.map intText)

/-- The parts of a time that a literal shows: a second only if it or the microsecond is not zero. -/
def TimeOfDay.shownParts (t : TimeOfDay) : List Int :=
  [t.hour, t.minute] ++
    if t.microsecond ≠ 0 then [t.second, t.microsecond]
    else if t.second ≠ 0 then [t.second]
    else []

/-- A date as a literal. -/
def Date.literal (d : Date) : Text :=
  "datetime.date(".toList ++ commaSeparated [d.year, d.month, d.day] ++ [')']

/-- A date with a time as a literal. -/
def Date.literalAt (d : Date) (t : TimeOfDay) : Text :=
  "datetime.datetime(".toList ++ commaSeparated ([d.year, d.month, d.day] ++ t.shownParts) ++ [')']

/-- A time as a literal. -/
def TimeOfDay.literal (t : TimeOfDay) : Text :=
  "datetime.time(".toList ++ commaSeparated t.shownParts ++ [')']

/-- A duration as a literal, in which parts that are zero are left out. -/
def Duration.literal (d : Duration) : Text :=
  let parts := [("days=", d.days), ("seconds=", d.seconds), ("microseconds=", d.microseconds)]
  let shown := (parts.filter fun p => p.2 ≠ 0).map fun p => p.1.toList ++ intText p.2
  "datetime.timedelta(".toList ++
    (if shown.isEmpty then ['0'] else Text.join [',', ' '] shown) ++ [')']

/-! ## Readable forms -/

/-- A number of at least a given number of digits. -/
def zeroPadded (width : Nat) (n : Int) : Text :=
  let digits := decimalDigits n.natAbs
  List.replicate (width - digits.length) '0' ++ digits

/-- A date as it is read. -/
def Date.text (d : Date) : Text :=
  zeroPadded 4 d.year ++ ['-'] ++ zeroPadded 2 d.month ++ ['-'] ++ zeroPadded 2 d.day

/-- A time as it is read. -/
def TimeOfDay.text (t : TimeOfDay) : Text :=
  zeroPadded 2 t.hour ++ [':'] ++ zeroPadded 2 t.minute ++ [':'] ++ zeroPadded 2 t.second ++
    if t.microsecond ≠ 0 then '.' :: zeroPadded 6 t.microsecond else []

/-- A duration as it is read. -/
def Duration.text (d : Duration) : Text :=
  let days :=
    if d.days = 0 then []
    else intText d.days ++ (if d.days.natAbs = 1 then " day, " else " days, ").toList
  days ++ intText (d.seconds / 3600) ++ [':'] ++ zeroPadded 2 (d.seconds / 60 % 60) ++ [':'] ++
    zeroPadded 2 (d.seconds % 60) ++
    if d.microseconds ≠ 0 then '.' :: zeroPadded 6 d.microseconds else []

end QueryAlgebra

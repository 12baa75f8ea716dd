import MessageRouting.Decimal.Digits

/-!
# Calendar dates and times

Proleptic Gregorian dates of the years 1 to 9999, and times of day with microseconds and an
optional offset from UTC in minutes. `Moment.make` and `Date.make` say which fault a malformed
date has; two times with offsets are the same if they denote the same instant.
-/

namespace MessageRouting

/-- A calendar date. -/
structure Date where
  /-- Years count from 1. -/
  year : Nat
  /-- From 1 to 12. -/
  month : Nat
  /-- From 1 to the length of the month. -/
  day : Nat
deriving DecidableEq, Repr

/-- A time of day. -/
structure TimeOfDay where
  /-- From 0 to 23. -/
  hour : Nat
  /-- From 0 to 59. -/
  minute : Nat
  /-- From 0 to 59. -/
  second : Nat
  /-- Below a million. -/
  microsecond : Nat
deriving DecidableEq, Repr

/-- A date, or a date with a time. -/
inductive Moment where
  /-- A whole day. -/
  | day (date : Date)
  /-- A time on a day; the offset from UTC is in minutes. -/
  | time (date : Date) (clock : TimeOfDay) (offset : Option Int)
deriving DecidableEq, Repr

/-- What is wrong with the parts of a date or time. -/
inductive CalendarFault where
  /-- A year below 1 or above 9999. -/
  | year (given : Nat)
  /-- No such month. -/
  | month
  /-- The month has no such day. -/
  | day
  /-- No such hour. -/
  | hour
  /-- No such minute. -/
  | minute
  /-- No such second. -/
  | second
  /-- An offset of a day or more, in minutes. -/
  | offset (minutes : Int)
deriving DecidableEq, Repr

namespace Date

/-- Whether a year has a 29th of February. -/
def isLeapYear (year : Nat) : Bool := year % 4 = 0 && (year % 100 ≠ 0 || year % 400 = 0)

/-- The number of days of a month. -/
def daysInMonth (year month : Nat) : Nat :=
  match month with
  | 2 => if isLeapYear year then 29 else 28
  | 4 | 6 | 9 | 11 => 30
  | _ => 31

/-- A date from its parts, if there is such a date. -/
def make (year month day : Nat) : Except CalendarFault Date :=
  if year < 1 || 9999 < year then .error (.year year)
  else if month < 1 || 12 < month then .error .month
  else if day < 1 || daysInMonth year month < day then .error .day
  else .ok ⟨year, month, day⟩

/-- The number of days before the first day of a month. -/
def daysBeforeMonth (year month : Nat) : Nat :=
  (List.range (month - 1)).foldl (fun n m => n + daysInMonth year (m + 1)) 0

/-- The number of the day, counted from the first of January of year 1. -/
def dayNumber (d : Date) : Nat :=
  let y := d.year - 1
  y * 365 + y / 4 - y / 100 + y / 400 + daysBeforeMonth d.year d.month + d.day

/-- The text `YYYY-MM-DD`. -/
def iso (d : Date) : List Char :=
  Decimal.padded 4 d.year ++ '-' :: (Decimal.padded 2 d.month ++ '-' :: Decimal.padded 2 d.day)

end Date

namespace TimeOfDay

/-- The text `HH:MM:SS`, with six digits of microseconds unless there are none. -/
def iso (t : TimeOfDay) : List Char :=
  let fraction :=
    if t.microsecond = 0 then [] else '.' :: Decimal.padded 6 t.microsecond
  Decimal.padded 2 t.hour ++ ':' :: (Decimal.padded 2 t.minute ++ ':' ::
    (Decimal.padded 2 t.second ++ fraction))

/-- Microseconds since midnight. -/
def microseconds (t : TimeOfDay) : Nat :=
  ((t.hour * 60 + t.minute) * 60 + t.second) * 1000000 + t.microsecond

end TimeOfDay

namespace Moment

/-- A time from its parts. The offset is looked at first, then the date, then the time. -/
def make (year month day hour minute second microsecond : Nat) (offset : Option Int) :
    Except CalendarFault Moment := do
  if let some o := offset then
    if 1440 ≤ o.natAbs then throw (.offset o)
  let date ← Date.make year month day
  if 24 ≤ hour then throw .hour
  if 60 ≤ minute then throw .minute
  if 60 ≤ second then throw .second
  return .time date ⟨hour, minute, second, microsecond⟩ offset

/-- The text `+HH:MM` of an offset. -/
def offsetIso (minutes : Int) : List Char :=
  (if minutes < 0 then '-' else '+') :: (Decimal.padded 2 (minutes.natAbs / 60) ++
    ':' :: Decimal.padded 2 (minutes.natAbs % 60))

/-- The ISO text, with `separator` between date and time. -/
def iso (separator : Char) : Moment → List Char
  | day d => d.iso
  | time d t offset => d.iso ++ separator :: (t.iso ++ (offset.map offsetIso).getD [])

/-- The ISO text as files hold it: an offset of zero is written `Z`. -/
def stamp : Moment → List Char
  | time d t (some 0) => d.iso ++ 'T' :: (t.iso ++ ['Z'])
  | m => m.iso 'T'

/-- Microseconds since the beginning of year 1, in UTC. -/
def instant (d : Date) (t : TimeOfDay) (offset : Int) : Int :=
  d.dayNumber * 86400000000 + t.microseconds - offset * 60000000

/-- Whether two moments are the same: a day is only the same day, and a time with an offset is
any time that denotes the same instant. -/
def same : Moment → Moment → Bool
  | day d, day e => d = e
  | time d t none, time e u none => d = e && t = u
  | time d t (some o), time e u (some p) => instant d t o = instant e u p
  | _, _ => false

end Moment

end MessageRouting

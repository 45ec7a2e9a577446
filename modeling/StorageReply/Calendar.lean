import StorageReply.Number.Numeral

/-!
# Calendar

The Gregorian calendar, extended without end in both directions, and wall-clock times with an offset
from universal time.

Main definitions:

* `Calendar.dayNumber`: the days from 1 January 1970 to a date;
* `Calendar.Date.ofDayNumber`: the date of a day number;
* `Moment`: a wall-clock time, kept as a count of seconds, with microseconds and an offset;
* `Moment.universal?`: the same instant at offset zero, where the years 1 to 9999 can hold it;
* `Moment.text`: the year, month, day and time separated as in `2022-01-19T22:28:43+00:00`.
-/

namespace StorageReply

open Number

namespace Calendar

/-- Whether a year has a leap day. -/
def isLeap (year : Int) : Bool := year % 4 == 0 && (year % 100 != 0 || year % 400 == 0)

/-- The lengths of the months of a year, from January on. -/
def monthLengths (year : Int) : List Nat :=
  [31, if isLeap year then 29 else 28, 31, 30, 31, 30, 31, 31, 30, 31, 30, 31]

/-- The length of a month, counted from one; zero outside the year. -/
def monthLength (year : Int) (month : Nat) : Nat :=
  if month = 0 then 0 else (monthLengths year).getD (month - 1) 0

/-- The days of a year before a month. -/
def daysBeforeMonth (year : Int) (month : Nat) : Nat :=
  ((monthLengths year).take (month - 1)).foldr (· + ·) 0

/-- The days from 1 January of year 1 to 1 January of a year. -/
def daysBeforeYear (year : Int) : Int :=
  let y := year - 1
  365 * y + y / 4 - y / 100 + y / 400

/-- The days from 1 January of year 1 to 1 January 1970. -/
def epochDay : Int := 719162

/-- The days from 1 January 1970 to a date. -/
def dayNumber (year : Int) (month day : Nat) : Int :=
  daysBeforeYear year + daysBeforeMonth year month + (day - 1 : Int) - epochDay

/-- A date of the calendar. -/
structure Date where
  /-- The year; year 0 is the one before year 1. -/
  year : Int
  /-- The month, from 1 to 12. -/
  month : Nat
  /-- The day of the month, from 1 on. -/
  day : Nat
  deriving DecidableEq, Repr

/-- Whether a date exists in the years that are written with four digits. -/
def Date.isValid (d : Date) : Bool :=
  1 ≤ d.year && d.year ≤ 9999 && 1 ≤ d.month && d.month ≤ 12 && 1 ≤ d.day
    && d.day ≤ monthLength d.year d.month

/-- The days from 1 January 1970 to a date. -/
def Date.toDayNumber (d : Date) : Int := dayNumber d.year d.month d.day

/-- The month and the day in it, of a day counted from zero through the given months. -/
def monthOfDay (month day : Nat) : List Nat → Nat × Nat
  | [] => (month, day + 1)
  | length :: rest =>
    if day < length then (month, day + 1) else monthOfDay (month + 1) (day - length) rest

/-- The date of a day number. -/
def Date.ofDayNumber (n : Int) : Date :=
  let k := n + epochDay
  let day := (k % 146097).toNat
  let centuries := min (day / 36524) 3
  let day := day - centuries * 36524
  let fours := day / 1461
  let day := day % 1461
  let ones := min (day / 365) 3
  let day := day - ones * 365
  let year := 400 * (k / 146097) + 100 * centuries + 4 * fours + ones + 1
  let (month, day) := monthOfDay 1 day (monthLengths year)
  ⟨year, month, day⟩

end Calendar

open Calendar

/-- A wall-clock time. -/
structure Moment where
  /-- The seconds that the wall clock counts since the start of 1970. -/
  second : Int
  /-- The microseconds after that second. -/
  micro : Nat
  /-- How many seconds the wall clock is ahead of universal time, if that is known. -/
  offset : Option Int
  deriving DecidableEq, Repr

namespace Moment

/-- The seconds of a day. -/
def daySeconds : Int := 86400

/-- The wall-clock time of a date and a time of day. -/
def ofDate (date : Date) (hour minute second : Int) (micro : Nat) (offset : Option Int) : Moment :=
  ⟨date.toDayNumber * daySeconds + hour * 3600 + minute * 60 + second, micro, offset⟩

/-- A time in universal time. -/
def universal (second : Int) (micro : Nat) : Moment := ⟨second, micro, some 0⟩

/-- The first second of year 1. -/
def firstSecond : Int := dayNumber 1 1 1 * daySeconds

/-- The first second after year 9999. -/
def endSecond : Int := dayNumber 10000 1 1 * daySeconds

/-- Whether a wall-clock time lies in the years 1 to 9999. -/
def inRange (m : Moment) : Bool := firstSecond ≤ m.second && m.second < endSecond

/-- The same instant at offset zero, if it lies in the years 1 to 9999; a time without an offset is
taken as universal already. -/
def universal? (m : Moment) : Option Moment :=
  let shifted := universal (m.second - m.offset.getD 0) m.micro
  if shifted.inRange then some shifted else none

/-- The date that the wall clock shows. -/
def date (m : Moment) : Date := Date.ofDayNumber (m.second / daySeconds)

/-- The second of the day that the wall clock shows. -/
def secondOfDay (m : Moment) : Nat := (m.second % daySeconds).toNat

/-- Hours, minutes and seconds with colons. -/
def clockText (n : Nat) : String :=
  padded 2 (n / 3600) ++ ":" ++ padded 2 (n / 60 % 60) ++ ":" ++ padded 2 (n % 60)

/-- An offset with its sign; seconds only when there are some. -/
def offsetText (offset : Int) : String :=
  let n := offset.natAbs
  (if offset < 0 then "-" else "+") ++ padded 2 (n / 3600) ++ ":" ++ padded 2 (n / 60 % 60)
    ++ (if n % 60 = 0 then "" else ":" ++ padded 2 (n % 60))

/-- The year, month and day with hyphens. -/
def dateText (d : Date) : String :=
  padded 4 d.year.toNat ++ "-" ++ padded 2 d.month ++ "-" ++ padded 2 d.day

/-- The date and time with a separator between them; microseconds only when there are some. -/
def textWith (separator : String) (m : Moment) : String :=
  dateText m.date ++ separator ++ clockText m.secondOfDay
    ++ (if m.micro = 0 then "" else "." ++ padded 6 m.micro)
    ++ (m.offset.map offsetText).getD ""

/-- The date and time with a `T` between them. -/
def text (m : Moment) : String := textWith "T" m

@[simp] theorem universal_offset (second : Int) (micro : Nat) :
    (universal second micro).offset = some 0 := rfl

theorem universal?_offset {m u : Moment} (h : m.universal? = some u) : u.offset = some 0 := by
  simp only [universal?] at h
  split at h
  · exact (Option.some.inj h) ▸ rfl
  · simp at h

end Moment

end StorageReply

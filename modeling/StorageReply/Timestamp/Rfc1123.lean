import StorageReply.Calendar
import StorageReply.Failure
import StorageReply.Text.Case
import StorageReply.Text.Pieces

/-!
# Service dates

Dates such as `Wed, 19 Jan 2022 22:28:43 GMT`, and the looser forms that mail programs write: no
weekday, `06-Nov-94`, exchanged day and month, a time with points, years of two digits, a numeric
zone, words after the zone. Names of days and months are English whatever the locale.

Main definitions:

* `Rfc1123.Parts`: the five parts of a date as texts, and `Rfc1123.split?`, which finds them;
* `Rfc1123.Reading`: the numbers in the parts, and `Rfc1123.read?`, which reads them;
* `Rfc1123.parse`: the instant in universal time.

The zone `-0000` says that the time is universal and the local offset unknown. A missing or unknown
zone is read in the same way.
-/

namespace StorageReply.Rfc1123

open Calendar Number Text

/-- The names of the days of the week. -/
def dayNames : List String := ["mon", "tue", "wed", "thu", "fri", "sat", "sun"]

/-- The short names of the months, from January on. -/
def shortMonths : List String :=
  ["jan", "feb", "mar", "apr", "may", "jun", "jul", "aug", "sep", "oct", "nov", "dec"]

/-- The full names of the months, from January on. -/
def fullMonths : List String :=
  ["january", "february", "march", "april", "may", "june", "july", "august", "september",
   "october", "november", "december"]

/-- The month of a lower-case name. -/
def month? (name : List Char) : Option Nat :=
  let text := String.ofList name
  match shortMonths.idxOf? text with
  | some i => some (i + 1)
  | none => (fullMonths.idxOf? text).map (· + 1)

/-- The zones that have a name, with the offset written as hours and minutes. -/
def zones : List (String × Int) :=
  [("UT", 0), ("UTC", 0), ("GMT", 0), ("Z", 0), ("AST", -400), ("ADT", -300), ("EST", -500),
   ("EDT", -400), ("CST", -600), ("CDT", -500), ("MST", -700), ("MDT", -600), ("PST", -800),
   ("PDT", -700)]

/-- The parts of a date, as texts. -/
structure Parts where
  /-- The day of the month. -/
  day : List Char
  /-- The name of the month. -/
  month : List Char
  /-- The year. -/
  year : List Char
  /-- The time of day. -/
  time : List Char
  /-- The zone. -/
  zone : List Char
  deriving DecidableEq, Repr

/-- The words of a date without its weekday. A first word that ends with a comma, or names a day, is
dropped; of any other first word only the part after its last comma stays. -/
def withoutWeekday : List (List Char) → List (List Char)
  | [] => []
  | first :: rest =>
    if first.getLast? = some ',' || dayNames.contains (String.ofList (lower first)) then rest
    else afterLast ',' first :: rest

/-- Three words whose first is `day-month-year` become five. -/
def expandHyphens (ws : List (List Char)) : List (List Char) :=
  match ws with
  | [first, time, zone] =>
    match pieces '-' first with
    | [day, month, year] => [day, month, year, time, zone]
    | _ => ws
  | _ => ws

/-- The place of the sign that separates a time from its zone: the first plus, or else the first
minus, unless it stands at the start. -/
def zoneSign? (s : List Char) : Option Nat :=
  (match s.idxOf? '+' with
    | some i => some i
    | none => s.idxOf? '-').filter (0 < ·)

/-- Four words become five: the zone is cut from the time, or is empty. -/
def separateZone (ws : List (List Char)) : List (List Char) :=
  match ws with
  | [day, month, year, time] =>
    match zoneSign? time with
    | some i => [day, month, year, time.take i, time.drop i]
    | none => [day, month, year, time, []]
  | _ => ws

/-- The text without one comma at its end. -/
def dropComma (s : List Char) : List Char := if s.getLast? = some ',' then s.dropLast else s

/-- The first five words as the parts of a date, in the order in which they stand. -/
def partsOf? : List (List Char) → Option Parts
  | day :: month :: year :: time :: zone :: _ =>
    if day.isEmpty || month.isEmpty || year.isEmpty then none
    else some ⟨day, month, year, time, zone⟩
  | _ => none

/-- Day and month in their places: they are exchanged when the second names no month. -/
def orderMonth? (p : Parts) : Option Parts :=
  if (month? (lower p.month)).isSome then some { p with month := lower p.month }
  else if (month? (lower p.day)).isSome then
    some { p with day := lower p.month, month := lower p.day }
  else none

/-- Year and time in their places: they are exchanged when the year has a colon after its start. -/
def orderTime (p : Parts) : Parts :=
  if ((p.year.idxOf? ':').filter (0 < ·)).isSome then { p with year := p.time, time := p.year }
  else p

/-- Year and zone in their places: they are exchanged when the year does not begin with a digit. -/
def orderYear? (p : Parts) : Option Parts :=
  match dropComma p.year with
  | [] => none
  | c :: rest =>
    if isDigit c then some { p with year := c :: rest }
    else some { p with year := p.zone, zone := c :: rest }

/-- The parts of a date. -/
def split? (s : List Char) : Option Parts := do
  let p ← partsOf? (separateZone (expandHyphens (withoutWeekday (words s))))
  let p ← orderMonth? p
  let p ← orderYear? (orderTime { p with day := dropComma p.day })
  return { p with time := dropComma p.time }

/-- The hour, minute and second of a time of day, which has colons or else points. -/
def timeParts? (s : List Char) : Option (List Char × List Char × List Char) :=
  match pieces ':' s with
  | [hour, minute] => some (hour, minute, ['0'])
  | [hour, minute, second] => some (hour, minute, second)
  | [single] =>
    match pieces '.' single with
    | [hour, minute] => some (hour, minute, ['0'])
    | [hour, minute, second] => some (hour, minute, second)
    | _ => none
  | _ => none

/-- A year of at most two digits stands for one between 1969 and 2068. -/
def fullYear (year : Int) : Int :=
  if year < 100 then if 68 < year then year + 1900 else year + 2000 else year

/-- The offset in seconds of a zone of hours and minutes. -/
def offsetSeconds (hhmm : Int) : Int :=
  let n := hhmm.natAbs
  let seconds : Int := (n / 100 * 3600 + n % 100 * 60 : Nat)
  if hhmm < 0 then -seconds else seconds

/-- The offset of a zone in seconds, if the zone is known. A minus sign before zero says that the
offset is not known. -/
def zoneOffset? (zone : List Char) : Option Int :=
  let name := upper zone
  match zones.lookup (String.ofList name) with
  | some hhmm => some (offsetSeconds hhmm)
  | none =>
    match integer? name with
    | some hhmm => if hhmm = 0 && name.head? = some '-' then none else some (offsetSeconds hhmm)
    | none => none

/-- The numbers of a date, before the calendar is asked. -/
structure Reading where
  /-- The year. -/
  year : Int
  /-- The month, from 1 to 12. -/
  month : Nat
  /-- The day of the month. -/
  day : Int
  /-- The hour. -/
  hour : Int
  /-- The minute. -/
  minute : Int
  /-- The second. -/
  second : Int
  /-- The offset of the zone in seconds, if known. -/
  offset : Option Int
  deriving DecidableEq, Repr

/-- The numbers in the parts of a date. -/
def Parts.read? (p : Parts) : Option Reading := do
  let month ← month? p.month
  let (hour, minute, second) ← timeParts? p.time
  let year ← integer? p.year
  let day ← integer? p.day
  let hour ← integer? hour
  let minute ← integer? minute
  let second ← integer? second
  return ⟨fullYear year, month, day, hour, minute, second, zoneOffset? p.zone⟩

/-- The numbers of a date. -/
def read? (s : List Char) : Option Reading := (split? s).bind Parts.read?

/-- What can be wrong with the numbers of a date. -/
inductive Fault
  /-- The calendar or the clock has no such time, or the offset is a day or more. -/
  | invalid
  /-- A number, or the instant itself, is beyond what can be represented. -/
  | outOfRange
  deriving DecidableEq, Repr

/-- Whether a number fits a signed word of 32 bits. -/
def fitsWord (i : Int) : Bool := -Int.pow 2 31 ≤ i && i < Int.pow 2 31

/-- The offset of a reading, if it can be represented and is less than a day. -/
def Reading.checkOffset (r : Reading) : Except Fault Unit :=
  match r.offset with
  | none => .ok ()
  | some seconds =>
    if 999999999 < (seconds / Moment.daySeconds).natAbs then .error .outOfRange
    else if seconds.natAbs < 86400 then .ok () else .error .invalid

/-- The wall-clock time of a reading, if calendar and clock have it. -/
def Reading.moment (r : Reading) : Except Fault Moment :=
  if [r.year, r.day, r.hour, r.minute, r.second].all fitsWord then
    let date : Date := ⟨r.year, r.month, r.day.toNat⟩
    if 1 ≤ r.day && date.isValid && 0 ≤ r.hour && r.hour < 24 && 0 ≤ r.minute && r.minute < 60
        && 0 ≤ r.second && r.second < 60 then
      .ok (Moment.ofDate date r.hour r.minute r.second 0 r.offset)
    else .error .invalid
  else .error .outOfRange

/-- The instant of a reading. -/
def Reading.instant (r : Reading) : Except Fault Moment := do
  r.checkOffset
  let m ← r.moment
  match m.universal? with
  | some u => .ok u
  | none => .error .outOfRange

/-- The instant that a text denotes, in universal time. Surrounding blanks are allowed. -/
def parse (s : String) : Except Failure Moment :=
  match read? (strip s.toList) with
  | none => .error (.timestamp (.text s))
  | some r =>
    match r.instant with
    | .ok m => .ok m
    | .error .invalid => .error (.timestamp (.text s))
    | .error .outOfRange => .error .outOfRange

/-- The instant that a value denotes, which must be a text. -/
def parseValue : Value → Except Failure Moment
  | .text s => parse s
  | v => if v.display?.isSome then .error (.timestamp v) else .error (.unusable .longNumeral)

/-- Whatever is accepted is in universal time. -/
theorem parse_offset {s : String} {m : Moment} (h : parse s = .ok m) : m.offset = some 0 := by
  unfold parse at h
  split at h
  · cases h
  · rename_i r _
    split at h
    · rename_i m' hm
      cases h
      simp only [Reading.instant, bind, Except.bind] at hm
      split at hm
      · cases hm
      · split at hm
        · cases hm
        · split at hm
          · cases hm
            exact Moment.universal?_offset (by assumption)
          · cases hm
    · cases h
    · cases h

end StorageReply.Rfc1123

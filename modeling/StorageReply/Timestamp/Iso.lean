import StorageReply.Calendar
import StorageReply.Number.Decimal
import StorageReply.Text.Utf8
import StorageReply.Validation.Lax

/-!
# Dates with a time

Texts such as `2022-01-19T22:28:43.5+01:00` and counts of seconds since 1970 as wall-clock times.
The seconds, the fraction and the offset may be missing; a date alone stands for its midnight. A
date with a time stands for itself.

Main definitions:

* `Iso.dateTime?`, `Iso.date`: the two forms of text;
* `Iso.ofSeconds`: a count of seconds, or of milliseconds when it is large;
* `Iso.moment`: the conversion from a value.
-/

namespace StorageReply.Iso

open Calendar Number Text

/-- A number of `count` digits at the start of a text, and the rest. -/
def digits? : Nat → Nat → List Char → Option (Nat × List Char)
  | 0, value, rest => some (value, rest)
  | _ + 1, _, [] => none
  | count + 1, value, c :: rest =>
    if isAsciiDigit c then digits? count (value * 10 + asciiDigitValue c) rest else none

/-- Why a text is no date. -/
inductive DateFault
  /-- There are fewer than ten characters. -/
  | short
  /-- The year is not made of digits. -/
  | year
  /-- The month is not made of digits. -/
  | month
  /-- The day is not made of digits. -/
  | day
  /-- The parts are not separated by hyphens. -/
  | separator
  /-- There is no such month. -/
  | monthRange
  /-- The month has no such day. -/
  | dayRange
  /-- Something follows the date. -/
  | extra
  /-- A count of seconds ends before the first year. -/
  | early
  /-- A count of seconds ends after the last year. -/
  | late
  deriving DecidableEq, Repr

/-- The words for a fault. -/
def DateFault.message : DateFault → String
  | .short => "input is too short"
  | .year => "invalid character in year"
  | .month => "invalid character in month"
  | .day => "invalid character in day"
  | .separator => "invalid date separator, expected `-`"
  | .monthRange => "month value is outside expected range of 1-12"
  | .dayRange => "day value is outside expected range"
  | .extra => "unexpected extra characters at the end of the input"
  | .early => "dates before 0000 are not supported as unix timestamps"
  | .late => "dates after 9999 are not supported as unix timestamps"

/-- The text after a hyphen. -/
def afterHyphen : List Char → Except DateFault (List Char)
  | '-' :: rest => .ok rest
  | _ => .error .separator

/-- A number of `count` digits, or the fault of its part. -/
def digitsOr (fault : DateFault) (count : Nat) (s : List Char) :
    Except DateFault (Nat × List Char) :=
  match digits? count 0 s with
  | some found => .ok found
  | none => .error fault

/-- The date at the start of a text, and the rest. -/
def datePart (s : List Char) : Except DateFault (Date × List Char) := do
  if s.length < 10 then .error .short
  let (year, s) ← digitsOr .year 4 s
  let s ← afterHyphen s
  let (month, s) ← digitsOr .month 2 s
  let s ← afterHyphen s
  let (day, s) ← digitsOr .day 2 s
  if month < 1 || 12 < month then .error .monthRange
  if day < 1 || monthLength year month < day then .error .dayRange
  return (⟨year, month, day⟩, s)

/-- The microseconds that the digits after a point make; digits after the sixth are dropped. -/
def microseconds (digits : List Char) : Nat :=
  ((digits ++ List.replicate 6 '0').take 6).foldl (fun n c => n * 10 + asciiDigitValue c) 0

/-- The seconds and microseconds after a colon, if there are any, and the rest. -/
def secondPart? (s : List Char) : Option (Nat × Nat × List Char) :=
  match s with
  | ':' :: rest => do
    let (second, rest) ← digits? 2 0 rest
    guard (second < 60)
    match rest with
    | c :: tail =>
      if c == '.' || c == ',' then
        let fraction := tail.takeWhile isAsciiDigit
        guard (!fraction.isEmpty)
        return (second, microseconds fraction, tail.dropWhile isAsciiDigit)
      else return (second, 0, rest)
    | [] => return (second, 0, rest)
  | _ => some (0, 0, s)

/-- The minutes of an offset, with or without a colon before them. -/
def offsetMinutes? (s : List Char) : Option (Nat × List Char) :=
  match s with
  | ':' :: rest => digits? 2 0 rest
  | _ => digits? 2 0 s

/-- The offset at the end of a text; none when the text is at its end. -/
def offset? (s : List Char) : Option (Option Int) :=
  match s with
  | [] => some none
  | ['Z'] => some (some 0)
  | ['z'] => some (some 0)
  | sign :: rest => do
    let direction : Int ← if sign = '+' then some 1 else if sign = '-' then some (-1) else none
    let (hour, rest) ← digits? 2 0 rest
    let (minute, rest) ← offsetMinutes? rest
    guard (minute < 60 && hour < 24 && rest.isEmpty)
    return some (direction * (hour * 3600 + minute * 60 : Nat))

/-- Whether a character may stand between a date and a time. -/
def isSeparator (c : Char) : Bool := c == 'T' || c == 't' || c == ' ' || c == '_'

/-- The date with a time that a text denotes. -/
def dateTime? (s : List Char) : Option Moment := do
  let (date, s) ← (datePart s).toOption
  match s with
  | separator :: s =>
    guard (isSeparator separator)
    let (hour, s) ← digits? 2 0 s
    let s ← match s with
      | ':' :: rest => some rest
      | _ => none
    let (minute, s) ← digits? 2 0 s
    guard (hour < 24 && minute < 60)
    let (second, micro, s) ← secondPart? s
    let offset ← offset? s
    return Moment.ofDate date hour minute second micro offset
  | [] => none

/-- The greatest count that stands for seconds; a greater one counts milliseconds. -/
def secondsLimit : Nat := 20000000000

/-- The first second that a count can name. -/
def earliest : Int := dayNumber 0 1 1 * Moment.daySeconds

/-- A count of seconds since 1970, with microseconds, in universal time. -/
def ofSeconds (count : Int) (micro : Nat) : Except DateFault Moment :=
  let (second, micro) :=
    if count.natAbs ≤ secondsLimit then (count, micro)
    else (count / 1000, micro / 1000 + (count % 1000).toNat * 1000)
  if second < earliest then .error .early
  else if Moment.endSecond ≤ second then .error .late
  else .ok (Moment.universal (second + micro / 1000000) (micro % 1000000))

/-- A count of seconds as a text: its whole part and its microseconds. -/
def count? (s : List Char) : Option (Int × Nat) :=
  let (negative, rest) := splitSign s
  let whole := rest.takeWhile isAsciiDigit
  if whole.isEmpty || 18 < whole.length then none
  else
    let n : Int := whole.foldl (fun n c => n * 10 + asciiDigitValue c) 0
    match rest.dropWhile isAsciiDigit with
    | [] => some (if negative then -n else n, 0)
    | '.' :: fraction =>
      if fraction.isEmpty || !fraction.all isAsciiDigit then none
      else
        let micro := microseconds fraction
        if !negative then some (n, micro)
        else if micro = 0 then some (-n, 0)
        else some (-n - 1, 1000000 - micro)
    | _ => none

/-- The midnight of a date that stands alone. -/
def date (s : List Char) : Except DateFault Moment :=
  match datePart s with
  | .ok (d, []) => .ok (Moment.ofDate d 0 0 0 0 none)
  | .ok (_, _ :: _) => .error .extra
  | .error fault => .error fault

/-- The wall-clock time that a text denotes: a date with a time, a count of seconds, or a date. -/
def ofText (s : List Char) : Except DateFault Moment :=
  match dateTime? s with
  | some m => .ok m
  | none =>
    match count? s with
    | some (count, micro) => ofSeconds count micro
    | none => date s

/-- The microseconds of a positive fraction, to the nearest. -/
def nearestMicro (num den : Nat) : Nat := (2 * num * 1000000 + den) / (2 * den)

/-- A count of seconds as a floating-point number. -/
def ofNumber (x : Binary64) : Except DateFault Moment :=
  match x with
  | .nan => .error .early
  | .infinite negative => .error (if negative then .early else .late)
  | .finite negative significand exponent =>
    let (num, den) := Binary64.ratio significand exponent
    let size : Int := (num : Nat)
    let floor : Int := (if negative then -size else size) / (den : Int)
    ofSeconds floor (nearestMicro ((if negative then -size else size) - floor * den).toNat den)

/-- The wall-clock time that bytes denote, which count as characters. -/
def ofBytes (data : List UInt8) : Checked Moment :=
  match ofText (data.map fun b => Char.ofNat b.toNat) with
  | .ok m => .ok m
  | .error fault => .defect (.unreadableMoment fault.message)

/-- The wall-clock time that a value denotes. -/
def moment (v : Value) : Checked Moment :=
  match v with
  | .text s => ofBytes (Utf8.encode s.toList)
  | .extra (.bytes data) => ofBytes data
  | .extra (.dateTime m) => .ok m
  | .extra (.date d) => .ok (Moment.ofDate d 0 0 0 0 none)
  | .int i =>
    if -Int.pow 2 63 ≤ i && i < Int.pow 2 63 then
      match ofSeconds i 0 with
      | .ok m => .ok m
      | .error fault => .defect (.unreachableMoment fault.message)
    else .defect .notMoment
  | .float .nan => .defect (.unreachableMoment "NaN values not permitted")
  | .float x =>
    match ofNumber x with
    | .ok m => .ok m
    | .error fault => .defect (.unreachableMoment fault.message)
  | _ => .defect .notMoment

end StorageReply.Iso

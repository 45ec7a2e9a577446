import StorageReply.Calendar
import StorageReply.Failure
import StorageReply.Number.Fraction
import StorageReply.Text.Base64
import StorageReply.Yaml.Kind

/-!
# Values of scalars

The values that the scalars of a settings file stand for. A plain scalar has the kind of its
spelling and can always be read, dates that do not exist apart; a tag can ask for a kind that the
text does not fit.

Main definition: `scalarValue`.
-/

namespace StorageReply.Yaml

open Calendar Number Text

/-- A failure about a text that cannot be used. -/
def unusable {α : Type} (fault : TextFault) : Except Failure α := .error (.unusable fault)

/-- The text without underscores. -/
def withoutUnderscores (text : String) : List Char := text.toList.filter (· != '_')

/-- A sign in front of a text, which must not be empty, and the rest. -/
def signed (s : List Char) : Except Failure (Bool × List Char) :=
  if s.isEmpty then .error .missingItem else .ok (splitSign s)

/-- A truth value. -/
def boolValue (text : String) : Except Failure Bool :=
  match boolWords.lookup (lowerString text) with
  | some b => .ok b
  | none => .error .missingKey

/-- An integer in base ten. -/
def decimalInteger (s : List Char) : Except Failure Int :=
  match integer? s with
  | some i => .ok i
  | none =>
    if digitLimit < s.length && s.all isDecimal then unusable (.longDigits s.length)
    else unusable (.notInteger 10 (String.ofList s))

/-- An integer in another base. -/
def integerIn (base : Nat) (mark : Char) (s : List Char) : Except Failure Int :=
  match integerIn? base mark s with
  | some i => .ok i
  | none => unusable (.notInteger base (String.ofList s))

/-- The size of an integer: in base two, sixteen, eight, sixty or ten. -/
def integerSize (s : List Char) : Except Failure Int :=
  match s with
  | [] => .error .missingItem
  | ['0'] => .ok 0
  | '0' :: 'b' :: rest => integerIn 2 'b' rest
  | '0' :: 'x' :: rest => integerIn 16 'x' rest
  | '0' :: _ => integerIn 8 'o' s
  | _ =>
    if s.contains ':' then do
      let parts ← (pieces ':' s).mapM decimalInteger
      return parts.foldl (fun n part => 60 * n + part) 0
    else decimalInteger s

/-- An integer. -/
def integerValue (text : String) : Except Failure Int := do
  let (negative, s) ← signed (withoutUnderscores text)
  let size ← integerSize s
  return if negative then -size else size

/-- A floating-point number without a base. -/
def number (s : List Char) : Except Failure Binary64 :=
  match Binary64.ofText? s with
  | some x => .ok x
  | none => unusable (.notNumber (String.ofList s))

/-- The sum of parts in base sixty, the last part first, from a power of sixty on. -/
def sexagesimalSum (sum : Binary64) (power : Nat) : List Binary64 → Except Failure Binary64
  | [] => .ok sum
  | part :: rest =>
    if (Binary64.ofNat power).isFinite then
      sexagesimalSum (sum.plus (part.scaled power)) (60 * power) rest
    else .error .outOfRange

/-- The size of a floating-point number: a name, a number in base sixty, or a decimal number. -/
def numberSize (s : List Char) : Except Failure Binary64 :=
  if s = ".inf".toList then .ok (.infinite false)
  else if s = ".nan".toList then .ok .nan
  else if s.contains ':' then do
    sexagesimalSum (Binary64.ofNat 0) 1 (← (pieces ':' s).mapM number).reverse
  else number s

/-- A floating-point number. -/
def numberValue (text : String) : Except Failure Binary64 := do
  let (negative, s) ← signed (lower (withoutUnderscores text))
  let size ← numberSize s
  return if negative then size.negated else size

/-! ## Dates -/

/-- The number of ASCII digits. -/
def digitsNumber (digits : List Char) : Nat := ofDigits (digits.map asciiDigitValue)

/-- Fails where a part of a date is out of its range. -/
def demand (holds : Bool) (part : DatePart) : Except Failure Unit :=
  if holds then .ok () else unusable (.noDate part)

/-- The seconds of an offset, which is less than a day. -/
def zoneSeconds : Zone → Except Failure Int
  | .universal => .ok 0
  | .offset negative hours minutes =>
    let size : Int := (digitsNumber hours * 60 + digitsNumber minutes : Nat) * 60
    let seconds := if negative then -size else size
    if size < 86400 then .ok seconds else unusable (.wideOffset seconds)

/-- The microseconds that the digits after a point denote; digits after the sixth do not count. -/
def fractionMicros (digits : List Char) : Nat :=
  let digits := digits.take 6
  digitsNumber digits * Nat.pow 10 (6 - digits.length)

/-- A date, which must exist. -/
def dateOf (parts : DateParts) : Except Failure Date := do
  let year := digitsNumber parts.year
  let month := digitsNumber parts.month
  let day := digitsNumber parts.day
  if year = 0 then unusable (.outsideYears 0)
  demand (1 ≤ month && month ≤ 12) .month
  demand (1 ≤ day && day ≤ monthLength year month) .day
  return ⟨year, month, day⟩

/-- A time of a day, which must exist, with an offset. -/
def momentOf (date : Date) (time : TimeParts) (offset : Option Int) : Except Failure Moment := do
  let hour := digitsNumber time.hour
  let minute := digitsNumber time.minute
  let second := digitsNumber time.second
  demand (hour < 24) .hour
  demand (minute < 60) .minute
  demand (second < 60) .second
  return .ofDate date hour minute second (fractionMicros time.fraction) offset

/-- The date of its parts, perhaps with a time. -/
def dateExtra (parts : DateParts) : Except Failure Extra := do
  match parts.time with
  | none => return .date (← dateOf parts)
  | some time =>
    let offset ← time.zone.mapM zoneSeconds
    return .dateTime (← momentOf (← dateOf parts) time offset)

/-- A date, perhaps with a time. -/
def dateValue (text : String) : Except Failure Value :=
  match dateParts? text.toList with
  | some parts => (dateExtra parts).map Value.extra
  | none => .error .noOperation

/-- Bytes in base 64. -/
def bytesValue (text : String) : Except Failure Value :=
  if text.toList.any (128 ≤ ·.toNat) then .error .malformedYaml
  else match Base64.decode? text.toList with
    | some data => .ok (.extra (.bytes data))
    | none => .error .malformedYaml

/-- The value of a scalar of a kind. -/
def scalarValue (kind : Kind) (text : String) : Except Failure Value :=
  match kind with
  | .null => .ok .null
  | .bool => (boolValue text).map Value.bool
  | .int => (integerValue text).map Value.int
  | .float => (numberValue text).map Value.float
  | .binary => bytesValue text
  | .timestamp => dateValue text
  | .text => .ok (.text text)
  | _ => .error .malformedYaml

@[simp] theorem scalarValue_text (text : String) : scalarValue .text text = .ok (.text text) := rfl

@[simp] theorem scalarValue_null (text : String) : scalarValue .null text = .ok .null := rfl

end StorageReply.Yaml

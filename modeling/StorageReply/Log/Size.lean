import StorageReply.Failure
import StorageReply.Text.Blank
import StorageReply.Number.Binary64
import StorageReply.Number.Numeral

/-!
# Sizes of log files

Sizes such as `10MB` or `512 kb`: a decimal number, perhaps with a fraction, and perhaps a unit. The
number is read as a floating-point number before it is multiplied, and the product loses its
fraction.

Main definitions:

* `Size.split?`: the number and the unit of a text;
* `Size.parse`: the bytes that a text denotes.
-/

namespace StorageReply.Size

open Number Text

/-- The number and the unit of a size, as texts. -/
structure Parts where
  /-- The digits before the point. -/
  whole : List Char
  /-- The digits after the point. -/
  fraction : List Char
  /-- The unit; empty where there is none. -/
  unit : List Char
  deriving DecidableEq, Repr

/-- Whether a character may stand before the `B` of a unit. The Kelvin sign is a letter k in capital
form. -/
def isMagnitude (c : Char) : Bool :=
  c == 'K' || c == 'k' || c == '\u212A' || c == 'M' || c == 'm' || c == 'G' || c == 'g'

/-- Whether a character is the last one of a unit. -/
def isByteMark (c : Char) : Bool := c == 'B' || c == 'b'

/-- The unit at the start of a text, and the rest; the unit may be missing. -/
def spanUnit (s : List Char) : List Char × List Char :=
  match s with
  | a :: b :: rest =>
    if isMagnitude a && isByteMark b then ([a, b], rest)
    else if isByteMark a then ([a], b :: rest)
    else ([], s)
  | [a] => if isByteMark a then ([a], []) else ([], s)
  | [] => ([], [])

/-- The fraction at the start of a text, and the rest: a point and at least one digit. -/
def spanFraction (s : List Char) : List Char × List Char :=
  match s with
  | '.' :: rest =>
    if (rest.takeWhile isDecimal).isEmpty then ([], s)
    else (rest.takeWhile isDecimal, rest.dropWhile isDecimal)
  | _ => ([], s)

/-- The parts of a size. -/
def split? (s : List Char) : Option Parts :=
  let s := s.dropWhile isBlank
  let whole := s.takeWhile isDecimal
  let (fraction, rest) := spanFraction (s.dropWhile isDecimal)
  let (unit, rest) := spanUnit (rest.dropWhile isBlank)
  if whole.isEmpty || !rest.all isBlank then none else some ⟨whole, fraction, unit⟩

/-- The bytes of a unit; no bytes are known for a unit with a Kelvin sign. -/
def unitBytes? (unit : List Char) : Option Nat :=
  match unit.map Char.toUpper with
  | [] => some 1
  | ['B'] => some 1
  | ['K', 'B'] => some 1024
  | ['M', 'B'] => some (1024 * 1024)
  | ['G', 'B'] => some (1024 * 1024 * 1024)
  | _ => none

/-- The number that decimal digits of any script denote. -/
def digitsValue (digits : List Char) : Nat := ofDigits (digits.filterMap decimalValue?)

/-- The number in front of the unit. -/
def Parts.number (p : Parts) : Binary64 :=
  .ofDecimal false (digitsValue (p.whole ++ p.fraction)) (-(p.fraction.length : Int))

/-- The bytes that a text denotes. -/
def parse (s : String) : Except Failure Int :=
  match split? s.toList with
  | none => .error (.unusable (.notSize s))
  | some parts =>
    match unitBytes? parts.unit with
    | none => .error .missingKey
    | some bytes =>
      match (parts.number.scaled bytes).truncated? with
      | some n => .ok n
      | none => .error .outOfRange

end StorageReply.Size

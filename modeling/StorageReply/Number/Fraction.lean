import StorageReply.Number.Binary64
import StorageReply.Number.Numeral
import StorageReply.Text.Case

/-!
# Numerals with fractions and other bases

Numbers as people write them, beyond decimal integers: with a point and an exponent, and in bases up
to sixteen.

Main definitions:

* `Binary64.ofText?`: the floating-point number that a text denotes;
* `integerIn?`: the integer that a text denotes in a base.
-/

namespace StorageReply.Number

open StorageReply.Text

/-- The decimal digits of any script at the start of a text, and the rest. -/
def spanDecimals (s : List Char) : List Nat × List Char :=
  ((s.takeWhile isDecimal).filterMap decimalValue?, s.dropWhile isDecimal)

/-- The digits after a point, and the rest. -/
def spanFraction : List Char → List Nat × List Char
  | '.' :: rest => spanDecimals rest
  | rest => ([], rest)

/-- The exponent that a text ends with, zero without one. -/
def exponentOf? : List Char → Option Int
  | [] => some 0
  | e :: rest =>
    let (negative, rest) := splitSign rest
    let (digits, rest) := spanDecimals rest
    if (e = 'e' || e = 'E') && !digits.isEmpty && rest.isEmpty then
      some (if negative then -(ofDigits digits : Int) else ofDigits digits)
    else none

/-- The names of numbers that are not finite, in lower case. -/
def notFinite (negative : Bool) : List (String × Binary64) :=
  [("inf", .infinite negative), ("infinity", .infinite negative), ("nan", .nan)]

/-- The floating-point number that a text denotes: a sign, digits with a point among them, and an
exponent, or a name. -/
def Binary64.ofText? (s : List Char) : Option Binary64 := do
  let (negative, s) := splitSign (withoutMargins s)
  match (notFinite negative).lookup (lowerString (String.ofList s)) with
  | some x => return x
  | none =>
    let (whole, s) := spanDecimals s
    let (part, s) := spanFraction s
    guard (!(whole.isEmpty && part.isEmpty))
    let exponent ← exponentOf? s
    return ofDecimal negative (ofDigits (whole ++ part)) (exponent - part.length)

/-- The value of a digit in a base: a decimal digit of any script or a letter. -/
def digitIn? (base : Nat) (c : Char) : Option Nat :=
  ((decimalValue? c).or (hexValue? c)).filter (· < base)

/-- The digits without the mark of a base, a zero and a letter, in front of them. -/
def withoutMark (mark : Char) : List Char → List Char
  | '0' :: c :: rest => if c.toLower = mark then rest else '0' :: c :: rest
  | s => s

/-- The integer that a text denotes in a base; digits may follow the mark of the base. -/
def integerIn? (base : Nat) (mark : Char) (s : List Char) : Option Int := do
  let (negative, s) := splitSign (withoutMargins s)
  let digits ← (withoutMark mark s).mapM (digitIn? base)
  guard !digits.isEmpty
  let size := digits.foldl (fun n d => base * n + d) 0
  return if negative then -(size : Int) else size

end StorageReply.Number

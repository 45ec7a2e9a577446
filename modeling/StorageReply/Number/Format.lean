import StorageReply.Number.Decimal

/-!
# Formats of floating-point numbers

The text of a number with a given count of digits: positional with some places, with an exponent, or
whichever of the two suits its size.

Main definitions:

* `Style`: the three formats;
* `Binary64.format`: the text of a number in a format, with its sign.
-/

namespace StorageReply.Number

/-- How a number is written. -/
inductive Style
  /-- With a fixed number of places. -/
  | fixed
  /-- With one digit before the point and an exponent. -/
  | scientific
  /-- With a number of significant digits, positional for a number of moderate size. -/
  | general
  deriving DecidableEq, Repr

/-- A text with a point at its end, if one is wanted and the text has none. -/
def withPoint (always : Bool) (s : List Char) : List Char :=
  if always && !s.contains '.' then s ++ ['.'] else s

/-- A text with a point in it but without the zeros at its end, and without a point at its end. -/
def trimFraction (s : List Char) : List Char :=
  if s.contains '.' then
    (((s.reverse.dropWhile (· == '0')).dropWhile (· == '.'))).reverse
  else s

/-- A size with a fixed number of places. -/
def fixedText (num den places : Nat) : List Char :=
  pointed (fixedPlaces num den places).digits places

/-- The mantissa of a size with `places` digits after its first one, and the exponent. -/
def scientificParts (num den places : Nat) : List Char × Int :=
  let d := significant num den (places + 1)
  (pointed d.digits places, d.exponent + places)

/-- A size with one digit before the point and an exponent. -/
def scientificText (num den places : Nat) (always : Bool) : List Char :=
  let (mantissa, exponent) := scientificParts num den places
  withPoint always mantissa ++ 'e' :: exponentText (if num = 0 then 0 else exponent)

/-- A size with `count` significant digits. Zeros at the end are dropped unless they are wanted. -/
def generalText (num den count : Nat) (always : Bool) : List Char :=
  let count := max count 1
  let (mantissa, exponent) := scientificParts num den (count - 1)
  let exponent := if num = 0 then 0 else exponent
  let trim := fun s => if always then withPoint true s else trimFraction s
  if -4 ≤ exponent ∧ exponent < count then
    trim (fixedText num den ((count : Int) - 1 - exponent).toNat)
  else trim mantissa ++ 'e' :: exponentText exponent

/-- The text of a number in a format. `always` asks for a point, and in the general format for the
zeros at the end. -/
def Binary64.format (style : Style) (digits : Nat) (always : Bool) : Binary64 → List Char
  | .nan => ['n', 'a', 'n']
  | .infinite negative => signText negative ++ ['i', 'n', 'f']
  | .finite negative m e =>
    let (num, den) := ratio m e
    signText negative ++ match style with
      | .fixed => withPoint always (fixedText num den digits)
      | .scientific => scientificText num den digits always
      | .general => generalText num den digits always

end StorageReply.Number

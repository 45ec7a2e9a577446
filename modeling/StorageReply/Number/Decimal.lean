import StorageReply.Number.Binary64
import StorageReply.Number.Numeral

/-!
# Decimal text of floating-point numbers

The decimal digits of a binary number, computed exactly: the fewest that read back, a fixed number
of places, or a fixed number of significant digits. A nearer value wins, and a tie goes to the even
last digit.

Main definitions:

* `Decimal`: a natural number times a power of ten;
* `shortest`: the fewest digits that read back as the number, and of those the nearest;
* `fixedPlaces`, `significant`: rounding at a place or to a count of digits;
* `Binary64.text`: positional text between `10 ^ (-4)` and `10 ^ 16`, else an exponent of two or
  more digits.
-/

namespace StorageReply.Number

/-- The number `digits · 10 ^ exponent`. -/
structure Decimal where
  /-- The decimal digits as one number. -/
  digits : Nat
  /-- The power of ten of the last digit. -/
  exponent : Int
  deriving DecidableEq, Repr

/-- How many decimal digits a number has. -/
def digitCount (n : Nat) : Nat := (naturalNumeral n).length

/-- The greatest power of ten that is at most `num / den`. -/
def decimalOrder (num den : Nat) : Int :=
  let k : Int := (digitCount num : Int) - digitCount den
  let reaches :=
    if k < 0 then den ≤ num * Nat.pow 10 k.natAbs else den * Nat.pow 10 k.natAbs ≤ num
  if reaches then k else k - 1

/-- The nearest integer to `num / den · 10 ^ (-place)`. -/
def roundAtPlace (num den : Nat) (place : Int) : Nat :=
  if place < 0 then roundHalfEven (num * Nat.pow 10 place.natAbs) den
  else roundHalfEven num (den * Nat.pow 10 place.natAbs)

/-- The nearest decimal with `count` significant digits; zero has exponent `1 - count`. -/
def significant (num den count : Nat) : Decimal :=
  if num = 0 then ⟨0, 1 - (count : Int)⟩
  else
    let place := decimalOrder num den - ((count : Int) - 1)
    let digits := roundAtPlace num den place
    if digits = Nat.pow 10 count then ⟨digits / 10, place + 1⟩ else ⟨digits, place⟩

/-- The nearest decimal with `places` digits after the point. -/
def fixedPlaces (num den places : Nat) : Decimal :=
  ⟨roundAtPlace num den (-(places : Int)), -places⟩

/-- A decimal without the zeros at its end; `fuel` bounds their number. -/
def Decimal.trimmed (fuel : Nat) (d : Decimal) : Decimal :=
  match fuel with
  | 0 => d
  | fuel + 1 =>
    if d.digits ≠ 0 ∧ d.digits % 10 = 0 then trimmed fuel ⟨d.digits / 10, d.exponent + 1⟩ else d

/-- Whether a decimal reads back as a positive number. -/
def Decimal.readsAs (d : Decimal) (x : Binary64) : Bool :=
  Binary64.ofDecimal false d.digits d.exponent == x

/-- The next decimal of the same places. -/
def Decimal.next (d : Decimal) : Decimal := ⟨d.digits + 1, d.exponent⟩

/-- The decimal with the fewest digits, at least `count` and at most `count + fuel`, that reads back
as `x`, where `num / den` is the size of `x`. Of the decimals of one length the nearest is tried
first and then the one above it: below a power of two the numbers lie closer together, so the
nearest decimal may miss `x` from below while the next one meets it. -/
def shortestFrom (x : Binary64) (num den : Nat) : Nat → Nat → Decimal
  | 0, count => significant num den count
  | fuel + 1, count =>
    let d := significant num den count
    if d.readsAs x then d else if d.next.readsAs x then d.next
    else shortestFrom x num den fuel (count + 1)

/-- The fewest decimal digits that read back as a positive finite number. -/
def shortest (significand : Nat) (exponent : Int) : Decimal :=
  let (num, den) := Binary64.ratio significand exponent
  (shortestFrom (.finite false significand exponent) num den 16 1).trimmed 17

/-- An exponent with its sign and at least two digits. -/
def exponentText (e : Int) : List Char :=
  (if e < 0 then '-' else '+') :: (padded 2 e.natAbs).toList

/-- Digits with a point before the last `places` of them, at least one digit in front. -/
def pointed (digits places : Nat) : List Char :=
  let text := (padded (places + 1) digits).toList
  let whole := text.take (text.length - places)
  if places = 0 then whole else whole ++ '.' :: text.drop (text.length - places)

/-- The text of a positive decimal, positional when its leading digit stands between `10 ^ (-4)` and
`10 ^ 15`, and then with a fractional part always. -/
def Decimal.text (d : Decimal) : List Char :=
  let size := digitCount d.digits
  let lead := d.exponent + size - 1
  if -4 ≤ lead ∧ lead < 16 then
    if d.exponent < 0 then pointed d.digits d.exponent.natAbs
    else naturalNumeral d.digits ++ List.replicate d.exponent.natAbs '0' ++ ['.', '0']
  else pointed d.digits (size - 1) ++ 'e' :: exponentText lead

/-- The sign in front of a number. -/
def signText (negative : Bool) : List Char := if negative then ['-'] else []

/-- The shortest text of a number; `inf` and `nan` name what is not finite. -/
def Binary64.text : Binary64 → String
  | .finite negative 0 _ => String.ofList (signText negative ++ ['0', '.', '0'])
  | .finite negative m e => String.ofList (signText negative ++ (shortest m e).text)
  | .infinite negative => String.ofList (signText negative ++ ['i', 'n', 'f'])
  | .nan => "nan"

end StorageReply.Number

import StorageReply.Text.Digit

/-!
# Integer numerals

Integers as people write them: surrounding blanks, a sign, decimal digits of any script, and single
underscores between digits. A numeral of more than 4300 digits is refused in both directions.

Main definitions:

* `integer?`: the integer that a text denotes;
* `numeral`: the decimal numeral of an integer;
* `numeral?`: the same, refusing an integer that would need too many digits.
-/

namespace StorageReply.Number

open StorageReply.Text

/-- The greatest number of digits of a numeral. -/
def digitLimit : Nat := 4300

/-- The number that a list of decimal digits denotes, most significant first. -/
def ofDigits (digits : List Nat) : Nat := digits.foldl (fun n d => 10 * n + d) 0

/-- Decimal digits with single underscores between neighbours. -/
def groupedDigits? : List Char → Option (List Nat)
  | [] => none
  | [c] => (decimalValue? c).map ([·])
  | c :: '_' :: rest => do return (← decimalValue? c) :: (← groupedDigits? rest)
  | c :: d :: rest => do return (← decimalValue? c) :: (← groupedDigits? (d :: rest))

/-- An optional sign in front of a text: whether it is a minus, and the rest. -/
def splitSign : List Char → Bool × List Char
  | '-' :: rest => (true, rest)
  | '+' :: rest => (false, rest)
  | s => (false, s)

/-- The blanks that may surround a numeral: all but the information separators. -/
def isMargin (c : Char) : Bool := isBlank c && !(0x1C ≤ c.toNat && c.toNat ≤ 0x1F)

/-- The text without the blanks around a numeral. -/
def withoutMargins (s : List Char) : List Char := dropEndWhile isMargin (s.dropWhile isMargin)

/-- The integer that a text denotes. -/
def integer? (s : List Char) : Option Int := do
  let (negative, digits) := splitSign (withoutMargins s)
  let values ← groupedDigits? digits
  guard (values.length ≤ digitLimit)
  return if negative then -(ofDigits values : Int) else ofDigits values

/-- The decimal numeral of a natural number. -/
def naturalNumeral (n : Nat) : List Char := Nat.toDigits 10 n

/-- The decimal numeral of an integer. -/
def numeral (i : Int) : String :=
  if i < 0 then String.ofList ('-' :: naturalNumeral i.natAbs)
  else String.ofList (naturalNumeral i.natAbs)

/-- Whether an integer has a numeral within the limit. -/
def hasNumeral (i : Int) : Bool := i.natAbs < Nat.pow 10 digitLimit

/-- The decimal numeral of an integer, unless it has too many digits. -/
def numeral? (i : Int) : Option String := if hasNumeral i then some (numeral i) else none

/-- A numeral of at least `width` digits, filled with zeros on the left. -/
def padded (width n : Nat) : String :=
  let digits := naturalNumeral n
  String.ofList (List.replicate (width - digits.length) '0' ++ digits)

/-- The lower-case hexadecimal numeral of at least `width` digits. -/
def hexPadded (width n : Nat) : List Char :=
  let digits := Nat.toDigits 16 n
  List.replicate (width - digits.length) '0' ++ digits

end StorageReply.Number

import StorageReply.Text.Blank

/-!
# Digits

The decimal digits of Unicode text come in runs of ten consecutive code points, from the zero to the
nine of one script. A few characters more (superscripts, circled digits) count as digits of a text
but have no place in a decimal number.

Main definitions:

* `decimalValue?`: the value of a decimal digit of any script;
* `isDecimal`, `isDigit`: the two classes.

Every decimal digit has a value below ten (`decimalValue?_lt`).
-/

namespace StorageReply.Text

/-- The zeros of the runs of decimal digits, in increasing order. -/
def decimalZeros : List Nat :=
  [0x30, 0x660, 0x6F0, 0x7C0, 0x966, 0x9E6, 0xA66, 0xAE6, 0xB66, 0xBE6, 0xC66, 0xCE6, 0xD66, 0xDE6,
   0xE50, 0xED0, 0xF20, 0x1040, 0x1090, 0x17E0, 0x1810, 0x1946, 0x19D0, 0x1A80, 0x1A90, 0x1B50,
   0x1BB0, 0x1C40, 0x1C50, 0xA620, 0xA8D0, 0xA900, 0xA9D0, 0xA9F0, 0xAA50, 0xABF0, 0xFF10, 0x104A0,
   0x10D30, 0x11066, 0x110F0, 0x11136, 0x111D0, 0x112F0, 0x11450, 0x114D0, 0x11650, 0x116C0,
   0x11730, 0x118E0, 0x11950, 0x11C50, 0x11D50, 0x11DA0, 0x16A60, 0x16AC0, 0x16B50, 0x1D7CE,
   0x1D7D8, 0x1D7E2, 0x1D7EC, 0x1D7F6, 0x1E140, 0x1E2F0, 0x1E950, 0x1FBF0]

/-- The value of a code point as a decimal digit, given the zeros of the runs. -/
def decimalValueIn? (n : Nat) : List Nat → Option Nat
  | [] => none
  | start :: rest =>
    if n < start then none else if n < start + 10 then some (n - start) else decimalValueIn? n rest

/-- The value of a decimal digit of any script. -/
def decimalValue? (c : Char) : Option Nat := decimalValueIn? c.toNat decimalZeros

/-- Whether a character is a decimal digit of some script. -/
def isDecimal (c : Char) : Bool := (decimalValue? c).isSome

/-- The digits that are not decimal digits, as closed ranges in increasing order. -/
def looseDigitRanges : List (Nat × Nat) :=
  [(0xB2, 0xB3), (0xB9, 0xB9), (0x1369, 0x1371), (0x19DA, 0x19DA), (0x2070, 0x2070),
   (0x2074, 0x2079), (0x2080, 0x2089), (0x2460, 0x2468), (0x2474, 0x247C), (0x2488, 0x2490),
   (0x24EA, 0x24EA), (0x24F5, 0x24FD), (0x24FF, 0x24FF), (0x2776, 0x277E), (0x2780, 0x2788),
   (0x278A, 0x2792), (0x10A40, 0x10A43), (0x10E60, 0x10E68), (0x11052, 0x1105A),
   (0x1F100, 0x1F10A)]

/-- Whether a character counts as a digit of a text. -/
def isDigit (c : Char) : Bool := isDecimal c || inRanges c.toNat looseDigitRanges

/-- Whether a character is one of the ten digits of ASCII. -/
def isAsciiDigit (c : Char) : Bool := '0' ≤ c && c ≤ '9'

/-- The value of a character as a digit of ASCII (zero for any other character). -/
def asciiDigitValue (c : Char) : Nat := c.toNat - '0'.toNat

/-- The value of a character as a digit of base sixteen. -/
def hexValue? (c : Char) : Option Nat :=
  if '0' ≤ c && c ≤ '9' then some (c.toNat - '0'.toNat)
  else if 'a' ≤ c && c ≤ 'f' then some (c.toNat - 'a'.toNat + 10)
  else if 'A' ≤ c && c ≤ 'F' then some (c.toNat - 'A'.toNat + 10)
  else none

theorem decimalValueIn?_lt {n v : Nat} {zeros : List Nat} (h : decimalValueIn? n zeros = some v) :
    v < 10 := by
  induction zeros with
  | nil => simp [decimalValueIn?] at h
  | cons start rest ih =>
    simp only [decimalValueIn?] at h
    split at h
    · simp at h
    · split at h
      · simp only [Option.some.injEq] at h
        omega
      · exact ih h

theorem decimalValue?_lt {c : Char} {v : Nat} (h : decimalValue? c = some v) : v < 10 :=
  decimalValueIn?_lt h

end StorageReply.Text

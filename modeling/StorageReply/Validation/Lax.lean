import StorageReply.Text.Blank
import StorageReply.Text.Digit
import StorageReply.Text.Pieces
import StorageReply.Text.Case
import StorageReply.Text.Utf8
import StorageReply.Number.Numeral
import StorageReply.Validation.Checked

/-!
# Lax conversions

Conversions from dynamic values to texts, truth values and integers that accept more than one
spelling: numbers for truth values, texts for numbers.

Main definitions:

* `Lax.text`, `Lax.bool`, `Lax.integer`: the conversions;
* `Lax.member`: a word of an enumeration;
* `Lax.integerText`: the integer that a text spells.
-/

namespace StorageReply.Lax

open Number Text

/-- A text; bytes are read as UTF-8. -/
def text : Value → Checked String
  | .text s => .ok s
  | .extra (.bytes data) =>
    match Utf8.decode? data with
    | some s => .ok (String.ofList s)
    | none => .defect .notUtf8
  | _ => .defect .notText

/-- The spellings of false and true, in lower case. -/
def falseWords : List String := ["0", "off", "f", "false", "n", "no"]

/-- The spellings of true, in lower case. -/
def trueWords : List String := ["1", "on", "t", "true", "y", "yes"]

/-- The truth value that a text spells; only ASCII letters lose their case. -/
def boolText? (s : String) : Option Bool :=
  let word := String.ofList (s.toList.map asciiLowerChar)
  if falseWords.contains word then some false
  else if trueWords.contains word then some true
  else none

/-- A truth value: itself, a spelling of it, or one of the numbers zero and one. -/
def bool : Value → Checked Bool
  | .bool b => .ok b
  | .text s => ofSpelling (boolText? s)
  | .extra (.bytes data) =>
    ofSpelling ((Utf8.decode? data).bind fun s => boolText? (String.ofList s))
  | .int i => ofSpelling (if i = 0 then some false else if i = 1 then some true else none)
  | .float x =>
    match x.integral? with
    | some i => ofSpelling (if i = 0 then some false else if i = 1 then some true else none)
    | none => .defect .notBool
  | _ => .defect .notBool
where
  /-- The truth value that was found, if any. -/
  ofSpelling : Option Bool → Checked Bool
    | some b => .ok b
    | none => .defect .unreadableBool

/-- The text without the zeros and underscores before its first other digit. All zeros leave the
last character; a fraction keeps the zero before its point. -/
def dropZeros (last : Char) : List Char → Option (List Char)
  | [] => some [last]
  | c :: rest =>
    if c == '0' || c == '_' then dropZeros c rest
    else if '1' ≤ c && c ≤ '9' then some (c :: rest)
    else if c == '.' then some (last :: c :: rest)
    else none

/-- The text without leading zeros, if it begins like a number. -/
def withoutZeros? : List Char → Option (List Char)
  | [] => none
  | '0' :: rest => dropZeros '0' rest
  | c :: rest => if isAsciiDigit c || c == '-' then some (c :: rest) else none

/-- The text without a fraction of zeros. -/
def withoutFraction (s : List Char) : List Char :=
  match cut? (· == '.') s with
  | some (whole, _, fraction) =>
    if !fraction.isEmpty && fraction.all (· == '0') then whole else s
  | none => s

/-- The text without the underscores between digits; none when two are neighbours or one stands at
an end. -/
def withoutUnderscores? (s : List Char) : Option (List Char) :=
  if (pieces '_' s).any List.isEmpty then none else some (s.filter (· != '_'))

/-- Decimal digits without a leading zero. -/
def plainDigits? (s : List Char) : Option Nat :=
  if s.isEmpty || !s.all isAsciiDigit || (s.head? == some '0' && s.length != 1) then none
  else some (ofDigits (s.map asciiDigitValue))

/-- A sign at most, and digits without a leading zero. -/
def plainInteger? (s : List Char) : Option Int :=
  match s with
  | '-' :: digits => (plainDigits? digits).map fun n => -(n : Int)
  | digits => (plainDigits? digits).map Int.ofNat

/-- The plain spelling of an integer that is written with blanks, a plus sign, leading zeros, a
fraction of zeros, or underscores. -/
def plainSpelling? (s : List Char) : Option (List Char) := do
  let s := withoutMargins s
  let s ← match s with
    | '+' :: '-' :: _ => none
    | '+' :: rest => some rest
    | _ => some s
  let s ← withoutZeros? s
  withoutUnderscores? (withoutFraction s)

/-- The integer that a text spells. -/
def integerText (s : List Char) : Except Defect Int :=
  match plainInteger? s with
  | some i => if digitLimit < s.length then .error .oversizedInteger else .ok i
  | none =>
    match (plainSpelling? s).bind fun plain => (plainInteger? plain).map (plain, ·) with
    | some (plain, i) => if digitLimit < plain.length then .error .oversizedInteger else .ok i
    | none => .error .unreadableInteger

/-- An integer: itself, a truth value, a number without a fractional part, or a spelling of it. -/
def integer : Value → Checked Int
  | .int i => .ok i
  | .bool b => .ok (if b then 1 else 0)
  | .text s => .ofExcept (integerText s.toList)
  | .extra (.bytes data) =>
    match Utf8.decode? data with
    | some s => .ofExcept (integerText s)
    | none => .defect .unreadableInteger
  | .float x =>
    if !x.isFinite then .defect .notFinite
    else match x.integral? with
      | none => .defect .fractional
      | some i => if -Int.pow 2 63 < i && i < Int.pow 2 63 then .ok i else .defect .oversizedInteger
  | _ => .defect .notInteger

/-- A word of an enumeration. -/
def member {α : Type} (words : List String) (ofWord? : String → Option α) (v : Value) : Checked α :=
  match v.text?.bind ofWord? with
  | some a => .ok a
  | none => .defect (.notAmong words)

/-- A list of texts. -/
def textList : Value → Checked (List String)
  | .list items => Checked.items text 0 items
  | _ => .defect .notList

end StorageReply.Lax

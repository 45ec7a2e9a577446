import StorageReply.Text.Digit
import StorageReply.Text.Pieces
import StorageReply.Xml.Name

/-!
# References

The references that stand for other text: a character by its number, or an entity by its name.

Main definitions:

* `Piece`: a character or an entity reference;
* `reference?`: the reference after an ampersand;
* `pieces?`: a text with its references read;
* `predefined?`: the five entities that need no declaration.
-/

namespace StorageReply.Xml

open Text

/-- A part of a text in which references have been read. -/
inductive Piece
  /-- A character, as it stands or by its number. -/
  | char (c : Char)
  /-- A reference to an entity. -/
  | entity (name : List Char)
  deriving DecidableEq, Repr

/-- The character of a number, if documents may refer to it. -/
def charOfNumber? (n : Nat) : Option Char :=
  if n < 0xD800 || (0xE000 ≤ n && n < 0x110000) then
    let c := Char.ofNat n
    if isXmlChar c then some c else none
  else none

/-- A number in a base from its digits; a number beyond all characters stays beyond. -/
def numberOf (base : Nat) (digits : List Nat) : Nat :=
  digits.foldl (fun n d => min (n * base + d) 0x110000) 0

/-- The character of the digits before a semicolon, and the rest. -/
def numericReference? (base : Nat) (value? : Char → Option Nat) (s : List Char) :
    Option (Piece × List Char) :=
  let digits := s.takeWhile fun c => (value? c).isSome
  match s.dropWhile fun c => (value? c).isSome with
  | ';' :: rest =>
    if digits.isEmpty then none
    else (charOfNumber? (numberOf base (digits.filterMap value?))).map (Piece.char ·, rest)
  | _ => none

/-- The value of an ASCII digit. -/
def asciiDigit? (c : Char) : Option Nat := if isAsciiDigit c then some (asciiDigitValue c) else none

/-- The reference after an ampersand, and the rest. -/
def reference? : List Char → Option (Piece × List Char)
  | '#' :: 'x' :: rest => numericReference? 16 hexValue? rest
  | '#' :: rest => numericReference? 10 asciiDigit? rest
  | s =>
    match spanName? s with
    | some (name, ';' :: rest) => some (.entity name, rest)
    | _ => none

/-- The pieces of a text of at most `fuel` of them. -/
def piecesFrom? : Nat → List Char → Option (List Piece)
  | _, [] => some []
  | 0, _ :: _ => none
  | fuel + 1, '&' :: rest => do
    let (piece, rest) ← reference? rest
    return piece :: (← piecesFrom? fuel rest)
  | fuel + 1, c :: rest =>
    if isXmlChar c then (piecesFrom? fuel rest).map (.char c :: ·) else none

/-- The pieces of a text. -/
def pieces? (s : List Char) : Option (List Piece) := piecesFrom? s.length s

/-- The character of an entity that needs no declaration. -/
def predefined? (name : List Char) : Option Char :=
  if name = ['a', 'm', 'p'] then some '&'
  else if name = ['l', 't'] then some '<'
  else if name = ['g', 't'] then some '>'
  else if name = ['q', 'u', 'o', 't'] then some '"'
  else if name = ['a', 'p', 'o', 's'] then some '\''
  else none

/-- The parts before and after the first occurrence of a mark. -/
def cutAt? (mark : List Char) : List Char → Option (List Char × List Char)
  | [] => none
  | c :: rest =>
    match after? (c :: rest) mark with
    | some tail => some ([], tail)
    | none => (cutAt? mark rest).map fun (before, tail) => (c :: before, tail)

/-- The text after one blank or more. -/
def afterBlanks? : List Char → Option (List Char)
  | [] => none
  | c :: rest => if isXmlBlank c then some (rest.dropWhile isXmlBlank) else none

/-- The text without its leading blanks. -/
def skipBlanks (s : List Char) : List Char := s.dropWhile isXmlBlank

/-- A blank as a space; every other character as it stands. -/
def spaced (c : Char) : Char := if isXmlBlank c then ' ' else c

/-- The text between quotes at the start of a text, and the rest. -/
def quotedLiteral? : List Char → Option (List Char × List Char)
  | quote :: rest => if quote = '"' || quote = '\'' then cutAt? [quote] rest else none
  | [] => none

/-- The body of a comment after its opening, and the rest: two hyphens close it and stand nowhere
else in it. -/
def comment? (s : List Char) : Option (List Char) :=
  match cutAt? ['-', '-'] s with
  | some (body, '>' :: rest) => if body.all isXmlChar then some rest else none
  | _ => none

/-- Whether a name is the one that only the XML declaration has, in any letter case. -/
def isReservedTarget (name : List Char) : Bool := name.map Char.toLower == ['x', 'm', 'l']

/-- The rest of a text after a processing instruction whose opening has been read. -/
def instruction? (s : List Char) : Option (List Char) :=
  match spanName? s with
  | none => none
  | some (target, rest) =>
    if isReservedTarget target then none
    else match rest with
      | '?' :: '>' :: rest => some rest
      | _ =>
        match (afterBlanks? rest).bind (cutAt? ['?', '>']) with
        | some (body, rest) => if body.all isXmlChar then some rest else none
        | none => none

end StorageReply.Xml

import StorageReply.Json.Tree
import StorageReply.Number.Decimal
import StorageReply.Text.Pieces

/-!
# Writing JSON

Trees and dynamic values as JSON texts of ASCII characters. Every other code point is written as one
or two escaped units of sixteen bits, so a written text has no line break of its own.

Main definitions:

* `Json.quoteText`: code points in quotes;
* `Json.write`: a tree on one line;
* `Json.writeIndented?`: a dynamic value with each member on a line of its own.
-/

namespace StorageReply.Json

open Number Text

/-- The escape of one unit of sixteen bits. -/
def escapedUnit (n : Nat) : List Char := '\\' :: 'u' :: hexPadded 4 n

/-- A character inside a quoted string. -/
def escapedChar (c : Char) : List Char :=
  if c = '"' then ['\\', '"']
  else if c = '\\' then ['\\', '\\']
  else if c = '\n' then ['\\', 'n']
  else if c = '\r' then ['\\', 'r']
  else if c = '\t' then ['\\', 't']
  else if c = '\x0c' then ['\\', 'f']
  else if c = '\x08' then ['\\', 'b']
  else if 0x20 ≤ c.toNat && c.toNat < 0x7F then [c]
  else if c.toNat < 0x10000 then escapedUnit c.toNat
  else
    let n := c.toNat - 0x10000
    escapedUnit (0xD800 + n / 0x400) ++ escapedUnit (0xDC00 + n % 0x400)

/-- A code point inside a quoted string. -/
def escapedCode : CodePoint → List Char
  | .char c => escapedChar c
  | .half k => escapedUnit (0xD800 + k)

/-- A string in quotes. -/
def quoteText (codes : List CodePoint) : String :=
  String.ofList ('"' :: codes.flatMap escapedCode ++ ['"'])

/-- A floating-point number; what is not finite has a name. -/
def floatText : Binary64 → String
  | .nan => "NaN"
  | .infinite negative => if negative then "-Infinity" else "Infinity"
  | x => x.text

/-- How the members of a list or map are laid out: what stands before the first one, between two and
after the last one, for a given depth. -/
structure Layout where
  /-- The text before the first member. -/
  opening : Nat → String
  /-- The text between two members. -/
  between : Nat → String
  /-- The text after the last member. -/
  closing : Nat → String

/-- All members on one line. -/
def oneLine : Layout := ⟨fun _ => "", fun _ => ", ", fun _ => ""⟩

/-- A line break and an indentation of two blanks a level. -/
def newLine (depth : Nat) : String := String.ofList ('\n' :: List.replicate (2 * depth) ' ')

/-- Each member on a line of its own. -/
def indented : Layout :=
  ⟨fun depth => newLine (depth + 1), fun depth => "," ++ newLine (depth + 1), newLine⟩

/-- Members between brackets; without members the brackets stand alone. -/
def enclosed (layout : Layout) (depth : Nat) (left right : String) (parts : List String) : String :=
  if parts.isEmpty then left ++ right
  else left ++ layout.opening depth ++ joinedStrings (layout.between depth) parts
    ++ layout.closing depth ++ right

mutual

/-- The text of a tree at a depth. -/
def writeAt (layout : Layout) (depth : Nat) : Tree → String
  | .null => "null"
  | .bool b => if b then "true" else "false"
  | .int i => numeral i
  | .float x => floatText x
  | .text codes => quoteText codes
  | .list items => enclosed layout depth "[" "]" (writeItems layout (depth + 1) items)
  | .map entries => enclosed layout depth "\x7b" "\x7d" (writeEntries layout (depth + 1) entries)

/-- The texts of the members of a list. -/
def writeItems (layout : Layout) (depth : Nat) : List Tree → List String
  | [] => []
  | t :: rest => writeAt layout depth t :: writeItems layout depth rest

/-- The texts of the entries of a map. -/
def writeEntries (layout : Layout) (depth : Nat) : List (List CodePoint × Tree) → List String
  | [] => []
  | (name, t) :: rest =>
    (quoteText name ++ ": " ++ writeAt layout depth t) :: writeEntries layout depth rest

end

/-- The text of a tree on one line. -/
def write (t : Tree) : String := writeAt oneLine 0 t

/-- The text of a value with each member on a line of its own, if JSON can spell the value. -/
def writeIndented? (v : Value) : Option String := (tree? v).map (writeAt indented 0)

end StorageReply.Json

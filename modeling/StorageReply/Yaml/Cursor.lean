import StorageReply.Failure
import StorageReply.Text.Pieces

/-!
# Places in a settings file

The rest of a settings file from a place on, with the line and the column of the place. Columns tell
how far a line is indented.

Main definitions:

* `Cursor`: a place in a text;
* `Cursor.next`, `Cursor.skip`, `Cursor.skipWhile`: the places further on;
* `Cursor.lineBreak?`: the place after a line break;
* `Cursor.atSeparator`: whether a line marks the start or end of a document.
-/

namespace StorageReply.Yaml

open Text

/-- Whether a character ends a line. Carriage returns have been read as line feeds before. -/
def isBreak (c : Char) : Bool := c == '\n' || c == '\u0085' || c == '\u2028' || c == '\u2029'

/-- Whether a character is a space or a tab. -/
def isSpace (c : Char) : Bool := c == ' ' || c == '\t'

/-- Whether a character separates words: a space, a tab or a line break. -/
def isGap (c : Char) : Bool := isSpace c || isBreak c

/-- Whether a text is at its end or goes on with a character of a kind. -/
def endsOr (p : Char → Bool) : List Char → Bool
  | [] => true
  | c :: _ => p c

/-- Whether a text goes on with a character of a kind. -/
def beginsOne (p : Char → Bool) : List Char → Bool
  | [] => false
  | c :: _ => p c

/-- Whether a character can stand in names of anchors, tags and directives. -/
def isNameChar (c : Char) : Bool := c.isAlphanum || c == '-' || c == '_'

/-- Whether a character may stand in a settings file. -/
def isAllowed (c : Char) : Bool :=
  let n := c.toNat
  n == 0x09 || n == 0x0A || n == 0x0D || (0x20 ≤ n && n ≤ 0x7E) || n == 0x85
    || (0xA0 ≤ n && n ≤ 0xD7FF) || (0xE000 ≤ n && n ≤ 0xFFFD) || 0x10000 ≤ n

/-- A place in a text. -/
structure Cursor where
  /-- The text from here on. -/
  rest : List Char
  /-- The number of characters before. -/
  index : Nat
  /-- The number of lines before. -/
  line : Nat
  /-- The number of characters before on the same line; marks of the byte order do not count. -/
  column : Nat
  deriving Repr

namespace Cursor

/-- The start of a text. -/
def start (s : List Char) : Cursor := ⟨s, 0, 0, 0⟩

/-- The place after one character. -/
def next (c : Cursor) : Cursor :=
  match c.rest with
  | [] => c
  | a :: rest =>
    if isBreak a then ⟨rest, c.index + 1, c.line + 1, 0⟩
    else ⟨rest, c.index + 1, c.line, if a = '\uFEFF' then c.column else c.column + 1⟩

/-- The place after some characters. -/
def skip (c : Cursor) : Nat → Cursor
  | 0 => c
  | n + 1 => c.next.skip n

/-- The place after all characters of a kind that come next. -/
def skipWhile (p : Char → Bool) (c : Cursor) : Cursor := c.skip (c.rest.takeWhile p).length

/-- The place after the spaces that come next. -/
def skipSpaces (c : Cursor) : Cursor := c.skipWhile (· == ' ')

/-- The line break that comes next and the place after it. Two kinds of break count as a line
feed. -/
def lineBreak? (c : Cursor) : Option (Char × Cursor) :=
  match c.rest with
  | a :: _ => if isBreak a then some (if a = '\u0085' then '\n' else a, c.next) else none
  | [] => none

/-- Whether the next characters are given ones. -/
def startsWith (c : Cursor) (s : List Char) : Bool := beginsWith c.rest s

/-- Whether three hyphens or three points come next, and then a gap or the end. -/
def atSeparator (c : Cursor) : Bool :=
  (c.startsWith ['-', '-', '-'] || c.startsWith ['.', '.', '.']) && endsOr isGap (c.rest.drop 3)

/-- The place after the rest of a line, which may hold spaces and a comment only. -/
def skipLine (c : Cursor) : Except Failure Cursor :=
  let c := c.skipSpaces
  let c := if beginsOne (· == '#') c.rest then c.skipWhile (!isBreak ·) else c
  match c.lineBreak? with
  | some (_, c) => .ok c
  | none => if c.rest.isEmpty then .ok c else .error .malformedYaml

@[simp] theorem rest_next (c : Cursor) : c.next.rest = c.rest.tail := by
  unfold next
  split
  · next h => simp [h]
  · next a rest h => split <;> simp [h]

/-- Moving on takes that many characters from the rest. -/
theorem rest_skip (c : Cursor) (n : Nat) : (c.skip n).rest = c.rest.drop n := by
  induction n generalizing c with
  | zero => rfl
  | succ n ih => simp [skip, ih]

end Cursor

end StorageReply.Yaml

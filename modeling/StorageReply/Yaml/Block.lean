import StorageReply.Text.Digit
import StorageReply.Yaml.Cursor

/-!
# Block scalars

Scalars whose lines follow a bar or an angle bracket and are indented further than what is around
them. After a bar lines stay as they are; after an angle bracket they fold, except those that begin
with a blank. Marks behind the first one say what becomes of the line breaks at the end, and how far
the lines are indented.

Main definition: `blockScalar`, the text of a scalar and the place after it.
-/

namespace StorageReply.Yaml

open Text

/-- What becomes of the line breaks at the end of a scalar. -/
inductive Chomping
  /-- The last line keeps its break. -/
  | clip
  /-- All breaks are dropped. -/
  | strip
  /-- All breaks are kept. -/
  | keep
  deriving DecidableEq, Repr

/-- The chomping of a mark. -/
def chomping? : Char → Option Chomping
  | '+' => some .keep
  | '-' => some .strip
  | _ => none

/-- The chomping that a mark at the place asks for, and the place after it. -/
def takeChomping (c : Cursor) : Option Chomping × Cursor :=
  match c.rest.head?.bind chomping? with
  | some chomping => (some chomping, c.next)
  | none => (none, c)

/-- The indentation that a digit at the place asks for, which is not zero, and the place after it.
-/
def takeIndent (c : Cursor) : Except Failure (Option Nat × Cursor) :=
  match c.rest with
  | a :: _ =>
    if !isAsciiDigit a then .ok (none, c)
    else if a = '0' then .error .malformedYaml
    else .ok (some (asciiDigitValue a), c.next)
  | [] => .ok (none, c)

/-- The marks behind the first one, in either order, and the place after them. -/
def blockMarks (c : Cursor) : Except Failure (Chomping × Option Nat × Cursor) := do
  let (first, c) := takeChomping c
  let (indent, c) ← takeIndent c
  let (second, c) := if first.isNone && indent.isSome then takeChomping c else (none, c)
  if endsOr (fun a => a == ' ' || isBreak a) c.rest then
    return ((first.or second).getD .clip, indent, c)
  else .error .malformedYaml

/-- The empty lines before the first line of a scalar, the greatest number of spaces on them or
before that line, and the place after those spaces. -/
def blankLines : Nat → Nat → Cursor → List Char × Nat × Cursor
  | 0, most, c => ([], most, c)
  | fuel + 1, most, c =>
    let c := c.skipSpaces
    let most := max most c.column
    match c.lineBreak? with
    | none => ([], most, c)
    | some (b, c) =>
      let (breaks, most, c) := blankLines fuel most c
      (b :: breaks, most, c)

/-- The place after at most as many spaces as an indentation needs. -/
def skipIndent (indent : Nat) (c : Cursor) : Cursor :=
  c.skip (min (indent - c.column) (c.rest.takeWhile (· == ' ')).length)

/-- The empty lines before the next line of a scalar, and the place after its indentation. -/
def blockBreaks (indent : Nat) : Nat → Cursor → List Char × Cursor
  | 0, c => ([], c)
  | fuel + 1, c =>
    let c := skipIndent indent c
    match c.lineBreak? with
    | none => ([], c)
    | some (b, c) =>
      let (breaks, c) := blockBreaks indent fuel c
      (b :: breaks, c)

/-- Whether a line of a scalar begins at a place. -/
def atLine (indent : Nat) (c : Cursor) : Bool := c.column == indent && !c.rest.isEmpty

/-- The line break at the end of a line, if there is one, and the place after it. -/
def takeBreak (c : Cursor) : List Char × Cursor :=
  match c.lineBreak? with
  | some (b, c) => ([b], c)
  | none => ([], c)

/-- The lines of a scalar from a place on, the break of the last one and the empty lines after it,
and the place after all. -/
def blockLines (folds : Bool) (indent : Nat) :
    Nat → Cursor → List Char × List Char × List Char × Cursor
  | 0, c => ([], [], [], c)
  | fuel + 1, c =>
    let inked := !beginsOne isSpace c.rest
    let line := c.rest.takeWhile (!isBreak ·)
    let (lineBreak, c) := takeBreak (c.skip line.length)
    let (breaks, c) := blockBreaks indent (c.rest.length + 1) c
    if atLine indent c then
      let joint :=
        if folds && lineBreak == ['\n'] && inked && !beginsOne isSpace c.rest then
          if breaks.isEmpty then [' '] else []
        else lineBreak
      let (lines, lineBreak, tail, c) := blockLines folds indent fuel c
      (line ++ joint ++ breaks ++ lines, lineBreak, tail, c)
    else (line, lineBreak, breaks, c)

/-- The text of a scalar whose first mark is at the place, and the place after it. The lines stand
in a collection that is indented by `around`. -/
def blockScalar (folds : Bool) (around : Int) (c : Cursor) : Except Failure (String × Cursor) := do
  let (chomping, given, c) ← blockMarks c.next
  let c ← c.skipLine
  let least := max 1 (around + 1).toNat
  let (breaks, indent, c) := match given with
    | none =>
      let (breaks, most, c) := blankLines (c.rest.length + 1) 0 c
      (breaks, max least most, c)
    | some n =>
      let indent := least + n - 1
      let (breaks, c) := blockBreaks indent (c.rest.length + 1) c
      (breaks, indent, c)
  let (text, lineBreak, tail, c) :=
    if atLine indent c then
      let (lines, lineBreak, tail, c) := blockLines folds indent (c.rest.length + 1) c
      (breaks ++ lines, lineBreak, tail, c)
    else ([], [], breaks, c)
  let ending := match chomping with
    | .clip => lineBreak
    | .strip => []
    | .keep => lineBreak ++ tail
  return (String.ofList (text ++ ending), c)

end StorageReply.Yaml

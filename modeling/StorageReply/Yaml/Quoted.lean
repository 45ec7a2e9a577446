import StorageReply.Text.Digit
import StorageReply.Yaml.Cursor

/-!
# Quoted scalars

Scalars between single or double quotes. A quote is written twice between single quotes and with a
backslash between double ones. Line breaks fold: a single one is a space, and of several the first
one is dropped.

Main definition: `quotedScalar`, the text of a scalar and the place after it.
-/

namespace StorageReply.Yaml

open Text

/-- The character of an escape of one character. -/
def escape? : Char → Option Char
  | '0' => some '\x00'
  | 'a' => some '\x07'
  | 'b' => some '\x08'
  | 't' => some '\t'
  | '\t' => some '\t'
  | 'n' => some '\n'
  | 'v' => some '\x0b'
  | 'f' => some '\x0c'
  | 'r' => some '\r'
  | 'e' => some '\x1b'
  | ' ' => some ' '
  | '"' => some '"'
  | '\\' => some '\\'
  | '/' => some '/'
  | 'N' => some '\u0085'
  | '_' => some '\u00A0'
  | 'L' => some '\u2028'
  | 'P' => some '\u2029'
  | _ => none

/-- The number of hexadecimal digits after a letter that begins an escape. -/
def escapeDigits? : Char → Option Nat
  | 'x' => some 2
  | 'u' => some 4
  | 'U' => some 8
  | _ => none

/-- The number of some hexadecimal digits at the start of a text. -/
def hexNumber? (count : Nat) (s : List Char) : Option Nat :=
  let digits := s.take count
  if digits.length < count then none
  else digits.foldl (fun n c => do return 16 * (← n) + (← hexValue? c)) (some 0)

/-- The character of a code point. -/
def codePoint (n : Nat) : Except Failure Char :=
  if n < 0x110000 then .ok (if 0xD800 ≤ n && n < 0xE000 then '\uFFFD' else Char.ofNat n)
  else if n < Nat.pow 2 31 then .error (.unusable .outsideUnicode)
  else .error .outOfRange

/-- The line breaks after a first one, and the place after the blanks that follow. A line that marks
the end of a document must not come between. -/
def foldedBreaks : Nat → Cursor → Except Failure (List Char × Cursor)
  | 0, _ => .error .malformedYaml
  | fuel + 1, c =>
    if c.atSeparator then .error .malformedYaml
    else
      let c := c.skipWhile isSpace
      match c.lineBreak? with
      | none => .ok ([], c)
      | some (b, c) => do
        let (breaks, c) ← foldedBreaks fuel c
        return (b :: breaks, c)

/-- What a first line break and further ones stand for. -/
def folded (first : Char) (breaks : List Char) : List Char :=
  if first ≠ '\n' then first :: breaks else if breaks.isEmpty then [' '] else breaks

/-- The characters of blanks and line breaks inside a scalar, and the place after them. -/
def quotedGap (c : Cursor) : Except Failure (List Char × Cursor) := do
  let blanks := c.rest.takeWhile isSpace
  let c := c.skip blanks.length
  match c.lineBreak? with
  | none => return (blanks, c)
  | some (b, c) =>
    let (breaks, c) ← foldedBreaks (c.rest.length + 1) c
    return (folded b breaks, c)

/-- The characters of an escape after its backslash, and the place after it. -/
def escaped (c : Cursor) : Except Failure (List Char × Cursor) :=
  match c.rest with
  | [] => .error .malformedYaml
  | a :: rest =>
    match escape? a, escapeDigits? a with
    | some b, _ => .ok ([b], c.next)
    | none, some count =>
      match hexNumber? count rest with
      | some n => do return ([← codePoint n], c.skip (count + 1))
      | none => .error .malformedYaml
    | none, none =>
      match c.lineBreak? with
      | some (_, c) => foldedBreaks (c.rest.length + 1) c
      | none => .error .malformedYaml

/-- The text of a scalar up to its closing quote, and the place after that. -/
def quotedFrom (quote : Char) : Nat → Cursor → Except Failure (List Char × Cursor)
  | 0, _ => .error .malformedYaml
  | fuel + 1, c =>
    match c.rest with
    | [] => .error .malformedYaml
    | a :: rest =>
      if a = quote then
        if quote = '\'' && beginsOne (· == '\'') rest then do
          let (text, c) ← quotedFrom quote fuel (c.skip 2)
          return ('\'' :: text, c)
        else .ok ([], c.next)
      else if quote = '"' && a = '\\' then do
        let (part, c) ← escaped c.next
        let (text, c) ← quotedFrom quote fuel c
        return (part ++ text, c)
      else if isGap a then do
        let (part, c) ← quotedGap c
        let (text, c) ← quotedFrom quote fuel c
        return (part ++ text, c)
      else do
        let (text, c) ← quotedFrom quote fuel c.next
        return (a :: text, c)

/-- The text of a scalar that begins with a quote, and the place after it. -/
def quotedScalar (quote : Char) (c : Cursor) : Except Failure (String × Cursor) := do
  let (text, c) ← quotedFrom quote (c.rest.length + 1) c.next
  return (String.ofList text, c)

end StorageReply.Yaml

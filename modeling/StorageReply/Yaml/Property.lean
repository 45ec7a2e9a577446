import StorageReply.Text.Utf8
import StorageReply.Yaml.Quoted
import StorageReply.Yaml.Token

/-!
# Names, tags and directives

The names that nodes are given and called by, the tags that say what kind of value a node is, and
the directives at the head of a document.

Main definitions:

* `scanName`: the name after an ampersand or a star;
* `scanTag`: a tag after its exclamation mark;
* `scanDirective`: a directive after its percent sign.
-/

namespace StorageReply.Yaml

open Text

/-- Whether a character can follow a name directly. -/
def endsName (c : Char) : Bool :=
  isGap c || c == '?' || c == ':' || c == ',' || c == ']' || c == '\x7d' || c == '%' || c == '@'
    || c == '\x60'

/-- The name after its mark, and the place after it. -/
def scanName (c : Cursor) : Except Failure (String × Cursor) :=
  let c := c.next
  let name := c.rest.takeWhile isNameChar
  let c := c.skip name.length
  if name.isEmpty || !endsOr endsName c.rest then .error .malformedYaml
  else .ok (String.ofList name, c)

/-- Whether a character is a space or a line break. -/
def isWide (c : Char) : Bool := c == ' ' || isBreak c

/-- Whether a character can stand in a tag as it is. -/
def isTagChar (c : Char) : Bool := c.isAlphanum || "-;/?:@&=+$,_.!~*'()[]".toList.contains c

/-- The bytes of escapes of two hexadecimal digits, and the text after them. -/
def tagBytes : List Char → Except Failure (List UInt8 × List Char)
  | '%' :: a :: b :: rest =>
    match hexValue? a, hexValue? b with
    | some x, some y => do
      let (bytes, rest) ← tagBytes rest
      return (UInt8.ofNat (16 * x + y) :: bytes, rest)
    | _, _ => .error .malformedYaml
  | '%' :: _ => .error .malformedYaml
  | rest => .ok ([], rest)

/-- The characters of a tag in which escapes have been read, and the text after it. -/
def tagText : Nat → List Char → Except Failure (List Char × List Char)
  | 0, _ => .error .malformedYaml
  | fuel + 1, s =>
    match s with
    | [] => .ok ([], [])
    | a :: rest =>
      if a = '%' then do
        let (bytes, rest) ← tagBytes (a :: rest)
        match Utf8.decode? bytes with
        | none => .error .malformedYaml
        | some part =>
          let (more, rest) ← tagText fuel rest
          return (part ++ more, rest)
      else if isTagChar a then do
        let (more, rest) ← tagText fuel rest
        return (a :: more, rest)
      else .ok ([], s)

/-- The text of a tag, which is not empty, and the place after it. -/
def scanTagText (c : Cursor) : Except Failure (String × Cursor) := do
  let (text, rest) ← tagText (c.rest.length + 1) c.rest
  if rest.length = c.rest.length then .error .malformedYaml
  else return (String.ofList text, c.skip (c.rest.length - rest.length))

/-- The handle at the start of a tag, exclamation marks included, and the place after it. -/
def scanHandle (c : Cursor) : Except Failure (String × Cursor) :=
  match c.rest with
  | '!' :: rest =>
    if beginsOne (· == ' ') rest then .ok ("!", c.next)
    else
      let name := rest.takeWhile isNameChar
      if beginsOne (· == '!') (rest.drop name.length) then
        .ok (String.ofList ('!' :: name ++ ['!']), c.skip (name.length + 2))
      else .error .malformedYaml
  | _ => .error .malformedYaml

/-- A handle, unless the tag is complete, and the rest of a tag, with the place after it. -/
def scanTag (c : Cursor) : Except Failure (Token × Cursor) := do
  let after := c.next.rest
  let (token, c) ←
    if beginsOne (· == '<') after then do
      let (text, c) ← scanTagText (c.skip 2)
      if beginsOne (· == '>') c.rest then pure (Token.tag none text, c.next)
      else .error .malformedYaml
    else if endsOr isGap after then pure (Token.tag none "!", c.next)
    else do
      let word := after.takeWhile (!isWide ·)
      let (handle, c) ← if word.contains '!' then scanHandle c else pure ("!", c.next)
      let (text, c) ← scanTagText c
      pure (Token.tag (some handle) text, c)
  if endsOr isWide c.rest then return (token, c) else .error .malformedYaml

/-- A number of decimal digits, and the place after it. -/
def scanNumber (c : Cursor) : Except Failure (Nat × Cursor) :=
  let digits := c.rest.takeWhile isAsciiDigit
  if digits.isEmpty then .error .malformedYaml
  else .ok (digits.foldl (fun n d => 10 * n + asciiDigitValue d) 0, c.skip digits.length)

/-- What follows the name of a directive. -/
def scanDirectiveBody (name : String) (c : Cursor) : Except Failure (Directive × Cursor) :=
  if name = "YAML" then do
    let (major, c) ← scanNumber c.skipSpaces
    if beginsOne (· == '.') c.rest then
      let (_, c) ← scanNumber c.next
      if endsOr isWide c.rest then return (.version major, c) else .error .malformedYaml
    else .error .malformedYaml
  else if name = "TAG" then do
    let (handle, c) ← scanHandle c.skipSpaces
    if beginsOne (· == ' ') c.rest then
      let (start, c) ← scanTagText c.skipSpaces
      if endsOr isWide c.rest then return (.tag handle start, c) else .error .malformedYaml
    else .error .malformedYaml
  else .ok (.other, c.skipWhile (!isBreak ·))

/-- A directive, and the place after its line. -/
def scanDirective (c : Cursor) : Except Failure (Directive × Cursor) := do
  let c := c.next
  let name := c.rest.takeWhile isNameChar
  let c := c.skip name.length
  if name.isEmpty || !endsOr isWide c.rest then .error .malformedYaml
  else
    let (directive, c) ← scanDirectiveBody (String.ofList name) c
    return (directive, ← c.skipLine)

end StorageReply.Yaml

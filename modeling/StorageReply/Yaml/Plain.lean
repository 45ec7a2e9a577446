import StorageReply.Yaml.Quoted

/-!
# Plain scalars

Scalars without quotes. They end before a comment, before a colon that is followed by a gap, and
before a line that is not indented further than the collection around them; inside brackets and
braces the marks of these end them too. Line breaks fold as between quotes.

Main definition: `plainScalar`, the text of a scalar, the place after it, and whether that is on
another line.
-/

namespace StorageReply.Yaml

open Text

/-- Whether a character is a mark of lists and maps in brackets and braces. -/
def isFlowMark (c : Char) : Bool := c == ',' || c == '[' || c == ']' || c == '\x7b' || c == '\x7d'

/-- The characters of a plain scalar before the next gap or its end. -/
def plainWord (inside : Bool) : List Char → List Char
  | [] => []
  | a :: rest =>
    if isGap a || (a == ':' && endsOr (fun b => isGap b || (inside && isFlowMark b)) rest)
        || (inside && (isFlowMark a || a == '?')) then []
    else a :: plainWord inside rest

/-- The line breaks after a first one, and the place after the spaces that follow; none before a
line that marks the start or end of a document. -/
def plainBreaks : Nat → Cursor → Option (List Char) × Cursor
  | 0, c => (none, c)
  | fuel + 1, c =>
    if c.atSeparator then (none, c)
    else
      let c := c.skipSpaces
      match c.lineBreak? with
      | none => (some [], c)
      | some (b, c) =>
        let (breaks, c) := plainBreaks fuel c
        (breaks.map (b :: ·), c)

/-- What the spaces and line breaks after a word stand for, the place after them, and whether there
was a line break; nothing at the end of a document. -/
def plainGap (c : Cursor) : Option (List Char) × Cursor × Bool :=
  let spaces := c.rest.takeWhile (· == ' ')
  let c := c.skip spaces.length
  match c.lineBreak? with
  | none => (some spaces, c, false)
  | some (b, c) =>
    let (breaks, c) := plainBreaks (c.rest.length + 1) c
    (breaks.map (folded b), c, true)

/-- The words of a plain scalar with the gaps between them, the place after it, and whether that is
on another line than the last word. Lines of the scalar are indented by at least `indent`; `broken`
tells whether a line break stands before the place. -/
def plainFrom (inside : Bool) (indent : Int) : Nat → Bool → Cursor → List Char × Cursor × Bool
  | 0, broken, c => ([], c, broken)
  | fuel + 1, broken, c =>
    let word := plainWord inside c.rest
    if word.isEmpty then ([], c, broken)
    else
      match plainGap (c.skip word.length) with
      | (none, c, broken) => (word, c, broken)
      | (some gap, c, broken) =>
        if gap.isEmpty || beginsOne (· == '#') c.rest || (!inside && (c.column : Int) < indent) then
          (word, c, broken)
        else
          let (more, c, broken) := plainFrom inside indent fuel broken c
          (if more.isEmpty then word else word ++ gap ++ more, c, broken)

/-- The text of a plain scalar, the place after it, and whether that is on another line. -/
def plainScalar (inside : Bool) (indent : Int) (c : Cursor) : String × Cursor × Bool :=
  let (text, c, broken) := plainFrom inside indent (c.rest.length + 1) false c
  (String.ofList text, c, broken)

end StorageReply.Yaml

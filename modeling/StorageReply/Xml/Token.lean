import StorageReply.Xml.Doctype

/-!
# Tokens of a document

A document as a sequence of tags, character data, references and declarations. Comments and
processing instructions say nothing and become one kind of token.

Main definitions:

* `Token`: the tokens;
* `Token.next?`: the token at the start of a text, and the rest;
* `Token.all?`: the tokens of a text.
-/

namespace StorageReply.Xml

open Text

/-- A token of a document. -/
inductive Token
  /-- Character data as it stands. -/
  | text (s : List Char)
  /-- Character data in a marked section. -/
  | marked (s : List Char)
  /-- A reference. -/
  | reference (piece : Piece)
  /-- A start tag with its attributes, or the tag of an element without content. -/
  | opening (name : List Char) (attributes : List (List Char × List Piece)) (isClosed : Bool)
  /-- An end tag. -/
  | closing (name : List Char)
  /-- A comment or a processing instruction. -/
  | aside
  /-- A document type declaration. -/
  | doctype (markup : List Markup)
  deriving DecidableEq, Repr

namespace Token

/-- Whether a character begins markup. -/
def beginsMarkup (c : Char) : Bool := c == '<' || c == '&'

/-- The value of an attribute after its equals sign, and the rest. Every blank in it counts as a
space. -/
def attributeValue? (s : List Char) : Option (List Piece × List Char) := do
  let (body, rest) ← quotedLiteral? (skipBlanks s)
  return (← Doctype.valueParts? body, rest)

/-- The attributes of a tag up to its end, whether the tag closes itself, and the rest. -/
def attributes? : Nat → List Char → Option (List (List Char × List Piece) × Bool × List Char)
  | 0, _ => none
  | fuel + 1, s =>
    match skipBlanks s with
    | '>' :: rest => some ([], false, rest)
    | '/' :: '>' :: rest => some ([], true, rest)
    | _ => do
      let (name, rest) ← (afterBlanks? s).bind spanQualified?
      match skipBlanks rest with
      | '=' :: rest =>
        let (value, rest) ← attributeValue? rest
        let (others, isClosed, rest) ← attributes? fuel rest
        return ((name, value) :: others, isClosed, rest)
      | _ => none

/-- A start tag after its angle bracket, and the rest. -/
def openingTag? (s : List Char) : Option (Token × List Char) := do
  let (name, rest) ← spanQualified? s
  let (attributes, isClosed, rest) ← attributes? (rest.length + 1) rest
  return (.opening name attributes isClosed, rest)

/-- An end tag after its slash, and the rest. -/
def closingTag? : List Char → Option (Token × List Char)
  | [] => none
  | c :: rest =>
    if isNameStart c then
      let isPart := fun c => isNameChar c || c == ':'
      match skipBlanks (rest.dropWhile isPart) with
      | '>' :: tail => some (.closing (c :: rest.takeWhile isPart), tail)
      | _ => none
    else none

/-- A marked section of character data after its opening, and the rest. -/
def markedSection? (s : List Char) : Option (Token × List Char) :=
  match cutAt? [']', ']', '>'] s with
  | some (body, rest) => if body.all isXmlChar then some (.marked body, rest) else none
  | none => none

/-- Character data at the start of a text, and the rest. The mark that closes a section may not
stand in it. -/
def characterData? (s : List Char) : Option (Token × List Char) :=
  let data := s.takeWhile fun c => !beginsMarkup c
  if data.all isXmlChar && !contains data [']', ']', '>'] then
    some (.text data, s.dropWhile fun c => !beginsMarkup c)
  else none

/-- The token at the start of a text that is not empty, and the rest. -/
def next? : List Char → Option (Token × List Char)
  | '<' :: '/' :: rest => closingTag? rest
  | '<' :: '?' :: rest => (instruction? rest).map (.aside, ·)
  | '<' :: '!' :: '-' :: '-' :: rest => (comment? rest).map (.aside, ·)
  | '<' :: '!' :: rest =>
    match after? rest "[CDATA[".toList with
    | some body => markedSection? body
    | none =>
      match after? rest "DOCTYPE".toList with
      | some body => (Doctype.read? body).map fun (markup, rest) => (.doctype markup, rest)
      | none => none
  | '<' :: rest => openingTag? rest
  | '&' :: rest => (reference? rest).map fun (piece, rest) => (.reference piece, rest)
  | s => characterData? s

/-- The tokens of a text of at most `fuel` of them. -/
def allFrom? : Nat → List Char → Option (List Token)
  | _, [] => some []
  | 0, _ :: _ => none
  | fuel + 1, s => do
    let (token, rest) ← next? s
    return token :: (← allFrom? fuel rest)

/-- The tokens of a text. -/
def all? (s : List Char) : Option (List Token) := allFrom? s.length s

end Token

end StorageReply.Xml

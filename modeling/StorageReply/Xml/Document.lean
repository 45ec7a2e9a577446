import StorageReply.Xml.Namespace
import StorageReply.Xml.Token

/-!
# Documents

The tree that the tokens of a document make. Tags pair, entities are replaced by what they stand
for, names are expanded by the namespaces in force, and nothing but blanks, comments and
instructions stands outside the root element.

Main definitions:

* `Declaration`: the XML declaration, with `Declaration.read?`;
* `Node`: character data or an element, in the content of an element;
* `Document.element?`, `Document.content?`: what tokens make;
* `Document.parse?`: the root element of a text.
-/

namespace StorageReply.Xml

open Text

/-- The XML declaration. -/
structure Declaration where
  /-- The declared encoding. -/
  encoding : Option (List Char)
  /-- Whether the document says that it stands alone. -/
  standalone : Bool
  deriving DecidableEq, Repr

namespace Declaration

/-- Whether a character may stand in a value of the declaration. -/
def isValueChar (c : Char) : Bool := c.isAlphanum || c == '.' || c == '-' || c == '_'

/-- A name and a value at the start of a text, after at least one blank, and the rest. Nothing is
found where only blanks are left; a text of any other form is refused. -/
def pair? (s : List Char) : Option (Option (List Char × List Char) × List Char) :=
  match s with
  | [] => some (none, [])
  | _ =>
    match afterBlanks? s with
    | none => none
    | some [] => some (none, [])
    | some s => do
      let name := s.takeWhile fun c => c != '=' && !isXmlBlank c
      guard (!name.isEmpty)
      match skipBlanks (s.drop name.length) with
      | '=' :: rest =>
        let (value, rest) ← quotedLiteral? (skipBlanks rest)
        guard (value.all isValueChar)
        return (some (name, value), rest)
      | _ => none

/-- The end of a declaration: whether the document stands alone, which it need not say. -/
def finish? (found : Option (List Char × List Char)) (rest : List Char) : Option Bool :=
  match found with
  | none => some false
  | some (name, value) =>
    if name = "standalone".toList && (value == "yes".toList || value == "no".toList)
        && rest.all isXmlBlank then some (value == "yes".toList)
    else none

/-- The declaration between its opening and its end. -/
def body? (s : List Char) : Option Declaration := do
  let (version, rest) ← pair? s
  guard ((version.map Prod.fst) == some "version".toList)
  let (found, rest) ← pair? rest
  match found with
  | some (name, value) =>
    if name = "encoding".toList then
      guard ((value.head?.map Char.isAlpha).getD false)
      let (found, rest) ← pair? rest
      return ⟨some value, ← finish? found rest⟩
    else return ⟨none, ← finish? found rest⟩
  | none => return ⟨none, false⟩

/-- The declaration at the start of a text and the rest; nothing where the text begins otherwise,
and a failure where the declaration is malformed. -/
def read? (s : List Char) : Option (Option Declaration × List Char) :=
  match after? s "<?xml".toList with
  | some (c :: rest) =>
    if isXmlBlank c then
      match cutAt? ['?', '>'] (c :: rest) with
      | some (body, rest) =>
        if body.all isXmlChar then (body? body).map (some ·, rest) else none
      | none => none
    else some (none, s)
  | _ => some (none, s)

end Declaration

/-- A part of the content of an element. -/
inductive Node
  /-- Character data. -/
  | text (s : List Char)
  /-- An element. -/
  | element (e : Element)

namespace Node

/-- The character data before the first element. -/
def leadingText : List Node → List Char
  | .text s :: rest => s ++ leadingText rest
  | _ => []

/-- The elements, each with the character data that follows it as its tail. -/
def elements : List Node → List Element
  | [] => []
  | .text _ :: rest => elements rest
  | .element e :: rest => { e with tail := String.ofList (leadingText rest) } :: elements rest

end Node

namespace Document

/-- The attributes of an element as texts, the defaults after the given ones. -/
def attributeTexts? (d : Doctype) (element : List Char)
    (given : List (List Char × List Piece)) : Option (List (List Char × List Char)) := do
  let texts ← given.mapM fun (name, parts) =>
    (d.valueText? ((d.rule? element name).any (·.isTokenized)) parts).map (name, ·)
  let defaults := d.attributes.filterMap fun a =>
    if a.element == element && !given.any (·.1 == a.name) then a.text.map (a.name, ·) else none
  return texts ++ defaults

/-- Whether the members of a list differ from each other. -/
def distinct {α : Type} [DecidableEq α] : List α → Bool
  | [] => true
  | a :: rest => !rest.contains a && distinct rest

/-- The tag and the attributes of an element, and the bindings inside it. -/
def enter? (d : Doctype) (scope : Scope) (name : List Char)
    (given : List (List Char × List Piece)) : Option (Tag × List (Tag × String) × Scope) := do
  guard (distinct (given.map Prod.fst))
  let texts ← attributeTexts? d name given
  let inner ← scope.enter? texts
  let tag ← inner.elementTag? name
  let plain := texts.filter fun (name, _) => (Scope.declared? name).isNone
  let attributes ← plain.mapM fun (name, value) =>
    (inner.attributeTag? name).map (·, String.ofList value)
  guard (distinct (attributes.map Prod.fst))
  return (tag, attributes, inner)

mutual

/-- The element of a start tag that has been read, and the tokens after it. -/
def element? (d : Doctype) : Nat → List (List Char) → Scope → List Char →
    List (List Char × List Piece) → Bool → List Token → Option (Element × List Token)
  | 0, _, _, _, _, _, _ => none
  | fuel + 1, opened, scope, name, given, isClosed, rest => do
    let (tag, attributes, inner) ← enter? d scope name given
    if isClosed then return (⟨tag, attributes, "", [], ""⟩, rest)
    else
      let (ns, left) ← content? d fuel opened inner rest
      match left with
      | .closing other :: rest =>
        if other = name then
          let text := String.ofList (Node.leadingText ns)
          return (⟨tag, attributes, text, Node.elements ns, ""⟩, rest)
        else none
      | _ => none

/-- The content that tokens make up to an end tag that belongs to no element in it, and the tokens
from there on. The names of the entities that are being replaced are in `opened`. -/
def content? (d : Doctype) :
    Nat → List (List Char) → Scope → List Token → Option (List Node × List Token)
  | 0, _, _, _ => none
  | _ + 1, _, _, [] => some ([], [])
  | fuel + 1, opened, scope, token :: rest =>
    match token with
    | .closing _ => some ([], token :: rest)
    | .aside => content? d fuel opened scope rest
    | .doctype _ => none
    | .text s => (content? d fuel opened scope rest).map fun (ns, rest) => (.text s :: ns, rest)
    | .marked s => (content? d fuel opened scope rest).map fun (ns, rest) => (.text s :: ns, rest)
    | .reference (.char c) =>
      (content? d fuel opened scope rest).map fun (ns, rest) => (.text [c] :: ns, rest)
    | .reference (.entity name) =>
      match predefined? name with
      | some c => (content? d fuel opened scope rest).map fun (ns, rest) => (.text [c] :: ns, rest)
      | none =>
        match d.entity? name with
        | some (.internal text) =>
          if opened.contains name || d.growsTooLarge name then none
          else do
            let tokens ← Token.all? text
            let (replaced, left) ← content? d fuel (name :: opened) scope tokens
            guard left.isEmpty
            let (ns, rest) ← content? d fuel opened scope rest
            return (replaced ++ ns, rest)
        | _ => none
    | .opening name given isClosed => do
      let (element, rest) ← element? d fuel opened scope name given isClosed rest
      let (others, rest) ← content? d fuel opened scope rest
      return (.element element :: others, rest)

end

/-- Whether a token may stand outside the root: blanks, a comment or an instruction. -/
def isOutside : Token → Bool
  | .text s => s.all isXmlBlank
  | .aside => true
  | _ => false

/-- What the document type declaration before the root provides, if there is one, and the tokens
from the root on. -/
def prolog? (standalone : Bool) (tokens : List Token) : Option (Doctype × List Token) :=
  match tokens.dropWhile isOutside with
  | .doctype markup :: rest =>
    (Doctype.ofMarkup? standalone markup).map (·, rest.dropWhile isOutside)
  | rest => some ({}, rest)

/-- The root element that tokens make; `size` bounds the number of steps. -/
def root? (standalone : Bool) (size : Nat) (tokens : List Token) : Option Element := do
  let (d, rest) ← prolog? standalone tokens
  match rest with
  | .opening name given isClosed :: rest =>
    let (e, rest) ← element? d size [] Scope.root name given isClosed rest
    if rest.all isOutside then some e else none
  | _ => none

/-- The root element of a text from which marks of its encoding have been removed. -/
def parse? (s : List Char) : Option Element := do
  let (declaration, rest) ← Declaration.read? (normalizeBreaks s)
  let tokens ← Token.all? rest
  root? (declaration.any (·.standalone)) (4 * s.length + 16) tokens

end Document

end StorageReply.Xml

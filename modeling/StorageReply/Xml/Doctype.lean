import StorageReply.Xml.Reference

/-!
# Document types

The document type declaration with its internal subset. Of its declarations those of entities and
attributes matter for what a document says; the others are only checked. The first declaration of a
name counts. Unless a document stands alone, no declaration counts any more after a reference to a
parameter entity, which is not followed, and an attribute may then refer to entities that are not
declared; the same is so for attributes where a part of the declaration is kept elsewhere.

Main definitions:

* `Markup`: the declarations that matter, as written, with `Doctype.read?`;
* `Doctype`: what declarations provide, with `Doctype.ofMarkup?`;
* `Doctype.valueText?`: the text of an attribute value.
-/

namespace StorageReply.Xml

open Text

/-- What an entity stands for. -/
inductive Entity
  /-- A text of the document itself. -/
  | internal (text : List Char)
  /-- Something outside the document. -/
  | external
  deriving DecidableEq, Repr

/-- A part of a document type declaration that matters, with its values as written. -/
inductive Markup
  /-- A part of the declaration that is kept outside the document. -/
  | outsidePart
  /-- A reference to a parameter entity. -/
  | parameterReference
  /-- A parameter entity with a value. -/
  | parameterEntity (value : List Char)
  /-- An entity with a value. -/
  | entity (name value : List Char)
  /-- An entity that is kept outside the document. -/
  | outsideEntity (name : List Char)
  /-- An attribute of an element, whether it has tokens for its value, and its default value. -/
  | attribute (element name : List Char) (isTokenized : Bool) (value : Option (List Char))
  deriving DecidableEq, Repr

/-- A declared attribute. -/
structure AttributeRule where
  /-- The name of the element, as written. -/
  element : List Char
  /-- The name of the attribute, as written. -/
  name : List Char
  /-- Whether its value consists of tokens, between which a single space stands. -/
  isTokenized : Bool
  /-- The text that it has by default. -/
  text : Option (List Char)
  deriving DecidableEq, Repr

/-- What a document type declaration provides. -/
structure Doctype where
  /-- The entities by name. -/
  entities : List (List Char × Entity) := []
  /-- The attributes by element and name. -/
  attributes : List AttributeRule := []
  /-- Whether declarations still count. -/
  isOpen : Bool := true
  /-- Whether attributes may refer to declared entities only. -/
  isWhole : Bool := true
  deriving DecidableEq, Repr

namespace Doctype

/-- The entity of a name. -/
def entity? (d : Doctype) (name : List Char) : Option Entity := d.entities.lookup name

/-- The greatest length to which references may let an entity grow. -/
def growthLimit : Nat := 8388608

/-- The names of the entities that a text refers to. -/
def referredNames (text : List Char) : List (List Char) :=
  ((pieces? text).getD []).filterMap fun piece =>
    match piece with
    | .entity name => some name
    | .char _ => none

/-- The lengths of all entities when references are followed one level further than in `lengths`. -/
def grownLengths (d : Doctype) (lengths : List (List Char × Nat)) : List (List Char × Nat) :=
  d.entities.map fun (name, entity) =>
    match entity with
    | .internal text =>
      let more := (referredNames text).map fun other => (lengths.lookup other).getD 0
      (name, min (text.length + more.foldr (· + ·) 0) (growthLimit + 1))
    | .external => (name, 0)

/-- Whether following all references lets an entity grow beyond the limit. -/
def growsTooLarge (d : Doctype) (name : List Char) : Bool :=
  let lengths := d.entities.foldl (fun lengths _ => d.grownLengths lengths) []
  growthLimit < (lengths.lookup name).getD 0

/-- The text that references stand for in an attribute value. A replaced entity must not bring in a
tag. -/
def replaced? (d : Doctype) : Nat → List (List Char) → List Piece → Option (List Char)
  | _, _, [] => some []
  | 0, _, _ :: _ => none
  | fuel + 1, opened, .char c :: rest => (replaced? d fuel opened rest).map (c :: ·)
  | fuel + 1, opened, .entity name :: rest =>
    match predefined? name with
    | some c => (replaced? d fuel opened rest).map (c :: ·)
    | none =>
      match d.entity? name with
      | some (.internal text) =>
        if opened.contains name || text.contains '<' || d.growsTooLarge name then none
        else do
          let parts ← pieces? (text.map spaced)
          let replaced ← replaced? d fuel (name :: opened) parts
          return replaced ++ (← replaced? d fuel opened rest)
      | some .external => none
      | none => if d.isWhole then none else replaced? d fuel opened rest

/-- Enough steps to follow all references in an attribute value; an entity is entered once on the
way to any of its parts. -/
def steps (d : Doctype) (parts : List Piece) : Nat :=
  d.entities.foldl (fun n (_, entity) =>
    match entity with
    | .internal text => n + text.length
    | .external => n) (parts.length + 1)

/-- The text of an attribute value. Between tokens a single space is left. -/
def valueText? (d : Doctype) (isTokenized : Bool) (parts : List Piece) : Option (List Char) :=
  (d.replaced? (d.steps parts) [] parts).map fun text =>
    if isTokenized then joined [' '] (wordsFrom (· == ' ') [] text) else text

/-- The rule for an attribute of an element. -/
def rule? (d : Doctype) (element name : List Char) : Option AttributeRule :=
  d.attributes.find? fun a => a.element == element && a.name == name

/-- The declaration with one more entity, unless there is one of this name. -/
def addEntity (d : Doctype) (name : List Char) (entity : Entity) : Doctype :=
  if (d.entity? name).isSome then d else { d with entities := d.entities ++ [(name, entity)] }

/-- The declaration with one more attribute, unless there is one of this name for the element. -/
def addRule (d : Doctype) (a : AttributeRule) : Doctype :=
  if (d.rule? a.element a.name).isSome then d else { d with attributes := d.attributes ++ [a] }

/-- The text that an entity value stands for: characters by number are put in their place,
references to entities stay. -/
def literalText : List Piece → List Char
  | [] => []
  | .char c :: rest => c :: literalText rest
  | .entity name :: rest => '&' :: name ++ ';' :: literalText rest

/-- The text of an entity value. A percent sign would begin a reference to a parameter entity, which
may not stand there. -/
def entityText? (value : List Char) : Option (List Char) :=
  if value.contains '%' then none else (pieces? value).map literalText

/-- The parts of the value of an attribute. Every blank in it counts as a space. -/
def valueParts? (value : List Char) : Option (List Piece) :=
  if value.contains '<' then none else pieces? (value.map spaced)

/-- What is provided after one more declaration. Where declarations do not count any more, their
values are not looked into. -/
def declare? (standalone : Bool) (d : Doctype) : Markup → Option Doctype
  | .outsidePart => some { d with isWhole := standalone }
  | .parameterReference => some { d with isOpen := standalone, isWhole := standalone }
  | .parameterEntity value => if d.isOpen then (entityText? value).map fun _ => d else some d
  | .entity name value =>
    if d.isOpen then (entityText? value).map fun text => d.addEntity name (.internal text)
    else some d
  | .outsideEntity name => some (if d.isOpen then d.addEntity name .external else d)
  | .attribute element name isTokenized none =>
    some (if d.isOpen then d.addRule ⟨element, name, isTokenized, none⟩ else d)
  | .attribute element name isTokenized (some value) =>
    if d.isOpen then do
      let text ← d.valueText? isTokenized (← valueParts? value)
      return d.addRule ⟨element, name, isTokenized, some text⟩
    else some d

/-- What some declarations provide in a document that stands alone or not. -/
def ofMarkup? (standalone : Bool) (markup : List Markup) : Option Doctype :=
  markup.foldlM (declare? standalone) {}

/-! ## Reading declarations -/

/-- The rest of a text after a fixed word. -/
def word? (w : String) (s : List Char) : Option (List Char) := after? s w.toList

/-- The rest of a text after blanks that may be missing and a closing angle bracket. -/
def closing? (s : List Char) : Option (List Char) :=
  match skipBlanks s with
  | '>' :: rest => some rest
  | _ => none

/-- A name token at the start of a text, and the rest. -/
def spanToken? (s : List Char) : Option (List Char × List Char) :=
  let token := s.takeWhile fun c => isNameChar c || c == ':'
  if token.isEmpty then none else some (token, s.drop token.length)

/-- Whether a character may stand in a public identifier. -/
def isPublicChar (c : Char) : Bool :=
  c.isAlphanum || c == ' ' || c == '\n' || "-'()+,./:=?;!*".toList.contains c
    || "@$_%".toList.contains c || c == Char.ofNat 35

/-- A text between quotes whose characters pass a test, and the rest. -/
def literal? (isAllowed : Char → Bool) (s : List Char) : Option (List Char × List Char) := do
  let (body, rest) ← quotedLiteral? s
  guard (body.all isAllowed)
  return (body, rest)

/-- The rest of a text after a public identifier between quotes. -/
def publicLiteral? (s : List Char) : Option (List Char) := (literal? isPublicChar s).map Prod.snd

/-- The rest of a text after a system identifier between quotes. -/
def systemLiteral? (s : List Char) : Option (List Char) := (literal? isXmlChar s).map Prod.snd

/-- The rest of a text after the identifier of an outside resource. -/
def externalId? (s : List Char) : Option (List Char) :=
  match word? "SYSTEM" s with
  | some rest => (afterBlanks? rest).bind systemLiteral?
  | none => do
    let rest ← word? "PUBLIC" s
    let rest ← (afterBlanks? rest).bind publicLiteral?
    (afterBlanks? rest).bind systemLiteral?

/-- The declaration of a parameter entity after its mark, and the rest. -/
def parameterDeclaration? (s : List Char) : Option (List Markup × List Char) := do
  let (_, rest) ← (afterBlanks? s).bind spanName?
  let rest ← afterBlanks? rest
  match literal? isXmlChar rest with
  | some (value, rest) => return ([.parameterEntity value], ← closing? rest)
  | none => return ([], ← (externalId? rest).bind closing?)

/-- The declaration of an entity from its name on, and the rest. -/
def generalDeclaration? (s : List Char) : Option (List Markup × List Char) := do
  let (name, rest) ← spanName? s
  let rest ← afterBlanks? rest
  match literal? isXmlChar rest with
  | some (value, rest) => return ([.entity name value], ← closing? rest)
  | none =>
    let rest ← externalId? rest
    let rest ← match (afterBlanks? rest).bind (word? "NDATA") with
      | some tail => ((afterBlanks? tail).bind spanName?).map Prod.snd
      | none => some rest
    return ([.outsideEntity name], ← closing? rest)

/-- An entity declaration after its opening, and the rest. -/
def entityDeclaration? (s : List Char) : Option (List Markup × List Char) :=
  match afterBlanks? s with
  | some ('%' :: rest) => parameterDeclaration? rest
  | some rest => generalDeclaration? rest
  | none => none

/-- The rest of a text after a mark of repetition that may be missing. -/
def afterRepetition : List Char → List Char
  | '?' :: rest => rest
  | '*' :: rest => rest
  | '+' :: rest => rest
  | s => s

/-- The rest of a text after a group of a content model. The groups that are open are told by the
marks between their members, the innermost group first; a group has only one kind of mark. -/
def members? : Nat → List (Option Char) → List Char → Option (List Char)
  | 0, _, _ => none
  | fuel + 1, groups, s =>
    match skipBlanks s with
    | '(' :: rest => members? fuel (none :: groups) rest
    | s => (spanQualified? s).bind fun (_, rest) => afterMember fuel groups (afterRepetition rest)
where
  /-- The rest after a member of a group: the groups that close here, or the next member. -/
  afterMember : Nat → List (Option Char) → List Char → Option (List Char)
    | fuel + 1, mark :: groups, s =>
      match skipBlanks s with
      | ')' :: rest =>
        if groups.isEmpty then some (afterRepetition rest)
        else afterMember fuel groups (afterRepetition rest)
      | c :: rest =>
        if (c == '|' || c == ',') && mark.all (· == c) then members? fuel (some c :: groups) rest
        else none
      | [] => none
    | _, _, _ => none

/-- The rest of a text after character data and elements in any order. Where elements are named, the
group is repeated. -/
def mixed? : Nat → List Char → Option (List Char)
  | 0, _ => none
  | fuel + 1, s =>
    match skipBlanks s with
    | '|' :: rest =>
      (spanQualified? (skipBlanks rest)).bind fun (_, rest) =>
        match skipBlanks rest with
        | ')' :: '*' :: rest => some rest
        | rest => mixed? fuel rest
    | _ => none

/-- The rest of a text after a content model whose opening parenthesis has been read. -/
def contentModel? (s : List Char) : Option (List Char) :=
  match word? "\x23PCDATA" (skipBlanks s) with
  | some rest =>
    match skipBlanks rest with
    | ')' :: '*' :: rest => some rest
    | ')' :: rest => some rest
    | rest => mixed? rest.length rest
  | none => members? (2 * s.length) [none] s

/-- The rest of a text after an element declaration whose opening has been read. -/
def elementDeclaration? (s : List Char) : Option (List Char) := do
  let (_, rest) ← (afterBlanks? s).bind spanQualified?
  let rest ← afterBlanks? rest
  match (word? "EMPTY" rest).or (word? "ANY" rest) with
  | some rest => closing? rest
  | none =>
    match rest with
    | '(' :: body => (contentModel? body).bind closing?
    | _ => none

/-- The rest of a text after words with bars between them, up to a closing parenthesis. -/
def group? (span? : List Char → Option (List Char × List Char)) : Nat → List Char →
    Option (List Char)
  | 0, _ => none
  | fuel + 1, s => do
    let (_, rest) ← span? (skipBlanks s)
    match skipBlanks rest with
    | '|' :: rest => group? span? fuel rest
    | ')' :: rest => some rest
    | _ => none

/-- The types of attributes with tokens that have a name. -/
def tokenTypes : List String :=
  ["IDREFS", "IDREF", "ID", "ENTITIES", "ENTITY", "NMTOKENS", "NMTOKEN"]

/-- The rest of a text after the first of the given words that it begins with. -/
def oneWord? (s : List Char) : List String → Option (List Char)
  | [] => none
  | w :: others => (word? w s).or (oneWord? s others)

/-- Whether the type of an attribute asks for tokens, and the rest of a text after it. -/
def attributeType? (s : List Char) : Option (Bool × List Char) :=
  match s with
  | '(' :: rest => (group? spanToken? rest.length rest).map (true, ·)
  | _ =>
    match word? "CDATA" s with
    | some rest => some (false, rest)
    | none =>
      match word? "NOTATION" s with
      | some rest =>
        match afterBlanks? rest with
        | some ('(' :: rest) => (group? spanName? rest.length rest).map (true, ·)
        | _ => none
      | none => (oneWord? s tokenTypes).map (true, ·)

/-- The default value of an attribute as written, if it has one, and the rest. -/
def attributeDefault? (s : List Char) : Option (Option (List Char) × List Char) :=
  match oneWord? s ["\x23REQUIRED", "\x23IMPLIED"] with
  | some rest => some (none, rest)
  | none => do
    let rest ← match word? "\x23FIXED" s with
      | some rest => afterBlanks? rest
      | none => some s
    let (value, rest) ← literal? isXmlChar rest
    return (some value, rest)

/-- The attributes of a list of attribute declarations, and the rest after its end. -/
def attributes? (element : List Char) : Nat → List Char → Option (List Markup × List Char)
  | 0, _ => none
  | fuel + 1, s =>
    match closing? s with
    | some rest => some ([], rest)
    | none => do
      let (name, rest) ← (afterBlanks? s).bind spanQualified?
      let (isTokenized, rest) ← (afterBlanks? rest).bind attributeType?
      let (value, rest) ← (afterBlanks? rest).bind attributeDefault?
      let (others, rest) ← attributes? element fuel rest
      return (.attribute element name isTokenized value :: others, rest)

/-- A list of attribute declarations whose opening has been read, and the rest after its end. -/
def attributeList? (s : List Char) : Option (List Markup × List Char) := do
  let (element, rest) ← (afterBlanks? s).bind spanQualified?
  attributes? element (rest.length + 1) rest

/-- The rest of a text after a notation declaration whose opening has been read. -/
def notationDeclaration? (s : List Char) : Option (List Char) := do
  let (_, rest) ← (afterBlanks? s).bind spanName?
  let rest ← afterBlanks? rest
  match externalId? rest with
  | some rest => closing? rest
  | none =>
    let rest ← word? "PUBLIC" rest
    ((afterBlanks? rest).bind publicLiteral?).bind closing?

/-- A declaration with its opening and its end, and the rest. -/
def declaration? (s : List Char) : Option (List Markup × List Char) :=
  match word? "<!--" s with
  | some body => (comment? body).map ([], ·)
  | none =>
    match word? "<?" s with
    | some body => (instruction? body).map ([], ·)
    | none =>
      match word? "<!ENTITY" s with
      | some body => entityDeclaration? body
      | none =>
        match word? "<!ELEMENT" s with
        | some body => (elementDeclaration? body).map ([], ·)
        | none =>
          match word? "<!ATTLIST" s with
          | some body => attributeList? body
          | none =>
            match word? "<!NOTATION" s with
            | some body => (notationDeclaration? body).map ([], ·)
            | none => none

/-- The internal subset up to its closing bracket, and the rest. -/
def subset? : Nat → List Char → Option (List Markup × List Char)
  | 0, _ => none
  | _, [] => none
  | fuel + 1, c :: rest =>
    if isXmlBlank c then subset? fuel rest
    else if c = ']' then some ([], rest)
    else do
      let (found, rest) ←
        if c = '%' then
          match spanName? rest with
          | some (_, ';' :: rest) => some ([.parameterReference], rest)
          | _ => none
        else declaration? (c :: rest)
      let (others, rest) ← subset? fuel rest
      return (found ++ others, rest)

/-- A document type declaration after its opening, and the rest. -/
def read? (s : List Char) : Option (List Markup × List Char) := do
  let (_, rest) ← (afterBlanks? s).bind spanQualified?
  let (outside, rest) := match (afterBlanks? rest).bind externalId? with
    | some tail => ([.outsidePart], tail)
    | none => ([], rest)
  match skipBlanks rest with
  | '[' :: body =>
    let (markup, rest) ← subset? (body.length + 1) body
    return (outside ++ markup, ← closing? rest)
  | '>' :: rest => return (outside, rest)
  | _ => none

end Doctype

end StorageReply.Xml

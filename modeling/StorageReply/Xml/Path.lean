import StorageReply.Number.Numeral
import StorageReply.Text.Pieces
import StorageReply.Xml.Element

/-!
# Paths to elements

A small language for the way from an element to others. A path is a row of steps: a name or `*` for
children, `//` in front of these for all elements below, `.` for the element itself, `..` for the
one around it, and conditions in brackets. Slashes stand between steps.

Main definitions:

* `TagTest`: what a name in a path asks of a tag;
* `Condition`, `PathStep`: the steps;
* `Path.tokens`: the words and marks of a path;
* `Path.read`: the steps of a path.
-/

namespace StorageReply.Xml

open Number Text

/-- What a name in a path asks of a tag. -/
inductive TagTest
  /-- Nothing. -/
  | any
  /-- To have no namespace. -/
  | bare
  /-- To have a local name, in any namespace or none. -/
  | named (name : String)
  /-- To have a full text that begins with this one. -/
  | begins (start : String)
  /-- To have a full text. -/
  | exactly (text : String)
  deriving DecidableEq, Repr

namespace TagTest

/-- The mark for any namespace. -/
def anySpace : List Char := "\x7b*\x7d".toList

/-- The mark for no namespace. -/
def noSpace : List Char := "\x7b\x7d".toList

/-- The end of a name that asks for a namespace alone. -/
def anyName : List Char := "\x7d*".toList

/-- What a name in a path asks for. -/
def ofName (name : List Char) : TagTest :=
  if name = anySpace ++ ['*'] then .any
  else if name = noSpace ++ ['*'] then .bare
  else match after? name anySpace with
    | some rest => .named (String.ofList rest)
    | none =>
      if endsWith name anyName then .begins (String.ofList name.dropLast)
      else .exactly (String.ofList ((after? name noSpace).getD name))

/-- Whether a tag is as a test asks. -/
def passes (t : Tag) : TagTest → Bool
  | .any => true
  | .bare => t.space.isNone
  | .named name => t.text == name || endsWith t.text.toList ('\x7d' :: name.toList)
  | .begins start => beginsWith t.text.toList start.toList
  | .exactly text => t.text == text

end TagTest

/-- What stands in brackets after a step. A flag tells that a text must differ. -/
inductive Condition
  /-- The element has an attribute. -/
  | attribute (name : String)
  /-- An attribute has a value. -/
  | attributeText (name value : String) (differs : Bool)
  /-- There is a child. -/
  | child (test : TagTest)
  /-- A child has a text, that of its descendants included. -/
  | childText (test : TagTest) (text : String) (differs : Bool)
  /-- The element has a text, that of its descendants included. -/
  | text (text : String) (differs : Bool)
  /-- The element has a place among its siblings of the same tag; negative places count from the
  end. -/
  | place (index : Int)
  deriving DecidableEq, Repr

/-- A step of a path. -/
inductive PathStep
  /-- To children. -/
  | children (test : TagTest)
  /-- To all elements below. -/
  | descendants (test : TagTest)
  /-- To the element itself. -/
  | here
  /-- To the element around it. -/
  | parent
  /-- To those elements that meet a condition. -/
  | filter (condition : Condition)
  deriving DecidableEq, Repr

/-- A word or mark of a path. -/
inductive PathToken
  /-- A mark. -/
  | mark (text : String)
  /-- A text in quotes. -/
  | quoted (text : String)
  /-- A name. -/
  | name (name : List Char)
  /-- Blanks. -/
  | blanks
  deriving DecidableEq, Repr

namespace Path

/-! ## Tokens -/

/-- The marks, longer ones first. -/
def marks : List String :=
  ["::", "//", "/", "..", "()", "!=", ".", "*", ":", "[", "]", "(", ")", "@", "="]

/-- Whether a character can be part of a name. -/
def isNameChar (c : Char) : Bool := !(isBlank c || "/[]()@!=".toList.contains c)

/-- A name at the start of a text, and the rest. A namespace in braces in front of the name may hold
any characters. -/
def spanName (s : List Char) : List Char × List Char :=
  let plain := (s.takeWhile isNameChar, s.dropWhile isNameChar)
  match s with
  | '\x7b' :: inside =>
    match cut? (· == '\x7d') inside with
    | some (space, _, rest) =>
      let name := rest.takeWhile isNameChar
      if space.isEmpty || name.isEmpty then plain
      else ('\x7b' :: space ++ '\x7d' :: name, rest.dropWhile isNameChar)
    | none => plain
  | _ => plain

/-- A text in quotes at the start of a text, and the rest. -/
def quoted? : List Char → Option (PathToken × List Char)
  | c :: rest =>
    if c == '"' || c == '\'' then
      (cut? (· == c) rest).map fun (text, _, rest) => (.quoted (String.ofList text), rest)
    else none
  | [] => none

/-- A mark at the start of a text, and the rest. -/
def mark? (s : List Char) : Option (PathToken × List Char) :=
  marks.findSome? fun m => (after? s m.toList).map (.mark m, ·)

/-- A name or blanks at the start of a text, and the rest. -/
def word? (s : List Char) : Option (PathToken × List Char) :=
  let (name, rest) := spanName s
  if !name.isEmpty then some (.name name, rest)
  else if (s.takeWhile isBlank).isEmpty then none
  else some (.blanks, s.dropWhile isBlank)

/-- The tokens of a text of at most `fuel` characters. A character that begins none stands for
nothing. -/
def tokensFrom : Nat → List Char → List PathToken
  | 0, _ => []
  | _, [] => []
  | fuel + 1, c :: rest =>
    match ((quoted? (c :: rest)).or (mark? (c :: rest))).or (word? (c :: rest)) with
    | some (token, rest) => token :: tokensFrom fuel rest
    | none => tokensFrom fuel rest

/-- The tokens of a path. -/
def tokens (s : List Char) : List PathToken := tokensFrom s.length s

/-- A token on its own; no name can have a prefix, as none is declared. -/
def checked : PathToken → Except Failure PathToken
  | .name name =>
    if name.head? != some '\x7b' && name.contains ':' then .error .malformedPath
    else .ok (.name name)
  | token => .ok token

/-! ## Conditions -/

/-- The tokens up to a closing bracket, and those after it. A condition without one cannot be
used. -/
def spanCondition : List PathToken → Except Failure (List PathToken × List PathToken)
  | [] => .error .wrongKind
  | token :: rest => do
    let token ← checked token
    if token = .mark "]" then return ([], rest)
    let (inside, rest) ← spanCondition rest
    return (token :: inside, rest)

/-- The sign of a token in the form of a condition. -/
def sign : PathToken → String
  | .mark text => text
  | .quoted _ => "'"
  | .name _ => "-"
  | .blanks => ""

/-- The text of a token in a condition. -/
def textOf : PathToken → List Char
  | .mark _ => []
  | .quoted text => text.toList
  | .name name => name
  | .blanks => []

/-- Whether a name is an integer without a plus. -/
def isNumber (name : List Char) : Bool :=
  let digits := if name.head? == some '-' then name.drop 1 else name
  !digits.isEmpty && digits.all isDecimal

/-- The condition that an element has a place counted from one. -/
def placeOf (name : List Char) : Except Failure Condition :=
  match integer? name with
  | some i => if i < 1 then .error .malformedPath else .ok (.place (i - 1))
  | none => .error (.unusable (.longDigits (name.filter isDecimal).length))

/-- The condition that an element has a place counted from the last one back. -/
def placeFromLast (offset : List Char) : Except Failure Condition :=
  match integer? offset with
  | some i => if i < 0 then .ok (.place (i - 1)) else .error .malformedPath
  | none => .error .malformedPath

/-- The condition of a form with its texts. -/
def conditionOf (form : String) (texts : List (List Char)) : Except Failure Condition :=
  let first := texts.headD []
  let second := String.ofList (texts[1]?.getD [])
  let last := String.ofList (texts.getLastD [])
  let childText := fun differs =>
    if isNumber first then .error .malformedPath
    else .ok (Condition.childText (.ofName first) last differs)
  match form with
  | "@-" => .ok (.attribute second)
  | "@-='" => .ok (.attributeText second last false)
  | "@-!='" => .ok (.attributeText second last true)
  | "-" => if isNumber first then placeOf first else .ok (.child (.ofName first))
  | ".='" => .ok (.text last false)
  | ".!='" => .ok (.text last true)
  | "-='" => childText false
  | "-!='" => childText true
  | "-()" => if first = "last".toList then .ok (.place (-1)) else .error .malformedPath
  | "-()-" =>
    if first = "last".toList then placeFromLast (texts[2]?.getD []) else .error .malformedPath
  | _ => .error .malformedPath

/-- The condition after an opening bracket, and the tokens after it. Blanks do not matter. -/
def takeCondition (rest : List PathToken) : Except Failure (PathStep × List PathToken) := do
  let (inside, rest) ← spanCondition rest
  let inside := inside.filter (· != .blanks)
  let condition ← conditionOf (joinedStrings "" (inside.map sign)) (inside.map textOf)
  return (.filter condition, rest)

/-! ## Steps -/

/-- The step after a double slash, and the tokens after it. -/
def takeDescendants : List PathToken → Except Failure (PathStep × List PathToken)
  | [] => .error .wrongKind
  | token :: rest => do
    match ← checked token with
    | .mark "*" => return (.descendants .any, rest)
    | .name name => return (.descendants (.ofName name), rest)
    | .blanks => return (.descendants (.exactly ""), rest)
    | _ => .error .malformedPath

/-- The step that a token begins, and the tokens after it. Blanks stand for an empty name. -/
def takeStep (token : PathToken) (rest : List PathToken) :
    Except Failure (PathStep × List PathToken) := do
  match ← checked token with
  | .name name => return (.children (.ofName name), rest)
  | .blanks => return (.children (.exactly ""), rest)
  | .mark "*" => return (.children .any, rest)
  | .mark "." => return (.here, rest)
  | .mark ".." => return (.parent, rest)
  | .mark "//" => takeDescendants rest
  | .mark "[" => takeCondition rest
  | _ => .error .missingKey

/-- The tokens without a slash in front. -/
def skipSlash : List PathToken → List PathToken
  | .mark "/" :: rest => rest
  | tokens => tokens

/-- The steps of at most `fuel` tokens. -/
def stepsFrom : Nat → List PathToken → Except Failure (List PathStep)
  | 0, _ => .ok []
  | _, [] => .ok []
  | fuel + 1, token :: rest => do
    let (step, rest) ← takeStep token rest
    return step :: (← stepsFrom fuel (skipSlash rest))

/-- The steps of a path. It cannot begin with a slash, and ends with all children where it ends with
one. -/
def read (s : List Char) : Except Failure (List PathStep) :=
  if s.head? == some '/' then .error .malformedPath
  else
    let tokens := tokens (if s.getLast? == some '/' then s ++ ['*'] else s)
    stepsFrom tokens.length tokens

/-- Whether a character makes a text a path. -/
def isPathMark (c : Char) : Bool := "/*[@.".toList.contains c

/-- Whether a text has a mark of a path outside braces. -/
def marked : Bool → List Char → Bool
  | _, [] => false
  | outside, c :: rest =>
    if c == '\x7b' then marked false rest
    else if c == '\x7d' then marked true rest
    else (outside && isPathMark c) || marked outside rest

/-- Whether a text is a path, and not just the text of a tag. -/
def isPath (s : List Char) : Bool :=
  (beginsWith s TagTest.noSpace && 2 < s.length) || beginsWith s TagTest.anySpace || marked true s

end Path

end StorageReply.Xml

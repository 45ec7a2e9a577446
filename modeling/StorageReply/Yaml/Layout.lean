import StorageReply.Yaml.Block
import StorageReply.Yaml.Plain
import StorageReply.Yaml.Property

/-!
# Layout of settings files

From characters to tokens. Two things are not plain to see in the characters: where a collection
begins or ends because the indentation changes, and that a scalar is a key, which only the colon
after it tells. So every node that may be a key is kept in mind with its place among the tokens, one
for each depth of brackets and braces, until a colon comes, or cannot come any more: a key stands on
one line and has at most 1024 characters.

Main definitions:

* `Candidate`: a node that may be a key;
* `Layout`: the state between two tokens;
* `tokens`: the tokens of a text.
-/

namespace StorageReply.Yaml

open Text

/-- A node that may be a key. -/
structure Candidate where
  /-- The number of tokens before it. -/
  position : Nat
  /-- Whether it must be a key, for nothing else can stand there. -/
  required : Bool
  /-- Its place. -/
  place : Cursor

/-- The state between two tokens. -/
structure Layout where
  /-- The place in the text. -/
  cursor : Cursor
  /-- The tokens so far, the last one first. -/
  done : List Token
  /-- The indentation of the innermost collection; -1 outside all. -/
  indent : Int
  /-- The indentations of the collections around it, innermost first. -/
  outer : List Int
  /-- Whether a key may begin here. -/
  canKey : Bool
  /-- The node that may be a key at this depth of brackets and braces. -/
  candidate : Option Candidate
  /-- The same for the depths around it, innermost first; their number is the depth. -/
  pending : List (Option Candidate)

namespace Layout

/-- The start of a text. A mark of the byte order does not count. -/
def start (s : List Char) : Layout :=
  let c := Cursor.start s
  ⟨if beginsOne (· == '\uFEFF') s then c.next else c, [], -1, [], true, none, []⟩

/-- Whether the place is inside brackets or braces. -/
def inside (l : Layout) : Bool := !l.pending.isEmpty

/-- The layout with one more token. -/
def push (l : Layout) (token : Token) : Layout := { l with done := token :: l.done }

/-- The layout with a token of some characters. -/
def take (l : Layout) (count : Nat) (token : Token) : Layout :=
  { l with cursor := l.cursor.skip count, done := token :: l.done }

/-- The layout without the candidate at this depth; one that must be a key must not get lost. -/
def dropCandidate (l : Layout) : Except Failure Layout :=
  match l.candidate with
  | some candidate => if candidate.required then .error .malformedYaml
      else .ok { l with candidate := none }
  | none => .ok l

/-- Whether a colon can no more come for a candidate. -/
def isStale (c : Cursor) (candidate : Candidate) : Bool :=
  candidate.place.line != c.line || 1024 < c.index - candidate.place.index

/-- A candidate, unless it has become stale. -/
def fresh (c : Cursor) : Option Candidate → Except Failure (Option Candidate)
  | none => .ok none
  | some candidate =>
    if !isStale c candidate then .ok (some candidate)
    else if candidate.required then .error .malformedYaml
    else .ok none

/-- The layout without stale candidates. -/
def refresh (l : Layout) : Except Failure Layout := do
  let pending ← l.pending.mapM (fresh l.cursor)
  let candidate ← fresh l.cursor l.candidate
  return { l with candidate := candidate, pending := pending }

/-- The layout with the node at the place as a candidate, where a key may begin. -/
def offer (l : Layout) : Except Failure Layout :=
  if l.canKey then do
    let l ← l.dropCandidate
    let required := !l.inside && l.indent == l.cursor.column
    return { l with candidate := some ⟨l.done.length, required, l.cursor⟩ }
  else .ok l

/-- The layout after all collections that are indented further than a column have ended. -/
def unwindFrom (column : Int) (l : Layout) : List Int → Layout
  | [] => if column < l.indent then { l with indent := -1, outer := [] }.push .blockEnd else l
  | around :: outer =>
    if column < l.indent then
      unwindFrom column ({ l with indent := around, outer := outer }.push .blockEnd) outer
    else l

/-- The layout after all collections that are indented further than a column have ended. Inside
brackets and braces indentation does not count. -/
def unwind (column : Int) (l : Layout) : Layout :=
  if l.inside then l else unwindFrom column l l.outer

/-- The layout with a collection at a column, and whether it is a new one. -/
def indentTo (l : Layout) (column : Nat) : Layout × Bool :=
  if l.indent < column then
    ({ l with indent := column, outer := l.indent :: l.outer }, true)
  else (l, false)

/-- The layout with a token before the collection at the place, where that is a new one. -/
def openAt (l : Layout) (token : Token) : Layout :=
  match l.indentTo l.cursor.column with
  | (l, true) => l.push token
  | (l, false) => l

/-- The place of the next token: after spaces, comments and line breaks. After a line break a key
may begin. -/
def skipBlank : Nat → Layout → Layout
  | 0, l => l
  | fuel + 1, l =>
    let c := l.cursor.skipSpaces
    let c := if beginsOne (· == '#') c.rest then c.skipWhile (!isBreak ·) else c
    match c.lineBreak? with
    | some (_, c) => skipBlank fuel { l with cursor := c, canKey := l.canKey || !l.inside }
    | none => { l with cursor := c }

/-- A line that marks the start or end of a document, or begins with a directive, ends all
collections. -/
def endAll (l : Layout) : Except Failure Layout := do
  let l ← (l.unwind (-1)).dropCandidate
  return { l with canKey := false }

/-- An opening bracket or brace. -/
def openFlow (l : Layout) (token : Token) : Except Failure Layout := do
  let l ← l.offer
  let l := l.take 1 token
  return { l with canKey := true, candidate := none, pending := l.candidate :: l.pending }

/-- A closing bracket or brace. -/
def closeFlow (l : Layout) (token : Token) : Except Failure Layout := do
  let l ← l.dropCandidate
  match l.pending with
  | [] => .error .malformedYaml
  | candidate :: pending =>
    return { l with canKey := false, candidate := candidate, pending := pending }.take 1 token

/-- A comma. -/
def comma (l : Layout) : Except Failure Layout := do
  let l ← l.dropCandidate
  return { l with canKey := true }.take 1 .comma

/-- A hyphen before a member. -/
def member (l : Layout) : Except Failure Layout := do
  let l ←
    if l.inside then pure l
    else if l.canKey then pure (l.openAt .blockListStart)
    else .error .malformedYaml
  let l ← l.dropCandidate
  return { l with canKey := true }.take 1 .member

/-- A question mark before a key. -/
def key (l : Layout) : Except Failure Layout := do
  let l ←
    if l.inside then pure l
    else if l.canKey then pure (l.openAt .blockMapStart)
    else .error .malformedYaml
  let l ← l.dropCandidate
  return { l with canKey := !l.inside }.take 1 .key

/-- The tokens with others put in after the first ones; the last token comes first. -/
def insertAfter (count : Nat) (tokens : List Token) (done : List Token) : List Token :=
  let later := done.length - count
  done.take later ++ tokens.reverse ++ done.drop later

/-- The layout in which a candidate has become a key. -/
def promote (l : Layout) (candidate : Candidate) : Layout :=
  let (l, isNew) := if l.inside then (l, false) else l.indentTo candidate.place.column
  let tokens := if isNew then [Token.blockMapStart, .key] else [.key]
  { l with
    done := insertAfter candidate.position tokens l.done, candidate := none, canKey := false }

/-- A colon before a value. -/
def value (l : Layout) : Except Failure Layout :=
  match l.candidate with
  | some candidate => .ok ((l.promote candidate).take 1 .value)
  | none =>
    if l.inside then .ok ({ l with canKey := false }.take 1 .value)
    else if l.canKey then .ok ((l.openAt .blockMapStart).take 1 .value)
    else .error .malformedYaml

/-- The layout after a node whose end is known. -/
def node (l : Layout) (token : Token) (c : Cursor) (canKey : Bool) : Layout :=
  { l with cursor := c, done := token :: l.done, canKey := canKey }

/-- The name of a node. -/
def name (l : Layout) (token : String → Token) : Except Failure Layout := do
  let l ← l.offer
  let (name, c) ← scanName l.cursor
  return l.node (token name) c false

/-- The tag of a node. -/
def tag (l : Layout) : Except Failure Layout := do
  let l ← l.offer
  let (token, c) ← scanTag l.cursor
  return l.node token c false

/-- A scalar whose lines follow a bar or an angle bracket. -/
def block (l : Layout) (folds : Bool) : Except Failure Layout := do
  let l ← l.dropCandidate
  let (text, c) ← blockScalar folds l.indent l.cursor
  return l.node (.scalar text false) c true

/-- A scalar between quotes. -/
def quoted (l : Layout) (quote : Char) : Except Failure Layout := do
  let l ← l.offer
  let (text, c) ← quotedScalar quote l.cursor
  return l.node (.scalar text false) c false

/-- A scalar without quotes. A key may follow it on another line. -/
def plain (l : Layout) : Except Failure Layout := do
  let l ← l.offer
  let (text, c, broken) := plainScalar l.inside (l.indent + 1) l.cursor
  return l.node (.scalar text true) c broken

/-- Whether a plain scalar cannot begin with a character. -/
def isMark (c : Char) : Bool := "-?:,[]\x7b\x7d#&*!|>'\"%@\x60".toList.contains c

/-- Whether a plain scalar begins with a character before a text. -/
def beginsPlain (inside : Bool) (a : Char) (rest : List Char) : Bool :=
  (!isGap a && !isMark a)
    || (!endsOr isGap rest && (a == '-' || (!inside && (a == '?' || a == ':'))))

/-- The layout after the token that begins with a character. -/
def token (l : Layout) (a : Char) (rest : List Char) : Except Failure Layout :=
  let gap := endsOr isGap rest
  if a == '%' && l.cursor.column == 0 then do
    let l ← l.endAll
    let (directive, c) ← scanDirective l.cursor
    return { l with cursor := c }.push (.directive directive)
  else if l.cursor.column == 0 && l.cursor.atSeparator then do
    let l ← l.endAll
    return l.take 3 (if a == '-' then .documentStart else .documentEnd)
  else if a == '[' then l.openFlow .listStart
  else if a == '\x7b' then l.openFlow .mapStart
  else if a == ']' then l.closeFlow .listEnd
  else if a == '\x7d' then l.closeFlow .mapEnd
  else if a == ',' then l.comma
  else if a == '-' && gap then l.member
  else if a == '?' && (l.inside || gap) then l.key
  else if a == ':' && (l.inside || gap) then l.value
  else if a == '*' then l.name .alias
  else if a == '&' then l.name .anchor
  else if a == '!' then l.tag
  else if a == '|' && !l.inside then l.block false
  else if a == '>' && !l.inside then l.block true
  else if a == '\'' || a == '"' then l.quoted a
  else if beginsPlain l.inside a rest then l.plain
  else .error .malformedYaml

/-- The tokens from a state on, of at most `fuel` steps. -/
def tokensFrom : Nat → Layout → Except Failure (List Token)
  | 0, _ => .error .malformedYaml
  | fuel + 1, l => do
    let l ← (l.skipBlank (l.cursor.rest.length + 1)).refresh
    let l := l.unwind l.cursor.column
    match l.cursor.rest with
    | [] => do
      let l ← (l.unwind (-1)).dropCandidate
      return l.done.reverse
    | a :: rest => do
      tokensFrom fuel (← l.token a rest)

end Layout

/-- The tokens of a text. -/
def tokens (s : List Char) : Except Failure (List Token) :=
  Layout.tokensFrom (s.length + 1) (Layout.start s)

end StorageReply.Yaml

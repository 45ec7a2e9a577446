import StorageReply.Yaml.Layout
import StorageReply.Yaml.Node
import StorageReply.Yaml.Scalar

/-!
# Reading YAML

Settings files in the YAML format, version 1.1, as dynamic values. Maps can take in the entries of
other maps under the key `<<`; their own entries count before those.

Main definitions:

* `value`: the value of a node;
* `Yaml.parse`: the value that a whole text denotes.
-/

namespace StorageReply.Yaml

/-- The value of a part of a file, or a failure with the depth at which it was met. -/
abbrev Found (α : Type) : Type := Except (Nat × Failure) α

namespace Found

/-- Two values combined. Collections are filled level by level, so of two failures the one at the
lesser depth counts, and at equal depths the first one. -/
def both {α β γ : Type} (f : α → β → γ) : Found α → Found β → Found γ
  | .ok a, .ok b => .ok (f a b)
  | .ok _, .error e => .error e
  | .error e, .ok _ => .error e
  | .error e, .error e' => .error (if e'.1 < e.1 then e' else e)

/-- A result at a depth. -/
def ofResult {α : Type} (depth : Nat) : Except Failure α → Found α
  | .ok a => .ok a
  | .error failure => .error (depth, failure)

/-- A file that breaks the rules at a depth. -/
def malformed {α : Type} (depth : Nat) : Found α := .error (depth, .malformedYaml)

end Found

namespace Node

/-- The kind of a node. -/
def kind? : Node → Option Kind
  | .scalar kind _ => some kind
  | .list kind _ => some kind
  | .map kind _ => some kind
  | .cycle => none

mutual

/-- The text of a node as a scalar. A map stands for its standard value. -/
def scalarText? : Node → Option String
  | .scalar _ text => some text
  | .map _ entries => standardText? entries
  | _ => none

/-- The text of the value under the key of the standard value. -/
def standardText? : List (Node × Node) → Option String
  | [] => none
  | (key, v) :: rest => if key.kind? == some .standard then scalarText? v else standardText? rest

end

end Node

/-- Whether values of a kind are filled after they were made. -/
def isCollection (kind : Kind) : Bool := [Kind.list, .map, .set, .orderedMap, .pairs].contains kind

/-- The value of a node as a scalar of a kind, from its text. -/
def ofScalar (depth : Nat) (kind : Kind) (text : Option String) : Found Value :=
  if isCollection kind then Found.malformed (depth + 1)
  else match text with
    | some text => Found.ofResult depth (scalarValue kind text)
    | none => Found.malformed depth

/-- The key of a map that a value stands for. Collections cannot be keys. -/
def keyOf? : Value → Option Key
  | .text s => some (.text s)
  | .bool b => some (.number (if b then 1 else 0))
  | .int i => some (.number i)
  | .null => some (.other "None")
  | .float x => some (.other x.text)
  | .extra (.bytes data) => some (.other (Text.quotedBytes data))
  | .extra (.date d) => some (.other (Value.dateShown d))
  | .extra (.dateTime m) => some (.other (Value.momentShown m))
  | _ => none

/-- The key of a map that was found. -/
def keyAt (depth : Nat) : Found Value → Found Key
  | .ok v =>
    match keyOf? v with
    | some key => .ok key
    | none => Found.malformed depth
  | .error e => .error e

/-- The key of an entry: the key of the standard value counts as a text. -/
def keyFound (depth : Nat) (node : Node) (v : Found Value) : Found Key :=
  if node.kind? == some .standard then
    keyAt depth (ofScalar depth .text node.scalarText?)
  else keyAt depth v

mutual

/-- The value of a node at a depth. -/
def value (depth : Nat) : Node → Found Value
  | .scalar kind text => ofScalar depth kind (some text)
  | .list .list items => (values (depth + 1) items).map Value.list
  | .list .orderedMap items => (pairItems (depth + 1) items).map Value.list
  | .list .pairs items => (pairItems (depth + 1) items).map Value.list
  | .list kind _ => ofScalar depth kind none
  | .map .map entries =>
    (Found.both (· ++ ·) (mergedPairs (depth + 1) entries) (ownPairs (depth + 1) entries)).map
      fun pairs => .map (Fields.ofPairs pairs)
  | .map .set entries =>
    (Found.both (· ++ ·) (mergedPairs (depth + 1) entries) (ownPairs (depth + 1) entries)).map
      fun pairs => .extra (.set pairs.isEmpty)
  | .map kind entries => ofScalar depth kind (Node.standardText? entries)
  | .cycle => .ok (.extra .cycle)

/-- The values of the members of a list. -/
def values (depth : Nat) : List Node → Found (List Value)
  | [] => .ok []
  | node :: rest => Found.both (· :: ·) (value depth node) (values depth rest)

/-- The members of a list of pairs, which are maps of one entry. -/
def pairItems (depth : Nat) : List Node → Found (List Value)
  | [] => .ok []
  | .map _ [(key, v)] :: rest =>
    Found.both (· :: ·)
      (Found.both (fun key v => Value.list [key, v]) (value depth key) (value depth v))
      (pairItems depth rest)
  | _ :: _ => Found.malformed depth

/-- The entries of a map that are its own. -/
def ownPairs (depth : Nat) : List (Node × Node) → Found (List (Key × Value))
  | [] => .ok []
  | (key, v) :: rest =>
    if key.kind? == some .merge then ownPairs depth rest
    else
      Found.both (· :: ·)
        (Found.both Prod.mk (keyFound depth key (value depth key)) (value depth v))
        (ownPairs depth rest)

/-- The entries that a map takes in from others. -/
def mergedPairs (depth : Nat) : List (Node × Node) → Found (List (Key × Value))
  | [] => .ok []
  | (key, v) :: rest =>
    if key.kind? == some .merge then
      Found.both (· ++ ·) (sourcePairs depth v) (mergedPairs depth rest)
    else mergedPairs depth rest

/-- The entries of a map, or of the maps of a list, that another map takes in. Of several maps the
last one comes first, so that the first one counts. -/
def sourcePairs (depth : Nat) : Node → Found (List (Key × Value))
  | .map _ entries => Found.both (· ++ ·) (mergedPairs depth entries) (ownPairs depth entries)
  | .list _ items => sourceItems depth items
  | .cycle => .ok []
  | .scalar .. => Found.malformed depth

/-- The entries of the maps of a list, those of the last map first. -/
def sourceItems (depth : Nat) : List Node → Found (List (Key × Value))
  | [] => .ok []
  | .map _ entries :: rest =>
    Found.both (fun first others => others ++ first)
      (Found.both (· ++ ·) (mergedPairs depth entries) (ownPairs depth entries))
      (sourceItems depth rest)
  | .cycle :: rest => sourceItems depth rest
  | _ :: _ => Found.malformed depth

end

/-- The text with line feeds for all line breaks that have a carriage return. -/
def withLineFeeds : List Char → List Char
  | [] => []
  | '\r' :: '\n' :: rest => '\n' :: withLineFeeds rest
  | '\r' :: rest => '\n' :: withLineFeeds rest
  | c :: rest => c :: withLineFeeds rest

/-- The value that a whole text denotes. -/
def parse (text : String) : Except Failure Value := do
  let s := withLineFeeds text.toList
  if s.all isAllowed then
    let node ← Node.ofTokens (← tokens s)
    match value 0 node with
    | .ok v => .ok v
    | .error (_, failure) => .error failure
  else .error .malformedYaml

end StorageReply.Yaml

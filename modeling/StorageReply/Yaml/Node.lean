import StorageReply.Act
import StorageReply.Yaml.Kind
import StorageReply.Yaml.Token

/-!
# Nodes of settings files

A settings file as a tree: scalars, lists and maps, each with the kind of value that it stands for.
A node that is called by its name stands for the node that was given the name.

Main definitions:

* `Node`: the trees;
* `Reading`: the tokens that are left, the names that were given, and the handles of tags;
* `Node.ofTokens`: the tree of the tokens of a document.
-/

namespace StorageReply.Yaml

/-- A node of a settings file. -/
inductive Node
  /-- A scalar. -/
  | scalar (kind : Kind) (text : String)
  /-- A list of nodes. -/
  | list (kind : Kind) (items : List Node)
  /-- A list of entries. -/
  | map (kind : Kind) (entries : List (Node × Node))
  /-- A collection that is called by its name inside itself. -/
  | cycle
  deriving Inhabited

/-- The node of a missing key or value. -/
def Node.empty : Node := .scalar .null ""

/-- The tokens of a file that are left, and what earlier ones have introduced. -/
structure Reading where
  /-- The tokens that are left. -/
  rest : List Token
  /-- The nodes that were given a name, the last one first. -/
  named : List (String × Node)
  /-- What the handles of tags stand for. -/
  handles : List (String × String)

namespace Reading

/-- The handles that are known without a directive. -/
def usualHandles : List (String × String) := [("!", "!"), ("!!", knownStart)]

/-- Whether a token of a kind comes next. -/
def comes (p : Token → Bool) : Act Reading Bool := return ((← get).rest.head?.any p)

/-- The next token, which is taken. -/
def next : Act Reading (Option Token) := do
  let r ← get
  set { r with rest := r.rest.tail }
  return r.rest.head?

/-- Whether a given token comes next; if so, it is taken. -/
def takes (token : Token) : Act Reading Bool := do
  if ← comes (· == token) then
    let _ ← next
    return true
  else return false

/-! ## Names and tags -/

/-- What stands before the content of a node. -/
structure Properties where
  /-- The name that the node is given. -/
  name : Option String
  /-- The complete tag. -/
  tag : Option String

/-- A complete tag. -/
def fullTag (handle : Option String) (rest : String) : Act Reading String := do
  match handle with
  | none => return rest
  | some handle =>
    match (← get).handles.lookup handle with
    | some start => return start ++ rest
    | none => throw .malformedYaml

/-- The name before a node, if there is one. -/
def name : Act Reading (Option String) := do
  match (← get).rest with
  | .anchor name :: _ =>
    let _ ← next
    return some name
  | _ => return none

/-- The tag before a node, if there is one. -/
def tag : Act Reading (Option String) := do
  match (← get).rest with
  | .tag handle rest :: _ =>
    let _ ← next
    return some (← fullTag handle rest)
  | _ => return none

/-- The name and the tag before a node, in either order. -/
def properties : Act Reading Properties := do
  match ← name with
  | some name => return ⟨some name, ← tag⟩
  | none =>
    let tag ← tag
    return ⟨← name, tag⟩

/-- The kind of a scalar. A lone exclamation mark makes a quoted scalar count as a plain one. -/
def Properties.scalarKind (p : Properties) (text : String) (plain : Bool) : Kind :=
  match p.tag with
  | none => if plain then Kind.ofPlain text else .text
  | some tag => if tag = "!" then Kind.ofPlain text else Kind.ofTag tag

/-- The kind of a collection. -/
def Properties.kind (p : Properties) (usual : Kind) : Kind :=
  match p.tag with
  | none => usual
  | some tag => if tag = "!" then usual else Kind.ofTag tag

/-- A node under its name, which must be new. Inside the node the name stands for a cycle. -/
def Properties.named (p : Properties) (node : Act Reading Node) : Act Reading Node :=
  match p.name with
  | none => node
  | some name => do
    if ((← get).named.lookup name).isSome then throw .malformedYaml
    modify fun r => { r with named := (name, .cycle) :: r.named }
    let node ← node
    modify fun r => { r with named := (name, node) :: r.named }
    return node

/-- The node that was given a name. -/
def called (name : String) : Act Reading Node := do
  match (← get).named.lookup name with
  | some node => return node
  | none => throw .malformedYaml

/-! ## Nodes -/

/-- Where a node stands. -/
inductive Place
  /-- Inside brackets or braces. -/
  | inside
  /-- On lines of its own. -/
  | lines
  /-- In an entry of a map on lines of its own, where a list needs no further indentation. -/
  | entry
  deriving DecidableEq

/-- Whether a token ends the key or value before it, on lines of their own. -/
def endsPart (t : Token) : Bool := t == .key || t == .value || t == .blockEnd

/-- Whether a token ends the key or value before it, inside brackets or braces. -/
def endsFlowPart (close t : Token) : Bool := t == .value || t == .comma || t == close

/-- A part of brackets as a member: a pair is a map of one entry. -/
def flowMember : Node × Option Node → Node
  | (node, none) => node
  | (key, some value) => .map .map [(key, value)]

/-- A part of braces as an entry. -/
def flowEntry : Node × Option Node → Node × Node
  | (key, value) => (key, value.getD .empty)

mutual

/-- The node that comes next. -/
def node : Nat → Place → Act Reading Node
  | 0, _ => throw .malformedYaml
  | fuel + 1, place => do
    match (← get).rest with
    | .alias name :: _ =>
      let _ ← next
      called name
    | _ =>
      let p ← properties
      p.named (content fuel place p)

/-- What follows the properties of a node. -/
def content : Nat → Place → Properties → Act Reading Node
  | 0, _, _ => throw .malformedYaml
  | fuel + 1, place, p => do
    let usable := place ≠ .inside
    match (← get).rest with
    | .scalar text plain :: _ =>
      let _ ← next
      return .scalar (p.scalarKind text plain) text
    | .listStart :: _ =>
      let _ ← next
      return .list (p.kind .list) ((← flowParts fuel .listEnd true).map flowMember)
    | .mapStart :: _ =>
      let _ ← next
      return .map (p.kind .map) ((← flowParts fuel .mapEnd true).map flowEntry)
    | .blockListStart :: _ =>
      if usable then
        let _ ← next
        return .list (p.kind .list) (← members fuel)
      else missing p
    | .blockMapStart :: _ =>
      if usable then
        let _ ← next
        return .map (p.kind .map) (← entries fuel)
      else missing p
    | .member :: _ =>
      if place = .entry then return .list (p.kind .list) (← looseMembers fuel) else missing p
    | _ => missing p

/-- A node that has properties only. -/
def missing (p : Properties) : Act Reading Node :=
  if p.name.isNone && p.tag.isNone then throw .malformedYaml
  else return .scalar (p.scalarKind "" true) ""

/-- The members of a list on lines of its own. -/
def members : Nat → Act Reading (List Node)
  | 0 => throw .malformedYaml
  | fuel + 1 => do
    match ← next with
    | some .member =>
      let first ←
        if ← comes fun t => t == .member || t == .blockEnd then pure .empty else node fuel .lines
      return first :: (← members fuel)
    | some .blockEnd => return []
    | _ => throw .malformedYaml

/-- The members of a list that is not indented further than the map around it. -/
def looseMembers : Nat → Act Reading (List Node)
  | 0 => throw .malformedYaml
  | fuel + 1 => do
    if ← takes .member then
      let first ←
        if ← comes fun t => t == .member || endsPart t then pure .empty else node fuel .lines
      return first :: (← looseMembers fuel)
    else return []

/-- The entries of a map on lines of its own. -/
def entries : Nat → Act Reading (List (Node × Node))
  | 0 => throw .malformedYaml
  | fuel + 1 => do
    match ← next with
    | some .key =>
      let key ← part fuel
      let value ← if ← takes .value then part fuel else pure .empty
      return (key, value) :: (← entries fuel)
    | some .blockEnd => return []
    | _ => throw .malformedYaml

/-- A key or value on lines of its own, which may be missing. -/
def part : Nat → Act Reading Node
  | 0 => throw .malformedYaml
  | fuel + 1 => do if ← comes endsPart then return .empty else node fuel .entry

/-- The parts between commas up to a closing token: nodes by themselves, and pairs of a key and a
value. -/
def flowParts : Nat → Token → Bool → Act Reading (List (Node × Option Node))
  | 0, _, _ => throw .malformedYaml
  | fuel + 1, close, first => do
    if ← takes close then return []
    if !first then
      unless ← takes .comma do throw .malformedYaml
    if ← takes close then return []
    let part ←
      if ← takes .key then do
        let key ← flowPart fuel close
        let value ← if ← takes .value then flowPart fuel close else pure .empty
        pure (key, some value)
      else do
        let only ← node fuel .inside
        pure (only, none)
    return part :: (← flowParts fuel close false)

/-- A key or value inside brackets or braces, which may be missing. -/
def flowPart : Nat → Token → Act Reading Node
  | 0, _ => throw .malformedYaml
  | fuel + 1, close => do
    if ← comes (endsFlowPart close) then return .empty else node fuel .inside

end

/-! ## Documents -/

/-- The directives before a document, where `versioned` tells whether a version has been given. -/
def directives : List Token → Bool → Act Reading Unit
  | .directive d :: rest, versioned => do
    let _ ← next
    match d with
    | .version major =>
      if versioned || major ≠ 1 then throw .malformedYaml
      directives rest true
    | .tag handle start =>
      if ((← get).handles.lookup handle).isSome then throw .malformedYaml
      modify fun r => { r with handles := (handle, start) :: r.handles }
      directives rest versioned
    | .other => directives rest versioned
  | _, _ => pure ()

/-- The tree of the document that comes next. -/
def document (fuel : Nat) : Act Reading Node := do
  if ← comes fun t => t == .documentStart || isDirective t then
    directives (← get).rest false
    unless ← takes .documentStart do throw .malformedYaml
    modify fun r => { r with handles := r.handles ++ usualHandles }
    if (← get).rest.head?.all endsDocument then return .empty else node fuel .lines
  else
    modify fun r => { r with handles := usualHandles }
    node fuel .lines
where
  /-- Whether a token is a directive. -/
  isDirective : Token → Bool
    | .directive _ => true
    | _ => false
  /-- Whether a token comes after a document. -/
  endsDocument (t : Token) : Bool := t == .documentStart || t == .documentEnd || isDirective t

end Reading

/-- The tree of the tokens of a file, which has one document at most. -/
def Node.ofTokens (tokens : List Token) : Except Failure Node :=
  if tokens.isEmpty then .ok .empty
  else
    match (Reading.document (3 * tokens.length + 3)).result ⟨tokens, [], []⟩ with
    | (r, .ok node) =>
      if r.rest.all (· == .documentEnd) then .ok node else .error .malformedYaml
    | (_, .error failure) => .error failure

end StorageReply.Yaml

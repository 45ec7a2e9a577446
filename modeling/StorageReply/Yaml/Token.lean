import StorageReply.Value.Basic

/-!
# Tokens of settings files

The parts of a settings file: marks that open and close collections, marks that stand before keys,
values and members, and the scalars with their anchors and tags. Indentation has become marks.

Main definition: `Token`.
-/

namespace StorageReply.Yaml

/-- A directive at the head of a document. -/
inductive Directive
  /-- The version of the format. -/
  | version (major : Nat)
  /-- What a handle of tags stands for. -/
  | tag (handle start : String)
  /-- Any other directive. -/
  | other
  deriving DecidableEq, Repr

/-- A part of a settings file. -/
inductive Token
  /-- A directive. -/
  | directive (d : Directive)
  /-- The start of a document. -/
  | documentStart
  /-- The end of a document. -/
  | documentEnd
  /-- The start of a list whose members stand on lines of their own. -/
  | blockListStart
  /-- The start of a map whose entries stand on lines of their own. -/
  | blockMapStart
  /-- The end of such a list or map. -/
  | blockEnd
  /-- An opening bracket. -/
  | listStart
  /-- A closing bracket. -/
  | listEnd
  /-- An opening brace. -/
  | mapStart
  /-- A closing brace. -/
  | mapEnd
  /-- The hyphen before a member of a list. -/
  | member
  /-- The comma between two members or entries. -/
  | comma
  /-- What follows is a key. -/
  | key
  /-- What follows is the value of a key. -/
  | value
  /-- A node that has been named before. -/
  | alias (name : String)
  /-- The name of the node that follows. -/
  | anchor (name : String)
  /-- The tag of the node that follows: a handle, unless the tag is complete, and the rest. -/
  | tag (handle : Option String) (rest : String)
  /-- A scalar, which is plain or quoted. -/
  | scalar (text : String) (plain : Bool)
  deriving DecidableEq, Repr

end StorageReply.Yaml

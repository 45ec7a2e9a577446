import StorageReply.Text.Blank
import StorageReply.Failure

/-!
# Elements

The tree of a document, and the ways to look into it that do not mind namespaces. The text of an
element is the character data before its first child; what follows a child is the tail of that
child.

Main definitions:

* `Element`, `Tag`: the tree and the names of its elements;
* `Element.child?`, `Element.children`: the children with a local name;
* `Element.childText?`: the stripped text of a child;
* `Element.allText`: the character data of an element and all elements in it;
* `Element.expect`: the check of the root's name.
-/

namespace StorageReply.Xml

/-- The name of an element or attribute: a namespace, if it has one, and a local name. -/
structure Tag where
  /-- The namespace. -/
  space : Option String
  /-- The local name. -/
  name : String
  deriving DecidableEq, Repr

/-- The full text of a tag: a namespace stands in braces before the local name. -/
def Tag.text (t : Tag) : String :=
  match t.space with
  | none => t.name
  | some space => "\x7b" ++ space ++ "\x7d" ++ t.name

/-- An element of a document. -/
structure Element where
  /-- The name. -/
  tag : Tag
  /-- The attributes. -/
  attributes : List (Tag × String)
  /-- The character data before the first child. -/
  text : String
  /-- The children. -/
  children : List Element
  /-- The character data after the element. -/
  tail : String
  deriving Repr

namespace Element

/-- An element with a local name, a text and children, and nothing else. -/
def make (name text : String) (children : List Element) : Element :=
  ⟨⟨none, name⟩, [], text, children, ""⟩

/-- The local name of an element. -/
def localName (e : Element) : String := e.tag.name

/-- The children with a local name, in any namespace or none. -/
def childrenNamed (e : Element) (name : String) : List Element :=
  e.children.filter (·.localName == name)

/-- The first child that has a local name and no namespace. -/
def bareChild? (e : Element) (name : String) : Option Element :=
  e.children.find? fun c => c.tag == ⟨none, name⟩

/-- The first child with a local name; one without a namespace is preferred. -/
def child? (e : Element) (name : String) : Option Element :=
  (e.bareChild? name).or (e.childrenNamed name).head?

/-- The text of an element without the blanks around it. -/
def strippedText (e : Element) : String := Text.stripped e.text

/-- The stripped text of a child, if there is one. -/
def childText? (e : Element) (name : String) : Option String := (e.child? name).map strippedText

/-- The value of the attribute with a full name. -/
def attribute? (e : Element) (name : String) : Option String :=
  (e.attributes.find? (·.1.text == name)).map Prod.snd

mutual

/-- The character data of an element and of all elements in it, in the order of the document. -/
def allText : Element → String
  | ⟨_, _, text, children, _⟩ => text ++ allTexts children

/-- The character data of several elements, each with what follows it. -/
def allTexts : List Element → String
  | [] => ""
  | child :: rest => child.allText ++ child.tail ++ allTexts rest

end

/-- Checks the local name of a root. -/
def expect (e : Element) (name : String) : Except Failure Unit :=
  if e.localName = name then .ok () else .error (.document (.unexpectedRoot name e.localName))

end Element

end StorageReply.Xml

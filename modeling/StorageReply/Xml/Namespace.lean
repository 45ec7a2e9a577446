import StorageReply.Xml.Element
import StorageReply.Xml.Reference

/-!
# Namespaces

The namespaces that prefixes stand for in a part of a document. The empty prefix stands for the
default namespace of elements; attributes without a prefix have no namespace.

Main definitions:

* `Scope`: the bindings in force;
* `Scope.enter?`: the bindings inside an element, given its attributes;
* `Scope.elementTag?`, `Scope.attributeTag?`: the expanded names.
-/

namespace StorageReply.Xml

open Text

/-- The bindings of prefixes to namespaces, the innermost first. No namespace undoes a binding. -/
abbrev Scope := List (List Char × Option (List Char))

/-- The namespace of the prefix `xml`. -/
def xmlSpace : List Char := "http://www.w3.org/XML/1998/namespace".toList

/-- The namespace of namespace declarations themselves. -/
def declarationSpace : List Char := "http://www.w3.org/2000/xmlns/".toList

namespace Scope

/-- The bindings at the root. -/
def root : Scope := [("xml".toList, some xmlSpace)]

/-- The prefix and the local part of a name; the prefix is empty without a colon. -/
def splitName (name : List Char) : List Char × List Char :=
  match cut? (· == ':') name with
  | some (before, _, after) => (before, after)
  | none => ([], name)

/-- The namespace of a prefix. -/
def space? (scope : Scope) (start : List Char) : Option (List Char) := (scope.lookup start).join

/-- The prefix that an attribute declares, if it is a declaration. -/
def declared? (name : List Char) : Option (List Char) :=
  let (start, rest) := splitName name
  if start = "xmlns".toList then some rest
  else if start.isEmpty && rest == "xmlns".toList then some []
  else none

/-- The bindings with one more. The reserved prefixes and namespaces belong together, only the
default namespace can be undone, and a namespace has no closing brace. -/
def bind? (scope : Scope) (start space : List Char) : Option Scope :=
  if start = "xmlns".toList || (start == "xml".toList) != (space == xmlSpace)
      || space == declarationSpace || space.contains '\x7d'
      || (space.isEmpty && !start.isEmpty) then
    none
  else some ((start, if space.isEmpty then none else some space) :: scope)

/-- The bindings inside an element with the given attributes. -/
def enter? (scope : Scope) : List (List Char × List Char) → Option Scope
  | [] => some scope
  | (name, value) :: rest =>
    match declared? name with
    | some start => (bind? scope start value).bind (enter? · rest)
    | none => enter? scope rest

/-- A tag of a namespace and a local name. -/
def tagOf (space : Option (List Char)) (name : List Char) : Tag :=
  ⟨space.map String.ofList, String.ofList name⟩

/-- The expanded name of an element. -/
def elementTag? (scope : Scope) (name : List Char) : Option Tag :=
  let (start, rest) := splitName name
  if start.isEmpty then some (tagOf (scope.space? []) rest)
  else (scope.space? start).map fun space => tagOf (some space) rest

/-- The expanded name of an attribute. -/
def attributeTag? (scope : Scope) (name : List Char) : Option Tag :=
  let (start, rest) := splitName name
  if start.isEmpty then some (tagOf none rest)
  else (scope.space? start).map fun space => tagOf (some space) rest

end Scope

end StorageReply.Xml

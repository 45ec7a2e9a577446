import StorageReply.Xml.Path

/-!
# Walking paths

Where the steps of a path lead from an element of a document. An element that is reached is kept
with its place, as two elements of a document can be alike.

Main definitions:

* `Spot`: an element with its place;
* `Spot.walk`: the elements to which a path leads;
* `Element.found`: the same from the text of a path, or of a tag;
* `Element.childAt?`, `Element.childrenAt`, `Element.textAt?`: children by a name or a path, in any
  namespace or none.
-/

namespace StorageReply.Xml

/-- An element and its place: the numbers of the children on the way to it, the last one first. -/
structure Spot where
  /-- The place. -/
  place : List Nat
  /-- The element. -/
  element : Element

namespace Spot

/-- An element from which others are reached. -/
def root (e : Element) : Spot := ⟨[], e⟩

/-- The children of an element. -/
def children (s : Spot) : List Spot :=
  s.element.children.mapIdx fun i child => ⟨i :: s.place, child⟩

mutual

/-- All elements below one at a place, in the order of the document. -/
def below (place : List Nat) : Element → List Spot
  | ⟨_, _, _, children, _⟩ => belowAll place 0 children

/-- Some children of the element at a place, the first one having a number, and all elements below
them. -/
def belowAll (place : List Nat) (number : Nat) : List Element → List Spot
  | [] => []
  | child :: rest =>
    ⟨number :: place, child⟩ :: (below (number :: place) child ++ belowAll place (number + 1) rest)

end

/-- The element at a way from another one. -/
def elementAt? (e : Element) : List Nat → Option Element
  | [] => some e
  | i :: rest => e.children[i]?.bind fun child => elementAt? child rest

/-- The element around one that was reached from `top`. -/
def parent? (top : Element) (s : Spot) : Option Spot :=
  match s.place with
  | [] => none
  | _ :: place => (elementAt? top place.reverse).map (⟨place, ·⟩)

/-- The spots without those of a place that came before. -/
def distinct (spots : List Spot) : List Spot :=
  spots.foldl (fun kept s => if kept.any (·.place == s.place) then kept else kept ++ [s]) []

/-- The spots whose tag passes a test. -/
def passing (test : TagTest) (spots : List Spot) : List Spot :=
  spots.filter fun s => test.passes s.element.tag

/-- The place of an element among its siblings of the same tag: whether it is the one with a number,
which counts from the end where it is negative. -/
def isAt (top : Element) (index : Int) (s : Spot) : Bool :=
  match s.parent? top with
  | none => false
  | some parent =>
    let alike := parent.children.filter (·.element.tag == s.element.tag)
    let index := if index < 0 then alike.length + index else index
    0 ≤ index && (alike[index.toNat]?.map (·.place)) == some s.place

/-- Whether an element meets a condition. -/
def meets (top : Element) (s : Spot) : Condition → Bool
  | .attribute name => (s.element.attribute? name).isSome
  | .attributeText name value differs =>
    match s.element.attribute? name with
    | some found => (found == value) != differs
    | none => false
  | .child test => !(passing test s.children).isEmpty
  | .childText test text differs =>
    (passing test s.children).any fun child => (child.element.allText == text) != differs
  | .text text differs => (s.element.allText == text) != differs
  | .place index => s.isAt top index

/-- The elements to which a step leads from some elements. -/
def take (top : Element) (spots : List Spot) : PathStep → List Spot
  | .children test => passing test (spots.flatMap children)
  | .descendants test => passing test (spots.flatMap fun s => below s.place s.element)
  | .here => spots
  | .parent => distinct (spots.filterMap (parent? top))
  | .filter condition => spots.filter fun s => s.meets top condition

/-- The elements to which a path leads. -/
def walk (top : Element) (steps : List PathStep) : List Spot := steps.foldl (take top) [root top]

end Spot

namespace Element

/-- The elements to which a text leads: the children with that full tag, or the ends of a path. -/
def found (e : Element) (s : List Char) : Except Failure (List Element) :=
  if Path.isPath s then (Path.read s).map fun steps => (Spot.walk e steps).map (·.element)
  else .ok (e.children.filter (·.tag.text.toList == s))

/-- The child with a name, or the first element at the end of a path, which may be taken with any
namespace. -/
def childAt? (e : Element) (s : String) : Except Failure (Option Element) := do
  match (← e.found s.toList).head? with
  | some child => return child
  | none => return (← e.found (TagTest.anySpace ++ s.toList)).head?

/-- The children with a name, or the elements at the end of a path, taken with any namespace. -/
def childrenAt (e : Element) (s : String) : Except Failure (List Element) :=
  e.found (TagTest.anySpace ++ s.toList)

/-- The stripped text of the child with a name or of the first element at the end of a path. -/
def textAt? (e : Element) (s : String) : Except Failure (Option String) :=
  (e.childAt? s).map fun child => child.map strippedText

end Element

end StorageReply.Xml

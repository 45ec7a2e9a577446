import StorageReply.Number.Numeral
import StorageReply.Text.CodePoint
import StorageReply.Value.Basic

/-!
# JSON trees

What a JSON text says. The texts of a tree are sequences of code points, for JSON can spell half of
a surrogate pair alone, and the entries of a map stand as they are spelled, those with equal names
as well.

Main definitions:

* `Json.Tree`: the trees;
* `Json.Tree.value`: the dynamic value of a tree;
* `Json.tree?`: the tree of a dynamic value, if JSON can spell it.
-/

namespace StorageReply.Json

open Number

/-- What a JSON text says. -/
inductive Tree
  /-- The absent value. -/
  | null
  /-- A truth value. -/
  | bool (b : Bool)
  /-- An integer. -/
  | int (i : Int)
  /-- A floating-point number. -/
  | float (x : Binary64)
  /-- A text. -/
  | text (codes : List CodePoint)
  /-- A list. -/
  | list (items : List Tree)
  /-- The entries of a map. -/
  | map (entries : List (List CodePoint × Tree))
  deriving Inhabited, Repr

/-- The entries of a map as they are spelled. -/
abbrev Entries := List (List CodePoint × Tree)

/-- Code points as a text; half of a surrogate pair becomes the replacement character. -/
def plainText (codes : List CodePoint) : String :=
  String.ofList (codes.map (CodePoint.charOr '\uFFFD'))

@[simp] theorem plainText_ofText (s : String) : plainText (CodePoint.ofText s) = s := by
  simp [plainText, CodePoint.ofText, CodePoint.ofChars, CodePoint.charOr, Function.comp_def]

namespace Tree

mutual

/-- The dynamic value of a tree: of equal names the first gives the place and the last the value.
The texts of dynamic values have no halves of surrogate pairs, and a replacement character stands
for each. -/
def value : Tree → Value
  | .null => .null
  | .bool b => .bool b
  | .int i => .int i
  | .float x => .float x
  | .text codes => .text (plainText codes)
  | .list items => .list (values items)
  | .map entries => .map (Fields.ofPairs (pairs entries))

/-- The dynamic values of the members of a list. -/
def values : List Tree → List Value
  | [] => []
  | t :: rest => t.value :: values rest

/-- The entries of a map with dynamic values. -/
def pairs : List (List CodePoint × Tree) → List (Key × Value)
  | [] => []
  | (name, t) :: rest => (.text (plainText name), t.value) :: pairs rest

end

end Tree

/-- The name of a key, which is a text whatever the key. -/
def keyName : Key → String
  | .text s => s
  | .number i => numeral i
  | .other shown => shown

mutual

/-- The tree of a value, unless it has an integer whose numeral is too long, or a member that JSON
lacks. -/
def tree? : Value → Option Tree
  | .null => some .null
  | .bool b => some (.bool b)
  | .int i => if hasNumeral i then some (.int i) else none
  | .float x => some (.float x)
  | .text s => some (.text (CodePoint.ofText s))
  | .list items => (trees? items).map .list
  | .map entries => (spelled? entries).map .map
  | .extra _ => none

/-- The trees of the members of a list. -/
def trees? : List Value → Option (List Tree)
  | [] => some []
  | v :: rest => do return (← tree? v) :: (← trees? rest)

/-- The entries of a map. -/
def spelled? : List (Key × Value) → Option Entries
  | [] => some []
  | (k, v) :: rest => do
    let t ← tree? v
    return (CodePoint.ofText (keyName k), t) :: (← spelled? rest)

end

end StorageReply.Json

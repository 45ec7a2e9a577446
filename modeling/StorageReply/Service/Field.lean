import StorageReply.Number.Numeral
import StorageReply.Text.Case
import StorageReply.Text.Pieces
import StorageReply.Xml.Element

/-!
# Fields of service documents

The texts of the elements in a service document as truth values, integers and lists.

Main definitions:

* `Field.bool`: `true` or `false` in any letter case;
* `Field.integer`: an integer, or nothing for an empty text;
* `Field.list`: the parts between commas that are not blank.
-/

namespace StorageReply.Field

open Number Text

/-- The truth value of a text, or a default where the element is missing. -/
def bool (text : Option String) (element : String) (default : Bool) : Except Failure Bool :=
  match text with
  | none => .ok default
  | some s =>
    let word := lowerString s
    if word = "true" then .ok true
    else if word = "false" then .ok false
    else .error (.document (.notBoolean element s))

/-- The integer of a text; a missing or empty text gives none. -/
def integer (text : Option String) (element : String) : Except Failure (Option Int) :=
  match text with
  | none => .ok none
  | some s =>
    if s.isEmpty then .ok none
    else match integer? s.toList with
      | some i => .ok (some i)
      | none => .error (.document (.notInteger element s))

/-- The parts of a text between commas, without the blanks around them and without blank parts. -/
def parts (s : List Char) : List (List Char) :=
  ((pieces ',' s).map strip).filter (!·.isEmpty)

/-- The list that a text gives; a missing text gives an empty one. -/
def list (text : Option String) : List String :=
  match text with
  | none => []
  | some s => (parts s.toList).map String.ofList

@[simp] theorem bool_none (element : String) (default : Bool) :
    bool none element default = .ok default := rfl

@[simp] theorem integer_none (element : String) : integer none element = .ok none := rfl

end StorageReply.Field

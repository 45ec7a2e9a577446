import StorageReply.CaseMap
import StorageReply.Value.Pairs

/-!
# Header views

The headers of a reply as they were received, and the same headers with the values of equal names
gathered. Names are equal when letter case is ignored; a header keeps the casing and the place of
its first arrival, and its values the order in which they came.

Main definitions:

* `Headers.Entry`: a received header and its values;
* `Headers.View`: received and gathered headers, with `View.ofEntries`;
* `View.header?`, `View.all`, `View.contains`: the look-ups.
-/

namespace StorageReply.Headers

open Text

/-- A received header: its name and its values. -/
structure Entry where
  /-- The name as received. -/
  name : String
  /-- The values, in order. -/
  values : List String
  deriving DecidableEq, Repr

/-- Headers as received, and gathered by name. -/
structure View where
  /-- The headers as received. -/
  received : List Entry
  /-- The values of each name. -/
  gathered : CaseMap (List String)
  deriving Repr

namespace View

/-- The view without headers. -/
def empty : View := ⟨[], CaseMap.empty⟩

/-- The view after one more header arrives. -/
def add (v : View) (e : Entry) : View :=
  ⟨v.received ++ [e],
    if v.gathered.contains e.name then v.gathered.update e.name (· ++ e.values)
    else v.gathered.put e.name e.values⟩

/-- The view of a list of headers. -/
def ofEntries (entries : List Entry) : View := entries.foldl add empty

/-- All values of a header. -/
def all (v : View) (name : String) : List String := (v.gathered.get? name).getD []

/-- The first value of a header. -/
def header? (v : View) (name : String) : Option String := (v.all name).head?

/-- Whether a header was received. -/
def contains (v : View) (name : String) : Bool := v.gathered.contains name

/-- The number of different names. -/
def size (v : View) : Nat := v.gathered.size

/-- The names and values in order of first arrival. -/
def items (v : View) : List (String × List String) := v.gathered.entries

/-- The received headers as names and values. -/
def receivedItems (v : View) : List (String × List String) :=
  v.received.map fun e => (e.name, e.values)

/-- The view as a text: a map from names to lists of values. -/
def shown (v : View) : String :=
  let entries := v.items.map fun (name, values) =>
    (Key.text name, Value.list (values.map Value.text))
  "ResponseHeaders(" ++ (Value.shown? (.map entries)).getD "" ++ ")"

@[simp] theorem header?_empty (name : String) : empty.header? name = none := rfl

theorem received_add (v : View) (e : Entry) : (v.add e).received = v.received ++ [e] := rfl

/-- The received headers of a view are the ones it was made of. -/
theorem received_ofEntries (entries : List Entry) : (ofEntries entries).received = entries := by
  suffices h : ∀ v : View, (entries.foldl add v).received = v.received ++ entries by
    simpa [ofEntries, empty] using h empty
  induction entries with
  | nil => simp
  | cons e rest ih => intro v; simp [ih, received_add]

end View

/-- A header name must be a text; a missing name is passed over. -/
def entryName : Value → Except Failure (Option String)
  | .null => .ok none
  | .text s => .ok (some s)
  | _ => .error .noOperation

/-- The text of a header value. -/
def valueText (v : Value) : Except Failure String :=
  match v.display? with
  | some s => .ok s
  | none => .error (.unusable .longNumeral)

/-- The values of a header: the members of a list, or the single value. -/
def valueTexts : Value → Except Failure (List String)
  | .list items => items.mapM valueText
  | v => return [← valueText v]

/-- The header of a pair of name and value, unless it has no name. A name that is no text is noticed
only after the values. -/
def entryOf (pair : Value × Value) : Except Failure (Option Entry) :=
  match pair.1 with
  | .null => .ok none
  | name => do
    let values ← valueTexts pair.2
    let name ← entryName name
    return name.map fun name => ⟨name, values⟩

/-- The view of a list of pairs. -/
def View.ofPairs (pairs : Pairs) : Except Failure View := do
  let entries ← pairs.mapM entryOf
  return View.ofEntries (entries.filterMap id)

end StorageReply.Headers

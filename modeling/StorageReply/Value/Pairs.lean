import StorageReply.Failure

/-!
# Pairs of values

Lists of pairs as maps whose keys are any values. Of pairs with equal keys the first gives the key
and the place, and the last the value.

Main definitions:

* `Pairs.put`: the pairs after writing one;
* `Pairs.merged`: the pairs of a map;
* `Pairs.ofFields`: the entries of a map with its keys as values.
-/

namespace StorageReply

/-- Pairs of a key and a value. -/
abbrev Pairs := List (Value × Value)

namespace Pairs

/-- The pairs after writing one: a pair with an equal key gives way in its place. -/
def put (pair : Value × Value) : Pairs → Pairs
  | [] => [pair]
  | other :: rest =>
    if other.1.same pair.1 then (other.1, pair.2) :: rest else other :: put pair rest

/-- Whether a value can be a key. -/
def isKey : Value → Bool
  | .list _ => false
  | .map _ => false
  | _ => true

/-- The pairs of a map, in which equal keys have been merged. -/
def merged (pairs : Pairs) : Except Failure Pairs :=
  if pairs.all fun pair => isKey pair.1 then .ok (pairs.foldl (fun done pair => put pair done) [])
  else .error .wrongKind

/-- A key as a value. -/
def keyValue : Key → Value
  | .text s => .text s
  | .number i => .int i
  | .other shown => .text shown

/-- The entries of a map as pairs. -/
def ofFields (fields : Fields) : Pairs := fields.map fun (k, v) => (keyValue k, v)

/-- The pairs with their keys as texts; a key that is no text has no letters to compare. -/
def named (pairs : Pairs) : Except Failure (List (String × Value)) :=
  pairs.mapM fun (k, v) =>
    match k with
    | .text name => .ok (name, v)
    | _ => .error .noOperation

end Pairs

end StorageReply

import StorageReply.Headers.View
import StorageReply.Value.Pairs

/-!
# Replies and their headers

The forms in which the headers of a reply come, and the view of each. Some forms have already merged
headers of the same name: a plain map those with equal names, a case-insensitive map those that
differ only in letter case; of merged headers the first gives the place, and the last the value and
the casing.

Main definitions:

* `Response`: the forms;
* `Response.headers`: the view of the headers;
* `Value.typeName`: the kind of a value, as named when it has no headers.
-/

namespace StorageReply

open Headers

/-- A reply, by the form of its headers. -/
inductive Response
  /-- A map of headers. -/
  | mapping (pairs : Pairs)
  /-- A source of header pairs, which may repeat names. -/
  | pairs (pairs : Pairs)
  /-- An object that has a source of header pairs. -/
  | object (pairs : Pairs)
  /-- A view that was already built. -/
  | view (v : View)
  /-- An object with a map that ignores letter case. -/
  | caseless (pairs : Pairs)
  /-- Any value. -/
  | bare (v : Value)
  /-- An object that has any value for headers. -/
  | carrier (v : Value)

/-- The name of the kind of a value. -/
def Value.typeName : Value → String
  | .null => "NoneType"
  | .bool _ => "bool"
  | .int _ => "int"
  | .float _ => "float"
  | .text _ => "str"
  | .list _ => "list"
  | .map _ => "dict"
  | .extra _ => "object"

namespace Response

/-- The pairs of a map that ignores letter case. -/
def mergedCaseless (given : Pairs) : Except Failure Pairs := do
  let named ← given.named
  return (CaseMap.ofPairs named).entries.map fun (name, value) => (.text name, value)

/-- The view of the headers of a reply. -/
def headers : Response → Except Failure View
  | .mapping given => given.merged >>= View.ofPairs
  | .pairs given => View.ofPairs given
  | .object given => View.ofPairs given
  | .view v => .ok v
  | .caseless given => mergedCaseless given >>= View.ofPairs
  | .bare (.map fields) => View.ofPairs (Pairs.ofFields fields)
  | .bare v => .error (.unreadableHeaders v.typeName)
  | .carrier (.map fields) => View.ofPairs (Pairs.ofFields fields)
  | .carrier _ => .error (.unreadableHeaders "Response")

end Response

end StorageReply

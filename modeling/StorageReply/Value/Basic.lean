import StorageReply.Calendar
import StorageReply.Number.Binary64

/-!
# Dynamic values

What a JSON text, a settings file or a header map can hold. Maps keep the order in which their keys
came and hold each key once.

Main definitions:

* `Value`, `Key`: the values and the keys of their maps;
* `Fields`: the entries of a map, with `get?`, `put` and `ofPairs`;
* `Value.truthy`: whether a value counts as given;
* `Value.same`: equality of values, in which a map has no order and a number no type.

`get?_put` says what writing an entry does to every look-up.
-/

namespace StorageReply

open Number

/-- A key of a map. Texts are the only keys of JSON; a settings file may have others. -/
inductive Key
  /-- A text. -/
  | text (name : String)
  /-- An integer; the truth values count as one and zero. -/
  | number (i : Int)
  /-- A key of any other kind, by its printed form. -/
  | other (shown : String)
  deriving DecidableEq, Repr

/-- Values that JSON lacks. -/
inductive Extra
  /-- A sequence of bytes. -/
  | bytes (data : List UInt8)
  /-- A calendar date. -/
  | date (d : Calendar.Date)
  /-- A date with a time. -/
  | dateTime (m : Moment)
  /-- A set, by whether it has no member. -/
  | set (empty : Bool)
  /-- A collection that holds itself, where it is met again. -/
  | cycle
  deriving DecidableEq, Repr

/-- A dynamic value. -/
inductive Value
  /-- The absent value. -/
  | null
  /-- A truth value. -/
  | bool (b : Bool)
  /-- An integer of any size. -/
  | int (i : Int)
  /-- A floating-point number. -/
  | float (x : Binary64)
  /-- A text. -/
  | text (s : String)
  /-- A list. -/
  | list (items : List Value)
  /-- A map. -/
  | map (entries : List (Key × Value))
  /-- A value of a kind that JSON lacks. -/
  | extra (content : Extra)
  deriving Inhabited, Repr

/-- The entries of a map, in order. -/
abbrev Fields := List (Key × Value)

namespace Fields

/-- The value of a key. -/
def get? (fields : Fields) (k : Key) : Option Value :=
  match fields with
  | [] => none
  | (k', v) :: rest => if k' = k then some v else get? rest k

/-- The entries after writing one: an entry with the same key gives way in its place, a new key goes
to the end. -/
def put (fields : Fields) (k : Key) (v : Value) : Fields :=
  match fields with
  | [] => [(k, v)]
  | (k', v') :: rest => if k' = k then (k', v) :: rest else (k', v') :: put rest k v

/-- The map of a list of pairs: of equal keys the first gives the place and the last the value. -/
def ofPairs (pairs : List (Key × Value)) : Fields :=
  pairs.foldl (fun fields (k, v) => fields.put k v) []

/-- The value of a text key. -/
def named? (fields : Fields) (name : String) : Option Value := fields.get? (.text name)

@[simp] theorem get?_nil (k : Key) : get? [] k = none := rfl

/-- A written entry is found under its key and hides nothing else. -/
theorem get?_put (fields : Fields) (k : Key) (v : Value) (k' : Key) :
    (fields.put k v).get? k' = if k = k' then some v else fields.get? k' := by
  induction fields with
  | nil => simp [put, get?]
  | cons entry rest ih =>
    obtain ⟨key, value⟩ := entry
    by_cases h : key = k
    · subst h
      by_cases h' : key = k' <;> simp [put, get?, h']
    · by_cases h' : key = k'
      · subst h'
        simp [put, get?, h, Ne.symm h]
      · simp [put, get?, h, h', ih]

end Fields

namespace Value

/-- Whether a value counts as given: not null, false, zero or empty. -/
def truthy : Value → Bool
  | .null => false
  | .bool b => b
  | .int i => i != 0
  | .float x => !x.same (Binary64.ofNat 0)
  | .text s => !s.isEmpty
  | .list items => !items.isEmpty
  | .map entries => !entries.isEmpty
  | .extra (.bytes data) => !data.isEmpty
  | .extra (.set empty) => !empty
  | .extra (.date _) => true
  | .extra (.dateTime _) => true
  | .extra .cycle => true

/-- The text of a text value. -/
def text? : Value → Option String
  | .text s => some s
  | _ => none

/-- The number that an integer or a truth value stands for. -/
def integer? : Value → Option Int
  | .int i => some i
  | .bool b => some (if b then 1 else 0)
  | _ => none

/-- Equality of values that JSON lacks. Two times with offsets are equal if they are one instant. -/
def sameExtra (a b : Extra) : Bool :=
  match a, b with
  | .dateTime ⟨second, micro, some offset⟩, .dateTime ⟨second', micro', some offset'⟩ =>
    second - offset == second' - offset' && micro == micro'
  | _, _ => a == b

/-- Equality of values that are neither lists nor maps; numbers are compared by value. -/
def sameScalar (x y : Value) : Bool :=
  match x, y with
  | .null, .null => true
  | .text s, .text t => s == t
  | .extra a, .extra b => sameExtra a b
  | .float a, .float b => a.same b
  | .float a, _ => y.integer?.isSome && a.integral? == y.integer?
  | _, .float b => x.integer?.isSome && b.integral? == x.integer?
  | _, _ => x.integer?.isSome && x.integer? == y.integer?

mutual

/-- Equality of values: lists member by member, maps key by key in any order. -/
def same : Value → Value → Bool
  | .list xs, .list ys => sameItems xs ys
  | .map xs, .map ys => xs.length == ys.length && sameEntries xs ys
  | x, y => sameScalar x y

/-- Equality of lists, member by member. -/
def sameItems : List Value → List Value → Bool
  | [], [] => true
  | x :: xs, y :: ys => x.same y && sameItems xs ys
  | _, _ => false

/-- Whether each entry of a map has an equal one in the other. -/
def sameEntries : List (Key × Value) → List (Key × Value) → Bool
  | [], _ => true
  | (k, v) :: rest, ys =>
    (match Fields.get? ys k with
      | some w => v.same w
      | none => false) && sameEntries rest ys

end

end Value

end StorageReply

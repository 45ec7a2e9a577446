import StorageReply.Value.Basic

/-!
# Equality of values

Values are equal when they are made in the same way, which can be computed (`Value.isEqual_iff`). It
is finer than `Value.same`: an integer never equals a floating-point number, and maps that are equal
have their entries in the same order.
-/

namespace StorageReply.Value

mutual

/-- Whether two values are made in the same way. -/
def isEqual : Value → Value → Bool
  | .null, .null => true
  | .bool a, .bool b => a == b
  | .int i, .int j => i == j
  | .float x, .float y => x == y
  | .text s, .text t => s == t
  | .list items, .list others => areEqual items others
  | .map entries, .map others => entriesEqual entries others
  | .extra a, .extra b => a == b
  | _, _ => false

/-- Whether two lists have equal members. -/
def areEqual : List Value → List Value → Bool
  | [], [] => true
  | v :: items, w :: others => isEqual v w && areEqual items others
  | _, _ => false

/-- Whether two maps have equal entries, in the same order. -/
def entriesEqual : Fields → Fields → Bool
  | [], [] => true
  | (k, v) :: entries, (k', w) :: others => k == k' && isEqual v w && entriesEqual entries others
  | _, _ => false

end

mutual

theorem isEqual_iff : ∀ v w : Value, isEqual v w = true ↔ v = w
  | .null, w => by cases w <;> simp [isEqual]
  | .bool a, w => by cases w <;> simp [isEqual]
  | .int i, w => by cases w <;> simp [isEqual]
  | .float x, w => by cases w <;> simp [isEqual]
  | .text s, w => by cases w <;> simp [isEqual]
  | .list items, w => by cases w <;> simp [isEqual, areEqual_iff items]
  | .map entries, w => by cases w <;> simp [isEqual, entriesEqual_iff entries]
  | .extra a, w => by cases w <;> simp [isEqual]

theorem areEqual_iff : ∀ items others : List Value, areEqual items others = true ↔ items = others
  | [], others => by cases others <;> simp [areEqual]
  | v :: items, others => by cases others <;> simp [areEqual, isEqual_iff v, areEqual_iff items]

theorem entriesEqual_iff : ∀ entries others : Fields,
    entriesEqual entries others = true ↔ entries = others
  | [], others => by cases others <;> simp [entriesEqual]
  | (k, v) :: entries, others => by
    cases others <;> simp [entriesEqual, isEqual_iff v, entriesEqual_iff entries, Prod.ext_iff]

end

instance : DecidableEq Value := fun v w => decidable_of_iff _ (isEqual_iff v w)

end StorageReply.Value

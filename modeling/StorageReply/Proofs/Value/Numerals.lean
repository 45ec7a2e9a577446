import StorageReply.Value.Display

/-!
# Values that can be written as text

A value has a text unless an integer in it, at whatever depth, is too long for a numeral
(`isSome_display?_iff`). Texts, truth values, floating-point numbers and null can always be written.
-/

namespace StorageReply.Value

open Number

mutual

/-- The integers in a value: the value itself, or those of its members. -/
def integers : Value → List Int
  | .int i => [i]
  | .list items => integersOfItems items
  | .map entries => integersOfEntries entries
  | _ => []

/-- The integers in the members of a list. -/
def integersOfItems : List Value → List Int
  | [] => []
  | v :: rest => v.integers ++ integersOfItems rest

/-- The integers in the values of a map. -/
def integersOfEntries : List (Key × Value) → List Int
  | [] => []
  | (_, v) :: rest => v.integers ++ integersOfEntries rest

end

mutual

theorem isSome_shown?_iff (v : Value) :
    v.shown?.isSome ↔ ∀ i ∈ v.integers, hasNumeral i = true := by
  cases v with
  | int i => by_cases h : hasNumeral i = true <;> simp [shown?, numeral?, integers, h]
  | list items => simpa [shown?, integers] using isSome_shownItems?_iff items
  | map entries => simpa [shown?, integers] using isSome_shownEntries?_iff entries
  | extra content => cases content <;> simp [shown?, integers]
  | _ => simp [shown?, integers]

theorem isSome_shownItems?_iff (items : List Value) :
    (shownItems? items).isSome ↔ ∀ i ∈ integersOfItems items, hasNumeral i = true := by
  cases items with
  | nil => simp [shownItems?, integersOfItems]
  | cons v rest =>
    have hv := isSome_shown?_iff v
    have hrest := isSome_shownItems?_iff rest
    rw [integersOfItems, List.forall_mem_append, ← hv, ← hrest, shownItems?]
    cases v.shown? <;> cases shownItems? rest <;> simp

theorem isSome_shownEntries?_iff (entries : List (Key × Value)) :
    (shownEntries? entries).isSome ↔ ∀ i ∈ integersOfEntries entries, hasNumeral i = true := by
  cases entries with
  | nil => simp [shownEntries?, integersOfEntries]
  | cons entry rest =>
    obtain ⟨key, v⟩ := entry
    have hv := isSome_shown?_iff v
    have hrest := isSome_shownEntries?_iff rest
    rw [integersOfEntries, List.forall_mem_append, ← hv, ← hrest, shownEntries?]
    cases v.shown? <;> cases shownEntries? rest <;> simp

end

/-- A value has a text exactly if every integer in it has a numeral. -/
theorem isSome_display?_iff (v : Value) :
    v.display?.isSome ↔ ∀ i ∈ v.integers, hasNumeral i = true := by
  cases v with
  | text s => simp [integers]
  | extra content => cases content <;> simp [display?, shown?, integers]
  | _ => exact isSome_shown?_iff _

end StorageReply.Value

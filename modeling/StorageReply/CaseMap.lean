import StorageReply.Text.Case

/-!
# Maps that ignore letter case

Ordered maps from names to values in which names that differ only in letter case are one name. A
name keeps the place of its first arrival; writing it again changes its casing and its value.

Main definitions:

* `CaseMap`: the entries in order;
* `CaseMap.get?`, `CaseMap.put`, `CaseMap.erase`, `CaseMap.update`: the operations;
* `CaseMap.find?`: the entry that a look-up finds, with its casing;
* `CaseMap.ofPairs`: the map of a list of pairs.

`find?_put` and `get?_put` say what a write does to every look-up, and `nodup_put` that the names of
a map stay different.
-/

namespace StorageReply

open Text

/-- The entries of a map from names to values, in order. -/
structure CaseMap (α : Type) where
  /-- The names with their casing, and the values. -/
  entries : List (String × α)
  deriving Repr

namespace CaseMap

variable {α : Type}

/-- The map without entries. -/
def empty : CaseMap α := ⟨[]⟩

/-- Whether an entry has a name, ignoring letter case. -/
def hasName (name : String) (entry : String × α) : Bool := lowerString entry.1 == lowerString name

/-- The entry of a name. -/
def find? (m : CaseMap α) (name : String) : Option (String × α) := m.entries.find? (hasName name)

/-- The value of a name. -/
def get? (m : CaseMap α) (name : String) : Option α :=
  (m.entries.find? (hasName name)).map Prod.snd

/-- Whether a name is present. -/
def contains (m : CaseMap α) (name : String) : Bool := (m.get? name).isSome

/-- The entries after writing a name: its old entry gives way in its place, a new name goes to the
end. -/
def putEntries (name : String) (value : α) : List (String × α) → List (String × α)
  | [] => [(name, value)]
  | entry :: rest =>
    if hasName name entry then (name, value) :: rest else entry :: putEntries name value rest

/-- The map after writing a name. -/
def put (m : CaseMap α) (name : String) (value : α) : CaseMap α := ⟨putEntries name value m.entries⟩

/-- The map after removing a name. -/
def erase (m : CaseMap α) (name : String) : CaseMap α :=
  ⟨m.entries.filter fun entry => !hasName name entry⟩

/-- The map after a change to the value of a name that is present; the casing stays. -/
def update (m : CaseMap α) (name : String) (f : α → α) : CaseMap α :=
  ⟨m.entries.map fun entry => if hasName name entry then (entry.1, f entry.2) else entry⟩

/-- The map of a list of pairs, written in order. -/
def ofPairs (pairs : List (String × α)) : CaseMap α :=
  pairs.foldl (fun m (name, value) => m.put name value) empty

/-- The number of names. -/
def size (m : CaseMap α) : Nat := m.entries.length

/-- The names in lower case, in order. -/
def lowerNames (m : CaseMap α) : List String := m.entries.map fun entry => lowerString entry.1

/-- The same map with other values. -/
def mapValues {β : Type} (f : α → β) (m : CaseMap α) : CaseMap β :=
  ⟨m.entries.map fun entry => (entry.1, f entry.2)⟩

@[simp] theorem get?_empty (name : String) : (empty : CaseMap α).get? name = none := rfl

theorem hasName_iff {name : String} {entry : String × α} :
    hasName name entry = true ↔ lowerString entry.1 = lowerString name := beq_iff_eq

theorem get?_eq (m : CaseMap α) (name : String) : m.get? name = (m.find? name).map Prod.snd := rfl

/-- A written name is found under every casing, with the casing of the write. -/
theorem find?_put (m : CaseMap α) (name : String) (value : α) (other : String) :
    (m.put name value).find? other =
      if lowerString name = lowerString other then some (name, value) else m.find? other := by
  obtain ⟨entries⟩ := m
  simp only [put, find?]
  induction entries with
  | nil => by_cases h : lowerString name = lowerString other <;> simp [putEntries, hasName, h]
  | cons entry rest ih =>
    by_cases hn : hasName name entry
    · have key : lowerString entry.1 = lowerString name := hasName_iff.1 hn
      simp only [putEntries, hn, if_true]
      by_cases h : lowerString name = lowerString other
      · simp [hasName, h]
      · simp [hasName, key, h]
    · by_cases ho : hasName other entry
      · have key : lowerString entry.1 = lowerString other := hasName_iff.1 ho
        have differ : lowerString name ≠ lowerString other := by
          intro h
          exact hn (by simp [hasName, key, h])
        simp [putEntries, hn, ho, differ]
      · simp [putEntries, hn, ho, ih]

/-- A written name is found under every casing and hides no other name. -/
theorem get?_put (m : CaseMap α) (name : String) (value : α) (other : String) :
    (m.put name value).get? other =
      if lowerString name = lowerString other then some value else m.get? other := by
  rw [get?_eq, find?_put, apply_ite (Option.map Prod.snd)]
  rfl

/-- Writing keeps the lower-case names, and adds the new one at the end if it was not present. -/
theorem lowerNames_put (m : CaseMap α) (name : String) (value : α) :
    (m.put name value).lowerNames =
      if lowerString name ∈ m.lowerNames then m.lowerNames
      else m.lowerNames ++ [lowerString name] := by
  obtain ⟨entries⟩ := m
  simp only [put, lowerNames]
  induction entries with
  | nil => simp [putEntries]
  | cons entry rest ih =>
    by_cases hn : hasName name entry
    · have key : lowerString entry.1 = lowerString name := by simpa [hasName] using hn
      simp [putEntries, hn, key]
    · have differ : ¬ lowerString name = lowerString entry.1 := by
        intro h
        exact hn (by simp [hasName, h])
      simp only [putEntries, hn, Bool.false_eq_true, if_false, List.map_cons, ih]
      by_cases hm : lowerString name ∈ rest.map fun entry => lowerString entry.1
      · simp [hm]
      · simp [hm, differ]

/-- The names of a map stay different when one is written. -/
theorem nodup_put {m : CaseMap α} (h : m.lowerNames.Nodup) (name : String) (value : α) :
    (m.put name value).lowerNames.Nodup := by
  rw [lowerNames_put]
  split
  · exact h
  · rename_i absent
    exact List.nodup_append.2 ⟨h, by simp, by
      intro a ha b hb
      simp only [List.mem_singleton] at hb
      rintro rfl
      exact absent (hb ▸ ha)⟩

end CaseMap

end StorageReply

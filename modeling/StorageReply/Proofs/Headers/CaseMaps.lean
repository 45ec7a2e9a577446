import Mathlib.Data.List.Nodup
import Mathlib.Data.List.Induction
import StorageReply.CaseMap

/-!
# Maps of pairs, name by name

What a list of pairs leaves in a map that ignores letter case. Under each name the map has the last
pair of that name (`find?_ofPairs`), and the names stand in the order of their first pairs
(`pairwise_ofPairs`), so pairs of different names do not disturb one another.

A conversion of pairs that keeps names apart, and equal names equal, can be made before or after the
map is built (`filterMap_ofPairs`): it does not matter at which of the two places pairs of the same
name give way to one another.
-/

namespace StorageReply

open Text

/-! ## First occurrences -/

theorem eraseDups_concat (names : List String) (name : String) :
    (names ++ [name]).eraseDups =
      if name ∈ names then names.eraseDups else names.eraseDups ++ [name] := by
  rw [List.eraseDups_append]
  by_cases h : name ∈ names <;> simp [List.removeAll, h, List.eraseDups_cons]

/-- Each text once, in the order of first occurrence. -/
theorem pairwise_eraseDups (names : List String) :
    names.eraseDups.Pairwise fun a b => names.idxOf a < names.idxOf b := by
  induction names using List.reverseRecOn with
  | nil => simp
  | append_singleton names name ih =>
    have hold : names.eraseDups.Pairwise fun a b =>
        (names ++ [name]).idxOf a < (names ++ [name]).idxOf b := by
      refine ih.imp_of_mem fun ha hb h => ?_
      rw [List.mem_eraseDups] at ha hb
      rwa [List.idxOf_append_of_mem ha, List.idxOf_append_of_mem hb]
    rw [eraseDups_concat]
    split
    · exact hold
    · rename_i hname
      refine List.pairwise_append.2 ⟨hold, List.pairwise_singleton .., ?_⟩
      intro a ha b hb
      rw [List.mem_eraseDups] at ha
      obtain rfl := List.mem_singleton.1 hb
      rw [List.idxOf_append_of_mem ha, List.idxOf_append_of_notMem hname]
      have hlt := List.idxOf_lt_length_of_mem ha
      omega

theorem nodup_eraseDups (names : List String) : names.eraseDups.Nodup := by
  refine (pairwise_eraseDups names).imp ?_
  rintro a b h rfl
  exact Nat.lt_irrefl _ h

/-- What comes first among the chosen members of a list comes first in the list. -/
theorem findIdx_lt_of_filterMap {α β : Type} {f : α → Option β} {p q : β → Bool} {items : List α}
    (h : (items.filterMap f).findIdx p < (items.filterMap f).findIdx q) :
    (items.findIdx fun a => (f a).any p) < items.findIdx fun a => (f a).any q := by
  induction items with
  | nil => exact absurd h (by simp)
  | cons a items ih =>
    rw [List.findIdx_cons, List.findIdx_cons]
    cases ha : f a with
    | none =>
      rw [List.filterMap_cons_none ha] at h
      simpa [ha] using ih h
    | some b =>
      rw [List.filterMap_cons_some ha, List.findIdx_cons, List.findIdx_cons] at h
      rw [Option.any_some, Option.any_some]
      cases hp : p b <;> cases hq : q b <;> simp only [hp, hq, cond_true, cond_false] at h ⊢
      · exact Nat.succ_lt_succ (ih (Nat.lt_of_succ_lt_succ h))
      · omega
      · omega
      · omega

/-- The last chosen member of a list that passes a test comes from the last member that is chosen
and passes it. -/
theorem getLast?_filter_filterMap {α β : Type} {f : α → Option β} {p : β → Bool} (items : List α) :
    ((items.filterMap f).filter p).getLast? =
      (items.filter fun a => (f a).any p).getLast?.bind f := by
  induction items using List.reverseRecOn with
  | nil => rfl
  | append_singleton items a ih =>
    rw [List.filterMap_append, List.filter_append, List.filter_append]
    cases ha : f a with
    | none => simpa [ha] using ih
    | some b => cases hb : p b <;> simp [ha, hb, ih]

namespace CaseMap

variable {α β : Type}

/-! ## The map of a list of pairs -/

theorem ofPairs_concat (pairs : List (String × α)) (pair : String × α) :
    ofPairs (pairs ++ [pair]) = (ofPairs pairs).put pair.1 pair.2 := by
  simp [ofPairs]

theorem hasName_congr {name other : String} (h : lowerString name = lowerString other) :
    (hasName name : String × α → Bool) = hasName other := by
  funext entry
  rw [hasName, hasName, h]

/-- Under a name the map has the last pair of that name. -/
theorem find?_ofPairs (pairs : List (String × α)) (name : String) :
    (ofPairs pairs).find? name = (pairs.filter (hasName name)).getLast? := by
  induction pairs using List.reverseRecOn with
  | nil => rfl
  | append_singleton pairs pair ih =>
    rw [ofPairs_concat, find?_put, ih, List.filter_append]
    by_cases h : lowerString pair.1 = lowerString name
    · simp [hasName, h]
    · simp [hasName, h]

theorem lowerNames_ofPairs (pairs : List (String × α)) :
    (ofPairs pairs).lowerNames = (pairs.map fun pair => lowerString pair.1).eraseDups := by
  induction pairs using List.reverseRecOn with
  | nil => rfl
  | append_singleton pairs pair ih =>
    rw [ofPairs_concat, lowerNames_put, ih, List.map_append, List.map_singleton, eraseDups_concat]
    simp only [List.mem_eraseDups]

theorem nodup_ofPairs (pairs : List (String × α)) : (ofPairs pairs).lowerNames.Nodup := by
  rw [lowerNames_ofPairs]
  exact nodup_eraseDups _

/-- Whether a name is first met before another, in terms of lower-case names. -/
theorem idxOf_lowerNames (entries : List (String × α)) (name : String) :
    (entries.map fun entry => lowerString entry.1).idxOf (lowerString name) =
      entries.findIdx (hasName name) := by
  rw [List.idxOf, List.findIdx_map]
  rfl

/-- The names of the map stand in the order of their first pairs. -/
theorem pairwise_ofPairs (pairs : List (String × α)) :
    (ofPairs pairs).entries.Pairwise fun a b =>
      pairs.findIdx (hasName a.1) < pairs.findIdx (hasName b.1) := by
  have h := pairwise_eraseDups (pairs.map fun pair => lowerString pair.1)
  rw [← lowerNames_ofPairs, lowerNames, List.pairwise_map] at h
  simpa only [idxOf_lowerNames] using h

/-! ## Entries -/

/-- With names that are all different, an entry is found under its name. -/
theorem mem_entries_iff {m : CaseMap α} (h : m.lowerNames.Nodup) {name : String} {value : α} :
    (name, value) ∈ m.entries ↔ m.find? name = some (name, value) := by
  refine ⟨fun hmem => ?_, fun h => List.mem_of_find?_eq_some h⟩
  obtain ⟨entries⟩ := m
  simp only [lowerNames, find?] at *
  induction entries with
  | nil => simp at hmem
  | cons entry rest ih =>
    rw [List.map_cons, List.nodup_cons] at h
    rcases List.mem_cons.1 hmem with rfl | hmem
    · simp [hasName]
    · have hentry : ¬ hasName name entry = true := fun hname =>
        h.1 (List.mem_map.2 ⟨(name, value), hmem, (hasName_iff.1 hname).symm⟩)
      rw [List.find?_cons_of_neg hentry, ih h.2 hmem]

/-- What the map of a list of pairs has: of each name the last pair. -/
theorem mem_ofPairs_iff {pairs : List (String × α)} {name : String} {value : α} :
    (name, value) ∈ (ofPairs pairs).entries ↔
      (pairs.filter (hasName name)).getLast? = some (name, value) := by
  rw [mem_entries_iff (nodup_ofPairs pairs), find?_ofPairs]

theorem mem_of_mem_ofPairs {pairs : List (String × α)} {entry : String × α}
    (h : entry ∈ (ofPairs pairs).entries) : entry ∈ pairs :=
  List.mem_of_mem_filter (List.mem_of_getLast? (mem_ofPairs_iff.1 h))

theorem putEntries_of_notMem {name : String} {value : α} {entries : List (String × α)}
    (h : lowerString name ∉ entries.map fun entry => lowerString entry.1) :
    putEntries name value entries = entries ++ [(name, value)] := by
  induction entries with
  | nil => rfl
  | cons entry rest ih =>
    rw [List.map_cons, List.mem_cons, not_or] at h
    have hentry : hasName name entry = false := by simpa [hasName] using Ne.symm h.1
    rw [putEntries, hentry, if_neg (by simp), ih h.2, List.cons_append]

/-- Pairs of different names are the entries of their map. -/
theorem entries_ofPairs_of_nodup {pairs : List (String × α)}
    (h : (pairs.map fun pair => lowerString pair.1).Nodup) : (ofPairs pairs).entries = pairs := by
  induction pairs using List.reverseRecOn with
  | nil => rfl
  | append_singleton pairs pair ih =>
    rw [List.map_append, List.nodup_append] at h
    obtain ⟨hpairs, -, hdisjoint⟩ := h
    rw [ofPairs_concat, put, ih hpairs, putEntries_of_notMem]
    intro hmem
    exact hdisjoint _ hmem _ (by simp) rfl

theorem ofPairs_entries {m : CaseMap α} (h : m.lowerNames.Nodup) : ofPairs m.entries = m := by
  obtain ⟨entries⟩ := m
  have hentries : (ofPairs entries).entries = entries := entries_ofPairs_of_nodup h
  cases hm : ofPairs entries with
  | mk kept => rw [hm] at hentries; rw [← hentries]

/-! ## Look-ups and removals -/

/-- Under a name the map of a list of pairs has the value of the last pair of that name. -/
theorem get?_ofPairs (pairs : List (String × α)) (name : String) :
    (ofPairs pairs).get? name = ((pairs.filter (hasName name)).getLast?).map Prod.snd := by
  rw [get?_eq, find?_ofPairs]

theorem nodup_erase {m : CaseMap α} (h : m.lowerNames.Nodup) (name : String) :
    (m.erase name).lowerNames.Nodup := h.sublist (List.filter_sublist.map _)

/-- A removed name is found under no casing, and no other name is hidden. -/
theorem get?_erase (m : CaseMap α) (name other : String) :
    (m.erase name).get? other =
      if lowerString name = lowerString other then none else m.get? other := by
  rw [get?, erase, List.find?_filter, get?]
  split
  · rename_i h
    rw [List.find?_eq_none.2, Option.map_none]
    rintro entry - hentry
    rw [← hasName_congr h] at hentry
    simp at hentry
  · rename_i h
    congr 2
    funext entry
    by_cases hentry : lowerString entry.1 = lowerString other
    · simp [hasName, hentry, Ne.symm h]
    · simp [hasName, hentry]

/-! ## Changes of values -/

theorem lowerNames_update (m : CaseMap α) (name : String) (f : α → α) :
    (m.update name f).lowerNames = m.lowerNames := by
  rw [lowerNames, update, List.map_map]
  refine List.map_congr_left fun entry _ => ?_
  rw [Function.comp_apply]
  split <;> rfl

/-- A change reaches the entry of its name, whose casing stays, and no other. -/
theorem find?_update (m : CaseMap α) (name : String) (f : α → α) (other : String) :
    (m.update name f).find? other =
      if lowerString name = lowerString other then
        (m.find? other).map fun entry => (entry.1, f entry.2)
      else m.find? other := by
  have hkeep : (hasName other ∘ fun entry : String × α =>
      if hasName name entry then (entry.1, f entry.2) else entry) = hasName other := by
    funext entry
    rw [Function.comp_apply]
    split <;> rfl
  rw [find?, update, List.find?_map, hkeep, find?]
  cases hfound : m.entries.find? (hasName other) with
  | none => simp
  | some entry =>
    have hother : lowerString entry.1 = lowerString other := hasName_iff.1 (List.find?_some hfound)
    by_cases h : lowerString name = lowerString other
    · simp [hasName, hother, h]
    · simp [hasName, hother, h, Ne.symm h]

/-! ## Conversions of pairs -/

/-- A conversion tells two pairs apart by their names as these are apart, and drops both or none of
two pairs of one name. -/
structure RespectsNames (f : String × α → Option (String × β)) (p q : String × α) : Prop where
  /-- Of pairs with the same name both have a result or none. -/
  isSome_eq : lowerString p.1 = lowerString q.1 → (f p).isSome = (f q).isSome
  /-- Results have the same name exactly if the pairs have. -/
  name_iff : ∀ a b, f p = some a → f q = some b →
    (lowerString a.1 = lowerString b.1 ↔ lowerString p.1 = lowerString q.1)

theorem filterMap_putEntries {f : String × α → Option (String × β)} {name : String} {value : α}
    {entries : List (String × α)} (h : ∀ entry ∈ entries, RespectsNames f entry (name, value)) :
    (putEntries name value entries).filterMap f =
      match f (name, value) with
      | some (name', value') => putEntries name' value' (entries.filterMap f)
      | none => entries.filterMap f := by
  induction entries with
  | nil => cases hf : f (name, value) <;> simp [putEntries, hf]
  | cons entry rest ih =>
    have hentry := h entry (List.mem_cons_self ..)
    have hrest := ih fun e he => h e (List.mem_cons_of_mem _ he)
    rw [putEntries]
    by_cases hn : hasName name entry = true
    · have hsome := hentry.isSome_eq (hasName_iff.1 hn)
      rw [if_pos hn]
      cases hf : f (name, value) with
      | none =>
        have hnone : f entry = none := by simpa [hf] using hsome
        simp [hf, hnone]
      | some a =>
        obtain ⟨b, hb⟩ := Option.isSome_iff_exists.1 (by simpa [hf] using hsome)
        have hname : hasName a.1 b = true :=
          hasName_iff.2 ((hentry.name_iff b a hb hf).2 (hasName_iff.1 hn))
        simp [hf, hb, putEntries, hname]
    · rw [if_neg hn]
      cases hb : f entry with
      | none => simp [hb, hrest]
      | some b =>
        rw [List.filterMap_cons_some hb, hrest, List.filterMap_cons_some hb]
        cases hf : f (name, value) with
        | none => rfl
        | some a =>
          have hname : ¬ hasName a.1 b = true := fun hab =>
            hn (hasName_iff.2 ((hentry.name_iff b a hb hf).1 (hasName_iff.1 hab)))
          simp [putEntries, hname]

/-- **Conversion before or after.** A conversion of pairs that respects names can be made before
pairs of the same name give way to one another, or after it. -/
theorem filterMap_ofPairs {f : String × α → Option (String × β)} {pairs : List (String × α)}
    (h : ∀ p ∈ pairs, ∀ q ∈ pairs, RespectsNames f p q) :
    (ofPairs pairs).entries.filterMap f = (ofPairs (pairs.filterMap f)).entries := by
  induction pairs using List.reverseRecOn with
  | nil => rfl
  | append_singleton pairs pair ih =>
    have hold := ih fun p hp q hq => h p (by simp [hp]) q (by simp [hq])
    have hpair : ∀ entry ∈ (ofPairs pairs).entries, RespectsNames f entry (pair.1, pair.2) :=
      fun entry hentry => h entry (by simp [mem_of_mem_ofPairs hentry]) pair (by simp)
    rw [ofPairs_concat, put, filterMap_putEntries hpair, hold, List.filterMap_append]
    cases hf : f pair with
    | none => simp [hf]
    | some a => simp [hf, ofPairs_concat, put]

end CaseMap

end StorageReply

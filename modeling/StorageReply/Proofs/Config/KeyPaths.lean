import StorageReply.Proofs.Config.Merge

/-!
# Merged maps along paths of keys

A path of keys leads through maps in maps to a value (`Fields.at?`). What a merged map has at a path
is settled where the two maps part on the way (`Parts`): there at least one of them has no map.
From there on everything comes from the later map if it has something there, and from the earlier
one if not (`at?_merge_of_parts`). Where the two do not part, both have a map, and the merged map
has the keys of both (`exists_at?_merge`).

Merging is idempotent, has the empty map as its identity on both sides, and may be regrouped
(`merge_merge`), unless the map in the middle has something else where the two others have maps
(`Regroups`). The equalities are those of ordered maps: keys come in the same order as well.

An equality of maps is proved key by key (`ext_keys`): the maps have the same keys in the same order
(`keys_merge`) and the same value under each, by `get?_merge`. The induction is on the size of a
map, for the values under a key are smaller (`sizeOf_lt_of_get?`).
-/

namespace StorageReply.Fields

/-! ## Keys -/

theorem keys_put (fields : Fields) (k : Key) (v : Value) :
    (fields.put k v).keys = if k ∈ fields.keys then fields.keys else fields.keys ++ [k] := by
  induction fields with
  | nil => simp [put]
  | cons entry rest ih =>
    obtain ⟨k', v'⟩ := entry
    by_cases hk : k' = k
    · simp [put, hk]
    · have hk' : k ≠ k' := Ne.symm hk
      by_cases hmem : k ∈ keys rest <;> simp [put, hk, hk', ih, hmem]

/-- The keys of a merged map: those of the earlier map, and then the new ones of the later map. -/
theorem keys_merge (base : Fields) {top : Fields} (h : top.keys.Nodup) :
    (base.merge top).keys = base.keys ++ top.keys.filter (· ∉ base.keys) := by
  induction top generalizing base with
  | nil => simp
  | cons entry rest ih =>
    obtain ⟨k, v⟩ := entry
    rw [keys_cons, List.nodup_cons] at h
    rw [merge_cons, ih _ h.2, keys_put, keys_cons]
    by_cases hk : k ∈ base.keys
    · rw [if_pos hk, List.filter_cons_of_neg (by simpa using hk)]
    · have hrest : (keys rest).filter (· ∉ base.keys ++ [k]) =
          (keys rest).filter (· ∉ base.keys) := by
        refine List.filter_congr fun k' hk' => ?_
        have hne : k' ≠ k := fun he => h.1 (he ▸ hk')
        simp [hne]
      rw [if_neg hk, hrest, List.filter_cons_of_pos (by simpa using hk), List.append_assoc]
      rfl

theorem nodup_keys_merge {base top : Fields} (hbase : base.keys.Nodup) (htop : top.keys.Nodup) :
    (base.merge top).keys.Nodup := by
  rw [keys_merge base htop]
  refine hbase.append (htop.filter _) fun k hk hk' => ?_
  simpa [hk] using (List.mem_filter.1 hk').2

theorem mem_keys_merge_iff {base top : Fields} (h : top.keys.Nodup) {k : Key} :
    k ∈ (base.merge top).keys ↔ k ∈ base.keys ∨ k ∈ top.keys := by
  rw [keys_merge base h, List.mem_append, List.mem_filter]
  by_cases hk : k ∈ base.keys <;> simp [hk]

/-- Maps with the same keys in the same order, and the same values under them, are equal. -/
theorem ext_keys {f g : Fields} (hkeys : f.keys = g.keys) (hnodup : f.keys.Nodup)
    (h : ∀ k, f.get? k = g.get? k) : f = g := by
  induction f generalizing g with
  | nil => exact (List.map_eq_nil_iff.1 hkeys.symm).symm
  | cons entry f ih =>
    obtain ⟨k, v⟩ := entry
    cases g with
    | nil => cases hkeys
    | cons entry' g =>
      obtain ⟨k', v'⟩ := entry'
      obtain ⟨rfl, hrest⟩ := List.cons.inj hkeys
      rw [keys_cons, List.nodup_cons] at hnodup
      have hv : v = v' := by simpa [get?_cons] using h k
      have hg : f = g := by
        refine ih hrest hnodup.2 fun k' => ?_
        by_cases hk : k = k'
        · subst hk
          have hg : k ∉ keys g := fun hk => hnodup.1 ((congrArg (k ∈ ·) hrest).mpr hk)
          rw [get?_eq_none_of_notMem hnodup.1, get?_eq_none_of_notMem hg]
        · simpa [get?_cons, hk] using h k'
      rw [hv, hg]

/-- The value under a key is smaller than the map. -/
theorem sizeOf_lt_of_get? {fields : Fields} {k : Key} {v : Value} (h : fields.get? k = some v) :
    SizeOf.sizeOf v < SizeOf.sizeOf fields := by
  induction fields with
  | nil => simp at h
  | cons entry rest ih =>
    obtain ⟨k', v'⟩ := entry
    rw [get?_cons] at h
    split at h
    · obtain rfl := Option.some.inj h
      simp only [List.cons.sizeOf_spec, Prod.mk.sizeOf_spec]
      omega
    · have := ih h
      simp only [List.cons.sizeOf_spec]
      omega

theorem sizeOf_lt_of_get?_map {fields inner : Fields} {k : Key}
    (h : fields.get? k = some (.map inner)) : SizeOf.sizeOf inner < SizeOf.sizeOf fields := by
  have := sizeOf_lt_of_get? h
  simp only [Value.map.sizeOf_spec] at this
  omega

/-! ## Paths -/

/-- The value at a path of keys; the empty path leads to the map itself. -/
def at? (fields : Fields) : List Key → Option Value
  | [] => some (.map fields)
  | k :: path =>
    match fields.get? k with
    | none => none
    | some (.map inner) => at? inner path
    | some v => if path = [] then some v else none

/-- Both maps have a map at a path. -/
def Meet (base top : Fields) (path : List Key) : Prop :=
  (∃ b, base.at? path = some (.map b)) ∧ ∃ t, top.at? path = some (.map t)

/-- Two maps part at a path: it is the first one, after the empty path, on the way to `path` where
they do not both have a map, be it that one of them has something else there, or nothing. -/
structure Parts (base top : Fields) (path parting : List Key) : Prop where
  /-- The parting is on the way. -/
  on_way : parting <+: path
  /-- It is not the start. -/
  ne_nil : parting ≠ []
  /-- One of the two has no map there. -/
  not_meet : ¬Meet base top parting
  /-- Both have a map at each point before. -/
  first : ∀ earlier, earlier <+: parting → earlier ≠ [] → earlier ≠ parting → Meet base top earlier

section Paths

variable {base top : Fields} {k : Key}

theorem at?_cons_of_none (h : base.get? k = none) (path : List Key) :
    base.at? (k :: path) = none := by
  simp only [at?, h]

theorem at?_cons_of_map {inner : Fields} (h : base.get? k = some (.map inner))
    (path : List Key) : base.at? (k :: path) = at? inner path := by
  simp only [at?, h]

theorem at?_singleton (base : Fields) (k : Key) : base.at? [k] = base.get? k := by
  cases h : base.get? k with
  | none => exact at?_cons_of_none h []
  | some v => cases v <;> simp [at?, h]

/-- What a path leads to depends on the value under its first key. -/
theorem at?_cons_congr (h : base.get? k = top.get? k) (path : List Key) :
    base.at? (k :: path) = top.at? (k :: path) := by
  simp only [at?, h]

/-- A path to a map leads through a map. -/
theorem exists_of_at?_cons {path : List Key} {x : Fields}
    (h : base.at? (k :: path) = some (.map x)) :
    ∃ inner, base.get? k = some (.map inner) ∧ at? inner path = some (.map x) := by
  cases hk : base.get? k with
  | none => simp [at?_cons_of_none hk] at h
  | some v =>
    cases v with
    | map inner => exact ⟨inner, rfl, at?_cons_of_map hk path ▸ h⟩
    | _ => simp [at?, hk] at h

theorem meet_singleton_iff : Meet base top [k] ↔
    ∃ b t, base.get? k = some (.map b) ∧ top.get? k = some (.map t) := by
  simp only [Meet, at?_singleton]
  exact ⟨fun ⟨⟨b, hb⟩, t, ht⟩ => ⟨b, t, hb, ht⟩, fun ⟨b, t, hb, ht⟩ => ⟨⟨b, hb⟩, t, ht⟩⟩

theorem meet_cons_iff {b t : Fields} (hb : base.get? k = some (.map b))
    (ht : top.get? k = some (.map t)) (path : List Key) :
    Meet base top (k :: path) ↔ Meet b t path := by
  rw [Meet, Meet, at?_cons_of_map hb, at?_cons_of_map ht]

/-- Maps that do not both have a map under the first key part there. -/
theorem Parts.eq_singleton (hmeet : ¬Meet base top [k]) {path parting : List Key}
    (h : Parts base top (k :: path) parting) : parting = [k] := by
  obtain ⟨rest, hrest⟩ := h.on_way
  cases parting with
  | nil => exact absurd rfl h.ne_nil
  | cons k' parting =>
    obtain ⟨rfl, -⟩ := List.cons.inj hrest
    by_contra hne
    exact hmeet (h.first [k'] ⟨parting, rfl⟩ (by simp) (Ne.symm hne))

/-- Where both have a map under the first key, these maps part on the rest of the way. -/
theorem Parts.tail {b t : Fields} (hb : base.get? k = some (.map b))
    (ht : top.get? k = some (.map t)) {path parting : List Key}
    (h : Parts base top (k :: path) parting) :
    ∃ inner, parting = k :: inner ∧ Parts b t path inner := by
  obtain ⟨rest, hrest⟩ := h.on_way
  cases parting with
  | nil => exact absurd rfl h.ne_nil
  | cons k' inner =>
    obtain ⟨rfl, hpath⟩ := List.cons.inj hrest
    refine ⟨inner, rfl, ⟨⟨rest, hpath⟩, ?_, ?_, fun earlier hin hne hne' => ?_⟩⟩
    · rintro rfl
      exact h.not_meet (meet_singleton_iff.2 ⟨b, t, hb, ht⟩)
    · exact fun hmeet => h.not_meet ((meet_cons_iff hb ht inner).2 hmeet)
    · refine (meet_cons_iff hb ht earlier).1 (h.first (k' :: earlier) ?_ (by simp) (by simpa))
      exact List.cons_prefix_cons.2 ⟨rfl, hin⟩

/-- Where two maps never part on the way they meet all the way. -/
theorem meet_of_forall_not_parts {path : List Key} (h : ∀ parting, ¬Parts base top path parting)
    {q : List Key} (hq : q <+: path) (hne : q ≠ []) : Meet base top q := by
  induction hn : q.length using Nat.strongRecOn generalizing q with
  | ind n ih =>
    by_contra hmeet
    refine h q ⟨hq, hne, hmeet, fun earlier hin hne' hlt => ?_⟩
    have hlength : earlier.length < n :=
      hn ▸ Nat.lt_of_le_of_ne hin.length_le fun he => hlt (hin.eq_of_length he)
    exact ih earlier.length hlength (hin.trans hq) hne' rfl

theorem get?_merge_of_map {b t : Fields} (htop : top.Distinct)
    (hb : base.get? k = some (.map b)) (ht : top.get? k = some (.map t)) :
    (base.merge top).get? k = some (.map (b.merge t)) := by
  rw [get?_merge base htop.nodup, hb, ht, overlaid, over_map]

/-- **From the parting on** everything comes from one of the two maps: the later one if it has
something there, and the earlier one if not. -/
theorem at?_merge_of_parts (htop : top.Distinct) {path parting : List Key}
    (h : Parts base top path parting) :
    (base.merge top).at? path = if top.at? parting = none then base.at? path else top.at? path := by
  induction path generalizing base top parting with
  | nil => exact absurd (List.prefix_nil.1 h.on_way) h.ne_nil
  | cons k path ih =>
    by_cases hmeet : Meet base top [k]
    · obtain ⟨b, t, hb, ht⟩ := meet_singleton_iff.1 hmeet
      obtain ⟨inner, rfl, hinner⟩ := h.tail hb ht
      rw [at?_cons_of_map (get?_merge_of_map htop hb ht), at?_cons_of_map hb, at?_cons_of_map ht,
        at?_cons_of_map ht, ih (htop.of_get? ht) hinner]
    · rw [h.eq_singleton hmeet, at?_singleton]
      have hget := get?_merge base htop.nodup k
      cases ht : top.get? k with
      | none =>
        rw [ht, overlaid] at hget
        rw [if_pos rfl, at?_cons_congr hget]
      | some v =>
        have hover : v.over (base.get? k) = v := by
          cases v with
          | map t =>
            cases hb : base.get? k with
            | none => exact over_none _
            | some w =>
              cases w with
              | map b => exact absurd (meet_singleton_iff.2 ⟨b, t, hb, ht⟩) hmeet
              | _ => simp [Value.over]
          | _ => simp [Value.over]
        rw [ht, overlaid, hover, ← ht] at hget
        rw [if_neg (by simp), at?_cons_congr hget]

/-- **Where the two maps do not part** they both have a map, and the merged map has a map with the
keys of both. -/
theorem exists_at?_merge (htop : top.Distinct) {path : List Key} (hne : path ≠ [])
    (h : ∀ q, q <+: path → q ≠ [] → Meet base top q) :
    ∃ b t m, base.at? path = some (.map b) ∧ top.at? path = some (.map t) ∧
      (base.merge top).at? path = some (.map m) ∧ ∀ k, k ∈ keys m ↔ k ∈ keys b ∨ k ∈ keys t := by
  induction path generalizing base top with
  | nil => exact absurd rfl hne
  | cons k path ih =>
    obtain ⟨b, t, hb, ht⟩ :=
      meet_singleton_iff.1 (h [k] (List.cons_prefix_cons.2 ⟨rfl, List.nil_prefix⟩) (by simp))
    have hm := get?_merge_of_map htop hb ht
    have htd : Fields.Distinct t := htop.of_get? ht
    rw [at?_cons_of_map hb, at?_cons_of_map ht, at?_cons_of_map hm]
    by_cases hpath : path = []
    · subst hpath
      exact ⟨b, t, merge b t, rfl, rfl, rfl, fun k => mem_keys_merge_iff htd.nodup⟩
    · refine ih htd hpath fun q hq _ => ?_
      exact (meet_cons_iff hb ht q).1 (h (k :: q) (List.cons_prefix_cons.2 ⟨rfl, hq⟩) (by simp))

end Paths

/-! ## Laws -/

/-- The empty map laid under a map changes nothing. -/
theorem nil_merge {top : Fields} (h : top.keys.Nodup) : Fields.merge [] top = top := by
  have hkeys : (Fields.merge [] top).keys = top.keys := by simp [keys_merge [] h]
  refine ext_keys hkeys (hkeys ▸ h) fun k => ?_
  rw [get?_merge [] h, get?_nil]
  cases top.get? k with
  | none => rfl
  | some v => rw [overlaid, over_none]

/-- A map laid over itself changes nothing. -/
theorem merge_self {fields : Fields} (h : fields.Distinct) : fields.merge fields = fields := by
  induction hn : SizeOf.sizeOf fields using Nat.strongRecOn generalizing fields with
  | ind n ih =>
    have hkeys : (fields.merge fields).keys = fields.keys := by
      simp [keys_merge fields h.nodup, List.filter_eq_nil_iff]
    refine ext_keys hkeys (hkeys ▸ h.nodup) fun k => ?_
    rw [get?_merge fields h.nodup]
    cases hk : fields.get? k with
    | none => rfl
    | some v =>
      cases v with
      | map inner =>
        have hlt := sizeOf_lt_of_get?_map hk
        rw [overlaid, over_map, ih (SizeOf.sizeOf inner) (hn ▸ hlt) (h.of_get? hk) rfl]
      | _ => rw [overlaid, over_eq_self (by simp)]

/-- The map in the middle has nothing but maps where the two others have maps. -/
def Regroups (a b c : Fields) : Prop :=
  ∀ path x z v, a.at? path = some (.map x) → c.at? path = some (.map z) → b.at? path = some v →
    ∃ y, v = .map y

theorem Regroups.of_get? {a b c x y z : Fields} (h : Regroups a b c) {k : Key}
    (ha : a.get? k = some (.map x)) (hb : b.get? k = some (.map y))
    (hc : c.get? k = some (.map z)) : Regroups x y z := fun path x' z' v ha' hc' hb' =>
  h (k :: path) x' z' v ((at?_cons_of_map ha path).trans ha') ((at?_cons_of_map hc path).trans hc')
    ((at?_cons_of_map hb path).trans hb')

/-- It is enough to look under the keys, one level at a time. -/
theorem regroups_of_get? {a b c : Fields}
    (h : ∀ k x z v, a.get? k = some (.map x) → c.get? k = some (.map z) → b.get? k = some v →
      ∃ y, v = .map y ∧ Regroups x y z) : Regroups a b c := by
  intro path x z v hx hz hv
  cases path with
  | nil => exact ⟨b, (Option.some.inj hv).symm⟩
  | cons k path =>
    obtain ⟨x', hx', hx⟩ := exists_of_at?_cons hx
    obtain ⟨z', hz', hz⟩ := exists_of_at?_cons hz
    cases hb : b.get? k with
    | none => simp [at?_cons_of_none hb] at hv
    | some w =>
      obtain ⟨y, rfl, hy⟩ := h k x' z' w hx' hz' hb
      rw [at?_cons_of_map hb] at hv
      exact hy path x z v hx hz hv

/-- Regrouping under one key, where the maps under it may be regrouped. -/
theorem overlaid_overlaid {a b c : Option Value}
    (hmiddle : ∀ x z v, a = some (.map x) → c = some (.map z) → b = some v → ∃ y, v = .map y)
    (hmaps : ∀ x y z : Fields, a = some (.map x) → b = some (.map y) → c = some (.map z) →
      (x.merge y).merge z = x.merge (y.merge z)) :
    overlaid c (overlaid b a) = overlaid (overlaid c b) a := by
  rcases c with - | c
  · rfl
  rcases b with - | b
  · rw [overlaid_none, overlaid, overlaid, over_none, overlaid]
  simp only [overlaid]
  by_cases hc : ∃ z, c = .map z
  · obtain ⟨z, rfl⟩ := hc
    by_cases ha : ∃ x, a = some (.map x)
    · obtain ⟨x, rfl⟩ := ha
      obtain ⟨y, rfl⟩ := hmiddle x z b rfl rfl rfl
      rw [over_map, over_map, over_map, over_map, hmaps x y z rfl rfl rfl]
    · have hkeep : ∀ v : Value, v.over a = v := by
        intro v
        rcases a with - | w
        · exact over_none v
        · cases w with
          | map x => exact absurd ⟨x, rfl⟩ ha
          | _ => cases v <;> simp [Value.over]
      rw [hkeep, hkeep]
  · have hc' : ∀ entries, c ≠ .map entries := fun entries he => hc ⟨entries, he⟩
    rw [over_eq_self hc', over_eq_self hc', over_eq_self hc']

/-- **Three maps may be regrouped.** -/
theorem merge_merge {a b c : Fields} (ha : a.Distinct) (hb : b.Distinct) (hc : c.Distinct)
    (h : Regroups a b c) : (a.merge b).merge c = a.merge (b.merge c) := by
  induction hn : SizeOf.sizeOf c using Nat.strongRecOn generalizing a b c with
  | ind n ih =>
    have hbc := nodup_keys_merge hb.nodup hc.nodup
    have hkeys : ((a.merge b).merge c).keys = (a.merge (b.merge c)).keys := by
      rw [keys_merge _ hc.nodup, keys_merge _ hb.nodup, keys_merge _ hbc, keys_merge _ hc.nodup,
        List.filter_append, List.filter_filter, List.append_assoc]
      congr 2
      refine List.filter_congr fun k _ => ?_
      by_cases hk : k ∈ a.keys <;> simp [hk]
    refine ext_keys hkeys (nodup_keys_merge (nodup_keys_merge ha.nodup hb.nodup) hc.nodup)
      fun k => ?_
    rw [get?_merge _ hc.nodup, get?_merge _ hb.nodup, get?_merge _ hbc, get?_merge _ hc.nodup]
    refine overlaid_overlaid (fun x z v hx hz hv => ?_) fun x y z hx hy hz => ?_
    · exact h [k] x z v (by rw [at?_singleton, hx]) (by rw [at?_singleton, hz])
        (by rw [at?_singleton, hv])
    · exact ih (SizeOf.sizeOf z) (hn ▸ sizeOf_lt_of_get?_map hz) (ha.of_get? hx) (hb.of_get? hy)
        (hc.of_get? hz) (h.of_get? hx hy hz) rfl

/-- **The law of merged maps.** At each path, what a merged map has there is what the later map has,
or the earlier one where the later one has nothing at the parting; where the two maps never part it
is a map with the keys of both. So merging the same map again changes nothing, the empty map changes
nothing on either side, and three maps may be regrouped when the middle one has nothing but maps
where the two others have maps. -/
theorem merged_along_paths {a b c : Fields} (ha : a.Distinct) (hb : b.Distinct) (hc : c.Distinct) :
    (∀ path, path ≠ [] →
      (∀ parting, Parts a b path parting →
        (a.merge b).at? path = if b.at? parting = none then a.at? path else b.at? path) ∧
      ((¬∃ parting, Parts a b path parting) →
        ∃ x y m, a.at? path = some (.map x) ∧ b.at? path = some (.map y) ∧
          (a.merge b).at? path = some (.map m) ∧
          ∀ k, k ∈ keys m ↔ k ∈ keys x ∨ k ∈ keys y)) ∧
    (a.merge b).merge b = a.merge b ∧ a.merge [] = a ∧ Fields.merge [] a = a ∧
    (Regroups a b c → (a.merge b).merge c = a.merge (b.merge c)) := by
  refine ⟨fun path hpath => ⟨fun parting => at?_merge_of_parts hb, fun hnone => ?_⟩, ?_,
    merge_nil a, nil_merge ha.nodup, merge_merge ha hb hc⟩
  · exact exists_at?_merge hb hpath fun q hq hne =>
      meet_of_forall_not_parts (not_exists.1 hnone) hq hne
  · -- the map that is laid over twice is itself the middle one
    have hregroups : Regroups a b b := fun path x z v _ hz hv =>
      ⟨z, Option.some.inj (hv.symm.trans hz)⟩
    rw [merge_merge ha hb hb hregroups, merge_self hb]

/-- Settings of an account, and a version. -/
def accountSettings : Fields :=
  [(.text "account", .map [(.text "name", .text "a"), (.text "suffix", .text "s")]),
    (.text "version", .text "1.0.0")]

/-- Settings that give the account another name, and of which one is null. -/
def renamedSettings : Fields :=
  [(.text "account", .map [(.text "name", .text "b"), (.text "key", .null)]),
    (.text "logging", .null)]

/-- Settings that replace the two null values. -/
def completedSettings : Fields :=
  [(.text "logging", .map [(.text "level", .text "INFO")]),
    (.text "account", .map [(.text "key", .map [])])]

theorem merged_along_paths_settings :
    accountSettings.Distinct ∧ renamedSettings.Distinct ∧ completedSettings.Distinct ∧
      Regroups accountSettings renamedSettings completedSettings ∧
      Parts accountSettings renamedSettings [.text "account", .text "name"]
        [.text "account", .text "name"] ∧
      (accountSettings.merge renamedSettings).at? [.text "account", .text "name"] =
        some (.text "b") ∧
      (accountSettings.merge renamedSettings).merge completedSettings =
        accountSettings.merge (renamedSettings.merge completedSettings) := by
  have ha : accountSettings.Distinct := by
    simp [accountSettings, Distinct, Value.Distinct, DistinctEntries]
  have hb : renamedSettings.Distinct := by
    simp [renamedSettings, Distinct, Value.Distinct, DistinctEntries]
  have hc : completedSettings.Distinct := by
    simp [completedSettings, Distinct, Value.Distinct, DistinctEntries]
  have haccount : accountSettings.get? (.text "account") =
      some (.map [(.text "name", .text "a"), (.text "suffix", .text "s")]) := rfl
  have hrenamed : renamedSettings.get? (.text "account") =
      some (.map [(.text "name", .text "b"), (.text "key", .null)]) := rfl
  have hregroups : Regroups accountSettings renamedSettings completedSettings := by
    refine regroups_of_get? fun k x z v hx hz hv => ?_
    by_cases hk : k = .text "account"
    · subst hk
      rw [haccount] at hx
      rw [hrenamed] at hv
      cases hx
      cases hv
      refine ⟨_, rfl, regroups_of_get? fun k x z v hx hz hv => ?_⟩
      simp only [get?_cons, get?_nil] at hx
      split_ifs at hx <;> cases hx
    · simp only [accountSettings, get?_cons, get?_nil, if_neg (Ne.symm hk)] at hx
      split_ifs at hx
      cases hx
  have hparts : Parts accountSettings renamedSettings [.text "account", .text "name"]
      [.text "account", .text "name"] := by
    refine ⟨List.prefix_rfl, by simp, fun hmeet => ?_, fun earlier hin hne hne' => ?_⟩
    · obtain ⟨x, y, hx, -⟩ := meet_singleton_iff.1 ((meet_cons_iff haccount hrenamed _).1 hmeet)
      cases hx
    · have hearlier : earlier = [.text "account"] := by
        simp only [List.prefix_cons_iff, List.prefix_nil] at hin
        grind
      rw [hearlier]
      exact meet_singleton_iff.2 ⟨_, _, haccount, hrenamed⟩
  have hlaws := merged_along_paths ha hb hc
  refine ⟨ha, hb, hc, hregroups, hparts, ?_, hlaws.2.2.2.2 hregroups⟩
  exact ((hlaws.1 _ (by simp)).1 _ hparts).trans rfl

end StorageReply.Fields

import Mathlib.Data.List.Nodup
import StorageReply.Config.Environment
import StorageReply.Config.Merge

/-!
# Look-ups in merged maps

What a merged map has under a key, said in terms of what the two maps have there (`get?_merge`), and
the same for the parts of a map, which are the maps under its keys (`exists_part?_merge`). What
the environment variables give is a map like any other (`get?_entry?`, `part?_account`,
`part?_logging`).

The map that is laid over another must hold each key once, as maps do; `Value.Distinct` says this of
a value and of all that is in it.
-/

namespace StorageReply

/-- What one map laid over another has under a key, by what each of them has there. -/
def overlaid : Option Value → Option Value → Option Value
  | none, base => base
  | some v, base => some (v.over base)

@[simp] theorem overlaid_none (base : Option Value) : overlaid none base = base := rfl

theorem over_none (v : Value) : v.over none = v := by
  cases v <;> simp [Value.over]

theorem over_eq_self {v : Value} (h : ∀ entries, v ≠ .map entries) (base : Option Value) :
    v.over base = v := by
  cases v with
  | map entries => exact absurd rfl (h entries)
  | _ => simp [Value.over]

theorem over_map (entries base : Fields) :
    Value.over (.map entries) (some (.map base)) = .map (base.merge entries) := by
  simp [Value.over, Fields.merge]

/-- A map stays a map, whatever it is laid over. -/
theorem exists_over_map (entries : Fields) (base : Option Value) :
    ∃ merged, Value.over (.map entries) base = .map merged := by
  cases base with
  | none => exact ⟨entries, over_none _⟩
  | some v =>
    cases v with
    | map b => exact ⟨Fields.merge b entries, over_map entries b⟩
    | _ => exact ⟨entries, by simp [Value.over]⟩

namespace Fields

/-- The keys of a map, in order. -/
def keys (fields : Fields) : List Key := fields.map Prod.fst

@[simp] theorem keys_nil : keys [] = [] := rfl

@[simp] theorem keys_cons (k : Key) (v : Value) (rest : Fields) :
    keys ((k, v) :: rest) = k :: keys rest := rfl

@[simp] theorem keys_append (fields more : Fields) :
    keys (fields ++ more) = keys fields ++ keys more := List.map_append

theorem get?_cons (k : Key) (v : Value) (rest : Fields) (k' : Key) :
    get? ((k, v) :: rest) k' = if k = k' then some v else get? rest k' := rfl

theorem get?_eq_none_of_notMem {fields : Fields} {k : Key} (h : k ∉ fields.keys) :
    fields.get? k = none := by
  induction fields with
  | nil => rfl
  | cons entry rest ih =>
    obtain ⟨k', v⟩ := entry
    simp only [keys_cons, List.mem_cons, not_or] at h
    rw [get?_cons, if_neg (Ne.symm h.1), ih h.2]

theorem get?_append (fields more : Fields) (k : Key) :
    get? (fields ++ more) k = (get? fields k).or (get? more k) := by
  induction fields with
  | nil => rfl
  | cons entry rest ih =>
    obtain ⟨k', v⟩ := entry
    rw [List.cons_append, get?_cons, get?_cons, ih]
    split <;> rfl

/-- A merged map has under a key what the later map has there, laid over what the earlier one has;
where the later map has nothing, it has what the earlier one has. -/
theorem get?_merge (base : Fields) {top : Fields} (h : top.keys.Nodup) (k : Key) :
    (base.merge top).get? k = overlaid (top.get? k) (base.get? k) := by
  induction top generalizing base with
  | nil => rw [merge_nil, get?_nil, overlaid]
  | cons entry rest ih =>
    obtain ⟨k', v⟩ := entry
    rw [keys_cons, List.nodup_cons] at h
    rw [merge_cons, ih _ h.2, get?_put, get?_cons]
    by_cases hk : k' = k
    · subst hk
      rw [get?_eq_none_of_notMem h.1, if_pos rfl, if_pos rfl, overlaid, overlaid]
    · rw [if_neg hk, if_neg hk]

/-! ## Parts of a map -/

/-- The map under a name. Where the name is missing the map is empty. -/
def part? (fields : Fields) (name : String) : Option Fields :=
  match fields.named? name with
  | none => some []
  | some (.map entries) => some entries
  | some _ => none

theorem part?_eq_some_iff {fields part : Fields} {name : String} :
    fields.part? name = some part ↔
      fields.named? name = none ∧ part = [] ∨ fields.named? name = some (.map part) := by
  rw [part?]
  cases fields.named? name with
  | none => simp [eq_comm]
  | some v => cases v <;> simp

/-- A part of a merged map is merged from the parts of the two maps. -/
theorem exists_part?_merge {base top b o : Fields} {name : String} (htop : top.keys.Nodup)
    (ho : o.keys.Nodup) (hb : base.part? name = some b) (ho' : top.part? name = some o) :
    ∃ part, (base.merge top).part? name = some part ∧
      ∀ k, part.get? k = overlaid (o.get? k) (b.get? k) := by
  have hget : (base.merge top).named? name =
      overlaid (top.named? name) (base.named? name) := get?_merge base htop (.text name)
  rcases part?_eq_some_iff.1 ho' with ⟨hnone, rfl⟩ | hsome
  · refine ⟨b, ?_, fun k => by rw [get?_nil, overlaid]⟩
    rw [part?_eq_some_iff, hget, hnone, overlaid]
    exact part?_eq_some_iff.1 hb
  · rcases part?_eq_some_iff.1 hb with ⟨hnone, rfl⟩ | hbase
    · refine ⟨o, ?_, fun k => ?_⟩
      · rw [part?_eq_some_iff, hget, hsome, hnone, overlaid, over_none]
        exact .inr rfl
      · cases hk : o.get? k with
        | none => rw [get?_nil, overlaid]
        | some v => rw [get?_nil, overlaid, over_none]
    · refine ⟨b.merge o, ?_, get?_merge b ho⟩
      rw [part?_eq_some_iff, hget, hsome, hbase, overlaid, over_map]
      exact .inr rfl

end Fields

/-! ## Maps that hold each key once -/

mutual

/-- Every map in a value holds each of its keys once. -/
def Value.Distinct : Value → Prop
  | .list items => DistinctItems items
  | .map entries => (Fields.keys entries).Nodup ∧ DistinctEntries entries
  | _ => True

/-- Every map in a list of values holds each of its keys once. -/
def DistinctItems : List Value → Prop
  | [] => True
  | v :: rest => v.Distinct ∧ DistinctItems rest

/-- Every map in the values of a map holds each of its keys once. -/
def DistinctEntries : List (Key × Value) → Prop
  | [] => True
  | (_, v) :: rest => v.Distinct ∧ DistinctEntries rest

end

/-- A map that holds each key once, as do all maps in it. -/
def Fields.Distinct (fields : Fields) : Prop := (Value.map fields).Distinct

namespace Fields

theorem Distinct.nodup {fields : Fields} (h : fields.Distinct) : fields.keys.Nodup := by
  simp only [Distinct, Value.Distinct] at h
  exact h.1

theorem Distinct.of_get? {fields : Fields} (h : fields.Distinct) {k : Key} {v : Value}
    (hv : fields.get? k = some v) : v.Distinct := by
  simp only [Distinct, Value.Distinct] at h
  have hentries := h.2
  clear h
  induction fields with
  | nil => simp at hv
  | cons entry rest ih =>
    obtain ⟨k', v'⟩ := entry
    rw [DistinctEntries] at hentries
    rw [get?_cons] at hv
    split at hv
    · obtain rfl := Option.some.inj hv
      exact hentries.1
    · exact ih hv hentries.2

theorem Distinct.part {fields part : Fields} (h : fields.Distinct) {name : String}
    (hpart : fields.part? name = some part) : part.Distinct := by
  rcases part?_eq_some_iff.1 hpart with ⟨-, rfl⟩ | hsome
  · simp [Distinct, Value.Distinct, DistinctEntries]
  · exact h.of_get? hsome

end Fields

/-! ## The environment as a map -/

namespace Environment

variable (env : Environment)

theorem get?_entry? (name key : String) (f : String → String) (key' : String) :
    (env.entry? name key f).get? (.text key') =
      if key = key' then (env.given name).map fun value => Value.text (f value) else none := by
  cases h : env.given name <;> simp [h, entry?, Fields.get?_cons]

theorem get?_group (key : String) (fields : Fields) (key' : String) :
    (group key fields).get? (.text key') =
      if key = key' ∧ fields ≠ [] then some (.map fields) else none := by
  by_cases h : fields = [] <;> simp [group, h, Fields.get?_cons]

theorem keys_entry?_sublist (name key : String) (f : String → String) :
    ((env.entry? name key f).keys).Sublist [.text key] := by
  cases h : env.given name <;> simp [h, entry?]

theorem keys_group_sublist (key : String) (fields : Fields) :
    ((group key fields).keys).Sublist [.text key] := by
  by_cases h : fields = [] <;> simp [group, h]

theorem nodup_keys_fields : env.fields.keys.Nodup := by
  have hsub : (env.fields.keys).Sublist
      ([.text "account"] ++ [.text "location_mode"] ++ [.text "logging"]) := by
    simp only [fields, Fields.keys_append]
    exact ((keys_group_sublist ..).append (keys_entry?_sublist ..)).append (keys_group_sublist ..)
  exact hsub.nodup (by decide)

theorem nodup_keys_accountFields : env.accountFields.keys.Nodup := by
  have hsub : (env.accountFields.keys).Sublist ([.text "name"] ++ [.text "endpoint_suffix"]
      ++ [.text "primary_endpoint"] ++ [.text "secondary_endpoint"]) := by
    simp only [accountFields, Fields.keys_append]
    exact (((keys_entry?_sublist ..).append (keys_entry?_sublist ..)).append
      (keys_entry?_sublist ..)).append (keys_entry?_sublist ..)
  exact hsub.nodup (by decide)

theorem nodup_keys_loggingFields : env.loggingFields.keys.Nodup := by
  have hsub : (env.loggingFields.keys).Sublist ([.text "level"] ++ [.text "file"]) := by
    simp only [loggingFields, Fields.keys_append]
    exact (keys_entry?_sublist ..).append (keys_entry?_sublist ..)
  exact hsub.nodup (by decide)

theorem part?_account : env.fields.part? "account" = some env.accountFields := by
  rw [Fields.part?_eq_some_iff, Fields.named?, fields, Fields.get?_append, Fields.get?_append,
    get?_group, get?_entry?, get?_group]
  by_cases h : env.accountFields = [] <;> simp [h]

theorem part?_logging : env.fields.part? "logging" = some env.loggingFields := by
  rw [Fields.part?_eq_some_iff, Fields.named?, fields, Fields.get?_append, Fields.get?_append,
    get?_group, get?_entry?, get?_group]
  by_cases h : env.loggingFields = [] <;> simp [h]

end Environment

end StorageReply

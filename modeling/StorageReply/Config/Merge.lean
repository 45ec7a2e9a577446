import StorageReply.Failure

/-!
# Merging settings

Maps of settings from several sources as one map. Where both sides have a map under a key, these are
merged in turn; otherwise the value of the later source counts. Keys keep the order in which they
first came.

Main definitions:

* `Value.over`: a value laid over what was there;
* `Fields.merge`: a map laid over another;
* `Value.merged`: the same for values that may be no maps.
-/

namespace StorageReply

mutual

/-- A value laid over what stood under its key: maps are merged, anything else is replaced. -/
def Value.over : Value → Option Value → Value
  | .map entries, some (.map base) => .map (mergeInto base entries)
  | v, _ => v

/-- The entries of a map laid over another map. -/
def mergeInto (base : Fields) : List (Key × Value) → Fields
  | [] => base
  | (k, v) :: rest => mergeInto (base.put k (v.over (base.get? k))) rest

end

/-- A map of settings laid over another. -/
def Fields.merge (base override : Fields) : Fields := mergeInto base override

/-- A value laid over a whole configuration. Only maps can be laid over others, and nothing but an
empty map can be laid over a list or a set. -/
def Value.merged (base override : Value) : Except Failure Value :=
  match base, override with
  | .map base, .map entries => .ok (.map (Fields.merge base entries))
  | .list _, .map entries => if entries.isEmpty then .ok base else .error .wrongKind
  | .extra (.set _), .map entries => if entries.isEmpty then .ok base else .error .wrongKind
  | _, _ => .error .noOperation

@[simp] theorem Value.merged_map (base override : Fields) :
    Value.merged (.map base) (.map override) = .ok (.map (Fields.merge base override)) := rfl

@[simp] theorem Fields.merge_nil (base : Fields) : base.merge [] = base := by
  simp [Fields.merge, mergeInto]

theorem Fields.merge_cons (base : Fields) (k : Key) (v : Value) (rest : Fields) :
    base.merge ((k, v) :: rest) = (base.put k (v.over (base.get? k))).merge rest := by
  simp [Fields.merge, mergeInto]

end StorageReply

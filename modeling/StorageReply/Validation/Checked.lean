import StorageReply.Failure

/-!
# Checked results

The result of validating a value: the converted value, or all issues in order. Checking two parts
reports the issues of both.

Main definitions:

* `Checked`: a value or issues;
* `Checked.also`: the pair of two results, with the issues of both;
* `Checked.under`: the result with its issues one level further out;
* `Checked.field`: the value of a field of a map, or a default where the map lacks it;
* `Checked.toExcept`: the result as a failure of validation.

`Checked.also_eq_ok_iff` says that a pair is accepted exactly when both parts are.
-/

namespace StorageReply

/-- A converted value, or the issues that were found. -/
inductive Checked (α : Type)
  /-- The value is accepted. -/
  | ok (value : α)
  /-- The value is refused, with the issues in order. -/
  | issues (found : List Issue)
  deriving Repr

namespace Checked

variable {α β γ : Type}

/-- The converted value under a function. -/
def map (f : α → β) : Checked α → Checked β
  | .ok a => .ok (f a)
  | .issues found => .issues found

/-- Both values, or the issues of both. -/
def also : Checked α → Checked β → Checked (α × β)
  | .ok a, .ok b => .ok (a, b)
  | .ok _, .issues found => .issues found
  | .issues found, .ok _ => .issues found
  | .issues found, .issues more => .issues (found ++ more)

/-- Two results combined by a function. -/
def map2 (f : α → β → γ) (a : Checked α) (b : Checked β) : Checked γ :=
  (a.also b).map fun (a, b) => f a b

/-- A function's result combined with that of its argument. -/
def ap (f : Checked (α → β)) (a : Checked α) : Checked β := map2 (fun f a => f a) f a

/-- A further check of an accepted value. -/
def andThen (a : Checked α) (f : α → Checked β) : Checked β :=
  match a with
  | .ok value => f value
  | .issues found => .issues found

/-- A single defect of the value itself. -/
def defect (d : Defect) : Checked α := .issues [⟨[], d⟩]

/-- A conversion that can fail with one defect. -/
def ofExcept : Except Defect α → Checked α
  | .ok a => .ok a
  | .error d => defect d

/-- The same result, one step further out. -/
def under (step : Step) : Checked α → Checked α
  | .ok a => .ok a
  | .issues found => .issues (found.map (Issue.under step))

/-- The value of a field, converted; a map without the field gives the default. -/
def field (fields : Fields) (name : String) (default : α) (convert : Value → Checked α) :
    Checked α :=
  match fields.named? name with
  | none => .ok default
  | some v => (convert v).under (.field name)

/-- A conversion in which null stands for nothing. -/
def optional (convert : Value → Checked α) : Value → Checked (Option α)
  | .null => .ok none
  | v => (convert v).map some

/-- The members of a list, converted; issues name the position. -/
def items (convert : Value → Checked α) (position : Nat) : List Value → Checked (List α)
  | [] => .ok []
  | v :: rest =>
    map2 (· :: ·) ((convert v).under (.index position)) (items convert (position + 1) rest)

/-- The accepted value, or a failure of validation. -/
def toExcept : Checked α → Except Failure α
  | .ok a => .ok a
  | .issues found => .error (.validation found)

theorem also_eq_ok_iff {a : Checked α} {b : Checked β} {x : α} {y : β} :
    a.also b = .ok (x, y) ↔ a = .ok x ∧ b = .ok y := by
  cases a <;> cases b <;> simp [also]

@[simp] theorem map_ok (f : α → β) (a : α) : (ok a).map f = .ok (f a) := rfl

@[simp] theorem under_ok (step : Step) (a : α) : (ok a).under step = .ok a := rfl

end Checked

end StorageReply

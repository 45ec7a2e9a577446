import StorageReply.Failure

/-!
# Acts

Operations on a state that can fail. What an act did to the state before it failed stays.

Main definitions:

* `Act`: the operations;
* `Act.of`: a result that does not touch the state;
* `Act.on`: an act on a part of a larger state;
* `Act.within`: an act between two changes of the state;
* `Act.inTurn`: acts one after the other;
* `Act.result`: the answer of an act and the state that it leaves behind.
-/

namespace StorageReply

/-- An operation on a state that can fail. -/
abbrev Act (σ α : Type) : Type := EStateM Failure σ α

namespace Act

variable {σ τ α : Type}

/-- A result that does not touch the state. -/
def of : Except Failure α → Act σ α
  | .ok a => pure a
  | .error failure => throw failure

/-- An act on a part of a larger state. -/
def on (part : σ → τ) (replace : σ → τ → σ) (act : Act τ α) : Act σ α := fun s =>
  match act (part s) with
  | .ok a t => .ok a (replace s t)
  | .error failure t => .error failure (replace s t)

/-- An act between two changes of the state. The second one is made even if the act fails. -/
def within (enter leave : σ → σ) (act : Act σ α) : Act σ α := fun s =>
  match act (enter s) with
  | .ok a s => .ok a (leave s)
  | .error failure s => .error failure (leave s)

/-- Acts one after the other; the first failure ends them. -/
def inTurn : List (Act σ Unit) → Act σ Unit
  | [] => pure ()
  | act :: rest => do
    act
    inTurn rest

/-- The state that an act leaves behind, and its answer or failure. -/
def result (act : Act σ α) (s : σ) : σ × Except Failure α :=
  match act s with
  | .ok a s => (s, .ok a)
  | .error failure s => (s, .error failure)

@[simp] theorem result_pure (a : α) (s : σ) : (pure a : Act σ α).result s = (s, .ok a) := rfl

@[simp] theorem result_throw (failure : Failure) (s : σ) :
    (throw failure : Act σ α).result s = (s, .error failure) := rfl

@[simp] theorem result_of (r : Except Failure α) (s : σ) : (of r : Act σ α).result s = (s, r) := by
  cases r <;> rfl

@[simp] theorem result_get (s : σ) : (get : Act σ σ).result s = (s, .ok s) := rfl

@[simp] theorem result_modify (f : σ → σ) (s : σ) :
    (modify f : Act σ Unit).result s = (f s, .ok ()) := rfl

theorem result_ite (c : Prop) [Decidable c] (act other : Act σ α) (s : σ) :
    (if c then act else other).result s = if c then act.result s else other.result s := by
  split <;> rfl

theorem result_within (enter leave : σ → σ) (act : Act σ α) (s : σ) :
    (within enter leave act).result s =
      (leave (act.result (enter s)).1, (act.result (enter s)).2) := by
  simp only [result, within]
  cases act (enter s) <;> rfl

/-- An act on a part of a state leaves the rest as it is. -/
theorem result_on (part : σ → τ) (replace : σ → τ → σ) (act : Act τ α) (s : σ) :
    (on part replace act).result s =
      (replace s (act.result (part s)).1, (act.result (part s)).2) := by
  simp only [result, on]
  cases act (part s) <;> rfl

/-- An act after another: a failure of the first one ends both. -/
theorem result_bind {β : Type} (act : Act σ α) (next : α → Act σ β) (s : σ) :
    (act >>= next).result s =
      match act.result s with
      | (s, .ok a) => (next a).result s
      | (s, .error failure) => (s, .error failure) := by
  simp only [result, bind, EStateM.bind]
  cases act s <;> rfl

theorem result_eq_of_answer {act : Act σ α} {s : σ} {answer : Except Failure α}
    (h : (act.result s).2 = answer) : act.result s = ((act.result s).1, answer) := Prod.ext rfl h

/-- The answer of an act after another. -/
theorem answer_bind {β : Type} (act : Act σ α) (next : α → Act σ β) (s : σ) :
    ((act >>= next).result s).2 =
      (act.result s).2 >>= fun a => ((next a).result (act.result s).1).2 := by
  rw [result_bind]
  obtain ⟨t, answer⟩ := act.result s
  cases answer <;> rfl

end Act

end StorageReply

import StorageReply.Validation.Lax

/-!
# Accepted values

When a check accepts a value, read off the value: a combined check accepts exactly when each of its
parts does (`ap_eq_ok_iff`, `andThen_eq_ok_iff`), and a field gives the converted value of its entry
or its usual value (`field_eq_ok_iff`, in terms of `Gives`).

Most conversions refuse maps (`RefusesMaps`), so that a setting they accept was given by one source
alone, however many maps were merged.
-/

namespace StorageReply

/-- What a setting is by the value that is given for it: the converted value, or the usual one where
no value is given. -/
def Gives {α : Type} (convert : Value → Checked α) (usual : α) : Option Value → α → Prop
  | none, x => x = usual
  | some v, x => convert v = .ok x

/-- A conversion accepts no map. -/
def RefusesMaps {α : Type} (convert : Value → Checked α) : Prop :=
  ∀ entries x, convert (.map entries) ≠ .ok x

namespace Checked

variable {α β γ : Type}

theorem map_eq_ok_iff {f : α → β} {a : Checked α} {y : β} :
    a.map f = .ok y ↔ ∃ x, a = .ok x ∧ f x = y := by
  cases a <;> simp [map]

theorem map2_eq_ok_iff {f : α → β → γ} {a : Checked α} {b : Checked β} {z : γ} :
    map2 f a b = .ok z ↔ ∃ x y, a = .ok x ∧ b = .ok y ∧ f x y = z := by
  cases a <;> cases b <;> simp [map2, also, map]

theorem ap_eq_ok_iff {f : Checked (α → β)} {a : Checked α} {y : β} :
    f.ap a = .ok y ↔ ∃ g x, f = .ok g ∧ a = .ok x ∧ g x = y := map2_eq_ok_iff

theorem andThen_eq_ok_iff {a : Checked α} {f : α → Checked β} {y : β} :
    a.andThen f = .ok y ↔ ∃ x, a = .ok x ∧ f x = .ok y := by
  cases a <;> simp [andThen]

theorem under_eq_ok_iff {step : Step} {a : Checked α} {x : α} :
    a.under step = .ok x ↔ a = .ok x := by
  cases a <;> simp [under]

theorem toExcept_eq_ok_iff {a : Checked α} {x : α} : a.toExcept = .ok x ↔ a = .ok x := by
  cases a <;> simp [toExcept]

theorem field_eq_ok_iff {fields : Fields} {name : String} {usual : α}
    {convert : Value → Checked α} {x : α} :
    field fields name usual convert = .ok x ↔ Gives convert usual (fields.named? name) x := by
  rw [field]
  cases fields.named? name with
  | none => simp [Gives, eq_comm]
  | some v => exact under_eq_ok_iff

end Checked

/-! ## Conversions that refuse maps -/

theorem refusesMaps_text : RefusesMaps Lax.text := nofun

theorem refusesMaps_integer : RefusesMaps Lax.integer := nofun

theorem refusesMaps_member {α : Type} (words : List String) (ofWord? : String → Option α) :
    RefusesMaps (Lax.member words ofWord?) := nofun

theorem RefusesMaps.andThen {α β : Type} {convert : Value → Checked α}
    (h : RefusesMaps convert) (f : α → Checked β) :
    RefusesMaps fun v => (convert v).andThen f := by
  intro entries y hy
  obtain ⟨x, hx, -⟩ := Checked.andThen_eq_ok_iff.1 hy
  exact h entries x hx

theorem RefusesMaps.map {α β : Type} {convert : Value → Checked α}
    (h : RefusesMaps convert) (f : α → β) : RefusesMaps fun v => (convert v).map f := by
  intro entries y hy
  obtain ⟨x, hx, -⟩ := Checked.map_eq_ok_iff.1 hy
  exact h entries x hx

theorem RefusesMaps.optional {α : Type} {convert : Value → Checked α}
    (h : RefusesMaps convert) : RefusesMaps (Checked.optional convert) := h.map some

end StorageReply

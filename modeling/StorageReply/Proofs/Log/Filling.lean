import StorageReply.Proofs.Log.Parts

/-!
# Filling a template with values in order

Values in order fill a template exactly when the template is spelled and its directives take up the
values one after the other, each directive with a value that it can write (`exists_render_iff`). So
the number of values is known from the directives alone (`Fits.length_eq`): one for each directive
and one for each star in it.
-/

namespace StorageReply.Template

theorem isConversion_of_place {d : Directive} {index : Nat} {v : Value} {codes : List CodePoint}
    (h : place d index v = .ok codes) : isConversion d.letter = true := by
  obtain ⟨flags, width, precision, letter⟩ := d
  cases precision <;> simp only [place] at h <;> split at h <;> first | rfl | simp at h

/-- A value is written in the same way wherever the directive stands. -/
theorem place_congr {d : Directive} (hd : isConversion d.letter = true) (index index' : Nat)
    (v : Value) : place d index v = place d index' v := by
  obtain ⟨flags, width, precision, letter⟩ := d
  rw [isConversion, List.contains_iff_mem] at hd
  fin_cases hd <;> rfl

/-- The directives `ws` take up the values one after the other, each with a value that it can
write. -/
inductive Fits : List Value → List (List Char) → Prop
  | nil : Fits [] []
  | cons {values rest : List Value} {v : Value} {w : List Char} {d : Directive}
      {ws : List (List Char)} (takes : Takes values w d (v :: rest))
      (letter : isConversion d.letter = true) (place : ∃ index codes, place d index v = .ok codes)
      (h : Fits rest ws) : Fits values (w :: ws)

/-- A text that is filled by values in order is spelled, and the values fit its directives. -/
theorem Composed.exists_fits {supply : Supply} {s : List Char} {parts : List Part}
    (h : Composed supply s parts) (hentries : supply.entries = none) :
    ∃ ws, Spelled s ws ∧ Fits supply.pending ws := by
  induction h with
  | nil h =>
    rw [h.resolve_right (not_not_intro hentries)]
    exact ⟨[], .nil, .nil⟩
  | plain hc _ ih =>
    obtain ⟨ws, hspelled, hfits⟩ := ih hentries
    exact ⟨ws, .plain hc hspelled, hfits⟩
  | percent _ ih =>
    obtain ⟨ws, hspelled, hfits⟩ := ih hentries
    exact ⟨ws, .percent hspelled, hfits⟩
  | @directive supply supply₁ supply₂ d v index s rest codes parts _ take next place _ ih =>
    obtain ⟨values, entries⟩ := supply
    obtain rfl : entries = none := hentries
    have hletter := isConversion_of_place place
    obtain ⟨w, rfl, hw, hentries₁, -, htakes⟩ := exists_takes take hletter
    obtain ⟨hpending, hentries₂⟩ := next_eq_ok_iff.1 next
    obtain ⟨ws, hspelled, hfits⟩ := ih (hentries₂ ▸ hentries₁)
    rw [hpending] at htakes
    exact ⟨w :: ws, .directive hw hspelled, .cons htakes hletter ⟨index, codes, place⟩ hfits⟩

/-- A spelled text is filled by values that fit its directives. -/
theorem exists_renderFrom_of_fits {s : List Char} {ws : List (List Char)} (hs : Spelled s ws)
    {values : List Value} (h : Fits values ws) (size : Nat) {fuel : Nat} (hfuel : s.length ≤ fuel) :
    ∃ m, renderFrom size fuel ⟨values, none⟩ s = .ok m := by
  obtain ⟨n, rfl⟩ := Nat.exists_eq_add_of_le hfuel
  clear hfuel
  induction hs generalizing values n with
  | nil =>
    cases h
    exact ⟨[], by simp [renderFrom_nil]⟩
  | @plain c s ws hc _ ih =>
    obtain ⟨m, hm⟩ := ih h n
    refine ⟨.char c :: m, ?_⟩
    rw [List.length_cons, Nat.add_right_comm, renderFrom_plain hc, hm]
    rfl
  | @percent s ws _ ih =>
    obtain ⟨m, hm⟩ := ih h (n + 1)
    refine ⟨.char '%' :: m, ?_⟩
    rw [List.length_cons, List.length_cons, Nat.add_right_comm, renderFrom, Nat.add_assoc,
      Nat.add_comm 1, hm]
    rfl
  | @directive w s ws hw _ ih =>
    cases h with
    | @cons _ rest v _ d _ takes hletter hplace h =>
      obtain ⟨m, hm⟩ := ih h (w.length + n)
      obtain ⟨index, codes, hcodes⟩ := hplace
      have hhead : (w ++ s).head? ≠ some '%' := by
        have hpercent := hw.percent_notMem
        obtain ⟨c, w, rfl⟩ := List.exists_cons_of_ne_nil hw.ne_nil
        simpa [eq_comm] using fun h : '%' = c => hpercent (h ▸ List.mem_cons_self ..)
      refine ⟨codes ++ m, ?_⟩
      rw [List.length_cons, List.length_append, Nat.add_right_comm, renderFrom_directive hhead,
        takes s, Nat.add_comm w.length, Nat.add_assoc]
      simp [Supply.next, place_congr hletter _ index, hcodes, hm, bind, Except.bind, pure,
        Except.pure]

/-- The number of values that directives take up. -/
def demand : List (List Char) → Nat
  | [] => 0
  | w :: ws => w.count '*' + 1 + demand ws

theorem Takes.length_eq {values values' : List Value} {w : List Char} {d : Directive}
    (h : Takes values w d values') (hd : isConversion d.letter = true) :
    values.length = values'.length + w.count '*' := by
  obtain ⟨w', hw, -, -, hlength, -⟩ := exists_takes (h []) hd
  rwa [← List.append_cancel_right hw] at hlength

theorem Fits.length_eq {values : List Value} {ws : List (List Char)} (h : Fits values ws) :
    values.length = demand ws := by
  induction h with
  | nil => rfl
  | cons takes letter _ _ ih =>
    have hlength := takes.length_eq letter
    rw [List.length_cons] at hlength
    rw [demand]
    omega

/-- Fewer directives take up fewer values. -/
theorem demand_of_sublist {ws ws' : List (List Char)} (h : ws'.Sublist ws) :
    demand ws' ≤ demand ws ∧ (demand ws' = demand ws → ws' = ws) := by
  induction h with
  | slnil => exact ⟨le_rfl, fun _ => rfl⟩
  | cons w _ ih =>
    rw [demand]
    exact ⟨by omega, fun h => by omega⟩
  | cons_cons w _ ih =>
    rw [demand, demand]
    exact ⟨by omega, fun h => by rw [ih.2 (by omega)]⟩

/-- **Values in order fill a template exactly when they fit its directives.** -/
theorem exists_render_iff {template : String} {values : List Value} (hne : values ≠ []) :
    (∃ m, render template (.positional values) = .ok m) ↔
      ∃ ws, Spelled template.toList ws ∧ Fits values ws := by
  have hne' : Arguments.positional values ≠ .positional [] :=
    fun h => hne (Arguments.positional.inj h)
  constructor
  · rintro ⟨m, hm⟩
    obtain ⟨parts, hparts, -⟩ := exists_isComposed hm
    exact (composed_of_ne hne' hparts).exists_fits rfl
  · rintro ⟨ws, hspelled, hfits⟩
    rw [render_of_ne hne']
    exact exists_renderFrom_of_fits hspelled hfits template.toList.length le_rfl

end StorageReply.Template

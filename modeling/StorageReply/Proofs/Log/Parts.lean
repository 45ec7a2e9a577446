import StorageReply.Proofs.Log.Directives

/-!
# The parts of a filled template

A filled template is its parts one after the other: stretches of the template between directives, in
which a percent sign written twice stands for one, and what each directive has made of a value. A
directive may make half of a surrogate pair, which has a null character for its text.

* `Composed supply s parts` says that the text `s` is filled with these parts, and
  `exists_isComposed` that every filled template is made of parts.
* The first part is the stretch up to the first directive (`Composed.exists_cons`), read off the
  template by `lead`.
* A directive leaves an end of the template, and with values in order an end of the values
  (`takeDirective_spec`). So every stretch is the beginning of an end of the template
  (`Composed.exists_suffix_of_mem`), and every value in a part is one of the values in order
  (`Composed.mem_pending`).
-/

namespace StorageReply.Template

/-- A part of a filled template. -/
inductive Part
  /-- A stretch of the template, perhaps empty. -/
  | stretch (text : List Char)
  /-- What a directive has made of a value. -/
  | filled (directive : Directive) (value : Value) (codes : List CodePoint)

/-- The text of a part. -/
def Part.text : Part → List Char
  | .stretch s => s
  | .filled _ _ codes => CodePoint.shade codes

/-- A text is filled from the arguments with the given parts. The parts begin with a stretch, and
every directive has a stretch behind it. -/
inductive Composed : Supply → List Char → List Part → Prop
  | nil {supply : Supply} (h : supply.pending = [] ∨ supply.entries ≠ none) :
      Composed supply [] [.stretch []]
  | plain {supply : Supply} {c : Char} {s u : List Char} {parts : List Part} (hc : c ≠ '%')
      (h : Composed supply s (.stretch u :: parts)) :
      Composed supply (c :: s) (.stretch (c :: u) :: parts)
  | percent {supply : Supply} {s u : List Char} {parts : List Part}
      (h : Composed supply s (.stretch u :: parts)) :
      Composed supply ('%' :: '%' :: s) (.stretch ('%' :: u) :: parts)
  | directive {supply supply₁ supply₂ : Supply} {d : Directive} {v : Value} {index : Nat}
      {s rest : List Char} {codes : List CodePoint} {parts : List Part} (hs : s.head? ≠ some '%')
      (take : takeDirective supply s = .ok (d, supply₁, rest))
      (next : supply₁.next = .ok (v, supply₂)) (place : place d index v = .ok codes)
      (h : Composed supply₂ rest parts) :
      Composed supply ('%' :: s) (.stretch [] :: .filled d v codes :: parts)

/-- A template is filled with the given parts. A template without arguments stands for itself. -/
def IsComposed (template : String) (arguments : Arguments) (parts : List Part) : Prop :=
  match arguments with
  | .positional [] => parts = [.stretch template.toList]
  | arguments => Composed (.ofArguments arguments) template.toList parts

/-- The stretch of a template in front of its first directive. -/
def lead : List Char → List Char
  | '%' :: '%' :: s => '%' :: lead s
  | '%' :: _ => []
  | c :: s => c :: lead s
  | [] => []

@[simp] theorem lead_nil : lead [] = [] := by
  simp [lead]

theorem lead_percent (s : List Char) : lead ('%' :: '%' :: s) = '%' :: lead s := by
  rw [lead]

theorem lead_directive {s : List Char} (h : s.head? ≠ some '%') : lead ('%' :: s) = [] := by
  rw [lead]
  rintro rest rfl
  exact h rfl

theorem lead_plain {c : Char} (hc : c ≠ '%') (s : List Char) : lead (c :: s) = c :: lead s := by
  rw [lead]
  · rintro rest rfl -
    exact hc rfl
  · exact hc

/-- The first part is the stretch in front of the first directive. -/
theorem Composed.exists_cons {supply : Supply} {s : List Char} {parts : List Part}
    (h : Composed supply s parts) : ∃ rest, parts = .stretch (lead s) :: rest := by
  induction h with
  | nil => exact ⟨[], by rw [lead_nil]⟩
  | plain hc _ ih =>
    obtain ⟨rest, h⟩ := ih
    rw [List.cons.injEq, Part.stretch.injEq] at h
    exact ⟨rest, by rw [lead_plain hc, h.1, h.2]⟩
  | percent _ ih =>
    obtain ⟨rest, h⟩ := ih
    rw [List.cons.injEq, Part.stretch.injEq] at h
    exact ⟨rest, by rw [lead_percent, h.1, h.2]⟩
  | directive hs => exact ⟨_, by rw [lead_directive hs]⟩

/-! ## Every filled template has parts -/

theorem renderFrom_nil (size fuel : Nat) (supply : Supply) :
    renderFrom size fuel supply [] =
      if supply.pending.isEmpty || supply.entries.isSome then .ok [] else .error .wrongKind := by
  cases fuel <;> rfl

theorem renderFrom_plain {c : Char} (hc : c ≠ '%') (size fuel : Nat) (supply : Supply)
    (rest : List Char) : renderFrom size (fuel + 1) supply (c :: rest) = do
      return .char c :: (← renderFrom size fuel supply rest) := by
  rw [renderFrom]
  · rintro rest' rfl -
    exact hc rfl
  · exact hc

theorem renderFrom_directive {s : List Char} (h : s.head? ≠ some '%') (size fuel : Nat)
    (supply : Supply) : renderFrom size (fuel + 1) supply ('%' :: s) = do
      let (d, supply, rest) ← takeDirective supply s
      let (v, supply) ← supply.next
      let text ← place d (size - rest.length - 1) v
      return text ++ (← renderFrom size fuel supply rest) := by
  rw [renderFrom]
  rintro rest rfl
  exact h rfl

theorem exists_composed {size fuel : Nat} {supply : Supply} {s : List Char} {m : List CodePoint}
    (h : renderFrom size fuel supply s = .ok m) :
    ∃ parts, Composed supply s parts ∧ CodePoint.shade m = parts.flatMap Part.text := by
  have hnil : ∀ {supply : Supply} {m : List CodePoint} {fuel : Nat},
      renderFrom size fuel supply [] = .ok m →
        ∃ parts, Composed supply [] parts ∧ CodePoint.shade m = parts.flatMap Part.text := by
    intro supply m fuel h
    rw [renderFrom_nil] at h
    split at h
    · rename_i hdone
      refine ⟨_, .nil ?_, (congrArg CodePoint.shade (Except.ok.inj h)).symm⟩
      simpa [Option.isSome_iff_ne_none] using hdone
    · simp at h
  induction fuel generalizing supply s m with
  | zero =>
    cases s with
    | nil => exact hnil h
    | cons c s => simp [renderFrom] at h
  | succ fuel ih =>
    cases s with
    | nil => exact hnil h
    | cons c s =>
      by_cases hc : c = '%'
      · subst hc
        by_cases hs : s.head? = some '%'
        · obtain ⟨rest, rfl⟩ := List.head?_eq_some_iff.1 hs
          obtain ⟨m', hm', hm⟩ := bind_eq_ok_iff.1 h
          obtain ⟨parts, hparts, htext⟩ := ih hm'
          obtain ⟨parts, rfl⟩ := hparts.exists_cons
          obtain rfl := Except.ok.inj hm
          exact ⟨_, .percent hparts, congrArg ('%' :: ·) htext⟩
        · rw [renderFrom_directive hs] at h
          obtain ⟨⟨d, supply₁, rest⟩, htake, h⟩ := bind_eq_ok_iff.1 h
          obtain ⟨⟨v, supply₂⟩, hnext, h⟩ := bind_eq_ok_iff.1 h
          obtain ⟨codes, hcodes, h⟩ := bind_eq_ok_iff.1 h
          obtain ⟨m', hm', hm⟩ := bind_eq_ok_iff.1 h
          obtain ⟨parts, hparts, htext⟩ := ih hm'
          obtain rfl := Except.ok.inj hm
          refine ⟨_, .directive hs htake hnext hcodes hparts, ?_⟩
          rw [CodePoint.shade_append, htext]
          rfl
      · rw [renderFrom_plain hc] at h
        obtain ⟨m', hm', hm⟩ := bind_eq_ok_iff.1 h
        obtain ⟨parts, hparts, htext⟩ := ih hm'
        obtain ⟨parts, rfl⟩ := hparts.exists_cons
        obtain rfl := Except.ok.inj hm
        exact ⟨_, .plain hc hparts, congrArg (c :: ·) htext⟩

theorem render_of_ne {arguments : Arguments} (h : arguments ≠ .positional []) (template : String) :
    render template arguments = renderFrom template.toList.length template.toList.length
      (.ofArguments arguments) template.toList := by
  unfold render
  split
  · exact absurd rfl h
  · rfl

/-- **A filled template is its parts one after the other.** -/
theorem exists_isComposed {template : String} {m : List CodePoint} {arguments : Arguments}
    (h : render template arguments = .ok m) :
    ∃ parts, IsComposed template arguments parts ∧ CodePoint.shade m = parts.flatMap Part.text := by
  unfold IsComposed
  split
  · obtain rfl := Except.ok.inj h
    exact ⟨_, rfl, by simp [Part.text, CodePoint.ofText]⟩
  · rename_i hne
    rw [render_of_ne hne] at h
    exact exists_composed h

theorem composed_of_ne {template : String} {arguments : Arguments} {parts : List Part}
    (hne : arguments ≠ .positional []) (h : IsComposed template arguments parts) :
    Composed (.ofArguments arguments) template.toList parts := by
  unfold IsComposed at h
  split at h
  · exact absurd rfl hne
  · exact h

/-! ## What a directive leaves -/

theorem spanKey?_suffix {depth : Nat} {s key rest : List Char}
    (h : spanKey? depth s = some (key, rest)) : rest <:+ s := by
  induction s generalizing depth key with
  | nil => simp [spanKey?] at h
  | cons c s ih =>
    have hlater : ∀ {n : Nat} {f : List Char × List Char → List Char × List Char},
        (spanKey? n s).map f = some (key, rest) → (∀ found, (f found).2 = found.2) →
          rest <:+ c :: s := by
      intro n f h hf
      obtain ⟨found, h', hrest⟩ := Option.map_eq_some_iff.1 h
      obtain rfl : found.2 = rest := by rw [← hf, hrest]
      exact (ih h').trans (List.suffix_cons ..)
    unfold spanKey? at h
    split at h
    · split at h
      · simp only [Option.some.injEq, Prod.mk.injEq] at h
        obtain ⟨-, rfl⟩ := h
        exact List.suffix_cons ..
      · exact hlater h fun _ => rfl
    · exact hlater h fun _ => rfl

theorem takeKey_spec {supply supply' : Supply} {s rest : List Char}
    (h : takeKey supply s = .ok (supply', rest)) :
    rest <:+ s ∧ supply'.entries = supply.entries ∧ (supply.entries = none → supply' = supply) := by
  by_cases hs : s.head? = some '('
  · obtain ⟨t, rfl⟩ := List.head?_eq_some_iff.1 hs
    rw [takeKey] at h
    cases hentries : supply.entries with
    | none => simp [hentries] at h
    | some entries =>
      rw [hentries] at h
      cases hkey : spanKey? 0 t with
      | none => simp [hkey] at h
      | some found =>
        obtain ⟨key, t'⟩ := found
        simp only [hkey] at h
        obtain ⟨supply₁, hkeyed, h⟩ := bind_eq_ok_iff.1 h
        obtain ⟨rfl, rfl⟩ := Prod.mk.inj (Except.ok.inj h)
        refine ⟨(spanKey?_suffix hkey).trans (List.suffix_cons ..), ?_, fun h => by simp at h⟩
        simp only [keyed, hentries] at hkeyed
        split at hkeyed
        · rw [← Except.ok.inj hkeyed]
        · simp at hkeyed
  · rw [takeKey_of_head hs] at h
    obtain ⟨rfl, rfl⟩ := Prod.mk.inj (Except.ok.inj h)
    exact ⟨List.suffix_rfl, rfl, fun _ => rfl⟩

theorem next_pending_suffix {supply supply' : Supply} {v : Value}
    (h : supply.next = .ok (v, supply')) : supply'.pending <:+ supply.pending :=
  (next_eq_ok_iff.1 h).1 ▸ List.suffix_cons ..

/-- A directive leaves an end of the text and the map of arguments; of values in order it leaves an
end as well. -/
theorem takeDirective_spec {supply supply' : Supply} {d : Directive} {s rest : List Char}
    (h : takeDirective supply s = .ok (d, supply', rest)) :
    rest <:+ s ∧ supply'.entries = supply.entries ∧
      (supply.entries = none → supply'.pending <:+ supply.pending) := by
  obtain ⟨supply₀, s₀, flags, s₁, supply₂, s₂, s₃, hkey, hflags, hwidth, hprecision, hsize⟩ :=
    takeDirective_eq_ok_iff.1 h
  obtain ⟨hs₀, hentries₀, hsupply₀⟩ := takeKey_spec hkey
  obtain ⟨w₁, hs₁, -, -⟩ := exists_reads_spanFlags {} s₀
  obtain ⟨w₂, hs₂, hentries₂, -, -⟩ := exists_reads_takeWidth hwidth
  obtain ⟨w₃, hs₃, hentries₃, -, -⟩ := exists_reads_takePrecision hprecision
  obtain ⟨w₄, hs₄, -, -, -⟩ := exists_skipSize hsize
  rw [hflags] at hs₁
  refine ⟨?_, by rw [hentries₃, hentries₂, hentries₀], fun hnone => ?_⟩
  · have hrest : rest <:+ s₃ := ⟨w₄ ++ [d.letter], by rw [hs₄]; simp⟩
    exact hrest.trans (.trans ⟨w₃, hs₃.symm⟩ (.trans ⟨w₂, hs₂.symm⟩ (.trans ⟨w₁, hs₁.symm⟩ hs₀)))
  · have hwidth' : supply₂.pending <:+ supply₀.pending := by
      obtain ⟨v, i, -, hnext, -⟩ | ⟨-, -, -, rfl⟩ := takeWidth_eq_ok_iff.1 hwidth
      · exact next_pending_suffix hnext
      · exact List.suffix_rfl
    have hprecision' : supply'.pending <:+ supply₂.pending := by
      obtain ⟨v, i, -, hnext, -⟩ | ⟨-, -, -, -, -, -, rfl⟩ | ⟨-, -, rfl, -⟩ :=
        takePrecision_eq_ok_iff.1 hprecision
      · exact next_pending_suffix hnext
      · exact List.suffix_rfl
      · exact List.suffix_rfl
    rw [← hsupply₀ hnone]
    exact hprecision'.trans hwidth'

/-! ## Where the parts come from -/

/-- Every stretch is the beginning of an end of the template. -/
theorem Composed.exists_suffix_of_mem {supply : Supply} {s u : List Char} {parts : List Part}
    (h : Composed supply s parts) (hu : .stretch u ∈ parts) : ∃ s', s' <:+ s ∧ u = lead s' := by
  induction h with
  | nil =>
    obtain rfl := Part.stretch.inj (List.mem_singleton.1 hu)
    exact ⟨[], List.suffix_rfl, lead_nil.symm⟩
  | @plain supply c s u' parts hc h ih =>
    rcases List.mem_cons.1 hu with hu | hu
    · obtain ⟨rest, hrest⟩ := (Composed.plain hc h).exists_cons
      exact ⟨c :: s, List.suffix_rfl, Part.stretch.inj (hu.trans (List.cons.inj hrest).1)⟩
    · obtain ⟨s', hs', rfl⟩ := ih (List.mem_cons_of_mem _ hu)
      exact ⟨s', hs'.trans (List.suffix_cons ..), rfl⟩
  | @percent supply s u' parts h ih =>
    rcases List.mem_cons.1 hu with hu | hu
    · obtain ⟨rest, hrest⟩ := (Composed.percent h).exists_cons
      exact ⟨'%' :: '%' :: s, List.suffix_rfl,
        Part.stretch.inj (hu.trans (List.cons.inj hrest).1)⟩
    · obtain ⟨s', hs', rfl⟩ := ih (List.mem_cons_of_mem _ hu)
      exact ⟨s', hs'.trans ((List.suffix_cons ..).trans (List.suffix_cons ..)), rfl⟩
  | @directive supply supply₁ supply₂ d v index s rest codes parts hs take next place h ih =>
    rcases List.mem_cons.1 hu with hu | hu
    · exact ⟨'%' :: s, List.suffix_rfl, (Part.stretch.inj hu).trans (lead_directive hs).symm⟩
    · obtain ⟨s', hs', rfl⟩ := ih (by simpa using hu)
      exact ⟨s', hs'.trans ((takeDirective_spec take).1.trans (List.suffix_cons ..)), rfl⟩

/-- Every value that fills a part is among the values in order. -/
theorem Composed.mem_pending {supply : Supply} {s : List Char} {codes : List CodePoint}
    {parts : List Part} {d : Directive} {v : Value} (h : Composed supply s parts)
    (hentries : supply.entries = none) (hv : .filled d v codes ∈ parts) : v ∈ supply.pending := by
  induction h with
  | nil => simp at hv
  | plain _ _ ih => exact ih hentries (by simpa using hv)
  | percent _ ih => exact ih hentries (by simpa using hv)
  | directive _ take next _ _ ih =>
    obtain ⟨-, hentries₁, hsuffix⟩ := takeDirective_spec take
    obtain ⟨hpending, hentries₂⟩ := next_eq_ok_iff.1 next
    refine (hsuffix hentries).mem (hpending ▸ ?_)
    simp only [List.mem_cons, reduceCtorEq, false_or, Part.filled.injEq] at hv
    rcases hv with ⟨-, rfl, -⟩ | hv
    · exact List.mem_cons_self ..
    · exact List.mem_cons_of_mem _ (ih (by rw [← hentries₂, hentries₁, hentries]) hv)

end StorageReply.Template

import StorageReply.Proofs.Json.Strings
import StorageReply.Proofs.Number.Shortest
import StorageReply.Proofs.Text.Blanks

/-!
# Numbers that are read back

The text of a number is read back as the number, when it stands where a list or a map goes on
(`Closed`): the numeral of an integer (`scalar?_numeral`) and the text of a floating-point number of
the format (`scalar?_floatText`), which stands for the same decimal in each of its shapes
(`unsigned?_text`): with a point in it, with zeros after it, or with an exponent.
-/

namespace StorageReply.Json

open Number Text

/-- Whether a text is at its end or goes on as after a member of a list or a map. -/
def Closed (rest : List Char) : Prop := ∀ c ∈ rest.head?, c = ',' ∨ c = ']' ∨ c = '\x7d'

/-! ## Digits -/

theorem digitsValue_eq (s : List Char) : digitsValue s = Nat.ofDigitChars 10 s 0 := ofDigits_map s

/-- The digits at the start of a text. -/
theorem spanDigits_append {s rest : List Char} (hs : ∀ c ∈ s, c.isDigit = true)
    (hrest : ∀ c ∈ rest.head?, c.isDigit = false) : spanDigits (s ++ rest) = (s, rest) :=
  Prod.ext (takeWhile_append_of_all hs hrest) (dropWhile_append_of_all hs hrest)

/-- The numeral of a positive number does not begin with zero. -/
theorem head?_naturalNumeral {n : Nat} (hn : 0 < n) : (naturalNumeral n).head? ≠ some '0' := by
  induction n using Nat.strongRecOn with
  | ind n ih =>
    rcases Nat.lt_or_ge n 10 with hlt | hge
    · rw [naturalNumeral, Nat.toDigits_of_lt_base hlt]
      intro h
      have hdigit : ∀ d < 10, 0 < d → d.digitChar ≠ '0' := by decide
      exact hdigit n hlt hn (Option.some.inj h)
    · rw [naturalNumeral, Nat.toDigits_of_base_le (by decide : 1 < 10) hge,
        List.head?_append_of_ne_nil _ Nat.toDigits_ne_nil]
      exact ih (n / 10) (by omega) (by omega)

/-! ## The parts of a number -/

/-- Whether digits can stand before a point: zero stands alone. -/
structure IsWhole (whole : List Char) : Prop where
  /-- There are only digits. -/
  digits : ∀ c ∈ whole, c.isDigit = true
  /-- There is a digit. -/
  ne_nil : whole ≠ []
  /-- No digit follows a zero at the start. -/
  head : whole = ['0'] ∨ whole.head? ≠ some '0'

theorem IsWhole.exists_head_append {whole : List Char} (h : IsWhole whole) (s : List Char) :
    ∃ c ∈ (whole ++ s).head?, c.isDigit = true := by
  cases whole with
  | nil => exact absurd rfl h.ne_nil
  | cons c whole => exact ⟨c, rfl, h.digits c (List.mem_cons_self ..)⟩

/-- The part of a number from its point. -/
def pointText (part : List Char) : List Char := if part = [] then [] else '.' :: part

/-- The part of a number from its exponent. -/
def powerText : Option Int → List Char
  | none => []
  | some e => 'e' :: exponentText e

/-- What a number is read as once the digits before its point are known. -/
theorem unsigned?_append {whole s : List Char} (h : IsWhole whole)
    (hs : ∀ c ∈ s.head?, c.isDigit = false) (limit : Nat) (negative : Bool) :
    unsigned? limit negative (whole ++ s) =
      if (fraction s).1.isEmpty && (exponent (fraction s).2).1.isNone then
        if whole.length ≤ limit then
          .ok (.int (if negative then -(digitsValue whole : Int) else digitsValue whole), s)
        else .error (.longNumeral whole.length)
      else
        .ok (.float (Binary64.ofDecimal negative (digitsValue (whole ++ (fraction s).1))
          ((exponent (fraction s).2).1.getD 0 - (fraction s).1.length)),
          (exponent (fraction s).2).2) := by
  -- a zero at the start is taken alone, other digits together
  rcases h.head with rfl | hzero
  · rfl
  · have hempty : whole.isEmpty = false := by simpa using h.ne_nil
    unfold unsigned?
    split
    rename_i whole' rest heq
    split at heq
    · rename_i tail hstart
      cases whole with
      | nil => exact absurd rfl h.ne_nil
      | cons c whole =>
        obtain ⟨rfl, -⟩ := List.cons.inj hstart
        exact absurd rfl hzero
    · rw [spanDigits_append h.digits hs] at heq
      obtain ⟨rfl, rfl⟩ := Prod.mk.inj heq
      rw [if_neg (by simp [hempty])]

section

variable {rest : List Char} (hrest : Closed rest)

include hrest

theorem Closed.isDigit {c : Char} (hc : c ∈ rest.head?) : c.isDigit = false := by
  rcases hrest c hc with rfl | rfl | rfl <;> rfl

theorem isDigit_of_mem_head?_powerText {power : Option Int} {c : Char}
    (hc : c ∈ (powerText power ++ rest).head?) : c.isDigit = false := by
  cases power with
  | none => exact hrest.isDigit hc
  | some e =>
    obtain rfl : 'e' = c := Option.some.inj hc
    rfl

theorem isDigit_of_mem_head?_pointText {part : List Char} {power : Option Int} {c : Char}
    (hc : c ∈ (pointText part ++ (powerText power ++ rest)).head?) : c.isDigit = false := by
  unfold pointText at hc
  split at hc
  · exact isDigit_of_mem_head?_powerText hrest hc
  · obtain rfl : '.' = c := Option.some.inj hc
    rfl

/-- The fraction of a number. -/
theorem fraction_append {part : List Char} (h : ∀ c ∈ part, c.isDigit = true) (power : Option Int) :
    fraction (pointText part ++ (powerText power ++ rest)) = (part, powerText power ++ rest) := by
  by_cases hpart : part = []
  · have hpoint : (powerText power ++ rest).head? ≠ some '.' := by
      cases power with
      | none => exact fun hc => by rcases hrest '.' hc with h | h | h <;> cases h
      | some e => exact fun hc => by cases hc
    subst hpart
    unfold fraction
    split
    · rename_i tail heq
      exact absurd (congrArg List.head? heq) hpoint
    · rfl
  · simp only [pointText, if_neg hpart, List.cons_append, fraction,
      spanDigits_append h fun _ => isDigit_of_mem_head?_powerText hrest, List.isEmpty_iff]

/-- The exponent of a number. -/
theorem exponent_append (power : Option Int) :
    exponent (powerText power ++ rest) = (power, rest) := by
  cases power with
  | none =>
    cases rest with
    | nil => rfl
    | cons c rest =>
      rcases hrest c rfl with rfl | rfl | rfl <;> rfl
  | some e =>
    have hsign : splitSign (exponentText e ++ rest) =
        (decide (e < 0), (padded 2 e.natAbs).toList ++ rest) := by
      by_cases hneg : e < 0 <;> simp [exponentText, hneg, splitSign]
    have hspan := spanDigits_append (s := (padded 2 e.natAbs).toList)
      (fun _ => isDigit_of_mem_padded) fun _ => hrest.isDigit
    have hvalue : (if e < 0 then -(e.natAbs : Int) else e.natAbs) = e := by
      split <;> omega
    simp only [powerText, List.cons_append, exponent, hsign, hspan, List.isEmpty_iff,
      padded_ne_nil, digitsValue_eq, ofDigitChars_padded, decide_eq_true_eq, hvalue,
      beq_self_eq_true, Bool.true_or, if_true, if_false]

/-- A number without its sign, from its parts. -/
theorem unsigned?_parts {whole part : List Char} (power : Option Int) (hwhole : IsWhole whole)
    (hpart : ∀ c ∈ part, c.isDigit = true) (hfloat : part ≠ [] ∨ power ≠ none) (limit : Nat)
    (negative : Bool) :
    unsigned? limit negative (whole ++ (pointText part ++ (powerText power ++ rest))) =
      .ok (.float (Binary64.ofDecimal negative (digitsValue (whole ++ part))
        (power.getD 0 - part.length)), rest) := by
  have hparts : (part.isEmpty && power.isNone) = false := by
    rcases hfloat with h | h
    · simp [h]
    · simp [Option.ne_none_iff_isSome.1 h]
  rw [unsigned?_append hwhole fun _ => isDigit_of_mem_head?_pointText hrest,
    fraction_append hrest hpart, exponent_append hrest, hparts]
  rfl

/-- An integer without its sign. -/
theorem unsigned?_whole {limit : Nat} {whole : List Char} (hwhole : IsWhole whole)
    (hlimit : whole.length ≤ limit) (negative : Bool) :
    unsigned? limit negative (whole ++ rest) =
      .ok (.int (if negative then -(digitsValue whole : Int) else digitsValue whole), rest) := by
  have hfraction : fraction rest = ([], rest) :=
    fraction_append hrest (List.forall_mem_nil _) none
  have hexponent : exponent rest = (none, rest) := exponent_append hrest none
  rw [unsigned?_append hwhole fun _ => hrest.isDigit, hfraction, hexponent]
  exact if_pos hlimit

end

/-! ## Decimals -/

theorem isWhole_naturalNumeral (n : Nat) : IsWhole (naturalNumeral n) where
  digits _ := isDigit_of_mem_naturalNumeral
  ne_nil := Nat.toDigits_ne_nil
  head := by
    rcases Nat.eq_zero_or_pos n with rfl | hn
    · exact .inl rfl
    · exact .inr (head?_naturalNumeral hn)

theorem digitsValue_naturalNumeral (n : Nat) : digitsValue (naturalNumeral n) = n :=
  (digitsValue_eq _).trans Nat.ofDigitChars_ten_toDigits

theorem digitsValue_append_zeros (s : List Char) (k : Nat) :
    digitsValue (s ++ List.replicate k '0') = digitsValue s * 10 ^ k := by
  rw [digitsValue_eq, digitsValue_eq, Nat.ofDigitChars_append, Nat.ofDigitChars_replicate_zero,
    Nat.mul_comm]

theorem isDigit_of_mem_zero : ∀ c ∈ ['0'], c.isDigit = true :=
  List.forall_mem_singleton.2 rfl

theorem isWhole_zeros {n : Nat} (hn : 0 < n) (k : Nat) :
    IsWhole (naturalNumeral n ++ List.replicate k '0') where
  digits c hc := by
    rcases List.mem_append.1 hc with hc | hc
    · exact isDigit_of_mem_naturalNumeral hc
    · rw [List.eq_of_mem_replicate hc]
      rfl
  ne_nil := List.append_ne_nil_of_left_ne_nil Nat.toDigits_ne_nil _
  head := by
    rw [List.head?_append_of_ne_nil (naturalNumeral n) Nat.toDigits_ne_nil]
    exact .inr (head?_naturalNumeral hn)

/-- The digits of a decimal on both sides of its point. -/
theorem exists_pointed {digits : Nat} (hdigits : 0 < digits) (places : Nat) :
    ∃ whole part, pointed digits places = whole ++ pointText part ∧
      IsWhole whole ∧ (∀ c ∈ part, c.isDigit = true) ∧ part.length = places ∧
      digitsValue (whole ++ part) = digits := by
  generalize htext : (padded (places + 1) digits).toList = text
  have hpadded := toList_padded (places + 1) digits
  have hall : ∀ c ∈ text, c.isDigit = true := htext ▸ fun _ => isDigit_of_mem_padded
  have hlength : places < text.length := by
    rw [← htext, hpadded, List.length_append, List.length_replicate]
    omega
  have hpart : (text.drop (text.length - places)).length = places := by
    rw [List.length_drop]
    omega
  refine ⟨text.take (text.length - places), text.drop (text.length - places), ?_,
    ⟨fun c hc => hall c (List.mem_of_mem_take hc), ?_, ?_⟩,
    fun c hc => hall c (List.mem_of_mem_drop hc), hpart, ?_⟩
  · simp only [pointed, htext, pointText, ← List.length_eq_zero_iff, hpart]
    split <;> simp
  · refine List.ne_nil_of_length_pos ?_
    rw [List.length_take]
    omega
  · -- a numeral that does not reach the point is filled with zeros up to one in front of it
    rcases Nat.lt_or_ge places (naturalNumeral digits).length with hlong | hshort
    · rw [Nat.sub_eq_zero_of_le hlong, List.replicate_zero, List.nil_append, htext] at hpadded
      rw [List.head?_take, if_neg (by omega), hpadded]
      exact .inr (head?_naturalNumeral hdigits)
    · rw [Nat.succ_sub hshort, List.replicate_succ, List.cons_append, htext] at hpadded
      have hone : text.length - places = 1 := by
        rw [hpadded, List.length_cons, List.length_append, List.length_replicate]
        omega
      rw [hone, hpadded]
      exact .inl rfl
  · rw [List.take_append_drop, digitsValue_eq, ← htext, ofDigitChars_padded]

/-- The text of a decimal begins with its digits. -/
theorem exists_head_text {d : Decimal} (hdigits : 0 < d.digits) (s : List Char) :
    ∃ c ∈ (d.text ++ s).head?, c.isDigit = true := by
  simp only [Decimal.text]
  split
  · split
    · obtain ⟨whole, part, htext, hwhole, -⟩ := exists_pointed hdigits d.exponent.natAbs
      rw [htext, List.append_assoc]
      exact hwhole.exists_head_append _
    · rw [List.append_assoc]
      exact (isWhole_zeros hdigits _).exists_head_append _
  · obtain ⟨whole, part, htext, hwhole, -⟩ := exists_pointed hdigits (digitCount d.digits - 1)
    rw [htext, List.append_assoc, List.append_assoc]
    exact hwhole.exists_head_append _

section

variable {rest : List Char} (hrest : Closed rest) (limit : Nat) (negative : Bool)

include hrest

theorem unsigned?_pointed {digits : Nat} (hdigits : 0 < digits) (places : Nat)
    (power : Option Int) (hfloat : places ≠ 0 ∨ power ≠ none) :
    unsigned? limit negative (pointed digits places ++ (powerText power ++ rest)) =
      .ok (.float (Binary64.ofDecimal negative digits (power.getD 0 - places)), rest) := by
  obtain ⟨whole, part, htext, hwhole, hpart, rfl, hvalue⟩ := exists_pointed hdigits places
  have hfloat' : part ≠ [] ∨ power ≠ none := hfloat.imp_left fun h => by simpa using h
  rw [htext, List.append_assoc, unsigned?_parts hrest power hwhole hpart hfloat', hvalue]

/-- **The text of a decimal** is read as the decimal. -/
theorem unsigned?_text {d : Decimal} (hdigits : 0 < d.digits) :
    unsigned? limit negative (d.text ++ rest) =
      .ok (.float (Binary64.ofDecimal negative d.digits d.exponent), rest) := by
  have hsize := digitCount_pos d.digits
  simp only [Decimal.text]
  split
  · split
    · rename_i hneg
      have hplaces : ((none : Option Int).getD 0 - d.exponent.natAbs : Int) = d.exponent := by
        rw [Option.getD_none]
        omega
      have hread := unsigned?_pointed hrest limit negative hdigits d.exponent.natAbs none
        (.inl (by omega))
      rwa [hplaces] at hread
    · -- the zeros on both sides of the point stand at the end of the decimal
      have hread := unsigned?_parts hrest none (isWhole_zeros hdigits d.exponent.natAbs)
        isDigit_of_mem_zero (.inl (List.cons_ne_nil _ _)) limit negative
      have hexponent : ((none : Option Int).getD 0 - (['0'] : List Char).length : Int) +
          ((d.exponent.natAbs + 1 : Nat) : Int) = d.exponent := by
        rw [Option.getD_none, List.length_singleton]
        omega
      rw [List.append_assoc _ _ ['0'], ← List.replicate_succ', digitsValue_append_zeros,
        digitsValue_naturalNumeral, Binary64.ofDecimal_mul_pow, hexponent] at hread
      rw [List.append_assoc]
      exact hread
  · have hplaces : ((some (d.exponent + digitCount d.digits - 1)).getD 0 -
        (digitCount d.digits - 1 : Nat) : Int) = d.exponent := by
      rw [Option.getD_some]
      omega
    have hread := unsigned?_pointed hrest limit negative hdigits (digitCount d.digits - 1)
      (some (d.exponent + digitCount d.digits - 1)) (.inr (by simp))
    rw [hplaces] at hread
    rwa [List.append_assoc]

end

/-! ## Numbers with a sign -/

theorem constant?_eq_none {s : List Char} (h : ∃ c ∈ s.head?, c.isDigit = true) (negative : Bool) :
    constant? (signText negative ++ s) constants = none := by
  obtain ⟨c, hc, hdigit⟩ := h
  cases s with
  | nil => cases hc
  | cons d s =>
    obtain rfl : d = c := Option.some.inj hc
    have hne : ∀ e : Char, e.isDigit = false → e ≠ d := by
      rintro e he rfl
      exact absurd hdigit (by simp [he])
    cases negative <;>
      simp [constant?, constants, signText, hne 'n', hne 't', hne 'f', hne 'N', hne 'I', hne '-']

theorem scalar?_unsigned {s : List Char} (h : ∃ c ∈ s.head?, c.isDigit = true) (limit : Nat)
    (negative : Bool) :
    scalar? limit (signText negative ++ s) = unsigned? limit negative s := by
  unfold scalar?
  rw [constant?_eq_none h]
  cases negative with
  | true => rfl
  | false =>
    obtain ⟨c, hc, hdigit⟩ := h
    simp only [signText, Bool.false_eq_true, if_false, List.nil_append]
    split
    · cases hc
      contradiction
    · rfl

/-- A number begins with a digit or a minus. -/
theorem exists_head_signed {s : List Char} (h : ∃ c ∈ s.head?, c.isDigit = true) (negative : Bool) :
    ∃ c ∈ (signText negative ++ s).head?, c.isAlphanum = true ∨ c = '-' := by
  obtain ⟨c, hc, hdigit⟩ := h
  cases negative with
  | true => exact ⟨'-', rfl, .inr rfl⟩
  | false => exact ⟨c, hc, .inl (by simp [Char.isAlphanum, hdigit])⟩

theorem toList_numeral_eq (i : Int) :
    (numeral i).toList = signText (decide (i < 0)) ++ naturalNumeral i.natAbs := by
  simp [toList_numeral, signText]

theorem exists_head_numeral (i : Int) :
    ∃ c ∈ (numeral i).toList.head?, c.isAlphanum = true ∨ c = '-' := by
  rw [toList_numeral_eq]
  exact exists_head_signed (by simpa using (isWhole_naturalNumeral _).exists_head_append []) _

theorem toList_floatText_zero (negative : Bool) (e : Int) :
    (floatText (.finite negative 0 e)).toList = signText negative ++ ['0', '.', '0'] :=
  String.toList_ofList

theorem toList_floatText {m : Nat} (hm : 0 < m) (negative : Bool) (e : Int) :
    (floatText (.finite negative m e)).toList = signText negative ++ (shortest m e).text := by
  rw [floatText, Binary64.text, String.toList_ofList]
  · rintro rfl
    exact Nat.lt_irrefl 0 hm
  · exact fun hnan => by cases hnan
  · exact fun sign hinfinite => by cases hinfinite

/-- The text of a finite number: a sign, and behind it a zero or the shortest decimal. -/
theorem exists_toList_floatText {m : Nat} {e : Int} (h : Binary64.IsNumber m e) (negative : Bool) :
    ∃ s, (floatText (.finite negative m e)).toList = signText negative ++ s ∧
      (∀ t, ∃ c ∈ (s ++ t).head?, c.isDigit = true) ∧
      ∀ limit {rest}, Closed rest →
        unsigned? limit negative (s ++ rest) = .ok (.float (.finite negative m e), rest) := by
  rcases Nat.eq_zero_or_pos m with rfl | hm
  · obtain rfl : e = -1074 := h.full.resolve_right (by decide)
    exact ⟨['0', '.', '0'], toList_floatText_zero negative _, fun _ => ⟨'0', rfl, rfl⟩,
      fun limit rest hrest => unsigned?_parts hrest none (isWhole_naturalNumeral 0)
        isDigit_of_mem_zero (.inl (List.cons_ne_nil _ _)) limit negative⟩
  · have hdigits := digits_shortest_pos h hm
    refine ⟨(shortest m e).text, toList_floatText hm negative e, exists_head_text hdigits, ?_⟩
    intro limit rest hrest
    rw [unsigned?_text hrest limit negative hdigits, ofDecimal_shortest h hm]

theorem exists_head_floatText {x : Binary64} (h : x.Representable) :
    ∃ c ∈ (floatText x).toList.head?, c.isAlphanum = true ∨ c = '-' := by
  cases x with
  | nan => exact ⟨'N', rfl, .inl rfl⟩
  | infinite negative =>
    cases negative with
    | true => exact ⟨'-', rfl, .inr rfl⟩
    | false => exact ⟨'I', rfl, .inl rfl⟩
  | finite negative m e =>
    obtain ⟨s, htext, hhead, -⟩ := exists_toList_floatText h negative
    rw [htext]
    exact exists_head_signed (by simpa using hhead []) negative

section

variable {rest : List Char} (hrest : Closed rest)

include hrest

/-- **The numeral of an integer** is read as the integer. -/
theorem scalar?_numeral {i : Int} (h : hasNumeral i = true) :
    scalar? digitLimit ((numeral i).toList ++ rest) = .ok (.int i, rest) := by
  have hwhole := isWhole_naturalNumeral i.natAbs
  have hlength : (naturalNumeral i.natAbs).length ≤ digitLimit :=
    (length_naturalNumeral_le_iff (by decide)).2 (of_decide_eq_true h)
  have hvalue : (if i < 0 then -(i.natAbs : Int) else i.natAbs) = i := by
    split <;> omega
  rw [toList_numeral_eq, List.append_assoc, scalar?_unsigned (hwhole.exists_head_append rest),
    unsigned?_whole hrest hwhole hlength, digitsValue_naturalNumeral]
  simp only [decide_eq_true_eq, hvalue]

/-- **The text of a floating-point number** is read as the number. -/
theorem scalar?_floatText {x : Binary64} (h : x.Representable) (limit : Nat) :
    scalar? limit ((floatText x).toList ++ rest) = .ok (.float x, rest) := by
  cases x with
  | nan => rfl
  | infinite negative => cases negative <;> rfl
  | finite negative m e =>
    obtain ⟨s, htext, hhead, hread⟩ := exists_toList_floatText h negative
    rw [htext, List.append_assoc, scalar?_unsigned (hhead rest), hread limit hrest]

end

/-! ## The characters of a number -/

theorem isPrintable_of_isDigit {c : Char} (h : c.isDigit = true) : IsPrintable c := by
  obtain ⟨hlow, hhigh⟩ := isDigit_iff.1 h
  exact ⟨by omega, by omega⟩

theorem isPrintable_of_mem_signText {negative : Bool} {c : Char} (h : c ∈ signText negative) :
    IsPrintable c := by
  cases negative with
  | true =>
    obtain rfl := List.mem_singleton.1 h
    decide
  | false => cases h

theorem isPrintable_of_mem_numeral {i : Int} {c : Char} (h : c ∈ (numeral i).toList) :
    IsPrintable c := by
  rcases isDigit_or_minus_of_mem_numeral h with h | rfl
  · exact isPrintable_of_isDigit h
  · decide

theorem isPrintable_of_mem_pointed {digits places : Nat} {c : Char}
    (h : c ∈ pointed digits places) : IsPrintable c := by
  have hpadded : ∀ d ∈ (padded (places + 1) digits).toList, IsPrintable d :=
    fun _ hd => isPrintable_of_isDigit (isDigit_of_mem_padded hd)
  simp only [pointed] at h
  split at h
  · exact hpadded c (List.mem_of_mem_take h)
  · rcases List.mem_append.1 h with h | h
    · exact hpadded c (List.mem_of_mem_take h)
    · rcases List.mem_cons.1 h with rfl | h
      · decide
      · exact hpadded c (List.mem_of_mem_drop h)

theorem isPrintable_of_mem_exponentText {e : Int} {c : Char} (h : c ∈ exponentText e) :
    IsPrintable c := by
  rcases List.mem_cons.1 h with rfl | h
  · split <;> decide
  · exact isPrintable_of_isDigit (isDigit_of_mem_padded h)

theorem isPrintable_of_mem_text {d : Decimal} {c : Char} (h : c ∈ d.text) : IsPrintable c := by
  simp only [Decimal.text] at h
  split at h
  · split at h
    · exact isPrintable_of_mem_pointed h
    · simp only [List.mem_append, List.mem_cons, List.not_mem_nil, or_false] at h
      rcases h with (h | h) | rfl | rfl
      · exact isPrintable_of_isDigit (isDigit_of_mem_naturalNumeral h)
      · rw [List.eq_of_mem_replicate h]
        decide
      · decide
      · decide
  · rcases List.mem_append.1 h with h | h
    · exact isPrintable_of_mem_pointed h
    · rcases List.mem_cons.1 h with rfl | h
      · decide
      · exact isPrintable_of_mem_exponentText h

theorem isPrintable_of_mem_floatText {x : Binary64} {c : Char} (h : c ∈ (floatText x).toList) :
    IsPrintable c := by
  have hname : ∀ s : List Char, (∀ d ∈ s, IsPrintable d) → (floatText x).toList = s →
      IsPrintable c := by
    rintro s hs rfl
    exact hs c h
  cases x with
  | nan => exact hname _ (isPrintable_of_all rfl) rfl
  | infinite negative => cases negative <;> exact hname _ (isPrintable_of_all rfl) rfl
  | finite negative m e =>
    rcases Nat.eq_zero_or_pos m with rfl | hm
    · rw [toList_floatText_zero] at h
      rcases List.mem_append.1 h with h | h
      · exact isPrintable_of_mem_signText h
      · exact isPrintable_of_all (s := ['0', '.', '0']) rfl c h
    · rw [toList_floatText hm] at h
      rcases List.mem_append.1 h with h | h
      · exact isPrintable_of_mem_signText h
      · exact isPrintable_of_mem_text h

end StorageReply.Json

import Mathlib.Data.Option.Basic
import StorageReply.Number.Numeral
import StorageReply.Proofs.Text.Blanks

/-!
# Numerals and the integers they denote

A numeral that is written denotes the integer it was written for, and an integer that was read has
a numeral within the limit on digits.

* `isDigit_or_minus_of_mem_numeral`: a numeral consists of digits and a minus.
* `integer?_numeral`: reading the numeral of an integer gives the integer.
* `integer?_padded`: so does reading a numeral of a given width, with zeros before the number.
* `hasNumeral_of_integer?`: an integer that was read has a numeral.
-/

namespace StorageReply.Number

open Text

/-! ## Digits -/

theorem isDigit_iff {c : Char} : c.isDigit = true ↔ 48 ≤ c.toNat ∧ c.toNat ≤ 57 := by
  simp [Char.isDigit, UInt32.le_iff_toNat_le]

theorem isBlank_of_isDigit {c : Char} (h : c.isDigit = true) : isBlank c = false := by
  obtain ⟨hlow, hhigh⟩ := isDigit_iff.1 h
  simp only [isBlank, blankRanges, inRanges]
  grind

theorem decimalValue?_of_isDigit {c : Char} (h : c.isDigit = true) :
    decimalValue? c = some (c.toNat - 48) := by
  obtain ⟨hlow, hhigh⟩ := isDigit_iff.1 h
  have hnot : ¬c.toNat < 48 := by omega
  have hlt : c.toNat < 48 + 10 := by omega
  simp [decimalValue?, decimalZeros, decimalValueIn?, hnot, hlt]

theorem groupedDigits?_of_isDigit {s : List Char} (hne : s ≠ [])
    (h : ∀ c ∈ s, c.isDigit = true) :
    groupedDigits? s = some (s.map fun c => c.toNat - 48) := by
  fun_induction groupedDigits? s with
  | case1 => exact absurd rfl hne
  | case2 c => simp [decimalValue?_of_isDigit (h c (by simp))]
  | case3 c rest ih => exact absurd (h '_' (by simp)) (by decide)
  | case4 c d rest _ ih =>
    have hd := ih (by simp) fun e he => h e (List.mem_cons_of_mem _ he)
    simp [decimalValue?_of_isDigit (h c (by simp)), hd]

theorem ofDigits_map (s : List Char) :
    ofDigits (s.map fun c => c.toNat - 48) = Nat.ofDigitChars 10 s 0 := by
  rw [ofDigits, List.foldl_map, Nat.ofDigitChars_eq_foldl]
  rfl

theorem ofDigits_lt {digits : List Nat} (h : ∀ d ∈ digits, d < 10) :
    ofDigits digits < Nat.pow 10 digits.length := by
  have hfrom : ∀ n, digits.foldl (fun n d => 10 * n + d) n < (n + 1) * 10 ^ digits.length := by
    induction digits with
    | nil => simp
    | cons d digits ih =>
      intro n
      have hd := h d (List.mem_cons_self ..)
      have hrest := ih (fun e he => h e (List.mem_cons_of_mem _ he)) (10 * n + d)
      have hle : (10 * n + d + 1) * 10 ^ digits.length ≤ (10 * n + 10) * 10 ^ digits.length :=
        Nat.mul_le_mul_right _ (by omega)
      have hpow : (n + 1) * 10 ^ (digits.length + 1) = (10 * n + 10) * 10 ^ digits.length := by
        rw [Nat.pow_succ]
        grind
      rw [List.foldl_cons, List.length_cons, hpow]
      omega
  simpa [ofDigits] using hfrom 0

theorem lt_of_mem_groupedDigits? {s : List Char} {digits : List Nat}
    (h : groupedDigits? s = some digits) : ∀ d ∈ digits, d < 10 := by
  fun_induction groupedDigits? s generalizing digits with
  | case1 => simp at h
  | case2 c =>
    obtain ⟨v, hv, rfl⟩ := Option.map_eq_some_iff.1 h
    simpa using decimalValue?_lt hv
  | case3 c rest ih =>
    simp only [Option.bind_eq_bind, Option.bind_eq_some_iff, Option.pure_def,
      Option.some.injEq] at h
    obtain ⟨v, hv, more, hmore, rfl⟩ := h
    exact List.forall_mem_cons.2 ⟨decimalValue?_lt hv, ih hmore⟩
  | case4 c d rest _ ih =>
    simp only [Option.bind_eq_bind, Option.bind_eq_some_iff, Option.pure_def,
      Option.some.injEq] at h
    obtain ⟨v, hv, more, hmore, rfl⟩ := h
    exact List.forall_mem_cons.2 ⟨decimalValue?_lt hv, ih hmore⟩

/-! ## Numerals -/

theorem toList_numeral (i : Int) : (numeral i).toList
    = (if i < 0 then ['-'] else []) ++ naturalNumeral i.natAbs := by
  rw [numeral]
  split <;> simp

theorem isDigit_of_mem_naturalNumeral {n : Nat} {c : Char} (h : c ∈ naturalNumeral n) :
    c.isDigit = true :=
  Nat.isDigit_of_mem_toDigits (by omega) (by omega) h

theorem isDigit_or_minus_of_mem_numeral {i : Int} {c : Char} (h : c ∈ (numeral i).toList) :
    c.isDigit = true ∨ c = '-' := by
  rw [toList_numeral] at h
  rcases List.mem_append.1 h with h | h
  · split at h <;> simp_all
  · exact .inl (isDigit_of_mem_naturalNumeral h)

/-- No character of a numeral is blank. -/
theorem isBlank_of_mem_numeral {i : Int} {c : Char} (h : c ∈ (numeral i).toList) :
    isBlank c = false := by
  rcases isDigit_or_minus_of_mem_numeral h with h | rfl
  · exact isBlank_of_isDigit h
  · decide

theorem withoutMargins_eq_self {s : List Char} (h : ∀ c ∈ s, isBlank c = false) :
    withoutMargins s = s := by
  have hkeep : ∀ t : List Char, (∀ c ∈ t, isBlank c = false) → t.dropWhile isMargin = t := by
    intro t ht
    cases t with
    | nil => rfl
    | cons c t => simp [isMargin, ht c (List.mem_cons_self ..)]
  rw [withoutMargins, hkeep s h, dropEndWhile, hkeep s.reverse (by simpa using h),
    List.reverse_reverse]

theorem splitSign_of_isDigit {s : List Char} (h : ∀ c ∈ s, c.isDigit = true) :
    splitSign s = (false, s) := by
  unfold splitSign
  split
  · exact absurd (h '-' (List.mem_cons_self ..)) (by decide)
  · exact absurd (h '+' (List.mem_cons_self ..)) (by decide)
  · rfl

theorem splitSign_numeral (i : Int) :
    splitSign (numeral i).toList = (decide (i < 0), naturalNumeral i.natAbs) := by
  rw [toList_numeral]
  by_cases hneg : i < 0
  · simp [hneg, splitSign]
  · simpa [hneg] using splitSign_of_isDigit fun _ => isDigit_of_mem_naturalNumeral

theorem length_naturalNumeral_le_iff {n k : Nat} (hk : 0 < k) :
    (naturalNumeral n).length ≤ k ↔ n < Nat.pow 10 k :=
  Nat.length_toDigits_le_iff (by decide) hk

/-- The integer of a text of digits, perhaps with a sign before them. -/
theorem integer?_of_splitSign {s digits : List Char} {negative : Bool}
    (hink : ∀ c ∈ s, isBlank c = false) (hsign : splitSign s = (negative, digits))
    (hne : digits ≠ []) (hdigits : ∀ c ∈ digits, c.isDigit = true)
    (hlength : digits.length ≤ digitLimit) :
    integer? s = some (if negative then -(Nat.ofDigitChars 10 digits 0 : Int)
      else Nat.ofDigitChars 10 digits 0) := by
  simp only [integer?, withoutMargins_eq_self hink, hsign, groupedDigits?_of_isDigit hne hdigits,
    Option.bind_eq_bind, Option.bind_some, List.length_map, hlength, guard, if_true, ofDigits_map,
    Option.pure_def]

/-- **Reading the numeral of an integer** gives the integer, within the limit on digits. -/
theorem integer?_numeral {i : Int} (h : hasNumeral i = true) :
    integer? (numeral i).toList = some i := by
  have hlength : (naturalNumeral i.natAbs).length ≤ digitLimit :=
    (length_naturalNumeral_le_iff (by decide)).2 (of_decide_eq_true h)
  have hvalue : Nat.ofDigitChars 10 (naturalNumeral i.natAbs) 0 = i.natAbs :=
    Nat.ofDigitChars_ten_toDigits
  rw [integer?_of_splitSign (fun _ => isBlank_of_mem_numeral) (splitSign_numeral i)
    Nat.toDigits_ne_nil (fun _ => isDigit_of_mem_naturalNumeral) hlength, hvalue]
  simp only [decide_eq_true_eq, Option.some.injEq]
  split <;> omega

theorem hasNumeral_zero : hasNumeral 0 = true := by
  rw [hasNumeral, Nat.pow_eq, decide_eq_true_eq]
  exact Nat.pow_pos (by decide)

/-- **An integer that was read** has a numeral. -/
theorem hasNumeral_of_integer? {s : List Char} {i : Int} (h : integer? s = some i) :
    hasNumeral i = true := by
  simp only [integer?, Option.bind_eq_bind, Option.bind_eq_some_iff, Option.pure_def,
    Option.some.injEq] at h
  obtain ⟨digits, hdigits, _, hguard, rfl⟩ := h
  have hlength : digits.length ≤ digitLimit := (Option.guard_eq_some' _).1 hguard
  have hlt := ofDigits_lt (lt_of_mem_groupedDigits? hdigits)
  rw [Nat.pow_eq] at hlt
  rw [hasNumeral, Nat.pow_eq, decide_eq_true_eq]
  have hpow : 10 ^ digits.length ≤ 10 ^ digitLimit := Nat.pow_le_pow_right (by decide) hlength
  split <;> omega

/-! ## Numerals of a given width -/

section

variable {width n : Nat}

theorem toList_padded (width n : Nat) : (padded width n).toList =
    List.replicate (width - (naturalNumeral n).length) '0' ++ naturalNumeral n := by
  simp [padded]

theorem isDigit_of_mem_padded {c : Char} (h : c ∈ (padded width n).toList) : c.isDigit = true := by
  rw [toList_padded] at h
  rcases List.mem_append.1 h with h | h
  · rw [List.eq_of_mem_replicate h]
    decide
  · exact isDigit_of_mem_naturalNumeral h

theorem padded_ne_nil : (padded width n).toList ≠ [] := by
  rw [toList_padded]
  exact List.append_ne_nil_of_right_ne_nil _ Nat.toDigits_ne_nil

/-- A numeral has the given width where the number has no more digits. -/
theorem length_padded (hwidth : 0 < width) (h : n < Nat.pow 10 width) :
    (padded width n).toList.length = width := by
  have hlength := (length_naturalNumeral_le_iff hwidth).2 h
  simp only [toList_padded, List.length_append, List.length_replicate]
  omega

/-- The zeros before a number do not change it. -/
theorem ofDigitChars_padded : Nat.ofDigitChars 10 (padded width n).toList 0 = n := by
  have hzeros : ∀ k, Nat.ofDigitChars 10 (List.replicate k '0') 0 = 0 := by
    intro k
    induction k with
    | zero => rfl
    | succ k ih => simpa [Nat.ofDigitChars_eq_foldl, List.replicate_succ] using ih
  rw [toList_padded, Nat.ofDigitChars_append, hzeros]
  exact Nat.ofDigitChars_ten_toDigits

/-- **Reading a numeral of a given width** gives the number. -/
theorem integer?_padded (hwidth : 0 < width) (hlimit : width ≤ digitLimit)
    (h : n < Nat.pow 10 width) : integer? (padded width n).toList = some (n : Int) := by
  have hdigits : ∀ c ∈ (padded width n).toList, c.isDigit = true :=
    fun _ => isDigit_of_mem_padded
  rw [integer?_of_splitSign (fun c hc => isBlank_of_isDigit (hdigits c hc))
    (splitSign_of_isDigit hdigits) padded_ne_nil hdigits (by rwa [length_padded hwidth h]),
    ofDigitChars_padded]
  rfl

end

end StorageReply.Number

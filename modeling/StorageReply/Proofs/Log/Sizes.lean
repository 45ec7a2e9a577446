import StorageReply.Log.Size
import StorageReply.Proofs.Number.Shortest
import StorageReply.Proofs.Text.Blanks

/-!
# What sizes mean

A size is a decimal number and perhaps a unit, with blanks around them (`IsSize`); the scan of a
text finds these parts, and no others (`split?_eq_some_iff`). What a size means is its number times
its unit, rounded once to a floating-point number and without its fraction
(`Parts.truncated?_scaled_number`), since units are powers of two. That is exact as long as the
product is an integer of 53 bits, and fails just from the bound of overflow on
(`parse_reads_sizes`).

The scan also finds units with a Kelvin sign, for which no bytes are known: these texts are not
refused as the others are that are no sizes.
-/

namespace StorageReply.Size

open Number Text

/-! ## Sizes -/

/-- The units, and the power of two of their bytes. -/
inductive IsUnit : List Char → Nat → Prop
  /-- A size without a unit is in bytes. -/
  | none : IsUnit [] 0
  /-- Bytes. -/
  | bytes {b : Char} (hb : b = 'B' ∨ b = 'b') : IsUnit [b] 0
  /-- Kilobytes. -/
  | kilo {a b : Char} (ha : a = 'K' ∨ a = 'k') (hb : b = 'B' ∨ b = 'b') : IsUnit [a, b] 10
  /-- Megabytes. -/
  | mega {a b : Char} (ha : a = 'M' ∨ a = 'm') (hb : b = 'B' ∨ b = 'b') : IsUnit [a, b] 20
  /-- Gigabytes. -/
  | giga {a b : Char} (ha : a = 'G' ∨ a = 'g') (hb : b = 'B' ∨ b = 'b') : IsUnit [a, b] 30

/-- Kilobytes with a Kelvin sign in place of the letter. -/
def IsKelvinUnit (unit : List Char) : Prop := unit = ['\u212A', 'B'] ∨ unit = ['\u212A', 'b']

/-- The text of a fraction: nothing if there is none. -/
def Parts.fractionText (p : Parts) : List Char :=
  if p.fraction = [] then [] else '.' :: p.fraction

/-- The digits of a number, perhaps with a point among them, and a unit, with blanks around, make a
text. -/
structure Parts.Spell (p : Parts) (before gap after s : List Char) : Prop where
  /-- There are digits before the point. -/
  whole_ne_nil : p.whole ≠ []
  /-- There are decimal digits only, of any script. -/
  digits : ∀ c ∈ p.whole ++ p.fraction, isDecimal c = true
  /-- Around the number and the unit there are blanks only. -/
  blanks : ∀ c ∈ before ++ (gap ++ after), isBlank c = true
  /-- The parts stand one after the other. -/
  text_eq : s = before ++ (p.whole ++ (p.fractionText ++ (gap ++ (p.unit ++ after))))

/-- Whether a text is made of a number and a unit. -/
def Parts.IsIn (p : Parts) (s : List Char) : Prop := ∃ before gap after, p.Spell before gap after s

/-- Whether a text is a size of some parts, in a unit of a power of two of bytes. -/
def IsSize (s : List Char) (p : Parts) (power : Nat) : Prop := p.IsIn s ∧ IsUnit p.unit power

/-- Whether a text would be a size but for a Kelvin sign in its unit. -/
def IsKelvinSize (s : List Char) : Prop := ∃ p : Parts, p.IsIn s ∧ IsKelvinUnit p.unit

/-- The digits of the number, without the point. -/
def Parts.digits (p : Parts) : Nat := digitsValue (p.whole ++ p.fraction)

/-! ## Characters of sizes -/

theorem exists_mem_of_decimalValueIn? {n v : Nat} {zeros : List Nat}
    (h : decimalValueIn? n zeros = some v) : ∃ start ∈ zeros, n = start + v := by
  induction zeros with
  | nil => cases h
  | cons first rest ih =>
    rw [decimalValueIn?] at h
    split at h
    · cases h
    · split at h
      · obtain rfl := Option.some.inj h
        exact ⟨first, List.mem_cons_self .., by omega⟩
      · obtain ⟨start, hmem, hn⟩ := ih h
        exact ⟨start, List.mem_cons_of_mem _ hmem, hn⟩

theorem isBlank_of_isDecimal {c : Char} (h : isDecimal c = true) : isBlank c = false := by
  have hall : ∀ start ∈ decimalZeros, ∀ v < 10, inRanges (start + v) blankRanges = false := by
    decide +kernel
  obtain ⟨v, hv⟩ := Option.isSome_iff_exists.1 h
  obtain ⟨start, hmem, hn⟩ := exists_mem_of_decimalValueIn? hv
  rw [isBlank, hn]
  exact hall start hmem v (decimalValue?_lt hv)

theorem isDecimal_of_isBlank {c : Char} (h : isBlank c = true) : isDecimal c = false := by
  refine Bool.eq_false_iff.2 fun hdecimal => ?_
  exact Bool.false_ne_true ((isBlank_of_isDecimal hdecimal).symm.trans h)

theorem isByteMark_iff {c : Char} : isByteMark c = true ↔ c = 'B' ∨ c = 'b' := by
  rw [isByteMark, Bool.or_eq_true, beq_iff_eq, beq_iff_eq]

theorem isMagnitude_iff {c : Char} : isMagnitude c = true ↔
    (c = 'K' ∨ c = 'k') ∨ c = '\u212A' ∨ (c = 'M' ∨ c = 'm') ∨ c = 'G' ∨ c = 'g' := by
  simp only [isMagnitude, Bool.or_eq_true, beq_iff_eq]
  tauto

/-- Whether a text is a unit that the scan of a size finds. -/
def IsFoundUnit (unit : List Char) : Prop :=
  (∃ power, IsUnit unit power) ∨ IsKelvinUnit unit

theorem IsFoundUnit.cases {unit : List Char} (h : IsFoundUnit unit) :
    unit = [] ∨ (∃ b, isByteMark b = true ∧ unit = [b]) ∨
      ∃ a b, isMagnitude a = true ∧ isByteMark b = true ∧ unit = [a, b] := by
  rcases h with ⟨power, h⟩ | rfl | rfl
  · cases h with
    | none => exact .inl rfl
    | bytes hb => exact .inr (.inl ⟨_, isByteMark_iff.2 hb, rfl⟩)
    | kilo ha hb =>
      exact .inr (.inr ⟨_, _, isMagnitude_iff.2 (.inl ha), isByteMark_iff.2 hb, rfl⟩)
    | mega ha hb =>
      exact .inr (.inr ⟨_, _, isMagnitude_iff.2 (.inr (.inr (.inl ha))), isByteMark_iff.2 hb, rfl⟩)
    | giga ha hb =>
      exact .inr (.inr ⟨_, _, isMagnitude_iff.2 (.inr (.inr (.inr ha))), isByteMark_iff.2 hb, rfl⟩)
  · exact .inr (.inr ⟨_, _, rfl, rfl, rfl⟩)
  · exact .inr (.inr ⟨_, _, rfl, rfl, rfl⟩)

/-- The characters of a unit are none of a number, and no blanks. -/
theorem IsFoundUnit.plain {unit : List Char} (h : IsFoundUnit unit) :
    ∀ c ∈ unit, isBlank c = false ∧ isDecimal c = false ∧ c ≠ '.' := by
  have hmark : ∀ {c : Char}, isByteMark c = true →
      isBlank c = false ∧ isDecimal c = false ∧ c ≠ '.' := by
    intro c hc
    rcases isByteMark_iff.1 hc with rfl | rfl <;> decide
  have hmagnitude : ∀ {c : Char}, isMagnitude c = true →
      isBlank c = false ∧ isDecimal c = false ∧ c ≠ '.' := by
    intro c hc
    rcases isMagnitude_iff.1 hc with (rfl | rfl) | rfl | (rfl | rfl) | rfl | rfl <;> decide
  rcases h.cases with rfl | ⟨b, hb, rfl⟩ | ⟨a, b, ha, hb, rfl⟩
  · simp
  · simpa using hmark hb
  · simpa using ⟨hmagnitude ha, hmark hb⟩

theorem isFoundUnit_of_isMagnitude {a b : Char} (ha : isMagnitude a = true)
    (hb : isByteMark b = true) : IsFoundUnit [a, b] := by
  have hb' := isByteMark_iff.1 hb
  rcases isMagnitude_iff.1 ha with ha | rfl | ha | ha
  · exact .inl ⟨10, .kilo ha hb'⟩
  · exact .inr (hb'.imp (by rintro rfl; rfl) (by rintro rfl; rfl))
  · exact .inl ⟨20, .mega ha hb'⟩
  · exact .inl ⟨30, .giga ha hb'⟩

theorem unitBytes?_of_isUnit {unit : List Char} {power : Nat} (h : IsUnit unit power) :
    unitBytes? unit = some (2 ^ power) := by
  cases h with
  | none => rfl
  | bytes hb => rcases hb with rfl | rfl <;> rfl
  | kilo ha hb => rcases ha with rfl | rfl <;> rcases hb with rfl | rfl <;> rfl
  | mega ha hb => rcases ha with rfl | rfl <;> rcases hb with rfl | rfl <;> rfl
  | giga ha hb => rcases ha with rfl | rfl <;> rcases hb with rfl | rfl <;> rfl

theorem unitBytes?_of_isKelvinUnit {unit : List Char} (h : IsKelvinUnit unit) :
    unitBytes? unit = none := by
  rcases h with rfl | rfl <;> rfl

/-! ## The scan -/

theorem spanUnit_spec (s : List Char) :
    s = (spanUnit s).1 ++ (spanUnit s).2 ∧ IsFoundUnit (spanUnit s).1 := by
  have hbyte : ∀ {b : Char}, isByteMark b = true → IsFoundUnit [b] := fun hb =>
    .inl ⟨0, .bytes (isByteMark_iff.1 hb)⟩
  unfold spanUnit
  split
  · split
    · rename_i hboth
      rw [Bool.and_eq_true] at hboth
      exact ⟨rfl, isFoundUnit_of_isMagnitude hboth.1 hboth.2⟩
    · split
      · rename_i hb
        exact ⟨rfl, hbyte hb⟩
      · exact ⟨rfl, .inl ⟨0, .none⟩⟩
  · split
    · rename_i hb
      exact ⟨rfl, hbyte hb⟩
    · exact ⟨rfl, .inl ⟨0, .none⟩⟩
  · exact ⟨rfl, .inl ⟨0, .none⟩⟩

theorem spanUnit_append {unit : List Char} (h : IsFoundUnit unit) (hne : unit ≠ [])
    (after : List Char) : spanUnit (unit ++ after) = (unit, after) := by
  rcases h.cases with rfl | ⟨b, hb, rfl⟩ | ⟨a, b, ha, hb, rfl⟩
  · exact absurd rfl hne
  · have hfirst : isMagnitude b = false := by
      rcases isByteMark_iff.1 hb with rfl | rfl <;> rfl
    cases after with
    | nil => simp [spanUnit, hb]
    | cons c after => simp [spanUnit, hb, hfirst]
  · simp [spanUnit, ha, hb]

theorem spanFraction_spec (s : List Char) :
    s = (if (spanFraction s).1 = [] then [] else '.' :: (spanFraction s).1) ++ (spanFraction s).2 ∧
      ∀ c ∈ (spanFraction s).1, isDecimal c = true := by
  unfold spanFraction
  split
  · rename_i rest
    split
    · exact ⟨rfl, by simp⟩
    · rename_i hne
      rw [List.isEmpty_iff] at hne
      rw [if_neg hne]
      exact ⟨by simp, fun c hc => List.mem_takeWhile_imp hc⟩
  · exact ⟨rfl, by simp⟩

theorem Parts.spanFraction_append {p : Parts} (h : ∀ c ∈ p.fraction, isDecimal c = true)
    {rest : List Char} (hrest : ∀ c ∈ rest.head?, isDecimal c = false)
    (hpoint : rest.head? ≠ some '.') :
    spanFraction (p.fractionText ++ rest) = (p.fraction, rest) := by
  rw [fractionText]
  split
  · rename_i hfraction
    rw [hfraction, List.nil_append]
    cases rest with
    | nil => rfl
    | cons c rest =>
      have hc : c ≠ '.' := fun hc => hpoint (congrArg some hc)
      unfold spanFraction
      split
      · rename_i heq
        exact absurd (List.cons.inj heq).1 hc
      · rfl
  · rename_i hfraction
    rw [List.cons_append, spanFraction, takeWhile_append_of_all h hrest,
      dropWhile_append_of_all h hrest, if_neg (by simpa using hfraction)]

/-- The text behind a number: blanks around a unit. None of its characters goes on with the
number. -/
theorem notNumber_of_mem {gap unit after : List Char} (hunit : IsFoundUnit unit)
    (hgap : ∀ c ∈ gap, isBlank c = true) (hafter : ∀ c ∈ after, isBlank c = true) :
    ∀ c ∈ gap ++ (unit ++ after), isDecimal c = false ∧ c ≠ '.' := by
  have hblank : ∀ {c : Char}, isBlank c = true → isDecimal c = false ∧ c ≠ '.' := by
    intro c hc
    refine ⟨isDecimal_of_isBlank hc, ?_⟩
    rintro rfl
    exact absurd hc (by decide)
  intro c hc
  rcases List.mem_append.1 hc with hc | hc
  · exact hblank (hgap c hc)
  · rcases List.mem_append.1 hc with hc | hc
    · exact (hunit.plain c hc).2
    · exact hblank (hafter c hc)

/-- A unit is found behind blanks; if there is none, the blanks behind it are among them. -/
theorem exists_spanUnit_eq {gap unit after : List Char} (hunit : IsFoundUnit unit)
    (hgap : ∀ c ∈ gap, isBlank c = true) (hafter : ∀ c ∈ after, isBlank c = true) :
    ∃ last, spanUnit ((gap ++ (unit ++ after)).dropWhile isBlank) = (unit, last) ∧
      ∀ c ∈ last, isBlank c = true := by
  by_cases hne : unit = []
  · subst hne
    have hall : (gap ++ ([] ++ after)).dropWhile isBlank = [] :=
      List.dropWhile_eq_nil_iff.2 (List.forall_mem_append.2 ⟨hgap, hafter⟩)
    exact ⟨[], by rw [hall]; rfl, by simp⟩
  · have hhead : ∀ c ∈ (unit ++ after).head?, isBlank c = false := by
      intro c hc
      rw [List.head?_append_of_ne_nil _ hne] at hc
      exact (hunit.plain c (List.mem_of_mem_head? hc)).1
    rw [dropWhile_append_of_all hgap hhead]
    exact ⟨after, spanUnit_append hunit hne after, hafter⟩

/-- The scan goes through a text of parts: blanks, digits, a fraction, blanks, a unit. -/
theorem split?_eq (s : List Char) {number rest tail : List Char}
    (hnumber : s.dropWhile isBlank = number)
    (hrest : (spanFraction (number.dropWhile isDecimal)).2 = rest)
    (htail : rest.dropWhile isBlank = tail) :
    split? s =
      if (number.takeWhile isDecimal).isEmpty || !(spanUnit tail).2.all isBlank then none
      else some ⟨number.takeWhile isDecimal, (spanFraction (number.dropWhile isDecimal)).1,
        (spanUnit tail).1⟩ := by
  subst hnumber hrest htail
  rfl

/-- What the scan finds are parts of the text. -/
theorem isIn_of_split?_eq {s : List Char} {p : Parts} (h : split? s = some p) :
    p.IsIn s ∧ IsFoundUnit p.unit := by
  rw [split?_eq s rfl rfl rfl] at h
  split at h
  · cases h
  · rename_i hgood
    obtain rfl := Option.some.inj h
    rw [Bool.not_eq_true, Bool.or_eq_false_iff, List.isEmpty_eq_false_iff, Bool.not_eq_false',
      List.all_eq_true] at hgood
    set number := s.dropWhile isBlank with hnumber
    obtain ⟨hfraction, hdigits⟩ := spanFraction_spec (number.dropWhile isDecimal)
    set rest := (spanFraction (number.dropWhile isDecimal)).2
    obtain ⟨hunit, hfound⟩ := spanUnit_spec (rest.dropWhile isBlank)
    refine ⟨⟨s.takeWhile isBlank, rest.takeWhile isBlank,
      (spanUnit (rest.dropWhile isBlank)).2, hgood.1, ?_, ?_, ?_⟩, hfound⟩
    · exact List.forall_mem_append.2 ⟨fun c hc => List.mem_takeWhile_imp hc, hdigits⟩
    · exact List.forall_mem_append.2 ⟨fun c hc => List.mem_takeWhile_imp hc,
        List.forall_mem_append.2 ⟨fun c hc => List.mem_takeWhile_imp hc, hgood.2⟩⟩
    · rw [← hunit, List.takeWhile_append_dropWhile, Parts.fractionText, ← hfraction,
        List.takeWhile_append_dropWhile, hnumber, List.takeWhile_append_dropWhile]

/-- The parts of a text are what the scan finds. -/
theorem Parts.IsIn.split?_eq {s : List Char} {p : Parts} (h : p.IsIn s)
    (hunit : IsFoundUnit p.unit) : split? s = some p := by
  obtain ⟨before, gap, after, hwhole, hdigits, hblanks, rfl⟩ := h
  obtain ⟨hdecimal, hfraction⟩ := List.forall_mem_append.1 hdigits
  obtain ⟨hbefore, hblanks⟩ := List.forall_mem_append.1 hblanks
  obtain ⟨hgap, hafter⟩ := List.forall_mem_append.1 hblanks
  have hbehind := notNumber_of_mem hunit hgap hafter
  obtain ⟨last, hlast, hblank⟩ := exists_spanUnit_eq hunit hgap hafter
  generalize gap ++ (p.unit ++ after) = behind at hbehind hlast ⊢
  have hnumber : (before ++ (p.whole ++ (p.fractionText ++ behind))).dropWhile isBlank =
      p.whole ++ (p.fractionText ++ behind) := by
    refine dropWhile_append_of_all hbefore fun c hc => isBlank_of_isDecimal (hdecimal c ?_)
    rw [List.head?_append_of_ne_nil _ hwhole] at hc
    exact List.mem_of_mem_head? hc
  have hend : ∀ c ∈ (p.fractionText ++ behind).head?, isDecimal c = false := by
    intro c hc
    rw [Parts.fractionText] at hc
    split at hc
    · exact (hbehind c (List.mem_of_mem_head? hc)).1
    · obtain rfl := Option.some.inj hc
      decide
  have hspan : spanFraction (p.fractionText ++ behind) = (p.fraction, behind) := by
    refine Parts.spanFraction_append hfraction ?_ ?_
    · exact fun c hc => (hbehind c (List.mem_of_mem_head? hc)).1
    · exact fun hc => (hbehind '.' (List.mem_of_mem_head? hc)).2 rfl
  have hrest : (spanFraction ((p.whole ++ (p.fractionText ++ behind)).dropWhile isDecimal)).2 =
      behind := by rw [dropWhile_append_of_all hdecimal hend, hspan]
  rw [Size.split?_eq _ hnumber hrest rfl, takeWhile_append_of_all hdecimal hend,
    dropWhile_append_of_all hdecimal hend, hspan, hlast, if_neg]
  rw [Bool.not_eq_true, Bool.or_eq_false_iff, List.isEmpty_eq_false_iff, Bool.not_eq_false',
    List.all_eq_true]
  exact ⟨hwhole, hblank⟩

/-- **The scan finds the parts of a text.** -/
theorem split?_eq_some_iff {s : List Char} {p : Parts} :
    split? s = some p ↔ p.IsIn s ∧ IsFoundUnit p.unit :=
  ⟨isIn_of_split?_eq, fun h => h.1.split?_eq h.2⟩

theorem IsSize.split?_eq {s : List Char} {p : Parts} {power : Nat} (h : IsSize s p power) :
    split? s = some p :=
  split?_eq_some_iff.2 ⟨h.1, .inl ⟨power, h.2⟩⟩

theorem exists_split?_eq_of_isKelvinSize {s : List Char} (h : IsKelvinSize s) :
    ∃ p, split? s = some p ∧ unitBytes? p.unit = none := by
  obtain ⟨p, hp, hunit⟩ := h
  exact ⟨p, split?_eq_some_iff.2 ⟨hp, .inr hunit⟩, unitBytes?_of_isKelvinUnit hunit⟩

/-- A text with a Kelvin sign in its unit is no size. -/
theorem not_isSize_of_isKelvinSize {s : List Char} (h : IsKelvinSize s) (p : Parts) (power : Nat) :
    ¬IsSize s p power := by
  intro hsize
  obtain ⟨p', hsplit, hnone⟩ := exists_split?_eq_of_isKelvinSize h
  obtain rfl := Option.some.inj (hsize.split?_eq.symm.trans hsplit)
  rw [unitBytes?_of_isUnit hsize.2] at hnone
  cases hnone

theorem split?_eq_none_iff {s : List Char} :
    split? s = none ↔ (∀ p power, ¬IsSize s p power) ∧ ¬IsKelvinSize s := by
  rw [Option.eq_none_iff_forall_ne_some]
  simp only [ne_eq, split?_eq_some_iff, IsFoundUnit]
  constructor
  · intro h
    exact ⟨fun p power hp => h p ⟨hp.1, .inl ⟨power, hp.2⟩⟩,
      fun ⟨p, hp, hunit⟩ => h p ⟨hp, .inr hunit⟩⟩
  · rintro ⟨hsize, hkelvin⟩ p ⟨hp, ⟨power, hunit⟩ | hunit⟩
    · exact hsize p power ⟨hp, hunit⟩
    · exact hkelvin ⟨p, hp, hunit⟩

/-! ## The product -/

/-- The number in front of a unit is the one nearest to its digits with the point among them. -/
theorem Parts.number_eq (p : Parts) :
    p.number = Binary64.ofRatio false p.digits (10 ^ p.fraction.length) := by
  have hten : 0 < 10 ^ p.fraction.length := Nat.pow_pos (by decide)
  have hpos := powerRatio_pos (by decide : 0 < 10) p.digits (-(p.fraction.length : Int))
  have hvalue := cast_powerRatio 10 p.digits (-(p.fraction.length : Int))
  rw [number, Binary64.ofDecimal_eq_ofRatio]
  refine Binary64.ofRatio_congr hpos hten ?_ false
  rw [zpow_neg, zpow_natCast, ← div_eq_mul_inv, ← Nat.cast_pow,
    div_eq_div_iff (Nat.cast_ne_zero.2 hpos.ne') (Nat.cast_ne_zero.2 hten.ne')] at hvalue
  exact_mod_cast hvalue

/-- The number times a unit, and then without its fraction: the product is rounded once. -/
theorem Parts.truncated?_scaled_number (p : Parts) {power : Nat} (h : power ≤ 1020) :
    (p.number.scaled (2 ^ power)).truncated? =
      (Binary64.ofRatio false (p.digits * 2 ^ power) (10 ^ p.fraction.length)).truncated? := by
  rw [p.number_eq, Binary64.truncated?_scaled_ofRatio (Nat.pow_pos (by decide)) h]

theorem power_le_of_isUnit {unit : List Char} {power : Nat} (h : IsUnit unit power) :
    power ≤ 30 := by
  cases h <;> decide

theorem parse_of_isKelvinSize {s : String} (h : IsKelvinSize s.toList) :
    parse s = .error .missingKey := by
  obtain ⟨p, hsplit, hnone⟩ := exists_split?_eq_of_isKelvinSize h
  rw [parse, hsplit]
  simp only [hnone]

/-- What a size means: its product with the unit, rounded once. -/
theorem parse_of_isSize {s : String} {p : Parts} {power : Nat} (h : IsSize s.toList p power) :
    parse s =
      match (Binary64.ofRatio false (p.digits * 2 ^ power) (10 ^ p.fraction.length)).truncated? with
      | some n => .ok n
      | none => .error .outOfRange := by
  have hpower : power ≤ 1020 := (power_le_of_isUnit h.2).trans (by decide)
  have hbytes := unitBytes?_of_isUnit h.2
  have hproduct := p.truncated?_scaled_number hpower
  cases hvalue : (Binary64.ofRatio false (p.digits * 2 ^ power)
      (10 ^ p.fraction.length)).truncated? with
  | none => simp only [parse, h.split?_eq, hbytes, hproduct, hvalue]
  | some n => simp only [parse, h.split?_eq, hbytes, hproduct, hvalue]

/-- **What texts mean as sizes.** A text that is no size is refused as such, but for one with a
Kelvin sign in its unit, whose bytes are missing. A size means the integer part of the nearest
number to the product with the unit, which is a natural number, unless the product is beyond the
bound of overflow. Where the number is an integer and the product has no more than 53 bits, the size
means the product itself. -/
theorem parse_reads_sizes (s : String) :
    ((∀ p power, ¬IsSize s.toList p power) → ¬IsKelvinSize s.toList →
      parse s = .error (.unusable (.notSize s))) ∧
    (IsKelvinSize s.toList →
      (∀ p power, ¬IsSize s.toList p power) ∧ parse s = .error .missingKey) ∧
    ∀ p power, IsSize s.toList p power →
      (p.digits * 2 ^ power < Binary64.overflowBound * 10 ^ p.fraction.length →
        ∃ n : Nat, parse s = .ok n ∧
          (Binary64.ofRatio false (p.digits * 2 ^ power) (10 ^ p.fraction.length)).truncated? =
            some (n : Int)) ∧
      (Binary64.overflowBound * 10 ^ p.fraction.length ≤ p.digits * 2 ^ power →
        parse s = .error .outOfRange) ∧
      ∀ n, p.digits = n * 10 ^ p.fraction.length → n * 2 ^ power < 2 ^ 53 →
        parse s = .ok (n * 2 ^ power : Nat) := by
  refine ⟨fun hsize hkelvin => ?_,
    fun hkelvin => ⟨not_isSize_of_isKelvinSize hkelvin, parse_of_isKelvinSize hkelvin⟩,
    fun p power h => ?_⟩
  · rw [parse, split?_eq_none_iff.2 ⟨hsize, hkelvin⟩]
  · have hten : 0 < 10 ^ p.fraction.length := Nat.pow_pos (by decide)
    obtain ⟨hfinite, hinfinite⟩ :=
      @Binary64.truncated?_ofRatio (p.digits * 2 ^ power) _ hten
    refine ⟨fun hlt => ?_, fun hge => ?_, fun n hn hlt => ?_⟩
    · obtain ⟨n, htruncated⟩ := hfinite hlt
      refine ⟨n, ?_, htruncated⟩
      rw [parse_of_isSize h, htruncated]
    · rw [parse_of_isSize h, hinfinite hge]
    · have hround : Binary64.ofRatio false (p.digits * 2 ^ power) (10 ^ p.fraction.length) =
          Binary64.ofRatio false (n * 2 ^ power) 1 := by
        refine Binary64.ofRatio_congr hten one_pos ?_ false
        rw [hn, Nat.mul_one, Nat.mul_right_comm]
      rw [parse_of_isSize h, hround, Binary64.truncated?_ofRatio_natural hlt]

theorem parse_reads_sizes_megabytes :
    parse "10TB" = .error (.unusable (.notSize "10TB")) ∧ parse " 10.0 mB " = .ok 10485760 ∧
      ∃ n : Nat, parse "1.5" = .ok n := by
  have hnone := split?_eq_none_iff.1 (by decide : split? "10TB".toList = none)
  have hmega : IsSize " 10.0 mB ".toList ⟨['1', '0'], ['0'], ['m', 'B']⟩ 20 :=
    ⟨⟨[' '], [' '], [' '], by decide, List.all_eq_true.1 (by decide),
      List.all_eq_true.1 (by decide), by decide⟩, .mega (.inr rfl) (.inl rfl)⟩
  have hbare : IsSize "1.5".toList ⟨['1'], ['5'], []⟩ 0 :=
    ⟨⟨[], [], [], by decide, List.all_eq_true.1 (by decide), by simp, by decide⟩, .none⟩
  obtain ⟨hfinite, -, -⟩ := (parse_reads_sizes "1.5").2.2 _ _ hbare
  obtain ⟨n, hn, -⟩ := hfinite (by decide +kernel)
  exact ⟨(parse_reads_sizes "10TB").1 hnone.1 hnone.2,
    ((parse_reads_sizes " 10.0 mB ").2.2 _ _ hmega).2.2 10 (by decide) (by decide), n, hn⟩

/-- A digit and `n` zeros. -/
def oneThenZeros (n : Nat) : Parts := ⟨'1' :: List.replicate n '0', [], []⟩

theorem isSize_oneThenZeros (n : Nat) :
    IsSize (oneThenZeros n).whole (oneThenZeros n) 0 := by
  refine ⟨⟨[], [], [], List.cons_ne_nil _ _, ?_, by simp, ?_⟩, .none⟩
  · intro c hc
    have hdigit : c = '1' ∨ c = '0' := by
      simp only [oneThenZeros, List.append_nil, List.mem_cons, List.mem_replicate] at hc
      exact hc.imp_right And.right
    rcases hdigit with rfl | rfl <;> decide
  · simp [oneThenZeros, Parts.fractionText]

/-- A text that is no size need not be refused as such, and a size need not mean anything. -/
theorem parse_kelvin_and_huge :
    ((∀ p power, ¬IsSize "1\u212AB".toList p power) ∧ parse "1\u212AB" = .error .missingKey) ∧
      ∃ s p, IsSize s.toList p 0 ∧ parse s = .error .outOfRange := by
  have hkelvin : IsKelvinSize "1\u212AB".toList :=
    ⟨⟨['1'], [], ['\u212A', 'B']⟩,
      ⟨[], [], [], by decide, List.all_eq_true.1 (by decide), by simp, by decide⟩, .inl rfl⟩
  have hhuge : IsSize (String.ofList (oneThenZeros 309).whole).toList (oneThenZeros 309) 0 := by
    rw [String.toList_ofList]
    exact isSize_oneThenZeros 309
  have hbound : Binary64.overflowBound * 10 ^ (oneThenZeros 309).fraction.length ≤
      (oneThenZeros 309).digits * 2 ^ 0 := by decide +kernel
  refine ⟨⟨not_isSize_of_isKelvinSize hkelvin, parse_of_isKelvinSize hkelvin⟩, _, _, hhuge, ?_⟩
  rw [parse_of_isSize hhuge, (Binary64.truncated?_ofRatio (by decide)).2 hbound]

end StorageReply.Size

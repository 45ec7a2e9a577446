import Mathlib.Data.List.Basic
import Mathlib.Data.Option.Basic
import Mathlib.Tactic.SplitIfs
import StorageReply.Json.Reader
import StorageReply.Json.Writer

/-!
# Quoted strings

Code points that are written in quotes are read back, with two halves that make a pair as one
character (`stringBody?_quoted`). Characters of ASCII that need no escape stand for themselves, and
every other code point is written as one or two units of four hexadecimal digits
(`hexUnit?_hexPadded`), or with a short escape. A reader of one unit at a time finds the `units` of
the code points, and joining these is joining the code points (`joined_flatMap_units`). Nothing but
printable characters of ASCII is written (`isPrintable_of_mem_escapedChar`).
-/

namespace StorageReply.Json

open Number Text

/-- Whether a character is a printable one of ASCII. -/
def IsPrintable (c : Char) : Prop := 0x20 ≤ c.toNat ∧ c.toNat ≤ 0x7E

instance : DecidablePred IsPrintable := fun c =>
  inferInstanceAs (Decidable (0x20 ≤ c.toNat ∧ c.toNat ≤ 0x7E))

/-- The characters of a fixed text are looked at one by one. -/
theorem isPrintable_of_all {s : List Char} (h : s.all (fun c => decide (IsPrintable c)) = true) :
    ∀ c ∈ s, IsPrintable c :=
  fun c hc => of_decide_eq_true (List.all_eq_true.1 h c hc)

/-! ## Units -/

theorem hexValue?_digitChar : ∀ d < 16, hexValue? d.digitChar = some d := by decide

theorem isPrintable_digitChar : ∀ d < 16, IsPrintable d.digitChar := by decide

/-- The last digit of a padded numeral. -/
theorem hexPadded_succ {k : Nat} (hk : 0 < k) (n : Nat) :
    hexPadded (k + 1) n = hexPadded k (n / 16) ++ [(n % 16).digitChar] := by
  by_cases hn : n < 16
  · -- the quotient is zero, whose one digit takes the place of a padding zero
    have hzero : Nat.toDigits 16 0 = ['0'] := rfl
    have hpad : List.replicate (k + 1 - 1) '0' = List.replicate (k - 1) '0' ++ ['0'] := by
      rw [← List.replicate_succ']
      congr 1
      omega
    simp only [hexPadded, Nat.toDigits_of_lt_base hn, Nat.div_eq_of_lt hn, hzero, List.length_cons,
      List.length_nil, Nat.zero_add, hpad, Nat.mod_eq_of_lt hn]
  · have hlength : k + 1 - ((Nat.toDigits 16 (n / 16)).length + 1) =
        k - (Nat.toDigits 16 (n / 16)).length := by omega
    simp only [hexPadded, Nat.toDigits_of_base_le (by decide : 1 < 16) (Nat.le_of_not_lt hn),
      List.length_append, List.length_cons, List.length_nil, Nat.zero_add, hlength,
      List.append_assoc]

theorem hexPadded_four {n : Nat} (h : n < 0x10000) :
    hexPadded 4 n = [(n / 16 / 16 / 16).digitChar, (n / 16 / 16 % 16).digitChar,
      (n / 16 % 16).digitChar, (n % 16).digitChar] := by
  have hlast : hexPadded 1 (n / 16 / 16 / 16) = [(n / 16 / 16 / 16).digitChar] := by
    simp only [hexPadded, Nat.toDigits_of_lt_base (show n / 16 / 16 / 16 < 16 by omega)]
    rfl
  rw [hexPadded_succ (by decide), hexPadded_succ (by decide), hexPadded_succ (by decide), hlast]
  rfl

/-- Reading the four digits of a unit. -/
theorem hexUnit?_hexPadded {n : Nat} (h : n < 0x10000) (rest : List Char) :
    hexUnit? (hexPadded 4 n ++ rest) = some (n, rest) := by
  have hvalue : ((n / 16 / 16 / 16 * 16 + n / 16 / 16 % 16) * 16 + n / 16 % 16) * 16 + n % 16 =
      n := by omega
  simp only [hexPadded_four h, List.cons_append, List.nil_append, hexUnit?,
    hexValue?_digitChar _ (show n / 16 / 16 / 16 < 16 by omega),
    hexValue?_digitChar _ (Nat.mod_lt _ (by decide : 16 > 0)), Option.bind_eq_bind,
    Option.bind_some, hvalue, Option.pure_def]

theorem isPrintable_of_mem_escapedUnit {n : Nat} (h : n < 0x10000) {c : Char}
    (hc : c ∈ escapedUnit n) : IsPrintable c := by
  rw [escapedUnit, hexPadded_four h] at hc
  simp only [List.mem_cons, List.not_mem_nil, or_false] at hc
  rcases hc with rfl | rfl | rfl | rfl | rfl | rfl
  · decide
  · decide
  all_goals exact isPrintable_digitChar _ (by omega)

/-! ## Characters -/

/-- No character is a half of a surrogate pair. -/
theorem not_surrogate (c : Char) : c.toNat < 0xD800 ∨ 0xDFFF < c.toNat := by
  rcases c.valid with h | h
  · exact .inl h
  · exact .inr h.1

theorem toNat_lt (c : Char) : c.toNat < 0x110000 := by
  rcases c.valid with h | h
  · exact Nat.lt_trans h (by decide)
  · exact h.2

/-- What is written for a character is printable. -/
theorem isPrintable_of_mem_escapedChar {c d : Char} (h : d ∈ escapedChar c) : IsPrintable d := by
  have hmax := toNat_lt c
  have hshort : ∀ e : Char, IsPrintable e → d ∈ ['\\', e] → IsPrintable d := by
    rintro e he hd
    simp only [List.mem_cons, List.not_mem_nil, or_false] at hd
    rcases hd with rfl | rfl
    · decide
    · exact he
  unfold escapedChar at h
  split_ifs at h with h₁ h₂ h₃ h₄ h₅ h₆ h₇ hplain hbasic
  -- seven characters have a short escape
  iterate 7 exact hshort _ (by decide) h
  · obtain rfl := List.mem_singleton.1 h
    simp only [Bool.and_eq_true, decide_eq_true_eq] at hplain
    exact ⟨hplain.1, Nat.le_of_lt_succ hplain.2⟩
  · exact isPrintable_of_mem_escapedUnit hbasic h
  · rcases List.mem_append.1 h with h | h
    · exact isPrintable_of_mem_escapedUnit (by omega) h
    · exact isPrintable_of_mem_escapedUnit (by omega) h

/-- What is written for a code point is printable. -/
theorem isPrintable_of_mem_escapedCode {code : CodePoint} {d : Char} (h : d ∈ escapedCode code) :
    IsPrintable d := by
  cases code with
  | char c => exact isPrintable_of_mem_escapedChar h
  | half k => exact isPrintable_of_mem_escapedUnit (by omega) h

theorem escapedChar_ne_nil (c : Char) : escapedChar c ≠ [] := by
  unfold escapedChar
  split_ifs <;> exact List.cons_ne_nil _ _

/-- A character beyond sixteen bits is written as a pair. -/
theorem escapedChar_pair {c : Char} (h : ¬ c.toNat < 0x10000) :
    escapedChar c = escapedUnit (0xD800 + (c.toNat - 0x10000) / 0x400) ++
      escapedUnit (0xDC00 + (c.toNat - 0x10000) % 0x400) := by
  unfold escapedChar
  split_ifs with h₁ h₂ h₃ h₄ h₅ h₆ h₇ hplain
  -- the characters with a short escape have small numbers
  iterate 7
    subst c
    exact absurd (by decide) h
  · simp only [Bool.and_eq_true, decide_eq_true_eq] at hplain
    omega
  · rfl

/-! ## The units of a code point -/

/-- The code points that the units of a code point stand for: the code point itself, or the halves
of the pair that a character is written as. -/
def units : CodePoint → List CodePoint
  | .char c =>
    if c.toNat < 0x10000 then [.char c]
    else
      let n := c.toNat - 0x10000
      [.ofNat (0xD800 + n / 0x400), .ofNat (0xDC00 + n % 0x400)]
  | .half k => [.half k]

/-- The number of a half stands for the half. -/
theorem ofNat_half {n : Nat} (h : n < 0x800) : CodePoint.ofNat (0xD800 + n) = .half ⟨n, h⟩ := by
  rw [CodePoint.ofNat, dif_pos (by omega)]
  simp only [Nat.add_sub_cancel_left]

/-- The number of a character stands for the character. -/
theorem ofNat_toNat (c : Char) : CodePoint.ofNat c.toNat = .char c := by
  have hvalid := not_surrogate c
  rw [CodePoint.ofNat, dif_neg (by omega), Char.ofNat_toNat]

/-- The halves of a character that is written as a pair. -/
theorem exists_halves {c : Char} (h : ¬ c.toNat < 0x10000) :
    ∃ high low : Fin 0x800, high.val < 0x400 ∧ 0x400 ≤ low.val ∧ CodePoint.pair high low = c ∧
      units (.char c) = [.half high, .half low] := by
  have hmax := toNat_lt c
  refine ⟨⟨(c.toNat - 0x10000) / 0x400, by omega⟩, ⟨0x400 + (c.toNat - 0x10000) % 0x400, by omega⟩,
    by dsimp only; omega, by dsimp only; omega, ?_, ?_⟩
  · have hpair : 0x10000 + (c.toNat - 0x10000) / 0x400 * 0x400 +
        (0x400 + (c.toNat - 0x10000) % 0x400 - 0x400) = c.toNat := by omega
    rw [CodePoint.pair, hpair, Char.ofNat_toNat]
  · rw [units, if_neg h]
    simp only [← ofNat_half, ← Nat.add_assoc]

/-! ## Joining halves -/

theorem joined_char (c : Char) (codes : List CodePoint) :
    CodePoint.joined (.char c :: codes) = .char c :: CodePoint.joined codes := by
  rw [CodePoint.joined]
  rintro high low rest ⟨⟩

theorem joined_pair {high low : Fin 0x800} (hhigh : high.val < 0x400) (hlow : 0x400 ≤ low.val)
    (codes : List CodePoint) :
    CodePoint.joined (.half high :: .half low :: codes) =
      .char (CodePoint.pair high low) :: CodePoint.joined codes := by
  rw [CodePoint.joined, if_pos (by simp [hhigh, hlow])]

/-- A half stays where no low half follows it, and a low half stays anyway. -/
theorem joined_half {k : Fin 0x800} {codes : List CodePoint}
    (h : ∀ low : Fin 0x800, codes.head? = some (.half low) → low.val < 0x400 ∨ 0x400 ≤ k.val) :
    CodePoint.joined (.half k :: codes) = .half k :: CodePoint.joined codes := by
  match codes with
  | [] => rfl
  | .char c :: rest =>
    rw [CodePoint.joined]
    rintro high low rest ⟨⟩ ⟨⟩
  | .half low :: rest =>
    rw [CodePoint.joined, if_neg]
    have hlow := h low rfl
    simp only [Bool.and_eq_true, decide_eq_true_eq]
    omega

/-- Where the units of code points begin with a low half, the code points do. -/
theorem head?_flatMap_units {codes : List CodePoint} {low : Fin 0x800}
    (h : (codes.flatMap units).head? = some (.half low)) :
    low.val < 0x400 ∨ codes.head? = some (.half low) := by
  match codes with
  | [] => cases h
  | .half k :: rest => exact .inr h
  | .char c :: rest =>
    by_cases hbasic : c.toNat < 0x10000
    · rw [List.flatMap_cons, units, if_pos hbasic] at h
      cases h
    · obtain ⟨high, low', hhigh, -, -, hunits⟩ := exists_halves hbasic
      rw [List.flatMap_cons, hunits] at h
      obtain rfl : high = low := by simpa using h
      exact .inl hhigh

/-- **Joining the units of code points** joins the code points. -/
theorem joined_flatMap_units (codes : List CodePoint) :
    CodePoint.joined (codes.flatMap units) = CodePoint.joined codes := by
  fun_induction CodePoint.joined codes with
  | case1 high low rest hpair ih =>
    simp only [Bool.and_eq_true, decide_eq_true_eq] at hpair
    exact (joined_pair hpair.1 hpair.2 _).trans (congrArg _ ih)
  | case2 high low rest hpair ih =>
    refine (if_neg hpair).trans (congrArg _ ih)
  | case3 code rest hnot ih =>
    rw [List.flatMap_cons, ← ih]
    cases code with
    | half k =>
      refine joined_half fun low hlow => (head?_flatMap_units hlow).imp_right fun hhead => ?_
      cases rest with
      | nil => cases hhead
      | cons code rest =>
        obtain rfl : code = .half low := by simpa using hhead
        exact absurd rfl (hnot k low rest rfl)
    | char c =>
      by_cases hbasic : c.toNat < 0x10000
      · rw [units, if_pos hbasic]
        exact joined_char c _
      · obtain ⟨high, low, hhigh, hlow, hpair, hunits⟩ := exists_halves hbasic
        rw [hunits, ← hpair]
        exact joined_pair hhigh hlow _
  | case4 => rfl

/-! ## Reading units -/

theorem units?_short {e c : Char} (h : shortEscape? e = some c) (fuel : Nat) (rest : List Char) :
    units? (fuel + 1) ('\\' :: e :: rest) =
      (units? fuel rest).map fun (codes, tail) => (.char c :: codes, tail) := by
  have hne : e ≠ 'u' := by
    rintro rfl
    cases h
  rw [units?, h]
  · cases units? fuel rest <;> rfl
  · exact hne

/-- The escape of a unit. -/
theorem units?_escapedUnit {n : Nat} (h : n < 0x10000) (fuel : Nat) (rest : List Char) :
    units? (fuel + 1) (escapedUnit n ++ rest) =
      (units? fuel rest).map fun (codes, tail) => (.ofNat n :: codes, tail) := by
  simp only [escapedUnit, List.cons_append, units?, hexUnit?_hexPadded h, Option.bind_eq_bind,
    Option.bind_some, Option.pure_def]
  cases units? fuel rest <;> rfl

/-- Reading what is written for a character, unit by unit. -/
theorem units?_escapedChar (fuel : Nat) (c : Char) (rest : List Char) :
    units? (fuel + (units (.char c)).length) (escapedChar c ++ rest) =
      (units? fuel rest).map fun (codes, tail) => (units (.char c) ++ codes, tail) := by
  have hmax := toNat_lt c
  by_cases hbasic : c.toNat < 0x10000
  · have hunits : units (.char c) = [.char c] := if_pos hbasic
    rw [hunits]
    unfold escapedChar
    split_ifs with h₁ h₂ h₃ h₄ h₅ h₆ h₇ hplain
    -- seven characters have a short escape
    iterate 7
      subst c
      exact units?_short rfl fuel rest
    · have hguard : (0x20 ≤ c.toNat && c ≠ '\\') = true := by
        simp only [Bool.and_eq_true, decide_eq_true_eq] at hplain ⊢
        exact ⟨hplain.1, h₂⟩
      rw [List.singleton_append, List.length_singleton, units?, guard, if_pos hguard]
      · cases units? fuel rest <;> rfl
      · exact h₁
      · exact fun _ hc _ => h₂ hc
      · exact fun _ _ hc _ => h₂ hc
    · rw [← ofNat_toNat c]
      exact units?_escapedUnit hbasic fuel rest
  · have hunits : units (.char c) = [.ofNat (0xD800 + (c.toNat - 0x10000) / 0x400),
        .ofNat (0xDC00 + (c.toNat - 0x10000) % 0x400)] := if_neg hbasic
    rw [hunits, escapedChar_pair hbasic, List.append_assoc, List.length_cons, List.length_singleton,
      units?_escapedUnit (by omega), units?_escapedUnit (by omega), Option.map_map]
    rfl

/-- Reading what is written for a code point, unit by unit. -/
theorem units?_escapedCode (fuel : Nat) (code : CodePoint) (rest : List Char) :
    units? (fuel + (units code).length) (escapedCode code ++ rest) =
      (units? fuel rest).map fun (codes, tail) => (units code ++ codes, tail) := by
  cases code with
  | char c => exact units?_escapedChar fuel c rest
  | half k =>
    have hread := units?_escapedUnit (show 0xD800 + k.val < 0x10000 by omega) fuel rest
    rw [ofNat_half k.isLt] at hread
    exact hread

/-! ## Strings -/

theorem units?_flatMap {fuel : Nat} {codes : List CodePoint}
    (h : (codes.flatMap units).length < fuel) (rest : List Char) :
    units? fuel (codes.flatMap escapedCode ++ '"' :: rest) = some (codes.flatMap units, rest) := by
  induction codes generalizing fuel with
  | nil =>
    obtain ⟨fuel, rfl⟩ := Nat.exists_eq_succ_of_ne_zero (Nat.ne_zero_of_lt h)
    rfl
  | cons code codes ih =>
    rw [List.flatMap_cons, List.length_append] at h
    obtain ⟨fuel, rfl⟩ := Nat.exists_eq_add_of_le' (show (units code).length ≤ fuel by omega)
    rw [List.flatMap_cons, List.append_assoc, units?_escapedCode, ih (by omega), List.flatMap_cons]
    rfl

theorem length_units_le (code : CodePoint) : (units code).length ≤ (escapedCode code).length := by
  have hunit : ∀ n, 1 ≤ (escapedUnit n).length := fun n => by
    rw [escapedUnit, List.length_cons]
    omega
  cases code with
  | half k => exact hunit _
  | char c =>
    by_cases hbasic : c.toNat < 0x10000
    · rw [units, if_pos hbasic]
      exact List.length_pos_iff.2 (escapedChar_ne_nil c)
    · obtain ⟨high, low, -, -, -, hunits⟩ := exists_halves hbasic
      rw [hunits, escapedCode, escapedChar_pair hbasic, List.length_append]
      exact Nat.add_le_add (hunit _) (hunit _)

theorem length_flatMap_units_le (codes : List CodePoint) :
    (codes.flatMap units).length ≤ (codes.flatMap escapedCode).length := by
  induction codes with
  | nil => exact Nat.le_refl 0
  | cons code codes ih =>
    have hcode := length_units_le code
    simp only [List.flatMap_cons, List.length_append]
    omega

/-- **A quoted string is read back**, with what follows its quote left over. -/
theorem stringBody?_quoted (codes : List CodePoint) (rest : List Char) :
    stringBody? (codes.flatMap escapedCode ++ '"' :: rest) =
      some (CodePoint.joined codes, rest) := by
  have hlength := length_flatMap_units_le codes
  rw [stringBody?, units?_flatMap (by rw [List.length_append]; omega), Option.map_some]
  simp only [joined_flatMap_units]

theorem toList_quoteText (codes : List CodePoint) :
    (quoteText codes).toList = '"' :: (codes.flatMap escapedCode ++ ['"']) := by
  rw [quoteText, String.toList_ofList, List.cons_append]

theorem isPrintable_of_mem_quoteText {codes : List CodePoint} {c : Char}
    (h : c ∈ (quoteText codes).toList) : IsPrintable c := by
  rw [toList_quoteText] at h
  rcases List.mem_cons.1 h with rfl | h
  · decide
  · rcases List.mem_append.1 h with h | h
    · obtain ⟨code, -, hcode⟩ := List.mem_flatMap.1 h
      exact isPrintable_of_mem_escapedCode hcode
    · obtain rfl := List.mem_singleton.1 h
      decide

end StorageReply.Json

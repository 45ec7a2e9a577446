import Mathlib.Algebra.Order.Floor.Semifield
import Mathlib.Data.Rat.Floor
import Mathlib.Tactic.Ring
import StorageReply.Proofs.Number.Rounding

/-!
# Overflow and scaling

A quotient is rounded to an infinity from half the way between the greatest number and `2 ^ 1024`
on, for there the tie goes to the even significand (`isFinite_ofRatio_iff`).

A power of two changes the exponent of a number only, so a quotient may be multiplied by it before
it is rounded as well as afterwards (`scaled_ofRatio`). That fails for a quotient so small that it
is rounded at the least exponent; but its integer part is zero either way
(`truncated?_scaled_ofRatio`).
-/

namespace StorageReply.Number

/-! ## Bounds of rounded integers -/

theorem roundHalfEven_tie {k : Nat} (hk : 0 < k) : roundHalfEven (4 * k - 1) 2 = 2 * k := by
  have hquotient : (4 * k - 1) / 2 = 2 * k - 1 := by omega
  have hrest : (4 * k - 1) % 2 = 1 := by omega
  simp only [roundHalfEven, hquotient, hrest, lt_irrefl, if_false, Nat.mul_one]
  omega

/-- Rounding stays below an even integer just when the quotient is more than half a unit below
it. -/
theorem roundHalfEven_lt_iff {a b k : Nat} (hb : 0 < b) (hk : 0 < k) :
    roundHalfEven a b < 2 * k ↔ (a : ℚ) / b < 2 * k - 1 / 2 := by
  obtain ⟨hlower, hupper⟩ := abs_le.1 (abs_roundHalfEven_sub_le a hb)
  constructor
  · intro hlt
    have hle : (roundHalfEven a b : ℚ) + 1 ≤ 2 * k := by exact_mod_cast hlt
    refine lt_of_le_of_ne (by linarith) fun htie => ?_
    have hb' : (b : ℚ) ≠ 0 := Nat.cast_ne_zero.2 hb.ne'
    have hhalf : a * 2 = (4 * k - 1) * b := by
      rw [div_eq_iff hb'] at htie
      have hcast : ((4 * k - 1 : Nat) : ℚ) = 4 * k - 1 := by
        rw [Nat.cast_sub (by omega)]
        push_cast
        rfl
      refine Nat.cast_injective (R := ℚ) ?_
      rw [Nat.cast_mul, Nat.cast_mul, hcast, htie]
      push_cast
      ring
    rw [roundHalfEven_congr hb two_pos hhalf, roundHalfEven_tie hk] at hlt
    exact lt_irrefl _ hlt
  · intro hlt
    have hcast : (roundHalfEven a b : ℚ) < 2 * k := by linarith
    exact_mod_cast hcast

/-- Rounding does not go below an integer. -/
theorem le_roundHalfEven {a b k : Nat} (hb : 0 < b) (h : (k : ℚ) ≤ a / b) :
    k ≤ roundHalfEven a b := by
  have hlower := (abs_le.1 (abs_roundHalfEven_sub_le a hb)).1
  have hcast : (k : ℚ) < roundHalfEven a b + 1 := by linarith
  exact Nat.lt_succ_iff.1 (by exact_mod_cast hcast)

namespace Binary64

section RoundAt

variable {den : Nat} (hden : 0 < den) (num : Nat) (e : Int)

include hden

/-- What is rounded at an exponent lies within half a unit of the last place. -/
theorem abs_roundAt_sub_le :
    |(roundAt num den e : ℚ) * 2 ^ e - num / den| ≤ 2 ^ e / 2 := by
  have hpow : (0 : ℚ) < 2 ^ e := by positivity
  have h := abs_roundHalfEven_sub_le (quotientAt 2 num den e).1 (quotientAt_pos two_pos hden num e)
  rw [cast_quotientAt two_pos hden, ← roundAt_eq, Nat.cast_ofNat, zpow_neg] at h
  have heq : (roundAt num den e : ℚ) * 2 ^ e - num / den =
      (roundAt num den e - num / den * (2 ^ e)⁻¹) * 2 ^ e := by field_simp
  rw [heq, abs_mul, abs_of_pos hpow]
  linarith [mul_le_mul_of_nonneg_right h hpow.le]

/-- A significand has no more than 53 bits after rounding just when the quotient is more than half a
unit of the last place below the first one of 54 bits. -/
theorem roundAt_lt_iff :
    roundAt num den e < 2 ^ 53 ↔ (num : ℚ) / den < (2 ^ 53 - 1 / 2) * 2 ^ e := by
  have hpow : (0 : ℚ) < 2 ^ e := by positivity
  have heven : 2 ^ 53 = 2 * 2 ^ 52 := rfl
  rw [roundAt_eq, heven, roundHalfEven_lt_iff (quotientAt_pos two_pos hden num e) (by positivity),
    cast_quotientAt two_pos hden, Nat.cast_ofNat, zpow_neg, ← div_eq_mul_inv, div_lt_iff₀ hpow]
  norm_num

theorem roundAt_le (h : (num : ℚ) / den < 2 ^ (53 + e)) : roundAt num den e ≤ 2 ^ 53 := by
  have hpow : (0 : ℚ) < 2 ^ e := by positivity
  have h53 : (2 : ℚ) ^ (53 + e) = 2 ^ 53 * 2 ^ e := zpow_two_add 53 e
  have hupper := (abs_le.1 (abs_roundAt_sub_le hden num e)).2
  have hlt : (roundAt num den e : ℚ) < 2 ^ 53 + 1 := by
    refine lt_of_mul_lt_mul_right ?_ hpow.le
    rw [h53] at h
    linarith
  exact Nat.lt_succ_iff.1 (by exact_mod_cast hlt)

theorem le_roundAt {k : Nat} (h : k * 2 ^ e ≤ (num : ℚ) / den) : k ≤ roundAt num den e := by
  have hpow : (0 : ℚ) < 2 ^ e := by positivity
  rw [roundAt_eq]
  refine le_roundHalfEven (quotientAt_pos two_pos hden num e) ?_
  rwa [cast_quotientAt two_pos hden, Nat.cast_ofNat, zpow_neg, ← div_eq_mul_inv, le_div_iff₀ hpow]

end RoundAt

/-- The rounded integer is determined by the value that is rounded. -/
theorem roundAt_eq_roundAt {num den num' den' : Nat} (hden : 0 < den) (hden' : 0 < den')
    {e e' : Int} (h : (num : ℚ) / den * 2 ^ (-e) = num' / den' * 2 ^ (-e')) :
    roundAt num den e = roundAt num' den' e' := by
  have hpos := quotientAt_pos two_pos hden num e
  have hpos' := quotientAt_pos two_pos hden' num' e'
  rw [roundAt_eq, roundAt_eq]
  refine roundHalfEven_congr hpos hpos' ?_
  rw [← Nat.cast_ofNat, ← cast_quotientAt two_pos hden, ← cast_quotientAt two_pos hden',
    div_eq_div_iff (Nat.cast_ne_zero.2 hpos.ne') (Nat.cast_ne_zero.2 hpos'.ne')] at h
  exact_mod_cast h

/-! ## Overflow -/

/-- Half the way between the greatest number and the next one, if there were one. -/
def overflowBound : Nat := 2 ^ 1024 - 2 ^ 970

theorem cast_overflowBound : (overflowBound : ℚ) = (2 ^ 53 - 1 / 2) * 2 ^ (971 : Int) := by
  have h971 : (2 : ℚ) ^ (971 : Int) = 2 * 2 ^ (970 : Int) := zpow_one_add₀ two_ne_zero 970
  have h1024 : (2 : ℚ) ^ (1024 : Int) = 2 ^ 53 * 2 ^ (971 : Int) := zpow_two_add 53 971
  have hle : (2 : Nat) ^ 970 ≤ 2 ^ 1024 := pow_le_pow_right₀ one_le_two (by decide)
  have hcast : (overflowBound : ℚ) = 2 ^ (1024 : Int) - 2 ^ (970 : Int) := by
    rw [overflowBound, Nat.cast_sub hle, Nat.cast_pow, Nat.cast_pow]
    rfl
  rw [hcast, h1024, h971]
  ring

theorem div_lt_overflowBound_iff {num den : Nat} (hden : 0 < den) :
    (num : ℚ) / den < overflowBound ↔ num < overflowBound * den := by
  rw [div_lt_iff₀ (Nat.cast_pos.2 hden), ← Nat.cast_mul, Nat.cast_lt]

theorem isFinite_bounded (negative : Bool) (m : Nat) (e : Int) :
    (bounded negative m e).isFinite = true ↔ e ≤ 971 := by
  rw [bounded]
  split
  · exact iff_of_false Bool.false_ne_true (by omega)
  · exact iff_of_true rfl (by omega)

theorem isFinite_packed (negative : Bool) (m : Nat) (e : Int) :
    (packed negative m e).isFinite = true ↔ e < 971 ∨ e = 971 ∧ m < 2 ^ 53 := by
  rw [packed]
  split
  · rw [isFinite_bounded]
    omega
  · rw [isFinite_bounded]
    omega

/-- **A quotient is rounded to a finite number just when it is below the bound of overflow.** -/
theorem isFinite_ofRatio_iff {num den : Nat} (hden : 0 < den) (negative : Bool) :
    (ofRatio negative num den).isFinite = true ↔ (num : ℚ) / den < overflowBound := by
  rcases Nat.eq_zero_or_pos num with rfl | hnum
  · refine iff_of_true rfl ?_
    rw [Nat.cast_zero, zero_div, cast_overflowBound]
    positivity
  · obtain ⟨-, hlt, hge⟩ := (roundingExponent_eq_iff hnum hden).1 rfl
    rw [ofRatio_eq hnum.ne', isFinite_packed]
    generalize roundingExponent num den = e at hlt hge ⊢
    rcases lt_trichotomy e 971 with he | rfl | he
    · refine iff_of_true (.inl he) (hlt.trans ?_)
      have hle : (2 : ℚ) ^ (53 + e) ≤ 2 ^ (52 + 971 : Int) :=
        zpow_le_zpow_right₀ one_le_two (by omega)
      have hpow : (0 : ℚ) < 2 ^ (971 : Int) := by positivity
      have h52 : (2 : ℚ) ^ (52 + 971 : Int) = 2 ^ 52 * 2 ^ (971 : Int) := zpow_two_add 52 971
      rw [h52] at hle
      rw [cast_overflowBound]
      generalize (2 : ℚ) ^ (971 : Int) = unit at hpow hle ⊢
      linarith
    · rw [roundAt_lt_iff hden, cast_overflowBound]
      simp
    · refine iff_of_false (by omega) (not_lt.2 ?_)
      have hle : (2 : ℚ) ^ (53 + 971 : Int) ≤ 2 ^ (52 + e) :=
        zpow_le_zpow_right₀ one_le_two (by omega)
      have hpow : (0 : ℚ) < 2 ^ (971 : Int) := by positivity
      have h53 : (2 : ℚ) ^ (53 + 971 : Int) = 2 ^ 53 * 2 ^ (971 : Int) := zpow_two_add 53 971
      have hge' := hge.resolve_left (by omega)
      rw [h53] at hle
      rw [cast_overflowBound]
      generalize (2 : ℚ) ^ (971 : Int) = unit at hpow hle ⊢
      linarith

theorem bounded_eq (negative : Bool) (m : Nat) (e : Int) :
    bounded negative m e = .infinite negative ∨ bounded negative m e = .finite negative m e := by
  rw [bounded]
  split
  · exact .inl rfl
  · exact .inr rfl

/-- Rounding gives a finite number or an infinity, of the sign asked for. -/
theorem ofRatio_eq_infinite_or_finite (negative : Bool) (num den : Nat) :
    ofRatio negative num den = .infinite negative ∨
      ∃ m e, ofRatio negative num den = .finite negative m e := by
  by_cases hnum : num = 0
  · rw [ofRatio, if_pos hnum]
    exact .inr ⟨_, _, rfl⟩
  · rw [ofRatio_eq hnum, packed]
    split
    · exact (bounded_eq _ _ _).imp_right fun h => ⟨_, _, h⟩
    · exact (bounded_eq _ _ _).imp_right fun h => ⟨_, _, h⟩

/-- From the bound of overflow on, quotients are rounded to an infinity. -/
theorem ofRatio_of_overflowBound_le {num den : Nat} (hden : 0 < den)
    (h : overflowBound ≤ (num : ℚ) / den) (negative : Bool) :
    ofRatio negative num den = .infinite negative := by
  refine (ofRatio_eq_infinite_or_finite negative num den).resolve_right ?_
  rintro ⟨m, e, hfinite⟩
  have := (isFinite_ofRatio_iff hden negative).1 (by rw [hfinite]; rfl)
  exact absurd this (not_lt.2 h)

/-- Less than half the least number is rounded to zero. -/
theorem ofRatio_of_tiny {num den : Nat} (hden : 0 < den)
    (h : (num : ℚ) / den < 2 ^ (-1075 : Int)) (negative : Bool) :
    ofRatio negative num den = signedZero negative := by
  rcases Nat.eq_zero_or_pos num with rfl | hnum
  · rfl
  · have hhalf : (2 : ℚ) ^ (-1075 : Int) = 2 ^ (-1074 : Int) / 2 := by
      rw [eq_div_iff two_ne_zero, ← zpow_add_one₀ two_ne_zero]
      rfl
    have he : roundingExponent num den = -1074 := by
      refine (roundingExponent_eq_iff hnum hden).2 ⟨le_rfl, h.trans ?_, .inl rfl⟩
      exact zpow_lt_zpow_right₀ one_lt_two (by decide)
    have hround : roundAt num den (-1074) = 0 := by
      refine roundAt_eq_of_near hden ?_
      rw [Nat.cast_zero, zero_mul, sub_zero, abs_of_nonneg (by positivity)]
      exact h.trans_eq hhalf
    rw [ofRatio_eq hnum.ne', he, hround]
    rfl

/-! ## Scaling -/

theorem scaled_finite (negative : Bool) (m : Nat) (e : Int) (factor : Nat) :
    (finite negative m e).scaled factor =
      ofRatio negative ((powerRatio 2 m e).1 * factor) (powerRatio 2 m e).2 := by
  rw [← ratio_eq]
  rfl

section Scaling

variable {m : Nat} {e : Int} (hlow : 2 ^ 52 ≤ m) (hhigh : m < 2 ^ 53) (hleast : -1074 ≤ e)

include hlow hhigh hleast

/-- The quotient of a significand of 53 bits is rounded to it. -/
theorem ofRatio_of_eq {num den : Nat} (hden : 0 < den) (hvalue : (num : ℚ) / den = m * 2 ^ e)
    (negative : Bool) : ofRatio negative num den = bounded negative m e := by
  have hpow : (0 : ℚ) < 2 ^ e := by positivity
  have hlow' : (2 : ℚ) ^ 52 ≤ m := by exact_mod_cast hlow
  have hhigh' : (m : ℚ) < 2 ^ 53 := by exact_mod_cast hhigh
  have hnum : 0 < num := by
    refine Nat.pos_of_ne_zero fun hzero => ?_
    have hpos : (0 : ℚ) < m * 2 ^ e := by positivity
    rw [← hvalue, hzero, Nat.cast_zero, zero_div] at hpos
    exact lt_irrefl _ hpos
  have h53 : (2 : ℚ) ^ (53 + e) = 2 ^ 53 * 2 ^ e := zpow_two_add 53 e
  have h52 : (2 : ℚ) ^ (52 + e) = 2 ^ 52 * 2 ^ e := zpow_two_add 52 e
  have he : roundingExponent num den = e := by
    refine (roundingExponent_eq_iff hnum hden).2 ⟨hleast, ?_, .inr ?_⟩
    · rw [hvalue, h53]
      gcongr
    · rw [hvalue, h52]
      gcongr
  have hround : roundAt num den e = m := by
    refine roundAt_eq_of_near hden ?_
    rw [hvalue, sub_self, abs_zero]
    positivity
  rw [ofRatio_eq hnum.ne', he, hround, packed, if_pos hhigh]

/-- A power of two is added to the exponent. -/
theorem scaled_bounded (negative : Bool) (j : Nat) :
    (bounded negative m e).scaled (2 ^ j) = bounded negative m (e + j) := by
  by_cases he : 971 < e
  · rw [bounded, if_pos he, bounded, if_pos (by omega)]
    rfl
  · rw [bounded, if_neg he, scaled_finite]
    refine ofRatio_of_eq hlow hhigh (by omega) (powerRatio_pos two_pos m e) ?_ negative
    rw [Nat.cast_mul, mul_div_right_comm, cast_powerRatio, zpow_add₀ two_ne_zero, zpow_natCast,
      mul_assoc]
    push_cast
    rfl

end Scaling

/-- **A power of two scales a quotient before it is rounded as well as afterwards.** -/
theorem scaled_ofRatio {num den : Nat} (hnum : 0 < num) (hden : 0 < den)
    (hnormal : (2 : ℚ) ^ (-1022 : Int) ≤ num / den) (negative : Bool) (j : Nat) :
    (ofRatio negative num den).scaled (2 ^ j) = ofRatio negative (num * 2 ^ j) den := by
  obtain ⟨hleast, hlt, hge⟩ := (roundingExponent_eq_iff hnum hden).1 rfl
  have hnum' : 0 < num * 2 ^ j := by positivity
  have hvalue : ((num * 2 ^ j : Nat) : ℚ) / den = num / den * 2 ^ j := by
    push_cast
    rw [mul_div_right_comm]
  rw [ofRatio_eq hnum.ne']
  generalize roundingExponent num den = e at hleast hlt hge ⊢
  have hge' : (2 : ℚ) ^ (52 + e) ≤ num / den := by
    rcases hge with rfl | hge
    · exact hnormal
    · exact hge
  have he : roundingExponent (num * 2 ^ j) den = e + j := by
    have hadd : ∀ k : Int, (2 : ℚ) ^ (k + (e + j)) = 2 ^ (k + e) * 2 ^ j := by
      intro k
      rw [← add_assoc, zpow_add₀ two_ne_zero, zpow_natCast]
    refine (roundingExponent_eq_iff hnum' hden).2 ⟨by omega, ?_, .inr ?_⟩
    · rw [hvalue, hadd]
      gcongr
    · rw [hvalue, hadd]
      gcongr
  have hround : roundAt (num * 2 ^ j) den (e + j) = roundAt num den e := by
    refine roundAt_eq_roundAt hden hden ?_
    rw [hvalue, neg_add, zpow_add₀ two_ne_zero, zpow_neg 2 (j : Int), zpow_natCast]
    field_simp
  rw [ofRatio_eq hnum'.ne', he, hround]
  have hlow : 2 ^ 52 ≤ roundAt num den e := by
    refine le_roundAt hden num e ?_
    have h52 : (2 : ℚ) ^ (52 + e) = 2 ^ 52 * 2 ^ e := zpow_two_add 52 e
    rwa [Nat.cast_pow, Nat.cast_ofNat, ← h52]
  rw [packed, packed]
  split
  · rename_i hhigh
    exact scaled_bounded hlow hhigh hleast negative j
  · rename_i hhigh
    -- rounding up gave one bit more, which is cut off
    have hcarry : roundAt num den e = 2 ^ 53 :=
      le_antisymm (roundAt_le hden num e hlt) (not_lt.1 hhigh)
    rw [hcarry, add_right_comm]
    exact scaled_bounded (by decide) (by decide) (by omega) negative j

/-! ## Integer parts -/

theorem truncated?_finite (m : Nat) (e : Int) :
    (finite false m e).truncated? = some (⌊(m : ℚ) * 2 ^ e⌋₊ : Int) := by
  have hcast := cast_powerRatio 2 m e
  rw [Nat.cast_ofNat] at hcast
  rw [← hcast, Nat.floor_div_eq_div, ← ratio_eq]
  rfl

theorem packed_eq_finite {m : Nat} {e : Int} (hm : m ≤ 2 ^ 53) (he : e < 971) (negative : Bool) :
    ∃ m' e', packed negative m e = finite negative m' e' ∧ (m' : ℚ) * 2 ^ e' = m * 2 ^ e := by
  rcases hm.lt_or_eq with hlt | rfl
  · rw [packed, if_pos hlt, bounded, if_neg (by omega)]
    exact ⟨m, e, rfl, rfl⟩
  · refine ⟨_, _, packed_carry (by omega) negative, ?_⟩
    rw [zpow_add_one₀ two_ne_zero]
    push_cast
    ring

/-- Rounding does not go above a power of two in range. -/
theorem exists_ofRatio_eq_of_lt {num den : Nat} (hden : 0 < den) {k : Int} (hlow : -1074 ≤ k)
    (hhigh : k ≤ 1023) (h : (num : ℚ) / den < 2 ^ k) (negative : Bool) :
    ∃ m e, ofRatio negative num den = finite negative m e ∧ (m : ℚ) * 2 ^ e ≤ 2 ^ k := by
  rcases Nat.eq_zero_or_pos num with rfl | hnum
  · refine ⟨0, -1074, rfl, ?_⟩
    rw [Nat.cast_zero, zero_mul]
    positivity
  · obtain ⟨-, hlt, hge⟩ := (roundingExponent_eq_iff hnum hden).1 rfl
    rw [ofRatio_eq hnum.ne']
    generalize roundingExponent num den = e at hlt hge ⊢
    have hpow : (0 : ℚ) < 2 ^ e := by positivity
    have hexponent : e = -1074 ∨ 52 + e < k :=
      hge.imp_right fun hge => zpow_two_lt.1 (hge.trans_lt h)
    -- the power is a multiple of the unit of the last place
    obtain ⟨j, hj⟩ : ∃ j : Nat, k = j + e := ⟨(k - e).toNat, by omega⟩
    have hunits : (2 : ℚ) ^ k = 2 ^ j * 2 ^ e := hj ▸ zpow_two_add j e
    have hupper := (abs_le.1 (abs_roundAt_sub_le hden num e)).2
    have hround : roundAt num den e ≤ 2 ^ j := by
      have hlt' : (roundAt num den e : ℚ) < 2 ^ j + 1 := by
        refine lt_of_mul_lt_mul_right ?_ hpow.le
        rw [hunits] at h
        linarith
      exact Nat.lt_succ_iff.1 (by exact_mod_cast hlt')
    obtain ⟨m, e', hpacked, hvalue⟩ :=
      packed_eq_finite (e := e) (roundAt_le hden num e hlt) (by omega) negative
    refine ⟨m, e', hpacked, ?_⟩
    rw [hvalue, hunits]
    gcongr
    exact_mod_cast hround

/-- A quotient has an integer part, as a number, just when it is below the bound of overflow. -/
theorem truncated?_ofRatio {num den : Nat} (hden : 0 < den) :
    (num < overflowBound * den → ∃ n : Nat, (ofRatio false num den).truncated? = some (n : Int)) ∧
      (overflowBound * den ≤ num → (ofRatio false num den).truncated? = none) := by
  rw [← not_lt, ← div_lt_overflowBound_iff hden]
  constructor
  · intro hlt
    rcases ofRatio_eq_infinite_or_finite false num den with hinfinite | ⟨m, e, hfinite⟩
    · have hfinite := (isFinite_ofRatio_iff hden false).2 hlt
      rw [hinfinite] at hfinite
      cases hfinite
    · rw [hfinite, truncated?_finite]
      exact ⟨_, rfl⟩
  · intro hge
    rw [ofRatio_of_overflowBound_le hden (not_lt.1 hge)]
    rfl

theorem truncated?_ofRatio_of_lt {num den : Nat} (hden : 0 < den)
    (h : (num : ℚ) / den < 2 ^ (-1 : Int)) : (ofRatio false num den).truncated? = some 0 := by
  obtain ⟨m, e, hfinite, hle⟩ := exists_ofRatio_eq_of_lt hden (by decide) (by decide) h false
  have hone : (m : ℚ) * 2 ^ e < 1 := hle.trans_lt (by norm_num)
  rw [hfinite, truncated?_finite, Nat.floor_eq_zero.2 hone]
  rfl

/-- **The integer part of a product with a power of two** is the same if the product is rounded
once. -/
theorem truncated?_scaled_ofRatio {num den : Nat} (hden : 0 < den) {j : Nat} (hj : j ≤ 1020) :
    ((ofRatio false num den).scaled (2 ^ j)).truncated? =
      (ofRatio false (num * 2 ^ j) den).truncated? := by
  by_cases hnormal : (2 : ℚ) ^ (-1022 : Int) ≤ num / den
  · have hnum : 0 < num := by
      refine Nat.pos_of_ne_zero fun hzero => not_lt.2 hnormal ?_
      rw [hzero, Nat.cast_zero, zero_div]
      positivity
    rw [scaled_ofRatio hnum hden hnormal]
  · have hsmall := not_le.1 hnormal
    have hscaled : (2 : ℚ) ^ (-1022 : Int) * 2 ^ j < 2 ^ (-1 : Int) := by
      rw [← zpow_natCast, ← zpow_add₀ two_ne_zero]
      exact zpow_two_lt.2 (by omega)
    obtain ⟨m, e, hfinite, hle⟩ := exists_ofRatio_eq_of_lt hden (by decide) (by decide) hsmall false
    rw [hfinite, scaled_finite, truncated?_ofRatio_of_lt (powerRatio_pos two_pos m e),
      truncated?_ofRatio_of_lt hden]
    · rw [Nat.cast_mul, mul_div_right_comm]
      push_cast
      exact (mul_lt_mul_of_pos_right hsmall (by positivity)).trans hscaled
    · rw [Nat.cast_mul, mul_div_right_comm, cast_powerRatio]
      push_cast
      exact (mul_le_mul_of_nonneg_right hle (by positivity)).trans_lt hscaled

/-- An integer of 53 bits is rounded to itself. -/
theorem truncated?_ofRatio_natural {n : Nat} (h : n < 2 ^ 53) :
    (ofRatio false n 1).truncated? = some (n : Int) := by
  rcases Nat.eq_zero_or_pos n with rfl | hn
  · exact truncated?_ofRatio_of_lt one_pos (by norm_num)
  · have hlog : n.log2 < 53 := (Nat.log2_lt hn.ne').2 h
    have hlow : 2 ^ 52 ≤ n * 2 ^ (52 - n.log2) :=
      calc 2 ^ 52 = 2 ^ n.log2 * 2 ^ (52 - n.log2) := by rw [← pow_add]; congr 1; omega
        _ ≤ n * 2 ^ (52 - n.log2) := Nat.mul_le_mul_right _ (Nat.log2_self_le hn.ne')
    have hhigh : n * 2 ^ (52 - n.log2) < 2 ^ 53 :=
      calc n * 2 ^ (52 - n.log2) < 2 ^ (n.log2 + 1) * 2 ^ (52 - n.log2) :=
            Nat.mul_lt_mul_of_pos_right Nat.lt_log2_self (by positivity)
        _ = 2 ^ 53 := by rw [← pow_add]; congr 1; omega
    have hvalue : ((n * 2 ^ (52 - n.log2) : Nat) : ℚ) * 2 ^ (-((52 - n.log2 : Nat) : Int)) = n := by
      rw [zpow_neg, zpow_natCast]
      push_cast
      field_simp
    have hone : (n : ℚ) / (1 : Nat) = n := by rw [Nat.cast_one, div_one]
    rw [ofRatio_of_eq hlow hhigh (by omega) one_pos (hone.trans hvalue.symm) false, bounded,
      if_neg (by omega), truncated?_finite, hvalue, Nat.floor_natCast]

end Binary64

end StorageReply.Number

import Mathlib.Tactic.Ring
import StorageReply.Number.Decimal
import StorageReply.Proofs.Number.Numerals
import StorageReply.Proofs.Number.Overflow

/-!
# Decimals that read back

The decimal that is written for a floating-point number reads back as this number
(`ofDecimal_shortest`). The search for it ends with a decimal that reads back, because one with
seventeen digits always does (`near_significant`): its last place is less than a unit of the
binary one, since `2 ^ 53` is less than `10 ^ 16`. A decimal is read as the number nearest to it
(`ofDecimal_eq_ofRatio`), so zeros at its end may be cut off (`ofDecimal_mul_pow`).
-/

namespace StorageReply.Number

/-! ## Counting digits -/

theorem digitCount_pos (n : Nat) : 0 < digitCount n :=
  List.length_pos_iff.2 Nat.toDigits_ne_nil

theorem lt_pow_digitCount (n : Nat) : n < 10 ^ digitCount n :=
  (length_naturalNumeral_le_iff (digitCount_pos n)).1 le_rfl

theorem pow_le_of_digitCount {n k : Nat} (hn : 0 < n) (h : digitCount n = k + 1) : 10 ^ k ≤ n := by
  rcases Nat.eq_zero_or_pos k with rfl | hk
  · exact hn
  · refine not_lt.1 fun hlt => ?_
    have := (length_naturalNumeral_le_iff hk).2 hlt
    rw [digitCount] at h
    omega

/-! ## Reading a decimal -/

namespace Binary64

/-- The decimals whose size is out of range are read as infinite: they are beyond the bound of
overflow. -/
theorem overflowBound_lt_ten_pow : (overflowBound : ℚ) < 10 ^ (310 : Int) := by
  have h : overflowBound < 10 ^ 310 := by decide +kernel
  exact_mod_cast h

/-- Half the least number of the format is greater than the decimals that are read as zero. -/
theorem ten_pow_lt_two_pow : (10 : ℚ) ^ (-331 : Int) < 2 ^ (-1075 : Int) := by
  have h : 2 ^ 1075 < 10 ^ 331 := by decide +kernel
  rw [zpow_neg, zpow_neg]
  refine inv_strictAnti₀ (by positivity) ?_
  exact_mod_cast h

/-- **A decimal is read as the number nearest to it.** The bounds on its size only keep powers small
that would be far out of range. -/
theorem ofDecimal_eq_ofRatio (negative : Bool) (digits : Nat) (exponent : Int) :
    ofDecimal negative digits exponent =
      ofRatio negative (powerRatio 10 digits exponent).1 (powerRatio 10 digits exponent).2 := by
  have hratio : (if exponent < 0 then ofRatio negative digits (Nat.pow 10 exponent.natAbs)
      else ofRatio negative (digits * Nat.pow 10 exponent.natAbs) 1) =
        ofRatio negative (powerRatio 10 digits exponent).1 (powerRatio 10 digits exponent).2 := by
    rw [powerRatio]
    split <;> rfl
  have hden := powerRatio_pos (by decide : 0 < 10) digits exponent
  have hvalue : ((powerRatio 10 digits exponent).1 : ℚ) / (powerRatio 10 digits exponent).2 =
      digits * 10 ^ exponent := cast_powerRatio 10 digits exponent
  rcases Nat.eq_zero_or_pos digits with rfl | hdigits
  · rw [ofDecimal, if_pos rfl, ← hratio, ofRatio, ofRatio, Nat.zero_mul, if_pos rfl, if_pos rfl,
      ite_self]
  · obtain ⟨k, hk⟩ := Nat.exists_eq_succ_of_ne_zero (digitCount_pos digits).ne'
    have hsize : ofDecimal negative digits exponent =
        if 310 < (digitCount digits : Int) + exponent then .infinite negative
        else if (digitCount digits : Int) + exponent < -330 then signedZero negative
        else ofRatio negative (powerRatio 10 digits exponent).1
          (powerRatio 10 digits exponent).2 := by
      rw [← hratio, ofDecimal, if_neg hdigits.ne']
      rfl
    rw [hsize]
    split
    · rename_i hlarge
      have hpow : (10 : ℚ) ^ k ≤ digits := by exact_mod_cast pow_le_of_digitCount hdigits hk
      have hfar : (10 : ℚ) ^ (310 : Int) ≤ digits * 10 ^ exponent :=
        calc (10 : ℚ) ^ (310 : Int) ≤ 10 ^ ((k : Int) + exponent) :=
              zpow_le_zpow_right₀ (by norm_num) (by omega)
          _ = 10 ^ k * 10 ^ exponent := by rw [zpow_add₀ (by norm_num), zpow_natCast]
          _ ≤ digits * 10 ^ exponent := by gcongr
      rw [ofRatio_of_overflowBound_le hden]
      exact hvalue ▸ overflowBound_lt_ten_pow.le.trans hfar
    · split
      · rename_i hsmall
        have hpow : (digits : ℚ) < 10 ^ digitCount digits := by
          exact_mod_cast lt_pow_digitCount digits
        have hfar : (digits : ℚ) * 10 ^ exponent < 10 ^ (-331 : Int) :=
          calc (digits : ℚ) * 10 ^ exponent < 10 ^ digitCount digits * 10 ^ exponent := by gcongr
            _ = 10 ^ ((digitCount digits : Int) + exponent) := by
              rw [zpow_add₀ (by norm_num), zpow_natCast]
            _ ≤ 10 ^ (-331 : Int) := zpow_le_zpow_right₀ (by norm_num) (by omega)
        rw [ofRatio_of_tiny hden]
        exact hvalue ▸ hfar.trans ten_pow_lt_two_pow
      · rfl

/-- Zeros at the end of a decimal may be cut off. -/
theorem ofDecimal_mul_pow (negative : Bool) (digits k : Nat) (exponent : Int) :
    ofDecimal negative (digits * 10 ^ k) exponent = ofDecimal negative digits (exponent + k) := by
  have hden := powerRatio_pos (by decide : 0 < 10) (digits * 10 ^ k) exponent
  have hden' := powerRatio_pos (by decide : 0 < 10) digits (exponent + k)
  rw [ofDecimal_eq_ofRatio, ofDecimal_eq_ofRatio]
  refine ofRatio_congr hden hden' ?_ negative
  have hvalue : ((powerRatio 10 (digits * 10 ^ k) exponent).1 : ℚ) /
      (powerRatio 10 (digits * 10 ^ k) exponent).2 =
        (powerRatio 10 digits (exponent + k)).1 / (powerRatio 10 digits (exponent + k)).2 := by
    rw [cast_powerRatio, cast_powerRatio, Nat.cast_ofNat, zpow_add₀ (by norm_num), zpow_natCast]
    push_cast
    ring
  rw [div_eq_div_iff (Nat.cast_ne_zero.2 hden.ne') (Nat.cast_ne_zero.2 hden'.ne')] at hvalue
  exact_mod_cast hvalue

/-- Cutting off the zeros at the end does not change how a decimal is read. -/
theorem ofDecimal_trimmed (negative : Bool) (fuel : Nat) (d : Decimal) :
    ofDecimal negative (d.trimmed fuel).digits (d.trimmed fuel).exponent =
      ofDecimal negative d.digits d.exponent := by
  induction fuel generalizing d with
  | zero => rfl
  | succ fuel ih =>
    rw [Decimal.trimmed]
    split
    · rename_i hzero
      have hcut : d.digits / 10 * 10 ^ 1 = d.digits := by omega
      have hread := ofDecimal_mul_pow negative (d.digits / 10) 1 d.exponent
      rw [hcut] at hread
      rw [ih, hread]
      rfl
    · rfl

/-- The sign takes no part in reading. -/
theorem ofDecimal_sign {digits m : Nat} {exponent e : Int}
    (h : ofDecimal false digits exponent = .finite false m e) (negative : Bool) :
    ofDecimal negative digits exponent = .finite negative m e := by
  rw [ofDecimal_eq_ofRatio] at h ⊢
  exact ofRatio_sign h negative

/-- **A decimal near to a number of the format is read as it.** -/
theorem ofDecimal_of_near {m : Nat} {e : Int} (h : IsNumber m e) {digits : Nat} {exponent : Int}
    (hdigits : 0 < digits) (hnear : Near m e (digits * 10 ^ exponent)) (negative : Bool) :
    ofDecimal negative digits exponent = .finite negative m e := by
  have hvalue : ((powerRatio 10 digits exponent).1 : ℚ) / (powerRatio 10 digits exponent).2 =
      digits * 10 ^ exponent := cast_powerRatio 10 digits exponent
  rw [ofDecimal_eq_ofRatio]
  exact ofRatio_of_near h (powerRatio_fst_pos (by decide) hdigits exponent)
    (powerRatio_pos (by decide) digits exponent) (hvalue ▸ hnear) negative

end Binary64

/-! ## Decimals of a given length -/

section Significant

variable {num den : Nat} (hnum : 0 < num) (hden : 0 < den)

include hden

/-- A power of ten is at most a quotient. -/
theorem reaches_iff (num : Nat) (k : Int) :
    (if k < 0 then den ≤ num * 10 ^ k.natAbs else den * 10 ^ k.natAbs ≤ num) ↔
      (10 : ℚ) ^ k ≤ num / den := by
  have hden' : (0 : ℚ) < den := by exact_mod_cast hden
  rw [le_div_iff₀ hden', ← @Nat.cast_le ℚ, ← @Nat.cast_le ℚ]
  push_cast
  split
  · rename_i hneg
    have hk : k = -(k.natAbs : ℤ) := by omega
    rw [hk, zpow_neg, zpow_natCast, Int.natAbs_neg, Int.natAbs_natCast,
      inv_mul_le_iff₀ (by positivity), mul_comm]
  · rename_i hneg
    have hk : k = (k.natAbs : ℤ) := by omega
    rw [hk, zpow_natCast, Int.natAbs_natCast, mul_comm]

include hnum

theorem zpow_decimalOrder_le : (10 : ℚ) ^ decimalOrder num den ≤ num / den := by
  have hden' : (0 : ℚ) < den := by exact_mod_cast hden
  rw [decimalOrder]
  simp only [Nat.pow_eq, reaches_iff hden]
  split
  · assumption
  · obtain ⟨k, hk⟩ := Nat.exists_eq_succ_of_ne_zero (digitCount_pos num).ne'
    have hlow : (10 : ℚ) ^ k ≤ num := by exact_mod_cast pow_le_of_digitCount hnum hk
    have hhigh : (den : ℚ) < 10 ^ digitCount den := by exact_mod_cast lt_pow_digitCount den
    rw [le_div_iff₀ hden']
    calc (10 : ℚ) ^ ((digitCount num : Int) - digitCount den - 1) * den
        ≤ 10 ^ ((digitCount num : Int) - digitCount den - 1) * 10 ^ digitCount den := by gcongr
      _ = 10 ^ k := by
        rw [← zpow_natCast, ← zpow_add₀ (by norm_num), ← zpow_natCast]
        congr 1
        omega
      _ ≤ num := hlow

/-- The decimal of a given length is as near as its last place allows. -/
theorem abs_significant_sub_le {count : Nat} (hcount : 0 < count) :
    |((significant num den count).digits : ℚ) * 10 ^ (significant num den count).exponent -
      num / den| ≤ 10 ^ (decimalOrder num den - ((count : Int) - 1)) / 2 := by
  set place : Int := decimalOrder num den - ((count : Int) - 1) with hplace
  have hpow : (0 : ℚ) < 10 ^ place := by positivity
  have hround : |(roundAtPlace num den place : ℚ) * 10 ^ place - num / den| ≤ 10 ^ place / 2 := by
    have hdigits : roundAtPlace num den place = roundHalfEven (quotientAt 10 num den place).1
        (quotientAt 10 num den place).2 := by
      rw [roundAtPlace, quotientAt]
      split <;> rfl
    have hten : 0 < 10 := by decide
    have h := abs_roundHalfEven_sub_le (quotientAt 10 num den place).1
      (quotientAt_pos hten hden num place)
    rw [cast_quotientAt hten hden, ← hdigits, Nat.cast_ofNat, zpow_neg] at h
    have heq : (roundAtPlace num den place : ℚ) * 10 ^ place - num / den =
        (roundAtPlace num den place - num / den * (10 ^ place)⁻¹) * 10 ^ place := by field_simp
    rw [heq, abs_mul, abs_of_pos hpow]
    linarith [mul_le_mul_of_nonneg_right h hpow.le]
  rw [significant, if_neg hnum.ne']
  simp only [← hplace]
  split
  · rename_i hfull
    -- rounding up gave one digit more, a zero, which is cut off
    obtain ⟨k, rfl⟩ := Nat.exists_eq_succ_of_ne_zero hcount.ne'
    have hcut : roundAtPlace num den place = roundAtPlace num den place / 10 * 10 := by
      rw [hfull, Nat.pow_eq, Nat.pow_succ, Nat.mul_div_cancel _ (by decide)]
    have heq : ((roundAtPlace num den place / 10 : Nat) : ℚ) * 10 ^ (place + 1) =
        (roundAtPlace num den place : ℚ) * 10 ^ place := by
      rw [zpow_add_one₀ (by norm_num)]
      conv_rhs => rw [hcut]
      push_cast
      ring
    rwa [heq]
  · exact hround

end Significant

/-! ## The shortest decimal -/

section Shortest

open Binary64

variable {m : Nat} {e : Int} (h : IsNumber m e) (hm : 0 < m)

include h hm

/-- **Seventeen digits are enough.** -/
theorem near_significant :
    Near m e ((significant (ratio m e).1 (ratio m e).2 17).digits *
      10 ^ (significant (ratio m e).1 (ratio m e).2 17).exponent) := by
  have hden : 0 < (ratio m e).2 := ratio_eq m e ▸ powerRatio_pos two_pos m e
  have hnum : 0 < (ratio m e).1 := ratio_eq m e ▸ powerRatio_fst_pos two_pos hm e
  have hvalue : ((ratio m e).1 : ℚ) / (ratio m e).2 = m * 2 ^ e :=
    ratio_eq m e ▸ cast_powerRatio 2 m e
  have hpow : (0 : ℚ) < 2 ^ e := by positivity
  have hdistance := abs_significant_sub_le hnum hden (by decide : 0 < 17)
  have horder := zpow_decimalOrder_le hnum hden
  have hplace : (10 : ℚ) ^ (decimalOrder (ratio m e).1 (ratio m e).2 - ((17 : Nat) - 1 : Int)) =
      10 ^ decimalOrder (ratio m e).1 (ratio m e).2 / 10 ^ 16 := by
    rw [zpow_sub₀ (by norm_num)]
    rfl
  rw [hvalue] at hdistance horder
  rw [hplace] at hdistance
  have hm' : (m : ℚ) + 1 ≤ 2 ^ 53 := by exact_mod_cast h.lt
  refine ⟨?_, fun hpower _ => ?_⟩
  · nlinarith
  · have hlower := (abs_le.1 hdistance).1
    rw [hpower] at hlower horder ⊢
    push_cast at hlower horder ⊢
    linarith

theorem readsAs_significant :
    (significant (ratio m e).1 (ratio m e).2 17).readsAs (.finite false m e) = true := by
  have hnear := near_significant h hm
  have hdigits : 0 < (significant (ratio m e).1 (ratio m e).2 17).digits := by
    refine Nat.pos_of_ne_zero fun hzero => ?_
    have hlower := (abs_lt.1 hnear.near).1
    have hm' : (1 : ℚ) ≤ m := by exact_mod_cast hm
    have hpow : (0 : ℚ) < 2 ^ e := by positivity
    rw [hzero, Nat.cast_zero, zero_mul] at hlower
    nlinarith
  rw [Decimal.readsAs, ofDecimal_of_near h hdigits hnear]
  exact beq_self_eq_true _

/-- The search ends with a decimal that reads back, at seventeen digits at the latest. -/
theorem readsAs_shortestFrom {fuel count : Nat} (hcount : count + fuel = 17) :
    (shortestFrom (.finite false m e) (ratio m e).1 (ratio m e).2 fuel count).readsAs
      (.finite false m e) = true := by
  induction fuel generalizing count with
  | zero =>
    obtain rfl : count = 17 := hcount
    exact readsAs_significant h hm
  | succ fuel ih =>
    simp only [shortestFrom]
    split
    · assumption
    · split
      · assumption
      · exact ih (by omega)

/-- **The shortest decimal of a number reads back as the number.** -/
theorem ofDecimal_shortest (negative : Bool) :
    ofDecimal negative (shortest m e).digits (shortest m e).exponent = .finite negative m e := by
  have hfound := eq_of_beq (readsAs_shortestFrom h hm (rfl : 1 + 16 = 17))
  rw [shortest, ofDecimal_trimmed]
  exact ofDecimal_sign hfound negative

theorem digits_shortest_pos : 0 < (shortest m e).digits := by
  refine Nat.pos_of_ne_zero fun hzero => ?_
  have hread := ofDecimal_shortest h hm false
  rw [hzero, ofDecimal, if_pos rfl, signedZero] at hread
  obtain ⟨-, rfl, -⟩ := finite.inj hread
  exact lt_irrefl 0 hm

end Shortest

end StorageReply.Number

import Mathlib.Algebra.Order.Field.Power
import Mathlib.Algebra.Order.Ring.Abs
import Mathlib.Data.Rat.Cast.Defs
import Mathlib.Tactic.FieldSimp
import Mathlib.Tactic.Linarith
import Mathlib.Tactic.NormNum
import Mathlib.Tactic.Positivity
import StorageReply.Number.Binary64

/-!
# Rounding to binary floating-point numbers

A quotient is rounded at an exponent that leaves a significand of 53 bits, or at the least exponent
if the quotient is too small for that (`roundingExponent_eq_iff`). So rounding depends on the value
of the quotient alone (`ofRatio_congr`), and a quotient that lies closer to a number of the format
than half the way to its neighbours is rounded to that number (`ofRatio_of_near`). The neighbour
below a power of two is nearer than the one above it, which is why `Near` asks for more there.
-/

namespace StorageReply.Number

/-! ## Rounding to integers -/

/-- The nearest integer is determined by the value of the quotient. -/
theorem roundHalfEven_congr {a b a' b' : Nat} (hb : 0 < b) (hb' : 0 < b') (h : a * b' = a' * b) :
    roundHalfEven a b = roundHalfEven a' b' := by
  have hscale : ∀ {c : Nat}, 0 < c → ∀ a b : Nat, roundHalfEven (c * a) (c * b) =
      roundHalfEven a b := by
    intro c hc a b
    have hlow : 2 * (c * (a % b)) < c * b ↔ 2 * (a % b) < b := by
      rw [Nat.mul_left_comm, Nat.mul_lt_mul_left hc]
    have hhigh : c * b < 2 * (c * (a % b)) ↔ b < 2 * (a % b) := by
      rw [Nat.mul_left_comm, Nat.mul_lt_mul_left hc]
    simp only [roundHalfEven, Nat.mul_div_mul_left _ _ hc, Nat.mul_mod_mul_left, hlow, hhigh]
  rw [← hscale hb' a b, ← hscale hb a' b', Nat.mul_comm b' a, h, Nat.mul_comm a' b,
    Nat.mul_comm b' b]

theorem abs_roundHalfEven_sub_le (a : Nat) {b : Nat} (hb : 0 < b) :
    |(roundHalfEven a b : ℚ) - a / b| ≤ 1 / 2 := by
  obtain ⟨hupper, hlower⟩ := roundHalfEven_near a hb
  have hb' : (0 : ℚ) < b := by exact_mod_cast hb
  have hupper' : 2 * ((roundHalfEven a b : ℚ) * b) ≤ 2 * a + b := by exact_mod_cast hupper
  have hlower' : 2 * (a : ℚ) ≤ 2 * (roundHalfEven a b * b) + b := by exact_mod_cast hlower
  have heq : (roundHalfEven a b : ℚ) - a / b = (roundHalfEven a b * b - a) / b := by
    field_simp
  have hhalf : |(roundHalfEven a b : ℚ) * b - a| ≤ b / 2 :=
    abs_le.2 ⟨by linarith, by linarith⟩
  rw [heq, abs_div, abs_of_pos hb', div_le_iff₀ hb']
  linarith

/-- A quotient that is nearer than one half to an integer is rounded to it. -/
theorem roundHalfEven_eq_of_near {a b k : Nat} (hb : 0 < b) (h : |(a : ℚ) / b - k| < 1 / 2) :
    roundHalfEven a b = k := by
  have hround := abs_le.1 (abs_roundHalfEven_sub_le a hb)
  have hk := abs_lt.1 h
  have hupper : (roundHalfEven a b : ℚ) < k + 1 := by linarith
  have hlower : (k : ℚ) < roundHalfEven a b + 1 := by linarith
  have hupper' : roundHalfEven a b < k + 1 := by exact_mod_cast hupper
  have hlower' : k < roundHalfEven a b + 1 := by exact_mod_cast hlower
  omega

/-! ## Quotients at an exponent -/

/-- A quotient divided by a power of a base, as a quotient. -/
def quotientAt (base num den : Nat) (e : Int) : Nat × Nat :=
  if e < 0 then (num * base ^ e.natAbs, den) else (num, den * base ^ e.natAbs)

theorem floorAt_eq (num den : Nat) (e : Int) :
    floorAt num den e = (quotientAt 2 num den e).1 / (quotientAt 2 num den e).2 := by
  rw [floorAt, quotientAt]
  split <;> rfl

theorem roundAt_eq (num den : Nat) (e : Int) :
    roundAt num den e = roundHalfEven (quotientAt 2 num den e).1 (quotientAt 2 num den e).2 := by
  rw [roundAt, quotientAt]
  split <;> rfl

section QuotientAt

variable {base den : Nat} (hbase : 0 < base) (hden : 0 < den)

include hbase hden

theorem quotientAt_pos (num : Nat) (e : Int) : 0 < (quotientAt base num den e).2 := by
  rw [quotientAt]
  split
  · exact hden
  · exact Nat.mul_pos hden (Nat.pow_pos hbase)

theorem cast_quotientAt (num : Nat) (e : Int) :
    ((quotientAt base num den e).1 : ℚ) / (quotientAt base num den e).2 =
      num / den * (base : ℚ) ^ (-e) := by
  have hbase' : (base : ℚ) ≠ 0 := by positivity
  have hden' : (den : ℚ) ≠ 0 := by positivity
  rw [quotientAt]
  split
  · rename_i hneg
    have he : -e = (e.natAbs : ℤ) := by omega
    rw [he, zpow_natCast]
    push_cast
    field_simp
  · rename_i hneg
    have he : -e = -(e.natAbs : ℤ) := by omega
    rw [he, zpow_neg, zpow_natCast]
    push_cast
    field_simp

end QuotientAt

theorem quotientAt_congr {num den num' den' : Nat} (base : Nat) (h : num * den' = num' * den)
    (e : Int) :
    (quotientAt base num den e).1 * (quotientAt base num' den' e).2 =
      (quotientAt base num' den' e).1 * (quotientAt base num den e).2 := by
  simp only [quotientAt]
  split
  · rw [Nat.mul_right_comm, h, Nat.mul_right_comm]
  · rw [← Nat.mul_assoc, h, Nat.mul_assoc]

/-- A natural number times a power of a base, as a quotient. -/
def powerRatio (base n : Nat) (e : Int) : Nat × Nat :=
  if e < 0 then (n, base ^ e.natAbs) else (n * base ^ e.natAbs, 1)

theorem powerRatio_pos {base : Nat} (hbase : 0 < base) (n : Nat) (e : Int) :
    0 < (powerRatio base n e).2 := by
  rw [powerRatio]
  split
  · exact Nat.pow_pos hbase
  · exact Nat.one_pos

theorem cast_powerRatio (base n : Nat) (e : Int) :
    ((powerRatio base n e).1 : ℚ) / (powerRatio base n e).2 = n * (base : ℚ) ^ e := by
  rw [powerRatio]
  split
  · have he : e = -(e.natAbs : ℤ) := by omega
    rw [he, zpow_neg, zpow_natCast, Int.natAbs_neg, Int.natAbs_natCast]
    push_cast
    rw [div_eq_mul_inv]
  · have he : e = (e.natAbs : ℤ) := by omega
    rw [he, zpow_natCast, Int.natAbs_natCast]
    push_cast
    rw [div_one]

theorem powerRatio_fst_pos {base n : Nat} (hbase : 0 < base) (hn : 0 < n) (e : Int) :
    0 < (powerRatio base n e).1 := by
  rw [powerRatio]
  split
  · exact hn
  · exact Nat.mul_pos hn (Nat.pow_pos hbase)

theorem Binary64.ratio_eq (m : Nat) (e : Int) : Binary64.ratio m e = powerRatio 2 m e := by
  rw [Binary64.ratio, powerRatio]
  split <;> rfl

/-! ## The exponent of a quotient -/

namespace Binary64

/-- The exponent at which a quotient is rounded. -/
def roundingExponent (num den : Nat) : Int :=
  let low := max ((num.log2 : Int) - den.log2 - 53) (-1074)
  if floorAt num den low < Nat.pow 2 53 then low else low + 1

/-- The number of a significand, infinite when the exponent is beyond the greatest one. -/
def bounded (negative : Bool) (m : Nat) (e : Int) : Binary64 :=
  if 971 < e then .infinite negative else .finite negative m e

/-- The number of a rounded significand; one of 54 bits goes with the next exponent. -/
def packed (negative : Bool) (m : Nat) (e : Int) : Binary64 :=
  if m < 2 ^ 53 then bounded negative m e else bounded negative (m / 2) (e + 1)

theorem ofRatio_eq {num : Nat} (h : num ≠ 0) (negative : Bool) (den : Nat) :
    ofRatio negative num den = packed negative (roundAt num den (roundingExponent num den))
      (roundingExponent num den) := by
  have hsplit : ∀ (m : Nat) (e : Int), packed negative m e =
      let number := if m < Nat.pow 2 53 then (m, e) else (m / 2, e + 1)
      if 971 < number.2 then .infinite negative else .finite negative number.1 number.2 := by
    intro m e
    rw [packed, Nat.pow_eq]
    split <;> rfl
  rw [ofRatio, if_neg h, hsplit]
  rfl

/-- The least exponent, from `-1074` on, that leaves a significand of 53 bits. -/
def IsExponentOf (e : Int) (x : ℚ) : Prop :=
  -1074 ≤ e ∧ x < 2 ^ (53 + e) ∧ (e = -1074 ∨ 2 ^ (52 + e) ≤ x)

theorem zpow_two_lt {a b : Int} : (2 : ℚ) ^ a < 2 ^ b ↔ a < b :=
  zpow_lt_zpow_iff_right₀ one_lt_two

theorem zpow_two_add (k : Nat) (e : Int) : (2 : ℚ) ^ ((k : Int) + e) = 2 ^ k * 2 ^ e := by
  rw [zpow_add₀ two_ne_zero, zpow_natCast]

theorem IsExponentOf.eq {e e' : Int} {x : ℚ} (h : IsExponentOf e x) (h' : IsExponentOf e' x) :
    e = e' := by
  have hle : ∀ {e e' : Int}, IsExponentOf e x → IsExponentOf e' x → e' ≤ e := by
    intro e e' h h'
    obtain he' | he' := h'.2.2
    · exact he' ▸ h.1
    · have := zpow_two_lt.1 (he'.trans_lt h.2.1)
      omega
  exact le_antisymm (hle h' h) (hle h h')

section Quotient

variable {num den : Nat} (hnum : 0 < num) (hden : 0 < den)

include hden

theorem floorAt_lt_iff (num : Nat) (e : Int) :
    floorAt num den e < Nat.pow 2 53 ↔ (num : ℚ) / den < 2 ^ (53 + e) := by
  have hpos := quotientAt_pos two_pos hden num e
  have hpos' : (0 : ℚ) < (quotientAt 2 num den e).2 := by exact_mod_cast hpos
  have hcast := cast_quotientAt two_pos hden num e
  have hpow : (2 : ℚ) ^ (53 + e) = 2 ^ 53 * 2 ^ e := zpow_two_add 53 e
  rw [floorAt_eq, Nat.div_lt_iff_lt_mul hpos, ← @Nat.cast_lt ℚ, Nat.cast_mul, Nat.pow_eq,
    Nat.cast_pow, ← div_lt_iff₀ hpos', hcast, Nat.cast_ofNat, zpow_neg, ← div_eq_mul_inv,
    div_lt_iff₀ (by positivity), hpow]

include hnum

/-- The binary logarithms of numerator and denominator bound a quotient. -/
theorem zpow_log2_lt :
    (2 : ℚ) ^ ((num.log2 : Int) - den.log2 - 1) < num / den ∧
      (num : ℚ) / den < 2 ^ ((num.log2 : Int) - den.log2 + 1) := by
  have hden' : (0 : ℚ) < den := by exact_mod_cast hden
  have hn₁ : (2 : ℚ) ^ num.log2 ≤ num := by exact_mod_cast Nat.log2_self_le hnum.ne'
  have hn₂ : (num : ℚ) < 2 ^ (num.log2 + 1) := by exact_mod_cast Nat.lt_log2_self
  have hd₁ : (2 : ℚ) ^ den.log2 ≤ den := by exact_mod_cast Nat.log2_self_le hden.ne'
  have hd₂ : (den : ℚ) < 2 ^ (den.log2 + 1) := by exact_mod_cast Nat.lt_log2_self
  constructor
  · rw [lt_div_iff₀ hden']
    calc (2 : ℚ) ^ ((num.log2 : Int) - den.log2 - 1) * den
        < 2 ^ ((num.log2 : Int) - den.log2 - 1) * 2 ^ (den.log2 + 1) := by gcongr
      _ = 2 ^ num.log2 := by
        rw [← zpow_natCast, ← zpow_add₀ two_ne_zero, ← zpow_natCast]
        congr 1
        push_cast
        omega
      _ ≤ num := hn₁
  · rw [div_lt_iff₀ hden']
    calc (num : ℚ) < 2 ^ (num.log2 + 1) := hn₂
      _ = 2 ^ ((num.log2 : Int) - den.log2 + 1) * 2 ^ den.log2 := by
        rw [← zpow_natCast, ← zpow_natCast, ← zpow_add₀ two_ne_zero]
        congr 1
        push_cast
        omega
      _ ≤ 2 ^ ((num.log2 : Int) - den.log2 + 1) * den := by gcongr

/-- **The exponent at which a quotient is rounded.** -/
theorem roundingExponent_eq_iff {e : Int} :
    roundingExponent num den = e ↔ IsExponentOf e ((num : ℚ) / den) := by
  have hspec : IsExponentOf (roundingExponent num den) ((num : ℚ) / den) := by
    obtain ⟨hlower, hupper⟩ := zpow_log2_lt hnum hden
    set order : Int := (num.log2 : Int) - den.log2 with horder
    rw [roundingExponent]
    simp only [floorAt_lt_iff hden]
    rcases lt_or_ge (order - 53) (-1074) with hlow | hlow
    · -- the quotient is so small that the least exponent leaves enough room
      have hlt : (num : ℚ) / den < 2 ^ (53 + (-1074) : Int) :=
        hupper.trans_le (zpow_le_zpow_right₀ one_le_two (by omega))
      rw [max_eq_right hlow.le, if_pos hlt]
      exact ⟨le_rfl, hlt, .inl rfl⟩
    · rw [max_eq_left hlow]
      split
      · rename_i hlt
        refine ⟨hlow, hlt, .inr (hlower.le.trans' ?_)⟩
        exact zpow_le_zpow_right₀ one_le_two (by omega)
      · rename_i hlt
        refine ⟨by omega, hupper.trans_le (zpow_le_zpow_right₀ one_le_two (by omega)), .inr ?_⟩
        refine (not_lt.1 hlt).trans' (zpow_le_zpow_right₀ one_le_two (by omega))
  exact ⟨fun h => h ▸ hspec, hspec.eq⟩

end Quotient

theorem roundAt_congr {num den num' den' : Nat} (hden : 0 < den) (hden' : 0 < den')
    (h : num * den' = num' * den) (e : Int) : roundAt num den e = roundAt num' den' e := by
  rw [roundAt_eq, roundAt_eq]
  exact roundHalfEven_congr (quotientAt_pos two_pos hden num e)
    (quotientAt_pos two_pos hden' num' e) (quotientAt_congr 2 h e)

/-- **Rounding depends on the value of the quotient alone.** -/
theorem ofRatio_congr {num den num' den' : Nat} (hden : 0 < den) (hden' : 0 < den')
    (h : num * den' = num' * den) (negative : Bool) :
    ofRatio negative num den = ofRatio negative num' den' := by
  rcases Nat.eq_zero_or_pos num with rfl | hnum
  · have hnum' : num' = 0 := by simpa [hden.ne'] using h.symm
    rw [ofRatio, ofRatio, if_pos rfl, if_pos hnum']
  · have hnum' : 0 < num' := by
      rcases Nat.eq_zero_or_pos num' with rfl | hnum'
      · simp [hnum.ne', hden'.ne'] at h
      · exact hnum'
    have hvalue : (num : ℚ) / den = num' / den' := by
      rw [div_eq_div_iff (by positivity) (by positivity)]
      exact_mod_cast h
    have he : roundingExponent num den = roundingExponent num' den' := by
      rw [roundingExponent_eq_iff hnum hden, hvalue]
      exact (roundingExponent_eq_iff hnum' hden').1 rfl
    rw [ofRatio_eq hnum.ne', ofRatio_eq hnum'.ne', he, roundAt_congr hden hden' h]

/-- The sign takes no part in rounding. -/
theorem ofRatio_sign {num den m : Nat} {e : Int} (h : ofRatio false num den = .finite false m e)
    (negative : Bool) : ofRatio negative num den = .finite negative m e := by
  have hbounded : ∀ {m' : Nat} {e' : Int}, bounded false m' e' = .finite false m e →
      bounded negative m' e' = .finite negative m e := by
    intro m' e' h
    rw [bounded] at h ⊢
    split at h
    · cases h
    · rename_i hgreatest
      obtain ⟨-, rfl, rfl⟩ := finite.inj h
      rw [if_neg hgreatest]
  by_cases hnum : num = 0
  · rw [ofRatio, if_pos hnum, signedZero] at h ⊢
    obtain ⟨-, rfl, rfl⟩ := finite.inj h
    rfl
  · rw [ofRatio_eq hnum, packed] at h ⊢
    split at h
    · rename_i hbits
      rw [if_pos hbits]
      exact hbounded h
    · rename_i hbits
      rw [if_neg hbits]
      exact hbounded h

/-! ## Numbers of the format -/

/-- A significand and an exponent make a number of the format: the significand has 53 bits, or fewer
at the least exponent. -/
structure IsNumber (m : Nat) (e : Int) : Prop where
  /-- The significand has no more than 53 bits. -/
  lt : m < 2 ^ 53
  /-- The exponent is not below the least one. -/
  least : -1074 ≤ e
  /-- The exponent is not above the greatest one. -/
  greatest : e ≤ 971
  /-- The significand has 53 bits, but at the least exponent it may have fewer. -/
  full : e = -1074 ∨ 2 ^ 52 ≤ m

/-- Whether a finite number is one of the format. -/
def Representable : Binary64 → Prop
  | .finite _ m e => IsNumber m e
  | _ => True

theorem IsNumber.packed_eq {m : Nat} {e : Int} (h : IsNumber m e) (negative : Bool) :
    packed negative m e = .finite negative m e := by
  rw [packed, if_pos h.lt]
  exact if_neg (not_lt.2 h.greatest)

theorem packed_carry {e : Int} (h : e + 1 ≤ 971) (negative : Bool) :
    packed negative (2 ^ 53) e = .finite negative (2 ^ 52) (e + 1) := by
  rw [packed, if_neg (lt_irrefl _)]
  exact if_neg (not_lt.2 h)

/-- A value is nearer to a positive number of the format than half the way to its neighbours. -/
structure Near (m : Nat) (e : Int) (x : ℚ) : Prop where
  /-- The neighbours are one unit of the last place away. -/
  near : |x - m * 2 ^ e| < 2 ^ e / 2
  /-- Below a power of two they are half a unit away, but for the least one. -/
  below : m = 2 ^ 52 → e ≠ -1074 → m * 2 ^ e - 2 ^ e / 4 < x

theorem roundAt_eq_of_near {num den : Nat} (hden : 0 < den) {e : Int} {k : Nat}
    (h : |(num : ℚ) / den - k * 2 ^ e| < 2 ^ e / 2) : roundAt num den e = k := by
  have hpow : (0 : ℚ) < 2 ^ e := by positivity
  rw [roundAt_eq]
  refine roundHalfEven_eq_of_near (quotientAt_pos two_pos hden num e) ?_
  have heq : (num : ℚ) / den * (2 ^ e)⁻¹ - k = (num / den - k * 2 ^ e) / 2 ^ e := by field_simp
  rw [cast_quotientAt two_pos hden, Nat.cast_ofNat, zpow_neg, heq, abs_div, abs_of_pos hpow,
    div_lt_iff₀ hpow]
  linarith

/-- A quotient less than a quarter of a unit below a power of two is rounded at the next lower
exponent, and up to the power. -/
theorem ofRatio_below_power {e : Int} (hleast : -1074 < e) (hgreatest : e ≤ 971) {num den : Nat}
    (hnum : 0 < num) (hden : 0 < den) (hlower : 2 ^ 52 * 2 ^ e - 2 ^ e / 4 < (num : ℚ) / den)
    (hupper : (num : ℚ) / den < 2 ^ 52 * 2 ^ e) (negative : Bool) :
    ofRatio negative num den = .finite negative (2 ^ 52) e := by
  have h53 : (2 : ℚ) ^ (53 + (e - 1)) = 2 ^ 53 * 2 ^ (e - 1) := zpow_two_add 53 (e - 1)
  have h52 : (2 : ℚ) ^ (52 + (e - 1)) = 2 ^ 52 * 2 ^ (e - 1) := zpow_two_add 52 (e - 1)
  have hpow : (0 : ℚ) < 2 ^ (e - 1) := by positivity
  have hlow : (2 : ℚ) ^ e = 2 * 2 ^ (e - 1) := by
    rw [← zpow_one_add₀ two_ne_zero, add_sub_cancel]
  rw [hlow] at hlower hupper
  have he : roundingExponent num den = e - 1 := by
    refine (roundingExponent_eq_iff hnum hden).2 ⟨by omega, ?_, .inr ?_⟩
    · rw [h53]
      linarith
    · rw [h52]
      linarith
  have hround : roundAt num den (e - 1) = 2 ^ 53 := by
    refine roundAt_eq_of_near hden (abs_lt.2 ⟨?_, ?_⟩) <;> push_cast <;> linarith
  rw [ofRatio_eq hnum.ne', he, hround, packed_carry (by omega), Int.sub_add_cancel]

/-- **A quotient near to a number of the format is rounded to it.** -/
theorem ofRatio_of_near {m : Nat} {e : Int} (h : IsNumber m e) {num den : Nat} (hnum : 0 < num)
    (hden : 0 < den) (hnear : Near m e (num / den)) (negative : Bool) :
    ofRatio negative num den = .finite negative m e := by
  obtain ⟨hlower, hupper⟩ := abs_lt.1 hnear.near
  have hpow : (0 : ℚ) < 2 ^ e := by positivity
  have hm : (m : ℚ) + 1 ≤ 2 ^ 53 := by exact_mod_cast h.lt
  have h53 : (2 : ℚ) ^ (53 + e) = 2 ^ 53 * 2 ^ e := zpow_two_add 53 e
  have h52 : (2 : ℚ) ^ (52 + e) = 2 ^ 52 * 2 ^ e := zpow_two_add 52 e
  have hlt : (num : ℚ) / den < 2 ^ (53 + e) := by
    rw [h53]
    nlinarith
  by_cases hexp : e = -1074 ∨ 2 ^ (52 + e) ≤ (num : ℚ) / den
  · have he := (roundingExponent_eq_iff hnum hden).2 ⟨h.least, hlt, hexp⟩
    rw [ofRatio_eq hnum.ne', he, roundAt_eq_of_near hden hnear.near, h.packed_eq]
  · -- the significand can only be the power of two itself
    obtain ⟨hleast, hbelow⟩ := not_or.1 hexp
    rw [not_le, h52] at hbelow
    have hfull := h.full.resolve_left hleast
    have hm' : m = 2 ^ 52 := by
      have hlt' : (m : ℚ) < 2 ^ 52 + 1 := by
        by_contra hge
        nlinarith
      have : m < 2 ^ 52 + 1 := by exact_mod_cast hlt'
      omega
    have hquarter := hnear.below hm' hleast
    subst hm'
    push_cast at hquarter
    exact ofRatio_below_power (lt_of_le_of_ne h.least (Ne.symm hleast)) h.greatest hnum hden
      hquarter hbelow negative

end Binary64

end StorageReply.Number

/-!
# Binary floating-point numbers

The numbers of the 64-bit binary format as exact data: a sign, a significand of at most 53 bits and
a power of two. Every operation rounds its exact result to the nearest number, a tie to the even
significand, so nothing here depends on the machine's arithmetic.

Main definitions:

* `Binary64`: finite numbers, the two infinities and the value that is not a number;
* `roundHalfEven`: the nearest integer to a quotient;
* `Binary64.ofRatio`, `Binary64.ofDecimal`, `Binary64.ofNat`: rounding of exact numbers;
* `Binary64.scaled`: the product with a natural number;
* `Binary64.plus`: the sum of two numbers;
* `Binary64.truncated?`: the integer part of a finite number.
-/

namespace StorageReply.Number

/-- A number of the 64-bit binary format. A finite number is `significand · 2 ^ exponent`, where
the exponent is at least `-1074` and the significand below `2 ^ 53`; it is at least `2 ^ 52` unless
the exponent is the least one. -/
inductive Binary64
  /-- A finite number; zero has a sign too. -/
  | finite (negative : Bool) (significand : Nat) (exponent : Int)
  /-- An infinity. -/
  | infinite (negative : Bool)
  /-- The result of an undefined operation. -/
  | nan
  deriving DecidableEq, Repr, Inhabited

/-- The integer nearest to `num / den`; of two equally near ones the even one. -/
def roundHalfEven (num den : Nat) : Nat :=
  let q := num / den
  let r := num % den
  if 2 * r < den then q else if den < 2 * r then q + 1 else q + q % 2

/-- The nearest integer to `num / den · 2 ^ (-e)`. -/
def roundAt (num den : Nat) (e : Int) : Nat :=
  if e < 0 then roundHalfEven (num * Nat.pow 2 e.natAbs) den
  else roundHalfEven num (den * Nat.pow 2 e.natAbs)

/-- The integer part of `num / den · 2 ^ (-e)`. -/
def floorAt (num den : Nat) (e : Int) : Nat :=
  if e < 0 then num * Nat.pow 2 e.natAbs / den else num / (den * Nat.pow 2 e.natAbs)

namespace Binary64

/-- Zero with a sign. -/
def signedZero (negative : Bool) : Binary64 := .finite negative 0 (-1074)

/-- The number nearest to `num / den`; infinite when that is out of range. -/
def ofRatio (negative : Bool) (num den : Nat) : Binary64 :=
  if num = 0 then signedZero negative
  else
    let low := max ((num.log2 : Int) - den.log2 - 53) (-1074)
    let e := if floorAt num den low < Nat.pow 2 53 then low else low + 1
    let m := roundAt num den e
    let (m, e) := if m < Nat.pow 2 53 then (m, e) else (m / 2, e + 1)
    if 971 < e then .infinite negative else .finite negative m e

/-- The number nearest to `digits · 10 ^ exponent`. -/
def ofDecimal (negative : Bool) (digits : Nat) (exponent : Int) : Binary64 :=
  if digits = 0 then signedZero negative
  else
    let size : Int := (Nat.toDigits 10 digits).length + exponent
    if 310 < size then .infinite negative
    else if size < -330 then signedZero negative
    else if exponent < 0 then ofRatio negative digits (Nat.pow 10 exponent.natAbs)
    else ofRatio negative (digits * Nat.pow 10 exponent.natAbs) 1

/-- The number nearest to a natural number. -/
def ofNat (n : Nat) : Binary64 := ofRatio false n 1

/-- The number nearest to an integer. -/
def ofInt (i : Int) : Binary64 := ofRatio (i < 0) i.natAbs 1

/-- The size of a finite number as a quotient of natural numbers. -/
def ratio (significand : Nat) (exponent : Int) : Nat × Nat :=
  if exponent < 0 then (significand, Nat.pow 2 exponent.natAbs)
  else (significand * Nat.pow 2 exponent.natAbs, 1)

/-- The number nearest to the product with a natural number. -/
def scaled (x : Binary64) (factor : Nat) : Binary64 :=
  match x with
  | .finite negative m e =>
    let (num, den) := ratio m e
    ofRatio negative (num * factor) den
  | other => other

/-- The number nearest to the sum. -/
def plus (x y : Binary64) : Binary64 :=
  match x, y with
  | .finite n m e, .finite n' m' e' =>
    let (num, den) := ratio m e
    let (num', den') := ratio m' e'
    let total := withSign n (num * den') + withSign n' (num' * den)
    if total = 0 then signedZero (n && n') else ofRatio (total < 0) total.natAbs (den * den')
  | .infinite n, .infinite n' => if n = n' then x else .nan
  | .nan, _ => .nan
  | _, .nan => .nan
  | .infinite _, _ => x
  | _, .infinite _ => y
where
  /-- The integer of a size with a sign. -/
  withSign (negative : Bool) (size : Nat) : Int := if negative then -size else size

/-- The integer part of a finite number, taken toward zero. -/
def truncated? : Binary64 → Option Int
  | .finite negative m e =>
    let (num, den) := ratio m e
    let size : Int := (num / den : Nat)
    some (if negative then -size else size)
  | _ => none

/-- The integer that a number is equal to, if there is one. -/
def integral? (x : Binary64) : Option Int :=
  match x with
  | .finite negative m e =>
    let (num, den) := ratio m e
    if num % den = 0 then some (if negative then -((num / den : Nat) : Int) else (num / den : Nat))
    else none
  | _ => none

/-- Whether a number is neither infinite nor undefined. -/
def isFinite : Binary64 → Bool
  | .finite .. => true
  | _ => false

/-- The number with the opposite sign. -/
def negated : Binary64 → Binary64
  | .finite negative m e => .finite (!negative) m e
  | .infinite negative => .infinite (!negative)
  | .nan => .nan

/-- Equality of numbers: the two zeros are equal, and the undefined value differs from all. -/
def same : Binary64 → Binary64 → Bool
  | .finite _ 0 _, .finite _ 0 _ => true
  | .finite n m e, .finite n' m' e' => n == n' && m == m' && e == e'
  | .infinite n, .infinite n' => n == n'
  | _, _ => false

end Binary64

theorem roundHalfEven_one (n : Nat) : roundHalfEven n 1 = n := by
  simp [roundHalfEven, Nat.mod_one]

/-- The nearest integer lies within half a unit of the quotient. -/
theorem roundHalfEven_near (num : Nat) {den : Nat} (positive : 0 < den) :
    2 * (roundHalfEven num den * den) ≤ 2 * num + den ∧
      2 * num ≤ 2 * (roundHalfEven num den * den) + den := by
  have split := Nat.div_add_mod num den
  have small := Nat.mod_lt num positive
  simp only [roundHalfEven]
  generalize hq : num / den = q at *
  generalize hr : num % den = r at *
  have comm : den * q = q * den := Nat.mul_comm _ _
  rcases Nat.mod_two_eq_zero_or_one q with h | h <;> split <;> (try split) <;>
    simp_all [Nat.add_mul] <;> omega

end StorageReply.Number

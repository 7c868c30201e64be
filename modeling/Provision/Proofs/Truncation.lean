import Mathlib
import Provision.Bson
/-!
Truncation of doubles against the numbers that they stand for.

The model shifts a significand; the number itself is the significand times a power of two, a
rational. The shift is the floor of the absolute value, so what comes out is the number rounded
toward zero, or the nearer bound where the 64 bits do not hold it.
-/

namespace Provision.Bson.Double

/-- Neither an infinity nor a non-number, which share the greatest exponent. -/
def IsFinite (double : Double) : Prop :=
  double.exponent < 2047

instance (double : Double) : Decidable double.IsFinite :=
  inferInstanceAs (Decidable (double.exponent < 2047))

def IsInfinite (double : Double) : Prop :=
  double.exponent = 2047 ∧ double.fraction = 0

/-- The fraction behind its leading one, which numbers of the least exponent do without. -/
def significand (double : Double) : ℕ :=
  if double.exponent = 0 then double.fraction else 2 ^ 52 + double.fraction

def scale (double : Double) : ℤ :=
  (max 1 double.exponent : ℕ) - 1075

def absolute (double : Double) : ℚ :=
  double.significand * 2 ^ double.scale

def value (double : Double) : ℚ :=
  if double.isNegative then -double.absolute else double.absolute

def towardZero (number : ℚ) : ℤ :=
  if number < 0 then ⌈number⌉ else ⌊number⌋

variable {double : Double} {number : ℤ}

theorem fraction_lt (double : Double) : double.fraction < 2 ^ 52 :=
  Nat.mod_lt _ (by decide)

theorem significand_lt (double : Double) : double.significand < 2 ^ 53 := by
  have bounded := double.fraction_lt
  unfold significand
  split <;> omega

theorem absolute_nonneg (double : Double) : 0 ≤ double.absolute := by
  unfold absolute
  positivity

theorem floor_absolute_of_small (small : double.exponent < 1023) : ⌊double.absolute⌋₊ = 0 := by
  rw [Nat.floor_eq_zero]
  have bounded : (double.significand : ℚ) < 2 ^ (53 : ℤ) := by exact_mod_cast double.significand_lt
  have scaled : double.scale ≤ -53 := by
    unfold scale
    omega
  calc double.absolute
      ≤ double.significand * 2 ^ (-53 : ℤ) := by
        unfold absolute
        gcongr
        norm_num
    _ < 2 ^ (53 : ℤ) * 2 ^ (-53 : ℤ) := by gcongr
    _ = 1 := by norm_num

theorem floor_absolute_of_middle (least : 1023 ≤ double.exponent) (most : double.exponent < 1075) :
    ⌊double.absolute⌋₊ = double.significand >>> (1075 - double.exponent) := by
  have scaled : double.scale = -((1075 - double.exponent : ℕ) : ℤ) := by
    unfold scale
    omega
  rw [absolute, scaled, zpow_neg, zpow_natCast, ← div_eq_mul_inv, Nat.shiftRight_eq_div_pow,
    ← Nat.floor_div_eq_div (K := ℚ)]
  push_cast
  rfl

theorem absolute_of_large (large : 1075 ≤ double.exponent) :
    double.absolute = (double.significand <<< (double.exponent - 1075) : ℕ) := by
  have scaled : double.scale = ((double.exponent - 1075 : ℕ) : ℤ) := by
    unfold scale
    omega
  rw [absolute, scaled, zpow_natCast, Nat.shiftLeft_eq]
  push_cast
  rfl

theorem magnitude_eq_floor (double : Double) : double.magnitude = ⌊double.absolute⌋₊ := by
  unfold magnitude
  rcases Nat.lt_or_ge double.exponent 1023 with small | least
  · rw [if_pos small, floor_absolute_of_small small]
  have leading : double.significand = 0x10000000000000 + double.fraction := if_neg (by omega)
  rw [if_neg (by omega), ← leading]
  rcases Nat.lt_or_ge double.exponent 1075 with most | large
  · rw [if_pos most, floor_absolute_of_middle least most]
  · rw [if_neg (by omega), absolute_of_large large, Nat.floor_natCast]

/-- The magnitude with its sign is the number rounded toward zero. -/
theorem towardZero_value (double : Double) : towardZero double.value =
    if double.isNegative then -(double.magnitude : ℤ) else double.magnitude := by
  have nonneg := double.absolute_nonneg
  have floored : (double.magnitude : ℤ) = ⌊double.absolute⌋ := by
    rw [magnitude_eq_floor, Int.natCast_floor_eq_floor nonneg]
  rw [floored, value]
  cases double.isNegative with
  | false => exact if_neg (not_lt.2 nonneg)
  | true =>
    simp only [if_true, towardZero, Int.ceil_neg, Int.floor_neg]
    split
    · rfl
    · have zero : double.absolute = 0 := by linarith
      simp [zero]

theorem clamp_toInt (number : ℤ) :
    (clamp number).toInt = max Int64.minValue.toInt (min Int64.maxValue.toInt number) := by
  have least : Int64.minValue.toInt = -2 ^ 63 := rfl
  have most : Int64.maxValue.toInt = 2 ^ 63 - 1 := rfl
  unfold clamp
  split
  · omega
  split
  · omega
  · rw [Int64.toInt_ofInt_of_le (by omega) (by omega)]
    omega

theorem not_isNaN_of_isFinite (finite : double.IsFinite) : double.isNaN = false := by
  unfold isNaN
  have : double.exponent ≠ 2047 := Nat.ne_of_lt finite
  simp [this]

theorem not_isNaN_of_isInfinite (infinite : double.IsInfinite) : double.isNaN = false := by
  simp [isNaN, infinite.2]

theorem truncated_toInt (isNumber : double.isNaN = false) : double.truncated.toInt =
    max Int64.minValue.toInt (min Int64.maxValue.toInt (towardZero double.value)) := by
  rw [← clamp_toInt, towardZero_value, truncated, isNumber]
  cases double.isNegative <;> rfl

theorem towardZero_intCast (number : ℤ) : towardZero number = number := by
  simp [towardZero]

/-- An integer that the 64 bits hold is kept as it is. -/
theorem truncated_of_value (finite : double.IsFinite) (same : double.value = number)
    (least : Int64.minValue.toInt ≤ number) (most : number ≤ Int64.maxValue.toInt) :
    double.truncated.toInt = number := by
  rw [truncated_toInt (not_isNaN_of_isFinite finite), same, towardZero_intCast]
  omega

theorem le_towardZero {bound : ℤ} {number : ℚ} (nonneg : 0 ≤ bound) (above : bound ≤ number) :
    bound ≤ towardZero number := by
  have : ¬number < 0 := not_lt.2 (le_trans (by exact_mod_cast nonneg) above)
  rw [towardZero, if_neg this]
  exact Int.le_floor.2 above

theorem towardZero_le {bound : ℤ} {number : ℚ} (negative : bound < 0) (below : number ≤ bound) :
    towardZero number ≤ bound := by
  have : number < 0 := lt_of_le_of_lt below (by exact_mod_cast negative)
  rw [towardZero, if_pos this]
  exact Int.ceil_le.2 below

theorem truncated_of_ge (isNumber : double.isNaN = false)
    (above : (Int64.maxValue.toInt : ℚ) ≤ double.value) : double.truncated = Int64.maxValue := by
  have beyond := le_towardZero (by decide) above
  apply Int64.toInt_inj.1
  rw [truncated_toInt isNumber, min_eq_left beyond]
  rfl

theorem truncated_of_le (isNumber : double.isNaN = false)
    (below : double.value ≤ (Int64.minValue.toInt : ℚ)) : double.truncated = Int64.minValue := by
  have beyond := towardZero_le (by decide) below
  apply Int64.toInt_inj.1
  rw [truncated_toInt isNumber]
  omega

theorem absolute_of_isInfinite (infinite : double.IsInfinite) : (2 : ℚ) ^ 63 ≤ double.absolute := by
  have leading : double.significand = 2 ^ 52 := by simp [significand, infinite.1, infinite.2]
  have scaled : double.scale = (972 : ℕ) := by simp [scale, infinite.1]
  rw [absolute, leading, scaled, zpow_natCast, Nat.cast_pow, Nat.cast_ofNat, ← pow_add]
  exact pow_le_pow_right₀ (by norm_num) (by norm_num)

theorem truncated_of_isInfinite (infinite : double.IsInfinite) :
    double.truncated = if double.isNegative then Int64.minValue else Int64.maxValue := by
  have isNumber := not_isNaN_of_isInfinite infinite
  have great := absolute_of_isInfinite infinite
  have least : Int64.minValue.toInt = -2 ^ 63 := rfl
  have most : Int64.maxValue.toInt = 2 ^ 63 - 1 := rfl
  cases sign : double.isNegative with
  | false =>
    refine truncated_of_ge isNumber ?_
    rw [value, sign, most]
    push_cast
    exact le_trans (by norm_num) great
  | true =>
    refine truncated_of_le isNumber ?_
    rw [value, sign, least]
    push_cast
    exact neg_le_neg great

end Provision.Bson.Double

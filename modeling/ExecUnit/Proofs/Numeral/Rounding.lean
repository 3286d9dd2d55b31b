import ExecUnit.Numeral.SixDigits
import Mathlib.Algebra.Order.Field.Power
import Mathlib.Algebra.Order.Ring.Abs
import Mathlib.Tactic.Linarith
import Mathlib.Tactic.NormNum
import Mathlib.Tactic.Positivity
import Mathlib.Tactic.Ring

/-!
What floats are worth, and how far six digits are from it. `floatMagnitude_eq_units` says
that units measure finite floats exactly, whether they are subnormal or not, and
`nearest_roundUnits` that rounding is off by half of the last digit at most. Where it
carries into the next power of ten the last digit is worth more, so the bound still holds.
-/

namespace ExecUnit.Numeral

/-- The magnitude of a finite float after IEEE 754. Without an exponent the leading one is
missing, and the scale is that of the least exponent. -/
def floatMagnitude (bits : Word) : ℚ :=
  if exponentField bits = 0 then fractionField bits * 2 ^ (-149 : ℤ)
  else (2 ^ 23 + fractionField bits) * 2 ^ ((exponentField bits : ℤ) - 150)

def floatValue (bits : Word) : ℚ :=
  if isNegative bits then -floatMagnitude bits else floatMagnitude bits

theorem floatMagnitude_eq_units (bits : Word) :
    floatMagnitude bits = units bits * 10 ^ (-149 : ℤ) := by
  have unit : (5 : ℚ) ^ 149 * 10 ^ (-149 : ℤ) = 2 ^ (-149 : ℤ) := by norm_num
  have scaled (significand exponent : Nat) :
      (((significand <<< exponent) * Nat.pow 5 unitExponent : Nat) : ℚ) * 10 ^ (-149 : ℤ) =
        significand * (2 ^ exponent * 2 ^ (-149 : ℤ)) := by
    rw [← unit, Nat.shiftLeft_eq, Nat.pow_eq, unitExponent]
    push_cast
    ring
  unfold floatMagnitude units
  dsimp only
  rw [scaled]
  rcases field : exponentField bits with _ | exponent
  · simp
  · have power : (2 : ℚ) ^ (((exponent + 1 : Nat) : ℤ) - 150) = 2 ^ exponent * 2 ^ (-149 : ℤ) := by
      rw [← zpow_natCast, ← zpow_add₀ (by norm_num)]
      congr 1
      push_cast
      ring
    rw [if_neg (Nat.succ_ne_zero exponent), if_neg (Nat.succ_ne_zero exponent), power,
      Nat.add_sub_cancel]
    push_cast
    norm_num

section Rounding

theorem roundHalfEven_near (number : Nat) {divisor : Nat} (positive : 0 < divisor) :
    2 * (roundHalfEven number divisor * divisor) ≤ 2 * number + divisor ∧
      2 * number ≤ 2 * (roundHalfEven number divisor * divisor) + divisor := by
  have parts := Nat.div_add_mod' number divisor
  have rest := Nat.mod_lt number positive
  unfold roundHalfEven
  dsimp only
  split
  · next upwards =>
    have next : (number / divisor + 1) * divisor = number / divisor * divisor + divisor :=
      Nat.add_one_mul _ _
    omega
  · next downwards => omega

section Bounds

variable {number divisor bound : Nat} (positive : 0 < divisor)
include positive

theorem le_roundHalfEven (above : bound * divisor ≤ number) :
    bound ≤ roundHalfEven number divisor := by
  have near := roundHalfEven_near number positive
  by_contra less
  have next : (roundHalfEven number divisor + 1) * divisor ≤ bound * divisor :=
    Nat.mul_le_mul_right _ (by omega)
  rw [Nat.add_one_mul] at next
  omega

theorem roundHalfEven_le (below : number ≤ bound * divisor) :
    roundHalfEven number divisor ≤ bound := by
  have near := roundHalfEven_near number positive
  by_contra more
  have next : (bound + 1) * divisor ≤ roundHalfEven number divisor * divisor :=
    Nat.mul_le_mul_right _ (by omega)
  rw [Nat.add_one_mul] at next
  omega

end Bounds

theorem decimalLength_le_iff {number length : Nat} (positive : 0 < length) :
    decimalLength number ≤ length ↔ number < 10 ^ length :=
  Nat.length_toDigits_le_iff (by decide) positive

def Rounded.value (rounded : Rounded) : ℚ :=
  rounded.digits * 10 ^ (rounded.exponent - 5)

/-- Six digits that are as close to `value` as six digits get. -/
structure Rounded.Nearest (rounded : Rounded) (value : ℚ) : Prop where
  leading : 10 ^ 5 ≤ rounded.digits
  fits : rounded.digits < 10 ^ 6
  near : |rounded.value - value| ≤ 10 ^ (rounded.exponent - 5) / 2

theorem Rounded.Nearest.bounds {rounded : Rounded} {value : ℚ} (nearest : rounded.Nearest value) :
    10 ^ rounded.exponent ≤ rounded.value ∧ rounded.value < 10 ^ (rounded.exponent + 1) := by
  have unit : (0 : ℚ) < 10 ^ (rounded.exponent - 5) := by positivity
  have power (digits : Nat) :
      (10 : ℚ) ^ (rounded.exponent - 5 + digits) = 10 ^ digits * 10 ^ (rounded.exponent - 5) := by
    rw [zpow_add₀ (by norm_num), zpow_natCast, mul_comm]
  have lower := power 5
  have upper := power 6
  rw [show rounded.exponent - 5 + (5 : Nat) = rounded.exponent by omega] at lower
  rw [show rounded.exponent - 5 + (6 : Nat) = rounded.exponent + 1 by omega] at upper
  have leading : (10 : ℚ) ^ 5 ≤ rounded.digits := by exact_mod_cast nearest.leading
  have fits : (rounded.digits : ℚ) < 10 ^ 6 := by exact_mod_cast nearest.fits
  rw [lower, upper, Rounded.value]
  exact ⟨mul_le_mul_of_nonneg_right leading unit.le, mul_lt_mul_of_pos_right fits unit⟩

-- Six digits, and as many again as the number is longer.
theorem exists_decimalLength {number : Nat} (large : 10 ^ 5 ≤ number) :
    ∃ shift, decimalLength number = shift + 6 ∧ 10 ^ 5 * 10 ^ shift ≤ number ∧
      number < 10 ^ 6 * 10 ^ shift := by
  have long : 6 ≤ decimalLength number := by
    by_contra short
    have small := (decimalLength_le_iff (by decide)).mp (show decimalLength number ≤ 5 by omega)
    omega
  obtain ⟨shift, length⟩ := Nat.exists_eq_add_of_le' long
  refine ⟨shift, length, ?_, ?_⟩
  · rw [← Nat.pow_add, Nat.add_comm]
    by_contra less
    have short : decimalLength number ≤ shift + 5 :=
      (decimalLength_le_iff (by omega)).mpr (Nat.not_le.mp less)
    omega
  · rw [← Nat.pow_add, Nat.add_comm]
    exact (decimalLength_le_iff (by omega)).mp length.le

-- Units that have six digits are divided by a power of ten, and the quotient has six digits unless
-- it carries.
theorem roundUnits_cases {units : Nat} (large : 10 ^ 5 ≤ units) :
    ∃ shift digits : Nat,
      (2 * (digits * 10 ^ shift) ≤ 2 * units + 10 ^ shift ∧
        2 * units ≤ 2 * (digits * 10 ^ shift) + 10 ^ shift) ∧
      ((10 ^ 5 ≤ digits ∧ digits < 10 ^ 6 ∧ roundUnits units = ⟨digits, shift - 144⟩) ∨
        (digits = 10 ^ 6 ∧ roundUnits units = ⟨10 ^ 5, shift - 143⟩)) := by
  obtain ⟨shift, length, above, below⟩ := exists_decimalLength large
  have power : 0 < 10 ^ shift := Nat.pow_pos (by decide)
  have near := roundHalfEven_near units power
  have leading := le_roundHalfEven power above
  have carried := roundHalfEven_le power below.le
  refine ⟨shift, roundHalfEven units (10 ^ shift), near, ?_⟩
  generalize isRounded : roundHalfEven units (10 ^ shift) = digits at leading carried
  have exponent : ((shift + 6 : Nat) : Int) - 1 - unitExponent = shift - 144 := by
    simp only [unitExponent]
    omega
  have rounds : roundUnits units =
      if digits = 10 ^ 6 then ⟨10 ^ 5, (shift : Int) - 144 + 1⟩ else ⟨digits, shift - 144⟩ := by
    unfold roundUnits
    simp only [length, significantDigits, Nat.add_sub_cancel, Nat.pow_eq, isRounded, exponent]
  by_cases carries : digits = 10 ^ 6
  · have next : (shift : Int) - 144 + 1 = shift - 143 := by omega
    rw [if_pos carries, next] at rounds
    exact Or.inr ⟨carries, rounds⟩
  · rw [if_neg carries] at rounds
    exact Or.inl ⟨leading, by omega, rounds⟩

theorem nearest_roundUnits {units : Nat} (large : 10 ^ 5 ≤ units) :
    (roundUnits units).Nearest (units * 10 ^ (-149 : ℤ)) := by
  -- A carry keeps the value and only makes the last digit worth more.
  obtain ⟨shift, digits, ⟨above, below⟩, cases⟩ := roundUnits_cases large
  have power (exponent : ℤ) : (0 : ℚ) < 10 ^ exponent := by positivity
  have scale : (10 : ℚ) ^ ((shift : ℤ) - 149) = 10 ^ shift * 10 ^ (-149 : ℤ) := by
    rw [← zpow_natCast, ← zpow_add₀ (by norm_num)]
    rfl
  have near : |(digits : ℚ) * 10 ^ ((shift : ℤ) - 149) - units * 10 ^ (-149 : ℤ)| ≤
      10 ^ ((shift : ℤ) - 149) / 2 := by
    have above : (2 : ℚ) * (digits * 10 ^ shift) ≤ 2 * units + 10 ^ shift := by exact_mod_cast above
    have below : (2 : ℚ) * units ≤ 2 * (digits * 10 ^ shift) + 10 ^ shift := by exact_mod_cast below
    have whole : |(digits : ℚ) * 10 ^ shift - units| ≤ 10 ^ shift / 2 :=
      abs_le.mpr ⟨by linarith, by linarith⟩
    calc |(digits : ℚ) * 10 ^ ((shift : ℤ) - 149) - units * 10 ^ (-149 : ℤ)|
        = |(digits : ℚ) * 10 ^ shift - units| * 10 ^ (-149 : ℤ) := by
          rw [scale, ← mul_assoc, ← sub_mul, abs_mul, abs_of_pos (power _)]
      _ ≤ 10 ^ shift / 2 * 10 ^ (-149 : ℤ) := by gcongr
      _ = 10 ^ ((shift : ℤ) - 149) / 2 := by
          rw [scale]
          ring
  rcases cases with ⟨leading, fits, rounds⟩ | ⟨carries, rounds⟩
  · have exponent : (shift : ℤ) - 144 - 5 = shift - 149 := by ring
    rw [rounds]
    refine ⟨leading, fits, ?_⟩
    rw [Rounded.value]
    dsimp only
    rw [exponent]
    exact near
  · have exponent : (shift : ℤ) - 143 - 5 = shift - 149 + 1 := by ring
    have carried : (digits : ℚ) * 10 ^ ((shift : ℤ) - 149) =
        ((10 ^ 5 : Nat) : ℚ) * 10 ^ ((shift : ℤ) - 149 + 1) := by
      rw [carries, zpow_add_one₀ (by norm_num)]
      push_cast
      ring
    rw [rounds]
    refine ⟨le_refl _, by norm_num, ?_⟩
    rw [Rounded.value]
    dsimp only
    rw [exponent, ← carried]
    have coarser : (10 : ℚ) ^ ((shift : ℤ) - 149) ≤ 10 ^ ((shift : ℤ) - 149 + 1) :=
      zpow_le_zpow_right₀ (by norm_num) (by omega)
    linarith

end Rounding

end ExecUnit.Numeral

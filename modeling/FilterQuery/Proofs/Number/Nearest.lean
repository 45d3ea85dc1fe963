import FilterQuery.Number.Decimal
import FilterQuery.Proofs.Number.Rounding

/-!
# The number nearest to a decimal

Which number a decimal stands for depends on its sign and its size only: the digits before the
point, by which a decimal is found to be beyond the format, follow from the decimal logarithm. The
number is half a unit of its last place away at most, also where the decimal is too small for the
format, and a decimal with the size of a number of the format stands for this number.
-/

namespace FilterQuery

/-! ## Counts of digits -/

theorem digitCount_pos (n : ℕ) : 0 < digitCount n := List.length_pos_of_ne_nil Nat.toDigits_ne_nil

theorem lt_pow_digitCount (n : ℕ) : n < 10 ^ digitCount n :=
  (Nat.length_toDigits_le_iff (by decide) (digitCount_pos n)).1 le_rfl

theorem pow_le_of_lt_digitCount {n k : ℕ} (hn : n ≠ 0) (hk : k < digitCount n) : 10 ^ k ≤ n := by
  obtain rfl | hpos := Nat.eq_zero_or_pos k
  · exact Nat.pos_of_ne_zero hn
  · by_contra hlt
    have hle := (Nat.length_toDigits_le_iff (by decide) hpos).2 (Nat.lt_of_not_le hlt)
    exact absurd hk (Nat.not_lt.2 hle)

namespace Decimal

/-- The magnitude that a decimal stands for. -/
def size (d : Decimal) : ℚ := d.digits * 10 ^ d.exponent

theorem size_eq_zero_iff {d : Decimal} : d.size = 0 ↔ d.digits = 0 := by
  have hpower : (10 : ℚ) ^ d.exponent ≠ 0 := (zpow_pos (by norm_num) _).ne'
  rw [size, mul_eq_zero, or_iff_left hpower, Nat.cast_eq_zero]

theorem size_pos {d : Decimal} (h : d.digits ≠ 0) : 0 < d.size :=
  mul_pos (by exact_mod_cast Nat.pos_of_ne_zero h) (zpow_pos (by norm_num) _)

/-- The digits before the point are one more than the decimal logarithm. -/
theorem log_size {d : Decimal} (h : d.digits ≠ 0) :
    Int.log 10 d.size = digitCount d.digits + d.exponent - 1 := by
  have hpower : (0 : ℚ) < 10 ^ d.exponent := zpow_pos (by norm_num) _
  have hcount := digitCount_pos d.digits
  have hlow : ((10 ^ (digitCount d.digits - 1) : ℕ) : ℚ) ≤ d.digits := by
    exact_mod_cast pow_le_of_lt_digitCount h (Nat.sub_lt hcount Nat.one_pos)
  have hhigh : (d.digits : ℚ) < (10 ^ digitCount d.digits : ℕ) := by
    exact_mod_cast lt_pow_digitCount d.digits
  apply log_eq_of_bounds (by decide)
  · calc ((10 : ℕ) : ℚ) ^ ((digitCount d.digits : ℤ) + d.exponent - 1)
      _ = (10 ^ (digitCount d.digits - 1) : ℕ) * 10 ^ d.exponent := by
        rw [Nat.cast_ofNat, Nat.cast_pow, Nat.cast_ofNat, ← zpow_natCast,
          ← zpow_add₀ (by norm_num)]
        congr 1
        omega
      _ ≤ d.size := mul_le_mul_of_nonneg_right hlow hpower.le
  · calc d.size
      _ < (10 ^ digitCount d.digits : ℕ) * 10 ^ d.exponent := mul_lt_mul_of_pos_right hhigh hpower
      _ = ((10 : ℕ) : ℚ) ^ ((digitCount d.digits : ℤ) + d.exponent - 1 + 1) := by
        rw [Nat.cast_ofNat, Nat.cast_pow, Nat.cast_ofNat, ← zpow_natCast,
          ← zpow_add₀ (by norm_num)]
        congr 1
        omega

/-- The ratio that is rounded. -/
def ratio (d : Decimal) : ℕ × ℕ := Binary64.scaleDown 10 d.digits 1 (-d.exponent)

theorem ratio_pos (d : Decimal) : 0 < d.ratio.2 :=
  Binary64.scaleDown_pos _ (by decide) _ Nat.one_pos

theorem ratio_div (d : Decimal) : (d.ratio.1 : ℚ) / d.ratio.2 = d.size := by
  rw [ratio, Binary64.scaleDown_div _ (by decide), Nat.cast_one, div_one, size, zpow_neg,
    div_inv_eq_mul]
  norm_cast

theorem ratio_ne_zero {d : Decimal} (h : d.digits ≠ 0) : d.ratio.1 ≠ 0 :=
  Nat.mul_ne_zero h (Nat.pow_pos (by decide)).ne'

theorem nearest?_of_digits_eq_zero {d : Decimal} (h : d.digits = 0) :
    d.nearest? = some (.zero d.negative) := by
  simp [nearest?, h]

/-- The outcome in terms of the logarithm. -/
theorem nearest?_of_ne_zero {d : Decimal} (h : d.digits ≠ 0) :
    d.nearest? =
      if digitsBeyondRange ≤ Int.log 10 d.size then none
      else if Int.log 10 d.size + 1 < digitsBelowRange then some (.zero d.negative)
      else Binary64.ofRatio? d.negative d.ratio.1 d.ratio.2 := by
  have hbefore : (digitCount d.digits : ℤ) + d.exponent = Int.log 10 d.size + 1 := by
    rw [log_size h, sub_add_cancel]
  simp only [nearest?, h, if_false, hbefore, Int.lt_add_one_iff]
  rfl

/-- Only the sign and the size of a decimal count. -/
theorem nearest?_congr {d d' : Decimal} (hnegative : d.negative = d'.negative)
    (hsize : d.size = d'.size) : d.nearest? = d'.nearest? := by
  by_cases h : d.digits = 0
  · have h' : d'.digits = 0 := by rwa [← size_eq_zero_iff, ← hsize, size_eq_zero_iff]
    rw [nearest?_of_digits_eq_zero h, nearest?_of_digits_eq_zero h', hnegative]
  · have h' : d'.digits ≠ 0 := by rwa [Ne, ← size_eq_zero_iff, ← hsize, size_eq_zero_iff]
    have hratio : Binary64.ofRatio? d.negative d.ratio.1 d.ratio.2 =
        Binary64.ofRatio? d'.negative d'.ratio.1 d'.ratio.2 := by
      rw [hnegative]
      apply Binary64.ofRatio?_congr _ d.ratio_pos.ne' d'.ratio_pos.ne'
      rw [ratio_div, ratio_div, hsize]
    rw [nearest?_of_ne_zero h, nearest?_of_ne_zero h', hratio, hsize, hnegative]

theorem two_pow_le_ten_pow : 2 ^ 1074 * 2 ≤ 10 ^ 330 ∧ 2 ^ 53 * 2 ^ 971 ≤ 10 ^ 310 := by
  decide +kernel

/-- Below the range a decimal is smaller than half of the least unit. -/
theorem belowRange_le : (10 : ℚ) ^ (-330 : ℤ) ≤ 2 ^ (-1074 : ℤ) / 2 := by
  have hcast : (2 : ℚ) ^ 1074 * 2 ≤ 10 ^ 330 := by exact_mod_cast two_pow_le_ten_pow.1
  calc (10 : ℚ) ^ (-330 : ℤ)
    _ = (10 ^ 330)⁻¹ := by rw [zpow_neg, zpow_ofNat]
    _ ≤ (2 ^ 1074 * 2)⁻¹ := inv_anti₀ (by positivity) hcast
    _ = 2 ^ (-1074 : ℤ) / 2 := by rw [mul_inv, div_eq_mul_inv, zpow_neg, zpow_ofNat]

/-- Beyond the range a decimal is greater than every number of the format. -/
theorem le_beyondRange : (2 : ℚ) ^ 53 * 2 ^ (971 : ℤ) ≤ 10 ^ (310 : ℤ) := by
  exact_mod_cast two_pow_le_ten_pow.2

/-- The number that a decimal stands for is half a unit of its last place away at most. -/
theorem nearest?_eq_some {d : Decimal} {x : Binary64} (h : d.nearest? = some x) :
    x.IsCanonical ∧ x.negative = d.negative ∧ |x.size - d.size| ≤ 2 ^ x.exponent / 2 := by
  have hzero (negative : Bool) (hsmall : d.size ≤ 2 ^ (-1074 : ℤ) / 2) :
      |(Binary64.zero negative).size - d.size| ≤ 2 ^ (Binary64.zero negative).exponent / 2 := by
    have hnonneg : 0 ≤ d.size := mul_nonneg (Nat.cast_nonneg _) (zpow_pos (by norm_num) _).le
    have hnone : (Binary64.zero negative).size = 0 := Binary64.size_eq_zero_iff.2 rfl
    rw [hnone, zero_sub, abs_neg, abs_of_nonneg hnonneg]
    exact hsmall
  by_cases hdigits : d.digits = 0
  · rw [nearest?_of_digits_eq_zero hdigits] at h
    cases h
    refine ⟨Binary64.isCanonical_zero _, rfl, hzero _ ?_⟩
    rw [size_eq_zero_iff.2 hdigits]
    exact (half_pos (zpow_pos (by norm_num) _)).le
  · rw [nearest?_of_ne_zero hdigits] at h
    split_ifs at h with hbeyond hbelow
    · cases h
      refine ⟨Binary64.isCanonical_zero _, rfl, hzero _ ?_⟩
      have hlog : Int.log 10 d.size < -330 := by
        unfold digitsBelowRange at hbelow
        omega
      calc d.size
        _ ≤ 10 ^ (-330 : ℤ) := ((Int.lt_zpow_iff_log_lt (by decide) (size_pos hdigits)).2 hlog).le
        _ ≤ 2 ^ (-1074 : ℤ) / 2 := belowRange_le
    · have hround := Binary64.ofRatio?_eq_some (ratio_ne_zero hdigits) d.ratio_pos.ne' h
      rwa [ratio_div] at hround

/-- A decimal with the size of a number of the format stands for this number. -/
theorem nearest?_of_size_eq {d : Decimal} {x : Binary64} (hx : x.IsCanonical)
    (hnegative : d.negative = x.negative) (hsize : d.size = x.size) : d.nearest? = some x := by
  by_cases hdigits : d.digits = 0
  · have hmantissa : x.mantissa = 0 := by
      rwa [← Binary64.size_eq_zero_iff, ← hsize, size_eq_zero_iff]
    rw [nearest?_of_digits_eq_zero hdigits, hnegative, ← hx.eq_zero hmantissa]
  · have hpos : 0 < d.size := size_pos hdigits
    have hmantissa : x.mantissa ≠ 0 := by
      rw [Ne, ← Binary64.size_eq_zero_iff, ← hsize]
      exact hpos.ne'
    have hpower : (0 : ℚ) < 2 ^ x.exponent := zpow_pos (by norm_num) _
    have hhigh : Int.log 10 d.size < 310 := by
      apply (Int.lt_zpow_iff_log_lt (by decide) hpos).1
      have hbound : (x.mantissa : ℚ) < 2 ^ 53 := by exact_mod_cast hx.mantissa_lt
      calc d.size
        _ = x.mantissa * 2 ^ x.exponent := hsize
        _ < 2 ^ 53 * 2 ^ x.exponent := mul_lt_mul_of_pos_right hbound hpower
        _ ≤ 2 ^ 53 * 2 ^ (971 : ℤ) := by
          apply mul_le_mul_of_nonneg_left _ (by norm_num)
          exact zpow_le_zpow_right₀ (by norm_num) hx.le_greatest
        _ ≤ 10 ^ (310 : ℤ) := le_beyondRange
    have hlow : -330 ≤ Int.log 10 d.size := by
      apply (Int.zpow_le_iff_le_log (by decide) hpos).1
      have hone : (1 : ℚ) ≤ x.mantissa := by exact_mod_cast Nat.one_le_iff_ne_zero.2 hmantissa
      calc (10 : ℚ) ^ (-330 : ℤ)
        _ ≤ 2 ^ (-1074 : ℤ) / 2 := belowRange_le
        _ ≤ 2 ^ (-1074 : ℤ) := half_le_self (zpow_pos (by norm_num) _).le
        _ ≤ 2 ^ x.exponent := zpow_le_zpow_right₀ (by norm_num) hx.least_le
        _ ≤ x.mantissa * 2 ^ x.exponent := le_mul_of_one_le_left hpower.le hone
        _ = d.size := hsize.symm
    have hbeyond : ¬digitsBeyondRange ≤ Int.log 10 d.size := Int.not_le.2 hhigh
    have hbelow : ¬Int.log 10 d.size + 1 < digitsBelowRange := by
      unfold digitsBelowRange
      omega
    rw [nearest?_of_ne_zero hdigits, if_neg hbeyond, if_neg hbelow, hnegative]
    exact Binary64.ofRatio?_size hx d.ratio_pos.ne' (d.ratio_div.trans hsize)

end Decimal

end FilterQuery

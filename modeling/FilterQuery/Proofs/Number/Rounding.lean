import FilterQuery.Number.Binary64
import Mathlib.Data.Int.Log
import Mathlib.Data.Rat.Floor
import Mathlib.Tactic.FieldSimp
import Mathlib.Tactic.Linarith
import Mathlib.Tactic.Positivity
import Mathlib.Tactic.Ring

/-!
# Rounding to binary numbers

A ratio of natural numbers is rounded by way of its binary logarithm, which gives the exponent, and
of the quotient at this exponent, which gives the mantissa. So the outcome depends on the ratio only
and not on how it is written, it is half a unit of its last place away at most, and a ratio that is
a number of the format stands for that number.
-/

namespace FilterQuery

/-! ## Logarithms of ratios -/

theorem log_eq_of_bounds {b : ℕ} (hb : 1 < b) {q : ℚ} {k : ℤ} (hlow : (b : ℚ) ^ k ≤ q)
    (hhigh : q < (b : ℚ) ^ (k + 1)) : Int.log b q = k := by
  have hq : 0 < q := (zpow_pos (by positivity) k).trans_le hlow
  apply le_antisymm
  · exact Int.lt_add_one_iff.1 ((Int.lt_zpow_iff_log_lt hb hq).1 hhigh)
  · exact (Int.zpow_le_iff_le_log hb hq).1 hlow

/-- The logarithm of a ratio is the difference of those of its terms, or one less. -/
theorem log_ratio {b : ℕ} (hb : 1 < b) {n d i j : ℕ} (hn : b ^ i ≤ n) (hn' : n < b ^ (i + 1))
    (hd : b ^ j ≤ d) (hd' : d < b ^ (j + 1)) :
    Int.log b ((n : ℚ) / d) =
      if (b : ℚ) ^ ((i : ℤ) - j) ≤ (n : ℚ) / d then (i : ℤ) - j else (i : ℤ) - j - 1 := by
  have hbase : (0 : ℚ) < b := by exact_mod_cast hb.trans' Nat.zero_lt_one
  have hpos : (0 : ℚ) < d := by exact_mod_cast (Nat.pow_pos (hb.trans' Nat.zero_lt_one)).trans_le hd
  have hnlow : (b : ℚ) ^ (i : ℤ) ≤ n := by exact_mod_cast hn
  have hnhigh : (n : ℚ) < (b : ℚ) ^ ((i : ℤ) + 1) := by exact_mod_cast hn'
  have hdlow : (b : ℚ) ^ (j : ℤ) ≤ d := by exact_mod_cast hd
  have hdhigh : (d : ℚ) < (b : ℚ) ^ ((j : ℤ) + 1) := by exact_mod_cast hd'
  split_ifs with h
  · refine log_eq_of_bounds hb h ?_
    rw [div_lt_iff₀ hpos]
    calc (n : ℚ)
      _ < (b : ℚ) ^ ((i : ℤ) + 1) := hnhigh
      _ = (b : ℚ) ^ ((i : ℤ) - j + 1) * (b : ℚ) ^ (j : ℤ) := by
        rw [← zpow_add₀ hbase.ne']
        congr 1
        ring
      _ ≤ (b : ℚ) ^ ((i : ℤ) - j + 1) * d := mul_le_mul_of_nonneg_left hdlow (zpow_pos hbase _).le
  · refine log_eq_of_bounds hb ?_ (by rwa [sub_add_cancel, ← not_le])
    rw [le_div_iff₀ hpos]
    calc (b : ℚ) ^ ((i : ℤ) - j - 1) * d
      _ ≤ (b : ℚ) ^ ((i : ℤ) - j - 1) * (b : ℚ) ^ ((j : ℤ) + 1) :=
        mul_le_mul_of_nonneg_left hdhigh.le (zpow_pos hbase _).le
      _ = (b : ℚ) ^ (i : ℤ) := by
        rw [← zpow_add₀ hbase.ne']
        congr 1
        ring
      _ ≤ n := hnlow

namespace Binary64

/-! ## Scaling -/

section

variable {b : ℕ} (e : ℤ)

theorem scaleDown_pos (hb : 0 < b) (n : ℕ) {d : ℕ} (hd : 0 < d) : 0 < (scaleDown b n d e).2 :=
  Nat.mul_pos hd (Nat.pow_pos hb)

theorem scaleDown_div (hb : 0 < b) (n d : ℕ) :
    ((scaleDown b n d e).1 : ℚ) / (scaleDown b n d e).2 = (n : ℚ) / d / (b : ℚ) ^ e := by
  have hbase : (b : ℚ) ≠ 0 := by exact_mod_cast hb.ne'
  have hpower : (b : ℚ) ^ e = (b : ℚ) ^ e.toNat / (b : ℚ) ^ (-e).toNat := by
    rw [← zpow_natCast, ← zpow_natCast, ← zpow_sub₀ hbase]
    congr 1
    omega
  simp only [scaleDown, Nat.pow_eq, Nat.cast_mul, Nat.cast_pow, hpower]
  have hup : (b : ℚ) ^ e.toNat ≠ 0 := pow_ne_zero _ hbase
  have hdown : (b : ℚ) ^ (-e).toNat ≠ 0 := pow_ne_zero _ hbase
  by_cases hd : (d : ℚ) = 0
  · simp [hd]
  · field_simp

end

/-! ## Rounding to natural numbers -/

theorem roundHalfEven_mul (n d : ℕ) {c : ℕ} (hc : 0 < c) :
    roundHalfEven (n * c) (d * c) = roundHalfEven n d := by
  have htwice : 2 * (n % d * c) = 2 * (n % d) * c := (Nat.mul_assoc _ _ _).symm
  simp only [roundHalfEven, Nat.mul_div_mul_right _ _ hc, Nat.mul_mod_mul_right, htwice,
    Nat.mul_lt_mul_right hc, Nat.mul_left_inj hc.ne']

theorem roundHalfEven_congr {n d n' d' : ℕ} (hd : 0 < d) (hd' : 0 < d')
    (h : (n : ℚ) / d = (n' : ℚ) / d') : roundHalfEven n d = roundHalfEven n' d' := by
  have hcross : n * d' = n' * d := by
    rw [div_eq_div_iff (by exact_mod_cast hd.ne') (by exact_mod_cast hd'.ne')] at h
    exact_mod_cast h
  rw [← roundHalfEven_mul n d hd', hcross, Nat.mul_comm d d', roundHalfEven_mul n' d' hd]

theorem roundHalfEven_self (k : ℕ) : roundHalfEven k 1 = k := by
  simp [roundHalfEven, Nat.mod_one]

/-- What is rounded is half a unit away at most. -/
theorem abs_roundHalfEven_sub_le (n : ℕ) {d : ℕ} (hd : 0 < d) :
    |(roundHalfEven n d : ℚ) - (n : ℚ) / d| ≤ 1 / 2 := by
  have hpos : (0 : ℚ) < d := by exact_mod_cast hd
  have hsplit : (n : ℚ) / d = ((n / d : ℕ) : ℚ) + ((n % d : ℕ) : ℚ) / d := by
    have hn : (n : ℚ) = d * ((n / d : ℕ) : ℚ) + ((n % d : ℕ) : ℚ) := by
      exact_mod_cast (Nat.div_add_mod n d).symm
    field_simp
    linarith
  have hlow : 0 ≤ ((n % d : ℕ) : ℚ) / d := by positivity
  have hhigh : ((n % d : ℕ) : ℚ) / d < 1 := by
    rw [div_lt_one hpos]
    exact_mod_cast Nat.mod_lt n hd
  rw [hsplit, roundHalfEven]
  split_ifs with h
  · have hhalf : ((n % d : ℕ) : ℚ) / d ≤ 1 / 2 := by
      rw [div_le_iff₀ hpos]
      have htwice : 2 * (n % d) ≤ d := by omega
      have hcast : (2 : ℚ) * ((n % d : ℕ) : ℚ) ≤ d := by exact_mod_cast htwice
      linarith
    rw [abs_le]
    constructor <;> linarith
  · have hhalf : 1 / 2 ≤ ((n % d : ℕ) : ℚ) / d := by
      rw [le_div_iff₀ hpos]
      have htwice : d ≤ 2 * (n % d) := by omega
      have hcast : (d : ℚ) ≤ 2 * ((n % d : ℕ) : ℚ) := by exact_mod_cast htwice
      linarith
    rw [abs_le]
    push_cast
    constructor <;> linarith

/-! ## Exponents -/

/-- The exponent puts 53 bits before the point, unless it would be too small. -/
theorem exponentOf_eq {n d : ℕ} (hn : n ≠ 0) (hd : d ≠ 0) :
    exponentOf n d = max leastExponent (Int.log 2 ((n : ℚ) / d) - 52) := by
  have hlog := log_ratio (by decide : 1 < 2) (Nat.log2_self_le hn) Nat.lt_log2_self
    (Nat.log2_self_le hd) Nat.lt_log2_self
  have hguess (e : ℤ) : (scaleDown 2 n d e).2 * 2 ^ 53 ≤ (scaleDown 2 n d e).1 ↔
      ((2 : ℕ) : ℚ) ^ (e + 53) ≤ (n : ℚ) / d := by
    have hpos : (0 : ℚ) < (scaleDown 2 n d e).2 := by
      exact_mod_cast scaleDown_pos e (by decide) n (Nat.pos_of_ne_zero hd)
    have hpower : (0 : ℚ) < ((2 : ℕ) : ℚ) ^ e := zpow_pos (by norm_num) e
    calc (scaleDown 2 n d e).2 * 2 ^ 53 ≤ (scaleDown 2 n d e).1
      _ ↔ ((scaleDown 2 n d e).2 : ℚ) * 2 ^ 53 ≤ (scaleDown 2 n d e).1 := by
        rw [← Nat.cast_le (α := ℚ)]
        push_cast
        rfl
      _ ↔ (2 : ℚ) ^ 53 ≤ ((scaleDown 2 n d e).1 : ℚ) / (scaleDown 2 n d e).2 := by
        rw [le_div_iff₀' hpos]
      _ ↔ ((2 : ℕ) : ℚ) ^ (e + 53) ≤ (n : ℚ) / d := by
        rw [scaleDown_div e (by decide), le_div_iff₀ hpower, zpow_add₀ (by norm_num), mul_comm]
        norm_cast
  unfold exponentOf
  simp only [Nat.pow_eq, hguess]
  rw [hlog]
  have hdifference : (n.log2 : ℤ) - d.log2 - 53 + 53 = n.log2 - d.log2 := by ring
  rw [hdifference]
  split_ifs <;> congr 1 <;> ring

/-! ## Numbers of the format -/

/-- The magnitude that a number stands for. -/
def size (x : Binary64) : ℚ := x.mantissa * 2 ^ x.exponent

/-- A mantissa of 53 bits, or of fewer with the least exponent. -/
structure IsCanonical (x : Binary64) : Prop where
  mantissa_lt : x.mantissa < 2 ^ 53
  least_le : leastExponent ≤ x.exponent
  le_greatest : x.exponent ≤ greatestExponent
  normal : 2 ^ 52 ≤ x.mantissa ∨ x.exponent = leastExponent

theorem isCanonical_zero (negative : Bool) : (zero negative).IsCanonical where
  mantissa_lt := (by decide : 0 < 2 ^ 53)
  least_le := le_rfl
  le_greatest := (by decide : leastExponent ≤ greatestExponent)
  normal := .inr rfl

theorem size_eq_zero_iff {x : Binary64} : x.size = 0 ↔ x.mantissa = 0 := by
  have hpower : (2 : ℚ) ^ x.exponent ≠ 0 := (zpow_pos (by norm_num) _).ne'
  rw [size, mul_eq_zero, or_iff_left hpower, Nat.cast_eq_zero]

theorem IsCanonical.eq_zero {x : Binary64} (h : x.IsCanonical) (hzero : x.mantissa = 0) :
    x = zero x.negative := by
  obtain ⟨negative, mantissa, exponent⟩ := x
  obtain rfl : mantissa = 0 := hzero
  obtain rfl : exponent = leastExponent := h.normal.resolve_left (by simp)
  rfl

theorem ratio_div (x : Binary64) : (x.ratio.1 : ℚ) / x.ratio.2 = x.size := by
  rw [ratio, scaleDown_div _ (by decide), Nat.cast_one, div_one, size, zpow_neg, div_inv_eq_mul]
  norm_cast

theorem ratio_pos (x : Binary64) : 0 < x.ratio.2 := scaleDown_pos _ (by decide) _ Nat.one_pos

/-- The outcome of rounding is that of the ratio, however it is written. -/
theorem ofRatio?_congr (negative : Bool) {n d n' d' : ℕ} (hd : d ≠ 0) (hd' : d' ≠ 0)
    (h : (n : ℚ) / d = (n' : ℚ) / d') : ofRatio? negative n d = ofRatio? negative n' d' := by
  have hzero : n = 0 ↔ n' = 0 := by
    rw [← Nat.cast_eq_zero (R := ℚ), ← Nat.cast_eq_zero (R := ℚ) (n := n')]
    have hleft : (n : ℚ) / d = 0 ↔ (n : ℚ) = 0 := by simp [hd]
    have hright : (n' : ℚ) / d' = 0 ↔ (n' : ℚ) = 0 := by simp [hd']
    rw [← hleft, ← hright, h]
  by_cases hn : n = 0
  · rw [ofRatio?, ofRatio?, if_pos hn, if_pos (hzero.1 hn)]
  · have hn' : n' ≠ 0 := mt hzero.2 hn
    have hmantissa (e : ℤ) : roundHalfEven (scaleDown 2 n d e).1 (scaleDown 2 n d e).2 =
        roundHalfEven (scaleDown 2 n' d' e).1 (scaleDown 2 n' d' e).2 := by
      apply roundHalfEven_congr (scaleDown_pos e (by decide) n (Nat.pos_of_ne_zero hd))
        (scaleDown_pos e (by decide) n' (Nat.pos_of_ne_zero hd'))
      rw [scaleDown_div e (by decide), scaleDown_div e (by decide), h]
    simp only [ofRatio?, hn, hn', if_false, exponentOf_eq hn hd, exponentOf_eq hn' hd', h,
      hmantissa]

/-- A ratio at its exponent lies below `2 ^ 53`, and not below `2 ^ 52` unless the exponent is the
least one. -/
theorem bounds_of_exponentOf {n d : ℕ} (hn : n ≠ 0) (hd : d ≠ 0) :
    (n : ℚ) / d / 2 ^ exponentOf n d < 2 ^ 53 ∧
      (exponentOf n d = leastExponent ∨ 2 ^ 52 ≤ (n : ℚ) / d / 2 ^ exponentOf n d) := by
  have hq : (0 : ℚ) < (n : ℚ) / d := by positivity
  have hpower : (0 : ℚ) < 2 ^ exponentOf n d := zpow_pos (by norm_num) _
  have hlow := Int.zpow_log_le_self (by decide : 1 < 2) hq
  have hhigh := Int.lt_zpow_succ_log_self (by decide : 1 < 2) ((n : ℚ) / d)
  have he := exponentOf_eq hn hd
  constructor
  · rw [div_lt_iff₀ hpower]
    calc (n : ℚ) / d
      _ < 2 ^ (Int.log 2 ((n : ℚ) / d) + 1) := hhigh
      _ ≤ 2 ^ (53 + exponentOf n d) := zpow_le_zpow_right₀ (by norm_num) (by omega)
      _ = 2 ^ 53 * 2 ^ exponentOf n d := by rw [zpow_add₀ (by norm_num)]; norm_cast
  · refine (le_or_gt (Int.log 2 ((n : ℚ) / d) - 52) leastExponent).imp
      (fun h ↦ he.trans (max_eq_left h)) fun h ↦ ?_
    rw [max_eq_right h.le] at he
    rw [le_div_iff₀ hpower]
    calc (2 : ℚ) ^ 52 * 2 ^ exponentOf n d
      _ = 2 ^ (52 + exponentOf n d) := by rw [zpow_add₀ (by norm_num)]; norm_cast
      _ = 2 ^ Int.log 2 ((n : ℚ) / d) := by rw [he]; congr 1; ring
      _ ≤ (n : ℚ) / d := hlow

/-- The mantissa that a ratio is rounded to, before a carry. -/
def mantissaOf (n d : ℕ) : ℕ :=
  roundHalfEven (scaleDown 2 n d (exponentOf n d)).1 (scaleDown 2 n d (exponentOf n d)).2

/-- A mantissa that the rounding carries to `2 ^ 53` is halved, with the next exponent. -/
def carried (negative : Bool) (mantissa : ℕ) (exponent : ℤ) : Binary64 :=
  if mantissa = 2 ^ 53 then ⟨negative, 2 ^ 52, exponent + 1⟩ else ⟨negative, mantissa, exponent⟩

theorem ofRatio?_of_ne_zero (negative : Bool) {n : ℕ} (hn : n ≠ 0) (d : ℕ) :
    ofRatio? negative n d =
      let rounded := carried negative (mantissaOf n d) (exponentOf n d)
      if rounded.exponent ≤ greatestExponent then some rounded else none := by
  simp only [ofRatio?, hn, if_false]
  rfl

theorem abs_mantissaOf_sub_le (n : ℕ) {d : ℕ} (hd : d ≠ 0) :
    |(mantissaOf n d : ℚ) - (n : ℚ) / d / 2 ^ exponentOf n d| ≤ 1 / 2 := by
  have hpos : 0 < (scaleDown 2 n d (exponentOf n d)).2 :=
    scaleDown_pos _ (by decide) n (Nat.pos_of_ne_zero hd)
  have herror := abs_roundHalfEven_sub_le (scaleDown 2 n d (exponentOf n d)).1 hpos
  rwa [scaleDown_div _ (by decide), Nat.cast_ofNat] at herror

theorem mantissaOf_bounds {n d : ℕ} (hn : n ≠ 0) (hd : d ≠ 0) :
    mantissaOf n d ≤ 2 ^ 53 ∧ (2 ^ 52 ≤ mantissaOf n d ∨ exponentOf n d = leastExponent) := by
  obtain ⟨hlt, hnormal⟩ := bounds_of_exponentOf hn hd
  obtain ⟨hbelow, habove⟩ := abs_le.1 (abs_mantissaOf_sub_le n hd)
  constructor
  · have hcast : (mantissaOf n d : ℚ) < (2 ^ 53 + 1 : ℕ) := by
      push_cast
      linarith
    exact Nat.le_of_lt_succ (by exact_mod_cast hcast)
  · refine hnormal.symm.imp_left fun hnormal ↦ ?_
    have hcast : ((2 ^ 52 - 1 : ℕ) : ℚ) < mantissaOf n d := by
      push_cast
      linarith
    have hlow : 2 ^ 52 - 1 < mantissaOf n d := by exact_mod_cast hcast
    exact hlow

/-- The unit of the last place is that of the exponent. -/
theorem abs_mantissaOf_mul_sub_le (n : ℕ) {d : ℕ} (hd : d ≠ 0) :
    |(mantissaOf n d : ℚ) * 2 ^ exponentOf n d - (n : ℚ) / d| ≤ 2 ^ exponentOf n d / 2 := by
  have hpower : (0 : ℚ) < 2 ^ exponentOf n d := zpow_pos (by norm_num) _
  calc |(mantissaOf n d : ℚ) * 2 ^ exponentOf n d - (n : ℚ) / d|
    _ = |((mantissaOf n d : ℚ) - (n : ℚ) / d / 2 ^ exponentOf n d) * 2 ^ exponentOf n d| := by
      rw [sub_mul, div_mul_cancel₀ _ hpower.ne']
    _ = |(mantissaOf n d : ℚ) - (n : ℚ) / d / 2 ^ exponentOf n d| * 2 ^ exponentOf n d := by
      rw [abs_mul, abs_of_pos hpower]
    _ ≤ 1 / 2 * 2 ^ exponentOf n d :=
      mul_le_mul_of_nonneg_right (abs_mantissaOf_sub_le n hd) hpower.le
    _ = 2 ^ exponentOf n d / 2 := by ring

/-- What a ratio is rounded to is a number of the format with the same sign, half a unit of its last
place away at most. -/
theorem ofRatio?_eq_some {negative : Bool} {n d : ℕ} (hn : n ≠ 0) (hd : d ≠ 0) {x : Binary64}
    (h : ofRatio? negative n d = some x) :
    x.IsCanonical ∧ x.negative = negative ∧ |x.size - (n : ℚ) / d| ≤ 2 ^ x.exponent / 2 := by
  obtain ⟨hmantissa, hnormal⟩ := mantissaOf_bounds hn hd
  have herror := abs_mantissaOf_mul_sub_le n hd
  have hleast : leastExponent ≤ exponentOf n d := by
    rw [exponentOf_eq hn hd]
    exact le_max_left _ _
  simp only [ofRatio?_of_ne_zero negative hn, carried] at h
  split_ifs at h with hcarry hgreatest hgreatest
  · cases h
    have hnext : (2 : ℚ) ^ (exponentOf n d + 1) = 2 * 2 ^ exponentOf n d := by
      rw [zpow_add₀ (by norm_num), zpow_one, mul_comm]
    have hsame : size ⟨negative, 2 ^ 52, exponentOf n d + 1⟩ =
        mantissaOf n d * 2 ^ exponentOf n d := by
      rw [size, hnext, hcarry]
      push_cast
      ring
    refine ⟨⟨by norm_num, hleast.trans (Int.le_add_one le_rfl), hgreatest, .inl le_rfl⟩, rfl, ?_⟩
    rw [hsame, hnext]
    have hpower : (0 : ℚ) < 2 ^ exponentOf n d := zpow_pos (by norm_num) _
    linarith
  · cases h
    exact ⟨⟨lt_of_le_of_ne hmantissa hcarry, hleast, hgreatest, hnormal⟩, rfl, herror⟩

/-- A number of the format has its own exponent. -/
theorem exponentOf_size {x : Binary64} (h : x.IsCanonical) {n d : ℕ} (hn : n ≠ 0) (hd : d ≠ 0)
    (hsize : (n : ℚ) / d = x.size) : exponentOf n d = x.exponent := by
  have hpower : (0 : ℚ) < 2 ^ x.exponent := zpow_pos (by norm_num) _
  have hpos : 0 < x.size := hsize ▸ (by positivity : (0 : ℚ) < (n : ℚ) / d)
  have hmantissa : (x.mantissa : ℚ) < 2 ^ 53 := by exact_mod_cast h.mantissa_lt
  rw [exponentOf_eq hn hd, hsize]
  have hlog (k : ℕ) (hlt : (x.mantissa : ℚ) < 2 ^ k) : Int.log 2 x.size < x.exponent + k := by
    refine (Int.lt_zpow_iff_log_lt (by decide) hpos).1 ?_
    rw [size, Nat.cast_ofNat, zpow_add₀ (by norm_num), mul_comm, zpow_natCast]
    exact mul_lt_mul_of_pos_left hlt hpower
  have hhigh := hlog 53 hmantissa
  have hleast := h.least_le
  by_cases hnormal : 2 ^ 52 ≤ x.mantissa
  · have hlow : x.exponent + 52 ≤ Int.log 2 x.size := by
      refine (Int.zpow_le_iff_le_log (by decide) hpos).1 ?_
      have hcast : (2 : ℚ) ^ 52 ≤ x.mantissa := by exact_mod_cast hnormal
      rw [size, Nat.cast_ofNat, zpow_add₀ (by norm_num), mul_comm]
      exact mul_le_mul_of_nonneg_right hcast hpower.le
    push_cast at hhigh
    omega
  · have hlow := hlog 52 (by exact_mod_cast Nat.lt_of_not_le hnormal)
    have hexponent := h.normal.resolve_left hnormal
    push_cast at hlow
    omega

/-- A number of the format is rounded to itself. -/
theorem ofRatio?_size {x : Binary64} (h : x.IsCanonical) {n d : ℕ} (hd : d ≠ 0)
    (hsize : (n : ℚ) / d = x.size) : ofRatio? x.negative n d = some x := by
  by_cases hn : n = 0
  · have hzero : x.mantissa = 0 := by
      rw [← size_eq_zero_iff, ← hsize, hn]
      simp
    rw [ofRatio?, if_pos hn, ← h.eq_zero hzero]
  · have hexponent := exponentOf_size h hn hd hsize
    have hmantissa : mantissaOf n d = x.mantissa := by
      rw [mantissaOf, hexponent, ← roundHalfEven_self x.mantissa]
      refine roundHalfEven_congr (scaleDown_pos _ (by decide) n (Nat.pos_of_ne_zero hd))
        Nat.one_pos ?_
      rw [scaleDown_div _ (by decide), hsize, size, Nat.cast_ofNat,
        mul_div_cancel_right₀ _ (zpow_pos (by norm_num) _).ne', Nat.cast_one, div_one]
    simp only [ofRatio?_of_ne_zero x.negative hn, carried, hmantissa, hexponent,
      h.mantissa_lt.ne, if_false, h.le_greatest, if_true]

end Binary64

end FilterQuery

import FilterQuery.Proofs.Number.Numeral

/-!
# The text of a binary number

The shortest decimal of a number reads back as this number. For a natural number up to `2 ^ 53` it
has this number for its size: a decimal with fewer digits is a multiple of ten, and no multiple of
ten but the number itself is near enough to be read as it; the decimal with all digits of the number
is tried before its neighbour, which also reads back when numbers lie two apart.
-/

namespace FilterQuery

open FilterQuery.Calendar (ofDigits_append)

namespace Binary64

theorem scaleDown_le_iff {b : ℕ} (e : ℤ) (hb : 0 < b) (n : ℕ) {d : ℕ} (hd : 0 < d) :
    (scaleDown b n d e).2 ≤ (scaleDown b n d e).1 ↔ (b : ℚ) ^ e ≤ (n : ℚ) / d := by
  have hpos : (0 : ℚ) < (scaleDown b n d e).2 := by exact_mod_cast scaleDown_pos e hb n hd
  have hpower : (0 : ℚ) < (b : ℚ) ^ e := zpow_pos (by exact_mod_cast hb) e
  calc (scaleDown b n d e).2 ≤ (scaleDown b n d e).1
    _ ↔ ((scaleDown b n d e).2 : ℚ) ≤ (scaleDown b n d e).1 := Nat.cast_le.symm
    _ ↔ 1 ≤ ((scaleDown b n d e).1 : ℚ) / (scaleDown b n d e).2 := (one_le_div hpos).symm
    _ ↔ (b : ℚ) ^ e ≤ (n : ℚ) / d := by rw [scaleDown_div e hb, one_le_div hpower]

theorem size_pos {x : Binary64} (h : x.mantissa ≠ 0) : 0 < x.size :=
  mul_pos (by exact_mod_cast Nat.pos_of_ne_zero h) (zpow_pos (by norm_num) _)

theorem mantissa_ne_zero {x : Binary64} {n : ℕ} (hn : n ≠ 0) (h : x.size = n) : x.mantissa ≠ 0 := by
  rw [Ne, ← size_eq_zero_iff, h]
  exact_mod_cast hn

theorem ratio_ne_zero {x : Binary64} (h : x.mantissa ≠ 0) : x.ratio.1 ≠ 0 :=
  Nat.mul_ne_zero h (Nat.pow_pos (by decide)).ne'

/-- A natural number up to `2 ^ 53` is a number of the format. -/
theorem exists_isCanonical (negative : Bool) {n : ℕ} (hn : n ≠ 0) (hle : n ≤ 2 ^ 53) :
    ∃ x : Binary64, x.IsCanonical ∧ x.negative = negative ∧ x.size = n := by
  obtain rfl | hlt := hle.eq_or_lt
  · have hleast : leastExponent ≤ 1 := by decide
    have hgreatest : 1 ≤ greatestExponent := by decide
    refine ⟨⟨negative, 2 ^ 52, 1⟩, ⟨by norm_num, hleast, hgreatest, .inl le_rfl⟩, rfl, ?_⟩
    norm_num [size]
  · have hlog : n.log2 ≤ 52 := Nat.lt_succ_iff.1 ((Nat.log2_lt hn).2 hlt)
    have hsplit : 2 ^ 53 = 2 ^ (n.log2 + 1) * 2 ^ (52 - n.log2) := by
      rw [← Nat.pow_add]
      congr 1
      omega
    have hsplit' : 2 ^ 52 = 2 ^ n.log2 * 2 ^ (52 - n.log2) := by
      rw [← Nat.pow_add]
      congr 1
      omega
    have hleast : leastExponent ≤ -((52 - n.log2 : ℕ) : ℤ) := by
      unfold leastExponent
      omega
    have hgreatest : -((52 - n.log2 : ℕ) : ℤ) ≤ greatestExponent := by
      unfold greatestExponent
      omega
    refine ⟨⟨negative, n * 2 ^ (52 - n.log2), -((52 - n.log2 : ℕ) : ℤ)⟩,
      ⟨?_, hleast, hgreatest, .inl ?_⟩, rfl, ?_⟩
    · rw [hsplit]
      exact Nat.mul_lt_mul_of_pos_right Nat.lt_log2_self (Nat.pow_pos (by decide))
    · rw [hsplit']
      exact Nat.mul_le_mul_right _ (Nat.log2_self_le hn)
    · rw [size, zpow_neg, zpow_natCast]
      push_cast
      rw [mul_inv_cancel_right₀ (by positivity)]

end Binary64

namespace Decimal

/-! ## Zeros at the end -/

theorem not_dvd_ofDigits {cs : List Char} {c : Char} (h : c.isDigit = true) (hzero : c ≠ '0') :
    ¬10 ∣ ofDigits (cs ++ [c]) := by
  have hrange := Char.isDigit_iff_toNat.1 h
  have hcode : c.toNat ≠ '0'.toNat := fun hcode ↦ hzero (Char.toNat_inj.1 hcode)
  have hvalue : ofDigits [c] = c.toNat - '0'.toNat := Nat.zero_add _
  have hleast : '0'.toNat = 48 := rfl
  have hgreatest : '9'.toNat = 57 := rfl
  rw [ofDigits_append, List.length_singleton, Nat.pow_one, hvalue]
  omega

/-- Without the zeros at its end a row of digits is not divisible by ten. -/
theorem exists_eq_mul_pow {n : ℕ} (hn : n ≠ 0) :
    ∃ m, ¬10 ∣ m ∧
      n = m * 10 ^ ((Nat.toDigits 10 n).reverse.takeWhile (· == '0')).length := by
  have hsplit :=
    List.takeWhile_append_dropWhile (p := (· == '0')) (l := (Nat.toDigits 10 n).reverse)
  have hzeros : ((Nat.toDigits 10 n).reverse.takeWhile (· == '0')) =
      List.replicate ((Nat.toDigits 10 n).reverse.takeWhile (· == '0')).length '0' :=
    List.eq_replicate_of_mem fun c hc ↦ by simpa using List.mem_takeWhile_imp hc
  have hlast := List.head?_dropWhile_not (· == '0') (Nat.toDigits 10 n).reverse
  have hdigits : ∀ c ∈ (Nat.toDigits 10 n).reverse.dropWhile (· == '0'), c.isDigit = true :=
    fun c hc ↦ (isRow_toDigits n).2 c (List.mem_reverse.1 ((List.dropWhile_sublist _).mem hc))
  generalize ((Nat.toDigits 10 n).reverse.takeWhile (· == '0')).length = zeros at hzeros ⊢
  generalize (Nat.toDigits 10 n).reverse.dropWhile (· == '0') = rest at hsplit hlast hdigits
  have hvalue : n = ofDigits rest.reverse * 10 ^ zeros := by
    calc n
      _ = ofDigits (Nat.toDigits 10 n) := (ofDigits_toDigits n).symm
      _ = ofDigits (rest.reverse ++ List.replicate zeros '0') := by
        rw [← List.reverse_replicate, ← List.reverse_append, ← hzeros, hsplit, List.reverse_reverse]
      _ = ofDigits rest.reverse * 10 ^ zeros := by
        rw [ofDigits_append, ofDigits_zeros, List.length_replicate, Nat.add_zero, Nat.mul_comm]
  refine ⟨ofDigits rest.reverse, ?_, hvalue⟩
  cases rest with
  | nil => exact absurd (hvalue.trans (Nat.zero_mul _)) hn
  | cons c rest =>
    rw [List.reverse_cons]
    exact not_dvd_ofDigits (hdigits c List.mem_cons_self) (by simpa using hlast)

theorem dropTrailingZeros_negative (d : Decimal) : d.dropTrailingZeros.negative = d.negative := by
  unfold dropTrailingZeros
  split <;> rfl

theorem exists_dropTrailingZeros {d : Decimal} (h : d.digits ≠ 0) :
    ¬10 ∣ d.dropTrailingZeros.digits ∧ d.dropTrailingZeros.size = d.size := by
  obtain ⟨m, hm, hn⟩ := exists_eq_mul_pow h
  have hpower : 0 < 10 ^ ((Nat.toDigits 10 d.digits).reverse.takeWhile (· == '0')).length :=
    Nat.pow_pos (by decide)
  simp only [dropTrailingZeros, h, if_false, size, Nat.pow_eq]
  generalize ((Nat.toDigits 10 d.digits).reverse.takeWhile (· == '0')).length = zeros at hn hpower
  rw [hn, Nat.mul_div_cancel _ hpower]
  refine ⟨hm, ?_⟩
  rw [zpow_add₀ (by norm_num), zpow_natCast]
  push_cast
  ring

theorem dropTrailingZeros_size (d : Decimal) : d.dropTrailingZeros.size = d.size := by
  by_cases h : d.digits = 0
  · simp [dropTrailingZeros, h]
  · exact (exists_dropTrailingZeros h).2

/-! ## Candidates -/

theorem magnitude_eq {n d : ℕ} (hn : n ≠ 0) (hd : d ≠ 0) :
    magnitude n d = Int.log 10 ((n : ℚ) / d) := by
  have hcount {k : ℕ} (hk : k ≠ 0) :
      10 ^ (digitCount k - 1) ≤ k ∧ k < 10 ^ (digitCount k - 1 + 1) := by
    have hpos := digitCount_pos k
    refine ⟨pow_le_of_lt_digitCount hk (Nat.sub_lt hpos Nat.one_pos), ?_⟩
    rw [Nat.sub_add_cancel hpos]
    exact lt_pow_digitCount k
  have hlog :=
    log_ratio (by decide : 1 < 10) (hcount hn).1 (hcount hn).2 (hcount hd).1 (hcount hd).2
  have hguess : ((digitCount n - 1 : ℕ) : ℤ) - (digitCount d - 1 : ℕ) =
      (digitCount n : ℤ) - digitCount d := by
    have hn := digitCount_pos n
    have hd := digitCount_pos d
    omega
  rw [hguess] at hlog
  simp only [magnitude, Binary64.scaleDown_le_iff _ (by decide : 0 < 10) n (Nat.pos_of_ne_zero hd)]
  exact hlog.symm

theorem magnitude_ratio {x : Binary64} (h : x.mantissa ≠ 0) :
    magnitude x.ratio.1 x.ratio.2 = Int.log 10 x.size := by
  rw [magnitude_eq (Binary64.ratio_ne_zero h) x.ratio_pos.ne', x.ratio_div]

theorem exponent_of_mem_neighbours {tie : Tie} {x : Binary64} (h : x.mantissa ≠ 0) {count : ℕ}
    {d : Decimal} (hd : d ∈ neighbours tie x count) :
    d.exponent = Int.log 10 x.size + 1 - count := by
  rw [← magnitude_ratio h]
  simp only [neighbours] at hd
  split at hd
  all_goals
    simp only [List.mem_cons, List.not_mem_nil, or_false] at hd
    rcases hd with rfl | rfl <;> rfl

theorem exact_negative (x : Binary64) : (exact x).negative = x.negative := rfl

theorem exact_size (x : Binary64) : (exact x).size = x.size := by
  have hten (k : ℕ) : (5 : ℚ) ^ k * 10 ^ (-(k : ℤ)) = 2 ^ (-(k : ℤ)) := by
    have hsplit : (10 : ℚ) ^ k = 5 ^ k * 2 ^ k := by rw [← mul_pow]; norm_num
    rw [zpow_neg, zpow_neg, zpow_natCast, zpow_natCast, hsplit, mul_inv,
      mul_inv_cancel_left₀ (by positivity)]
  rcases le_total 0 x.exponent with hexponent | hexponent
  · obtain ⟨k, hk⟩ := Int.eq_ofNat_of_zero_le hexponent
    have hdown : (-x.exponent).toNat = 0 := by omega
    have hup : x.exponent.toNat = k := by omega
    rw [size, exact, Binary64.size, hdown, hup, min_eq_right hexponent, hk, zpow_natCast]
    simp
  · obtain ⟨k, hk⟩ := Int.eq_ofNat_of_zero_le (Int.neg_nonneg_of_nonpos hexponent)
    have hexponent' : x.exponent = -(k : ℤ) := by omega
    have hdown : (-x.exponent).toNat = k := by omega
    have hup : x.exponent.toNat = 0 := by omega
    rw [size, exact, Binary64.size, hdown, hup, min_eq_left hexponent, hexponent']
    simp only [Nat.pow_eq, Nat.pow_zero, Nat.mul_one]
    push_cast
    rw [mul_assoc, hten]

/-- The logarithm of a natural number counts its digits. -/
theorem log_natCast {n : ℕ} (hn : n ≠ 0) : Int.log 10 (n : ℚ) = digitCount n - 1 := by
  have hlog : Int.log 10 (size ⟨false, n, 0⟩) = digitCount n + 0 - 1 := log_size hn
  rwa [size, zpow_zero, mul_one, add_zero] at hlog

/-- The decimal with all digits of a natural number is the first of its candidates. -/
theorem neighbours_digitCount (tie : Tie) {x : Binary64} {n : ℕ} (hn : n ≠ 0) (h : x.size = n) :
    ∃ upper, neighbours tie x (digitCount n) = [⟨x.negative, n, 0⟩, upper] := by
  have hmantissa := Binary64.mantissa_ne_zero hn h
  have hexponent : magnitude x.ratio.1 x.ratio.2 + 1 - (digitCount n : ℤ) = 0 := by
    rw [magnitude_ratio hmantissa, h, log_natCast hn]
    ring
  have hratio : x.ratio.1 = n * x.ratio.2 := by
    have hdiv := x.ratio_div
    rw [h, div_eq_iff (by exact_mod_cast x.ratio_pos.ne')] at hdiv
    exact_mod_cast hdiv
  have hpos := x.ratio_pos
  have hscaled : Binary64.scaleDown 10 x.ratio.1 x.ratio.2 0 = x.ratio := by
    simp [Binary64.scaleDown]
  simp only [neighbours, hexponent, hscaled]
  rw [hratio, Nat.mul_div_cancel _ hpos, Nat.mul_mod_left]
  simp [hpos.ne]

theorem exponent_le_one {x : Binary64} (hx : x.IsCanonical) (h : x.size ≤ 2 ^ 53) :
    x.exponent ≤ 0 ∨ x.exponent = 1 ∧ x.size = 2 ^ 53 := by
  by_cases hexponent : x.exponent ≤ 0
  · exact .inl hexponent
  · have hnormal : 2 ^ 52 ≤ x.mantissa := by
      refine hx.normal.resolve_right fun hleast ↦ hexponent ?_
      rw [hleast]
      decide
    have hmantissa : (2 : ℚ) ^ 52 ≤ x.mantissa := by exact_mod_cast hnormal
    have hlow (k : ℤ) (hk : k ≤ x.exponent) : (2 : ℚ) ^ 52 * 2 ^ k ≤ x.size :=
      mul_le_mul hmantissa (zpow_le_zpow_right₀ (by norm_num) hk) (zpow_pos (by norm_num) k).le
        (Nat.cast_nonneg _)
    have hone : x.exponent = 1 := by
      by_contra hne
      have htwo := hlow 2 (by omega)
      norm_num at htwo h
      linarith
    refine .inr ⟨hone, le_antisymm h ?_⟩
    have hlow := hlow 1 hone.ge
    norm_num at hlow ⊢
    exact hlow

/-- A multiple of ten that reads back as a natural number up to `2 ^ 53` is this number. -/
theorem size_eq_of_nearest? {x : Binary64} {n : ℕ} (h : x.size = n) (hle : n ≤ 2 ^ 53)
    {d : Decimal} (hexponent : 1 ≤ d.exponent) (hread : d.nearest? = some x) : d.size = n := by
  obtain ⟨hx, -, herror⟩ := nearest?_eq_some hread
  obtain ⟨k, hk⟩ : ∃ k : ℕ, d.exponent = (k + 1 : ℕ) := ⟨d.exponent.toNat - 1, by omega⟩
  have htens : d.size = ((10 * (d.digits * 10 ^ k) : ℤ) : ℚ) := by
    rw [size, hk, zpow_natCast]
    push_cast
    ring
  generalize (d.digits * 10 ^ k : ℤ) = q at htens
  have hdistance : x.size - d.size = ((n - 10 * q : ℤ) : ℚ) := by
    rw [h, htens]
    push_cast
    rfl
  rw [hdistance] at herror
  rcases exponent_le_one hx (by rw [h]; exact_mod_cast hle) with hlow | ⟨hone, hlargest⟩
  · have hlt : |((n - 10 * q : ℤ) : ℚ)| < 1 := by
      calc |((n - 10 * q : ℤ) : ℚ)|
        _ ≤ 2 ^ x.exponent / 2 := herror
        _ ≤ 2 ^ (0 : ℤ) / 2 := by gcongr; norm_num
        _ < 1 := by norm_num
    have hzero : (n : ℤ) - 10 * q = 0 := Int.abs_lt_one_iff.1 (by exact_mod_cast hlt)
    rw [htens, ← sub_eq_zero.1 hzero]
    rfl
  · have hclose : |((n - 10 * q : ℤ) : ℚ)| ≤ 1 := by
      calc |((n - 10 * q : ℤ) : ℚ)|
        _ ≤ 2 ^ x.exponent / 2 := herror
        _ = 1 := by rw [hone]; norm_num
    have hbounds : |(n : ℤ) - 10 * q| ≤ 1 := by exact_mod_cast hclose
    have hn : n = 2 ^ 53 := by exact_mod_cast h.symm.trans hlargest
    rw [abs_le] at hbounds
    omega

/-! ## The shortest decimal -/

theorem shortest_of_isZero (tie : Tie) {x : Binary64} (h : x.mantissa = 0) :
    shortest tie x = ⟨x.negative, 0, 0⟩ := by
  simp [shortest, Binary64.isZero, h]

/-- The first candidate that reads back, or the exact decimal. -/
def found (tie : Tie) (x : Binary64) : Decimal :=
  ((digitCounts.flatMap (neighbours tie x)).find? fun d ↦ d.nearest? == some x).getD (exact x)

theorem shortest_of_ne_zero (tie : Tie) {x : Binary64} (h : x.mantissa ≠ 0) :
    shortest tie x = (found tie x).dropTrailingZeros := by
  simp [shortest, found, Binary64.isZero, h]

theorem nearest?_found (tie : Tie) {x : Binary64} (hx : x.IsCanonical) :
    (found tie x).nearest? = some x := by
  unfold found
  cases hfind : (digitCounts.flatMap (neighbours tie x)).find? fun d ↦ d.nearest? == some x with
  | none => exact nearest?_of_size_eq hx (exact_negative x) (exact_size x)
  | some d =>
    have hread := List.find?_some hfind
    exact eq_of_beq hread

/-- The shortest decimal of a number reads back as this number. -/
theorem nearest?_shortest (tie : Tie) {x : Binary64} (hx : x.IsCanonical) :
    (shortest tie x).nearest? = some x := by
  by_cases h : x.mantissa = 0
  · rw [shortest_of_isZero tie h]
    apply nearest?_of_size_eq hx rfl
    rw [size_eq_zero_iff.2 rfl, Binary64.size_eq_zero_iff.2 h]
  · rw [shortest_of_ne_zero tie h, ← nearest?_found tie hx]
    exact nearest?_congr (dropTrailingZeros_negative _) (dropTrailingZeros_size _)

theorem digitCount_mem_digitCounts {n : ℕ} (hle : n ≤ 2 ^ 53) : digitCount n ∈ digitCounts := by
  have hcount : digitCount n ≤ 17 := by
    apply (Nat.length_toDigits_le_iff (by decide) (by decide)).2
    calc n
      _ ≤ 2 ^ 53 := hle
      _ < 10 ^ 17 := by norm_num
  have hpos := digitCount_pos n
  simp only [digitCounts, List.mem_map, List.mem_range]
  exact ⟨digitCount n - 1, by omega, by omega⟩

/-- The candidate that is found for a natural number up to `2 ^ 53` has this number for its size. -/
theorem found_size (tie : Tie) {x : Binary64} {n : ℕ} (hx : x.IsCanonical) (hn : n ≠ 0)
    (h : x.size = n) (hle : n ≤ 2 ^ 53) : (found tie x).size = n := by
  obtain ⟨upper, hneighbours⟩ := neighbours_digitCount tie hn h
  have hmantissa := Binary64.mantissa_ne_zero hn h
  have hsize : size ⟨x.negative, n, 0⟩ = n := by simp [size]
  have hreads : (⟨x.negative, n, 0⟩ : Decimal).nearest? = some x :=
    nearest?_of_size_eq hx rfl (hsize.trans h.symm)
  have hown : (neighbours tie x (digitCount n)).find? (fun d ↦ d.nearest? == some x) =
      some ⟨x.negative, n, 0⟩ := by
    rw [hneighbours]
    exact List.find?_cons_of_pos (by simp [hreads])
  have hsome : (digitCounts.findSome? fun count ↦
      (neighbours tie x count).find? fun d ↦ d.nearest? == some x).isSome := by
    apply List.findSome?_isSome_iff.2
    exact ⟨digitCount n, digitCount_mem_digitCounts hle, by simp [hown]⟩
  obtain ⟨d, hd⟩ := Option.isSome_iff_exists.1 hsome
  have hfound : found tie x = d := by rw [found, List.find?_flatMap, hd, Option.getD_some]
  obtain ⟨before, count, after, hsplit, hcount, hbefore⟩ := List.findSome?_eq_some_iff.1 hd
  rw [hfound]
  obtain hlt | rfl | hgt := Nat.lt_trichotomy count (digitCount n)
  · -- fewer digits make a multiple of ten
    have hexponent := exponent_of_mem_neighbours hmantissa (List.mem_of_find?_eq_some hcount)
    rw [h, log_natCast hn] at hexponent
    have hread := List.find?_some hcount
    exact size_eq_of_nearest? h hle (by omega) (eq_of_beq hread)
  · have hlower := hown.symm.trans hcount
    cases hlower
    exact hsize
  · -- the decimal with all digits would have been found before
    have hsorted : digitCounts.Pairwise (· < ·) := by decide
    have hmem := digitCount_mem_digitCounts hle
    rw [hsplit] at hsorted hmem
    have hearlier : digitCount n ∈ before := by
      rcases List.mem_append.1 hmem with hearlier | hlater
      · exact hearlier
      · have hge : ∀ k ∈ count :: after, count ≤ k := by
          have htail := List.pairwise_cons.1 (List.pairwise_append.1 hsorted).2.1
          simp only [List.mem_cons, forall_eq_or_imp]
          exact ⟨le_rfl, fun k hk ↦ (htail.1 k hk).le⟩
        exact absurd (hge _ hlater) (Nat.not_le.2 hgt)
    exact absurd (hown.symm.trans (hbefore _ hearlier)) (by simp)

/-- A natural number up to `2 ^ 53` is written as its usual numeral behind the sign. -/
theorem positional_shortest (tie : Tie) {x : Binary64} {n : ℕ} (hx : x.IsCanonical) (hn : n ≠ 0)
    (h : x.size = n) (hle : n ≤ 2 ^ 53) :
    (shortest tie x).positional = minusIf x.negative ++ Nat.toDigits 10 n := by
  have hmantissa := Binary64.mantissa_ne_zero hn h
  have hsize := found_size tie hx hn h hle
  have hdigits : (found tie x).digits ≠ 0 := by
    rw [Ne, ← size_eq_zero_iff, hsize]
    exact_mod_cast hn
  have hnegative : (found tie x).negative = x.negative :=
    (nearest?_eq_some (nearest?_found tie hx)).2.1.symm
  obtain ⟨hten, hdropped⟩ := exists_dropTrailingZeros hdigits
  rw [shortest_of_ne_zero tie hmantissa, positional_of_size_eq (hdropped.trans hsize) hten,
    dropTrailingZeros_negative, hnegative]

end Decimal

end FilterQuery

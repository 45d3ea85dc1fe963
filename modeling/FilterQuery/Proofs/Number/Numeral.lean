import FilterQuery.Number.Shortest
import FilterQuery.Proofs.Calendar.DateTime
import FilterQuery.Proofs.Number.Nearest

/-!
# Numerals

The grammar of numerals is given by a relation between texts and decimals, and a text is read as a
decimal exactly if it is related to it. A decimal that is written with the digits in their places
gives a plain numeral, with no power of ten and no plus sign. It is read as a decimal of the same
sign and size; for a natural number it is the usual numeral.
-/

namespace FilterQuery.Decimal

open FilterQuery.Calendar (NoDigitFirst noDigitFirst_nil noDigitFirst_cons ofDigits_append
  ofDigits_eq_ofDigitChars)

/-! ## The grammar -/

/-- The signs, and whether they are the minus sign. -/
inductive SpellsSign : List Char → Bool → Prop
  | none : SpellsSign [] false
  | plus : SpellsSign ['+'] false
  | minus : SpellsSign ['-'] true

/-- A point with digits behind it, of which there may be none, or nothing at all. -/
inductive SpellsFraction : List Char → List Char → Prop
  | none : SpellsFraction [] []
  | point {digits : List Char} (h : ∀ c ∈ digits, c.isDigit = true) :
      SpellsFraction ('.' :: digits) digits

/-- A power of ten, or nothing. -/
inductive SpellsPower : List Char → ℤ → Prop
  | none : SpellsPower [] 0
  | power {letter : Char} {sign digits : List Char} {negative : Bool}
      (hletter : letter = 'e' ∨ letter = 'E') (hsign : SpellsSign sign negative)
      (hne : digits ≠ []) (h : ∀ c ∈ digits, c.isDigit = true) :
      SpellsPower (letter :: (sign ++ digits))
        (if negative then -(ofDigits digits : ℤ) else ofDigits digits)

/-- A sign, digits with a point among them, before them or behind them, and a power of ten. -/
inductive Spells : List Char → Decimal → Prop
  | numeral {sign whole point fraction power : List Char} {negative : Bool} {exponent : ℤ}
      (hsign : SpellsSign sign negative) (hwhole : ∀ c ∈ whole, c.isDigit = true)
      (hfraction : SpellsFraction point fraction) (hdigits : whole ++ fraction ≠ [])
      (hpower : SpellsPower power exponent) :
      Spells (sign ++ (whole ++ (point ++ power)))
        ⟨negative, ofDigits (whole ++ fraction), exponent - fraction.length⟩

/-! ## Reading -/

def NoSignFirst (cs : List Char) : Prop := ∀ c ∈ cs.head?, isSign c = false

theorem not_isSign_of_isDigit {c : Char} (h : c.isDigit = true) : isSign c = false := by
  have hplus : c ≠ '+' := by
    rintro rfl
    exact absurd h (by decide)
  have hminus : c ≠ '-' := by
    rintro rfl
    exact absurd h (by decide)
  simp [isSign, hplus, hminus]

theorem noSignFirst_cons {c : Char} (h : isSign c = false) (cs : List Char) :
    NoSignFirst (c :: cs) := by
  rintro _ ⟨⟩
  exact h

theorem noSignFirst_of_isDigit {digits : List Char} (hne : digits ≠ [])
    (h : ∀ c ∈ digits, c.isDigit = true) (rest : List Char) : NoSignFirst (digits ++ rest) := by
  obtain ⟨c, cs, rfl⟩ := List.exists_cons_of_ne_nil hne
  exact noSignFirst_cons (not_isSign_of_isDigit (h c List.mem_cons_self)) _

theorem readSign_append {sign : List Char} {negative : Bool} (h : SpellsSign sign negative)
    {rest : List Char} (hrest : NoSignFirst rest) : readSign (sign ++ rest) = (negative, rest) := by
  cases h with
  | plus => rfl
  | minus => rfl
  | none =>
    rw [List.nil_append]
    unfold readSign
    split
    next tail => exact absurd (hrest '-' rfl) (by decide)
    next tail => exact absurd (hrest '+' rfl) (by decide)
    next => rfl

theorem exists_of_readSign {cs rest : List Char} {negative : Bool}
    (h : readSign cs = (negative, rest)) :
    ∃ sign, SpellsSign sign negative ∧ cs = sign ++ rest := by
  unfold readSign at h
  split at h <;> cases h
  · exact ⟨['-'], .minus, rfl⟩
  · exact ⟨['+'], .plus, rfl⟩
  · exact ⟨[], .none, rfl⟩

theorem readDigits_append {digits : List Char} (h : ∀ c ∈ digits, c.isDigit = true)
    {rest : List Char} (hrest : NoDigitFirst rest) :
    readDigits (digits ++ rest) = (digits, rest) := by
  rw [readDigits, List.takeWhile_append_of_pos h, List.dropWhile_append_of_pos h]
  cases rest with
  | nil => simp
  | cons c cs =>
    have hc : ¬c.isDigit = true := by simp [hrest c rfl]
    rw [List.takeWhile_cons_of_neg hc, List.dropWhile_cons_of_neg hc, List.append_nil]

theorem eq_append_of_readDigits {cs digits rest : List Char} (h : readDigits cs = (digits, rest)) :
    (∀ c ∈ digits, c.isDigit = true) ∧ cs = digits ++ rest := by
  cases h
  exact ⟨fun c hc ↦ List.mem_takeWhile_imp hc, List.takeWhile_append_dropWhile.symm⟩

theorem SpellsPower.noDigitFirst {power : List Char} {exponent : ℤ}
    (h : SpellsPower power exponent) : NoDigitFirst power := by
  cases h with
  | none => exact noDigitFirst_nil
  | power hletter => exact noDigitFirst_cons (by rcases hletter with rfl | rfl <;> decide) _

theorem readFraction_append {point fraction : List Char} (h : SpellsFraction point fraction)
    {power : List Char} {exponent : ℤ} (hpower : SpellsPower power exponent) :
    readFraction (point ++ power) = (fraction, power) := by
  cases h with
  | point h => exact readDigits_append h hpower.noDigitFirst
  | none =>
    cases hpower with
    | none => rfl
    | power hletter => rcases hletter with rfl | rfl <;> rfl

theorem exists_of_readFraction {cs fraction rest : List Char}
    (h : readFraction cs = (fraction, rest)) :
    ∃ point, SpellsFraction point fraction ∧ cs = point ++ rest := by
  unfold readFraction at h
  split at h
  · obtain ⟨hdigits, rfl⟩ := eq_append_of_readDigits h
    exact ⟨'.' :: fraction, .point hdigits, rfl⟩
  · cases h
    exact ⟨[], .none, rfl⟩

theorem readPower?_eq_some_iff {cs : List Char} {exponent : ℤ} :
    readPower? cs = some exponent ↔ SpellsPower cs exponent := by
  constructor
  · intro h
    cases cs with
    | nil =>
      cases h
      exact .none
    | cons letter rest =>
      rcases hsplit : readSign rest with ⟨negative, tail⟩
      rcases hread : readDigits tail with ⟨digits, last⟩
      simp only [readPower?, hsplit, hread] at h
      split_ifs at h with hletter hbad hnegative
      all_goals
        simp only [Bool.or_eq_true, List.isEmpty_iff, Bool.not_eq_true', not_or] at hbad
        obtain ⟨sign, hsign, rfl⟩ := exists_of_readSign hsplit
        obtain ⟨hdigits, rfl⟩ := eq_append_of_readDigits hread
        obtain rfl : last = [] := by simpa using hbad.2
        have hpower := SpellsPower.power (by simpa using hletter) hsign hbad.1 hdigits
        rw [List.append_nil]
        cases h
        simpa [hnegative] using hpower
  · intro h
    cases h with
    | none => rfl
    | @power letter sign digits negative hletter hsign hne h =>
      have hsplit := readSign_append hsign (noSignFirst_of_isDigit hne h [])
      have hread := readDigits_append h noDigitFirst_nil
      rw [List.append_nil] at hsplit hread
      have hcondition : (letter == 'e' || letter == 'E') = true := by simpa using hletter
      simp [readPower?, hcondition, hsplit, hread, hne]

/-- The point, the digits before it or the power of ten may be missing; a sign cannot follow. -/
theorem noSignFirst_unsigned {whole point fraction : List Char}
    (hwhole : ∀ c ∈ whole, c.isDigit = true) (hfraction : SpellsFraction point fraction)
    (hdigits : whole ++ fraction ≠ []) (rest : List Char) :
    NoSignFirst (whole ++ (point ++ rest)) := by
  by_cases hempty : whole = []
  · cases hfraction with
    | none => exact absurd (by rw [hempty, List.append_nil]) hdigits
    | point => rw [hempty]; exact noSignFirst_cons (by decide) _
  · exact noSignFirst_of_isDigit hempty hwhole _

theorem noDigitFirst_fraction {point fraction power : List Char} {exponent : ℤ}
    (hfraction : SpellsFraction point fraction) (hpower : SpellsPower power exponent) :
    NoDigitFirst (point ++ power) := by
  cases hfraction with
  | none => exact hpower.noDigitFirst
  | point => exact noDigitFirst_cons (by decide) _

/-- A text is read as the decimal that it spells. -/
theorem parse?_eq_some_iff {cs : List Char} {d : Decimal} : parse? cs = some d ↔ Spells cs d := by
  constructor
  · intro h
    rcases hsplit : readSign cs with ⟨negative, unsigned⟩
    rcases hread : readDigits unsigned with ⟨whole, rest⟩
    rcases hpoint : readFraction rest with ⟨fraction, power⟩
    simp only [parse?, hsplit, hread, hpoint] at h
    split_ifs at h with hempty
    obtain ⟨exponent, hexponent, rfl⟩ := Option.map_eq_some_iff.1 h
    obtain ⟨sign, hsign, rfl⟩ := exists_of_readSign hsplit
    obtain ⟨hwhole, rfl⟩ := eq_append_of_readDigits hread
    obtain ⟨point, hfraction, rfl⟩ := exists_of_readFraction hpoint
    have hdigits : whole ++ fraction ≠ [] := by simpa using hempty
    exact .numeral hsign hwhole hfraction hdigits (readPower?_eq_some_iff.1 hexponent)
  · intro h
    cases h with
    | @numeral sign whole point fraction power negative exponent hsign hwhole hfraction hdigits
        hpower =>
      have hsplit := readSign_append hsign (noSignFirst_unsigned hwhole hfraction hdigits power)
      have hread := readDigits_append hwhole (noDigitFirst_fraction hfraction hpower)
      have hpoint := readFraction_append hfraction hpower
      have hempty : (whole.isEmpty && fraction.isEmpty) = false := by
        rw [Bool.eq_false_iff]
        simpa using hdigits
      simp [parse?, hsplit, hread, hpoint, hempty, readPower?_eq_some_iff.2 hpower]

/-! ## Plain numerals -/

/-- A row of one digit or more. -/
def IsRow (cs : List Char) : Prop := cs ≠ [] ∧ ∀ c ∈ cs, c.isDigit = true

/-- Digits, or digits with a point and digits behind them. -/
inductive SpellsPlain : List Char → ℚ → Prop
  | whole {whole : List Char} (h : IsRow whole) : SpellsPlain whole (ofDigits whole)
  | point {whole fraction : List Char} (hwhole : IsRow whole) (hfraction : IsRow fraction) :
      SpellsPlain (whole ++ '.' :: fraction)
        (ofDigits (whole ++ fraction) * 10 ^ (-(fraction.length : ℤ)))

/-- The sign before a plain numeral. -/
def minusIf (negative : Bool) : List Char := if negative then ['-'] else []

/-- An optional minus sign, digits, and optionally a point with digits. -/
def IsPlainNumeral (cs : List Char) : Prop :=
  ∃ negative unsigned q, SpellsPlain unsigned q ∧ cs = minusIf negative ++ unsigned

theorem spellsSign_minusIf (negative : Bool) : SpellsSign (minusIf negative) negative := by
  cases negative
  · exact .none
  · exact .minus

/-- A plain numeral is read as a decimal of the size that it spells. -/
theorem SpellsPlain.exists_parse? {unsigned : List Char} {q : ℚ} (h : SpellsPlain unsigned q)
    (negative : Bool) :
    ∃ d, parse? (minusIf negative ++ unsigned) = some d ∧ d.negative = negative ∧ d.size = q := by
  cases h with
  | whole h =>
    have hspells := Spells.numeral (spellsSign_minusIf negative) h.2 .none
      (by simpa using h.1) .none
    simp only [List.append_nil] at hspells
    exact ⟨_, parse?_eq_some_iff.2 hspells, rfl, by simp [size]⟩
  | point hwhole hfraction =>
    have hspells := Spells.numeral (spellsSign_minusIf negative) hwhole.2 (.point hfraction.2)
      (by simp [hwhole.1]) .none
    simp only [List.append_nil, zero_sub] at hspells
    exact ⟨_, parse?_eq_some_iff.2 hspells, rfl, rfl⟩

theorem isRow_toDigits (n : ℕ) : IsRow (Nat.toDigits 10 n) :=
  ⟨Nat.toDigits_ne_nil, fun _ ↦ Nat.isDigit_of_mem_toDigits (by decide) (by decide)⟩

theorem ofDigits_toDigits (n : ℕ) : ofDigits (Nat.toDigits 10 n) = n := by
  rw [ofDigits_eq_ofDigitChars, Nat.ofDigitChars_ten_toDigits]

theorem isDigit_of_mem_zeros {k : ℕ} {c : Char} (h : c ∈ List.replicate k '0') :
    c.isDigit = true := by
  rw [List.eq_of_mem_replicate h]
  decide

theorem ofDigits_zeros (k : ℕ) : ofDigits (List.replicate k '0') = 0 := by
  rw [ofDigits_eq_ofDigitChars, Nat.ofDigitChars_replicate_zero, Nat.mul_zero]

/-- Zeros before the digits of a number do not count. -/
theorem ofDigits_zeros_append (k : ℕ) (cs : List Char) :
    ofDigits (List.replicate k '0' ++ cs) = ofDigits cs := by
  rw [ofDigits_append, ofDigits_zeros, Nat.mul_zero, Nat.zero_add]

/-- Zeros behind the digits of a number multiply it by powers of ten. -/
theorem toDigits_append_zeros {n : ℕ} (hn : 0 < n) (k : ℕ) :
    Nat.toDigits 10 n ++ List.replicate k '0' = Nat.toDigits 10 (n * 10 ^ k) := by
  induction k with
  | zero => simp
  | succ k ih =>
    have hpos : 0 < n * 10 ^ k := Nat.mul_pos hn (Nat.pow_pos (by decide))
    calc Nat.toDigits 10 n ++ List.replicate (k + 1) '0'
      _ = Nat.toDigits 10 n ++ List.replicate k '0' ++ ['0'] := by
        rw [List.replicate_succ', List.append_assoc]
      _ = Nat.toDigits 10 (n * 10 ^ k) ++ Nat.toDigits 10 0 := by rw [ih]; rfl
      _ = Nat.toDigits 10 (10 * (n * 10 ^ k) + 0) :=
        Nat.toDigits_append_toDigits (by decide) hpos (by decide)
      _ = Nat.toDigits 10 (n * 10 ^ (k + 1)) := by
        congr 1
        ring

/-- The digits in their places, without a sign. -/
def unsigned (d : Decimal) : List Char := positional { d with negative := false }

theorem positional_eq (d : Decimal) : d.positional = minusIf d.negative ++ d.unsigned := by
  obtain ⟨negative, digits, exponent⟩ := d
  cases negative <;> rfl

theorem unsigned_of_nonneg {d : Decimal} (h : 0 ≤ d.exponent) :
    d.unsigned = Nat.toDigits 10 (d.digits * 10 ^ d.exponent.toNat) := by
  obtain hzero | hpos := Nat.eq_zero_or_pos d.digits
  · simp [unsigned, positional, h, hzero]
  · rw [← toDigits_append_zeros hpos]
    simp [unsigned, positional, h, hpos.ne']

theorem size_of_nonneg {d : Decimal} (h : 0 ≤ d.exponent) :
    d.size = (d.digits * 10 ^ d.exponent.toNat : ℕ) := by
  have hpower : (10 : ℚ) ^ d.exponent = 10 ^ d.exponent.toNat := by
    rw [← zpow_natCast, Int.toNat_of_nonneg h]
  rw [size, hpower]
  push_cast
  rfl

theorem spellsPlain_point {d : Decimal} {whole fraction : List Char} (hwhole : IsRow whole)
    (hfraction : IsRow fraction) (hdigits : ofDigits (whole ++ fraction) = d.digits)
    (hexponent : d.exponent = -(fraction.length : ℤ)) :
    SpellsPlain (whole ++ '.' :: fraction) d.size := by
  rw [size, ← hdigits, hexponent]
  exact .point hwhole hfraction

/-- The digits in their places are a plain numeral for the size of the decimal. -/
theorem spellsPlain_unsigned (d : Decimal) : SpellsPlain d.unsigned d.size := by
  have hrow := isRow_toDigits d.digits
  have hvalue := ofDigits_toDigits d.digits
  by_cases hexponent : 0 ≤ d.exponent
  · have hwhole := SpellsPlain.whole (isRow_toDigits (d.digits * 10 ^ d.exponent.toNat))
    rwa [ofDigits_toDigits, ← size_of_nonneg hexponent, ← unsigned_of_nonneg hexponent] at hwhole
  · simp only [unsigned, positional, hexponent, if_false, Bool.false_eq_true]
    have hpower : d.exponent = -((-d.exponent).toNat : ℤ) := by omega
    have hplaces : 0 < (-d.exponent).toNat := by omega
    generalize (-d.exponent).toNat = places at hpower hplaces
    generalize Nat.toDigits 10 d.digits = digits at hrow hvalue
    have hpositive : 0 < digits.length := List.length_pos_of_ne_nil hrow.1
    split_ifs with hinside
    · -- the point stands among the digits
      apply spellsPlain_point
      · refine ⟨?_, fun c hc ↦ hrow.2 c (List.mem_of_mem_take hc)⟩
        rw [← List.length_pos_iff, List.length_take]
        omega
      · refine ⟨?_, fun c hc ↦ hrow.2 c (List.mem_of_mem_drop hc)⟩
        rw [← List.length_pos_iff, List.length_drop]
        omega
      · rw [List.take_append_drop, hvalue]
      · rw [hpower, List.length_drop]
        omega
    · -- zeros stand between the point and the digits
      have hzeros : IsRow (List.replicate (places - digits.length) '0' ++ digits) := by
        refine ⟨by simp [hrow.1], fun c hc ↦ ?_⟩
        rcases List.mem_append.1 hc with hzero | hdigit
        · exact isDigit_of_mem_zeros hzero
        · exact hrow.2 c hdigit
      have hzero : IsRow ['0'] := ⟨by simp, List.forall_mem_singleton.2 (by decide)⟩
      apply spellsPlain_point hzero hzeros
      · calc ofDigits (['0'] ++ (List.replicate (places - digits.length) '0' ++ digits))
          _ = ofDigits (List.replicate (places - digits.length + 1) '0' ++ digits) := rfl
          _ = ofDigits digits := ofDigits_zeros_append _ _
          _ = d.digits := hvalue
      · rw [hpower, List.length_append, List.length_replicate]
        omega

/-- The text of a decimal is a plain numeral. -/
theorem isPlainNumeral_positional (d : Decimal) : IsPlainNumeral d.positional :=
  ⟨d.negative, d.unsigned, d.size, spellsPlain_unsigned d, positional_eq d⟩

/-- The text of a decimal is read as a decimal of the same sign and size. -/
theorem exists_parse?_positional (d : Decimal) :
    ∃ d', parse? d.positional = some d' ∧ d'.negative = d.negative ∧ d'.size = d.size := by
  rw [positional_eq]
  exact (spellsPlain_unsigned d).exists_parse? d.negative

/-- A decimal of the size of a natural number is written as this number, if its digits do not end
with a zero. -/
theorem positional_of_size_eq {d : Decimal} {n : ℕ} (h : d.size = n) (hdigits : ¬10 ∣ d.digits) :
    d.positional = minusIf d.negative ++ Nat.toDigits 10 n := by
  have hexponent : 0 ≤ d.exponent := by
    by_contra hneg
    obtain ⟨k, hk⟩ : ∃ k : ℕ, d.exponent = -(k + 1 : ℕ) := ⟨(-d.exponent).toNat - 1, by omega⟩
    apply hdigits
    have hsize : (d.digits : ℚ) = (n * 10 ^ (k + 1) : ℕ) := by
      rw [size, hk, zpow_neg, zpow_natCast] at h
      push_cast
      rw [← h, inv_mul_cancel_right₀ (by positivity)]
    have hmul : d.digits = n * 10 ^ (k + 1) := by exact_mod_cast hsize
    exact ⟨n * 10 ^ k, by rw [hmul]; ring⟩
  have hvalue : d.digits * 10 ^ d.exponent.toNat = n := by
    rw [size_of_nonneg hexponent] at h
    exact_mod_cast h
  rw [positional_eq, unsigned_of_nonneg hexponent, hvalue]

end FilterQuery.Decimal

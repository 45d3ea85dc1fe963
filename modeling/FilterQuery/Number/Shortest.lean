import FilterQuery.Number.Decimal

/-!
# The shortest decimal that stands for a binary number

Among the decimals that read back as a given number, the shortest have the fewest digits, and of
those the nearest is taken. For each count of digits the number lies between two neighbours on a
decimal grid, and only these two need to be tried.
-/

namespace FilterQuery.Decimal

/-- Which of two equally near decimals is taken. -/
inductive Tie
  | up
  | even
deriving DecidableEq, Repr

/-- The greatest `k` for which `10 ^ k` does not exceed a positive ratio. -/
def magnitude (numerator denominator : Nat) : Int :=
  let guess : Int := (digitCount numerator : Int) - (digitCount denominator : Int)
  let scaled := Binary64.scaleDown 10 numerator denominator guess
  if scaled.2 ≤ scaled.1 then guess else guess - 1

/-- The two neighbours of a positive number on the grid of decimals with `count` digits, the
nearer one first. -/
def neighbours (tie : Tie) (x : Binary64) (count : Nat) : List Decimal :=
  let exponent := magnitude x.ratio.1 x.ratio.2 + 1 - (count : Int)
  let scaled := Binary64.scaleDown 10 x.ratio.1 x.ratio.2 exponent
  let below := scaled.1 / scaled.2
  let twice := 2 * (scaled.1 % scaled.2)
  let takesAbove := decide (scaled.2 < twice) ||
    (decide (twice = scaled.2) && (tie == .up || below % 2 == 1))
  let lower : Decimal := ⟨x.negative, below, exponent⟩
  let upper : Decimal := ⟨x.negative, below + 1, exponent⟩
  if takesAbove then [upper, lower] else [lower, upper]

/-- The decimal expansion of a number, to its last digit. -/
def exact (x : Binary64) : Decimal :=
  ⟨x.negative, x.mantissa * Nat.pow 2 x.exponent.toNat * Nat.pow 5 (-x.exponent).toNat,
    min x.exponent 0⟩

/-- Seventeen digits always suffice to tell a number from its neighbours. -/
def digitCounts : List Nat := (List.range 17).map (· + 1)

/-- The same number with no zero at the end of its digits. -/
def dropTrailingZeros (d : Decimal) : Decimal :=
  let digits := Nat.toDigits 10 d.digits
  let zeros := (digits.reverse.takeWhile (· == '0')).length
  if d.digits = 0 then d else ⟨d.negative, d.digits / Nat.pow 10 zeros, d.exponent + zeros⟩

/-- The shortest decimal that reads back as `x`, the nearest of those. -/
def shortest (tie : Tie) (x : Binary64) : Decimal :=
  if x.isZero then ⟨x.negative, 0, 0⟩
  else
    let candidates := digitCounts.flatMap (neighbours tie x)
    ((candidates.find? fun d ↦ d.nearest? == some x).getD (exact x)).dropTrailingZeros

/-- The digits with a point where the power of ten puts it, never a power of ten. -/
def positional (d : Decimal) : List Char :=
  let digits := Nat.toDigits 10 d.digits
  let places := (-d.exponent).toNat
  let unsigned :=
    if 0 ≤ d.exponent then
      if d.digits = 0 then digits else digits ++ List.replicate d.exponent.toNat '0'
    else if places < digits.length then
      digits.take (digits.length - places) ++ '.' :: digits.drop (digits.length - places)
    else '0' :: '.' :: List.replicate (places - digits.length) '0' ++ digits
  if d.negative then '-' :: unsigned else unsigned

end FilterQuery.Decimal

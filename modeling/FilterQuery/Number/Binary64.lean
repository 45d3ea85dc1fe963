/-!
# Binary floating point with 53 significant bits

A finite number is a sign, a mantissa and a power of two. Every operation computes the exact result
as a ratio of natural numbers and rounds it once, to the nearest number of the format, an exact half
going to the even mantissa. A result beyond the largest finite number is `none`.
-/

namespace FilterQuery

/-- The number `mantissa * 2 ^ exponent` with a sign. -/
structure Binary64 where
  negative : Bool
  mantissa : Nat
  exponent : Int
deriving DecidableEq, Repr

namespace Binary64

/-- The least exponent of the format. -/
def leastExponent : Int := -1074

/-- The greatest exponent of the format. -/
def greatestExponent : Int := 971

def zero (negative : Bool) : Binary64 := ⟨negative, 0, leastExponent⟩

def isZero (x : Binary64) : Bool := x.mantissa == 0

def neg (x : Binary64) : Binary64 := { x with negative := !x.negative }

/-- The ratio `numerator / (denominator * base ^ exponent)`, without a negative power. -/
def scaleDown (base numerator denominator : Nat) (exponent : Int) : Nat × Nat :=
  (numerator * base.pow (-exponent).toNat, denominator * base.pow exponent.toNat)

/-- The natural number nearest to a ratio, an exact half going to the even one. -/
def roundHalfEven (numerator denominator : Nat) : Nat :=
  let quotient := numerator / denominator
  let twice := 2 * (numerator % denominator)
  if twice < denominator ∨ (twice = denominator ∧ quotient % 2 = 0) then quotient
  else quotient + 1

/-- The exponent at which a positive ratio has a mantissa of 53 bits, or the least exponent. -/
def exponentOf (numerator denominator : Nat) : Int :=
  let guess : Int := (numerator.log2 : Int) - (denominator.log2 : Int) - 53
  let scaled := scaleDown 2 numerator denominator guess
  max leastExponent (if scaled.2 * Nat.pow 2 53 ≤ scaled.1 then guess + 1 else guess)

/-- The number nearest to a ratio of natural numbers. -/
def ofRatio? (negative : Bool) (numerator denominator : Nat) : Option Binary64 :=
  if numerator = 0 then some (zero negative)
  else
    let exponent := exponentOf numerator denominator
    let scaled := scaleDown 2 numerator denominator exponent
    let mantissa := roundHalfEven scaled.1 scaled.2
    let rounded : Binary64 :=
      if mantissa = Nat.pow 2 53 then ⟨negative, Nat.pow 2 52, exponent + 1⟩
      else ⟨negative, mantissa, exponent⟩
    if rounded.exponent ≤ greatestExponent then some rounded else none

/-- The magnitude as a ratio of natural numbers. -/
def ratio (x : Binary64) : Nat × Nat := scaleDown 2 x.mantissa 1 (-x.exponent)

def ofNat? (n : Nat) : Option Binary64 := ofRatio? false n 1

def mul? (x y : Binary64) : Option Binary64 :=
  ofRatio? (x.negative != y.negative) (x.ratio.1 * y.ratio.1) (x.ratio.2 * y.ratio.2)

/-- The quotient by a number that is not zero. -/
def div? (x y : Binary64) : Option Binary64 :=
  ofRatio? (x.negative != y.negative) (x.ratio.1 * y.ratio.2) (x.ratio.2 * y.ratio.1)

end Binary64

end FilterQuery

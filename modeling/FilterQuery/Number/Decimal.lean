import FilterQuery.Number.Binary64

/-!
# Decimal numerals and the binary numbers they stand for

A decimal is a sign, a natural number and a power of ten. A numeral is read with an optional sign,
digits with an optional point among, before or after them, and an optional power of ten; it stands
for the nearest binary number.
-/

namespace FilterQuery

/-- The number `digits * 10 ^ exponent` with a sign. -/
structure Decimal where
  negative : Bool
  digits : Nat
  exponent : Int
deriving DecidableEq, Repr

/-- How many decimal digits a natural number is written with. -/
def digitCount (n : Nat) : Nat := (Nat.toDigits 10 n).length

def digitValue (c : Char) : Nat := c.toNat - '0'.toNat

/-- The number that a row of digits writes. -/
def ofDigits (cs : List Char) : Nat := cs.foldl (fun n c ↦ 10 * n + digitValue c) 0

namespace Decimal

/-- Above this many digits before the point a number lies beyond the binary format. -/
def digitsBeyondRange : Int := 310

/-- Below this many digits before the point a number is nearer to zero than to any other. -/
def digitsBelowRange : Int := -330

/-- The nearest binary number, if the format reaches that far. -/
def nearest? (d : Decimal) : Option Binary64 :=
  let digitsBeforePoint : Int := (digitCount d.digits : Int) + d.exponent
  if d.digits = 0 then some (.zero d.negative)
  else if digitsBeyondRange < digitsBeforePoint then none
  else if digitsBeforePoint < digitsBelowRange then some (.zero d.negative)
  else
    let scaled := Binary64.scaleDown 10 d.digits 1 (-d.exponent)
    Binary64.ofRatio? d.negative scaled.1 scaled.2

def isSign (c : Char) : Bool := c == '+' || c == '-'

/-- Whether a text starts with a minus sign, and the text after its sign. -/
def readSign : List Char → Bool × List Char
  | '-' :: rest => (true, rest)
  | '+' :: rest => (false, rest)
  | cs => (false, cs)

/-- The digits at the start of a text and the text after them. -/
def readDigits (cs : List Char) : List Char × List Char :=
  (cs.takeWhile Char.isDigit, cs.dropWhile Char.isDigit)

/-- The fraction digits after a point, if there is a point. -/
def readFraction : List Char → List Char × List Char
  | '.' :: rest => readDigits rest
  | cs => ([], cs)

/-- A power of ten that reaches to the end of the text; no text is the power zero. -/
def readPower? : List Char → Option Int
  | [] => some 0
  | c :: rest =>
    if c == 'e' || c == 'E' then
      let (negative, rest) := readSign rest
      let (digits, rest) := readDigits rest
      if digits.isEmpty || !rest.isEmpty then none
      else some (if negative then -(ofDigits digits : Int) else ofDigits digits)
    else none

/-- The decimal that a numeral writes. -/
def parse? (cs : List Char) : Option Decimal :=
  let (negative, rest) := readSign cs
  let (whole, rest) := readDigits rest
  let (fraction, rest) := readFraction rest
  if whole.isEmpty && fraction.isEmpty then none
  else (readPower? rest).map fun power ↦
    ⟨negative, ofDigits (whole ++ fraction), power - fraction.length⟩

end Decimal

end FilterQuery

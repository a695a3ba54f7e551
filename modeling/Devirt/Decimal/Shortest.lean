import Devirt.Decimal.BinaryFormat

/-!
# The shortest decimal that reads back

Of the decimals that round to a given floating-point number, those with the fewest digits are taken,
and of these the one nearest to the number. All arithmetic is exact.
-/

namespace Devirt.Decimal

/-- The reals that round to one positive number, as numerators over a common denominator. -/
structure Cell where
  low : Nat
  value : Nat
  high : Nat
  denominator : Nat
  /-- Whether the two ends round to the number as well. -/
  closed : Bool

namespace Cell

/-- The cell of `significand * 2 ^ exponent`. Its ends lie halfway to the neighbours; the one below
is nearer when the significand is the least of its exponent. Ties round to an even significand. -/
def of (f : BinaryFormat) (significand : Nat) (exponent : Int) : Cell :=
  let below := if significand = twoTo f.fractionBits ∧ exponent ≠ f.leastExponent then 1 else 2
  let scale := twoTo (exponent - 2).toNat
  { low := (4 * significand - below) * scale
    value := 4 * significand * scale
    high := (4 * significand + 2) * scale
    denominator := twoTo (2 - exponent).toNat
    closed := significand % 2 = 0 }

/-- The exponent of the greatest power of ten that does not exceed the number. -/
def magnitude (c : Cell) : Int :=
  if c.denominator ≤ c.value then (Nat.toDigits 10 (c.value / c.denominator)).length - 1
  else -(Nat.toDigits 10 ((c.denominator - 1) / c.value)).length

/-- Compares `digits * 10 ^ exponent` with a numerator of the cell. -/
def comparePoint (c : Cell) (digits : Nat) (exponent : Int) (numerator : Nat) : Ordering :=
  compare (digits * tenTo exponent.toNat * c.denominator) (numerator * tenTo (-exponent).toNat)

/-- Whether `digits * 10 ^ exponent` rounds to the number. -/
def holds (c : Cell) (digits : Nat) (exponent : Int) : Bool :=
  let low := c.comparePoint digits exponent c.low
  let high := c.comparePoint digits exponent c.high
  if c.closed then low.isGE && high.isLE else low.isGT && high.isLT

/-- The multiple of `10 ^ exponent` just below the number, or the number itself. -/
def floorPoint (c : Cell) (exponent : Int) : Nat :=
  c.value * tenTo (-exponent).toNat / (tenTo exponent.toNat * c.denominator)

/-- Whether the multiple of `10 ^ exponent` above the number is at least as near as the one
below. -/
def roundsUp (c : Cell) (exponent : Int) : Bool :=
  ((2 * c.floorPoint exponent + 1) * tenTo exponent.toNat * c.denominator)
    ≤ 2 * (c.value * tenTo (-exponent).toNat)

/-- The nearest multiple of `10 ^ exponent` that rounds to the number, if there is one. -/
def nearest? (c : Cell) (exponent : Int) : Option Nat :=
  let below := c.floorPoint exponent
  match c.holds below exponent, c.holds (below + 1) exponent with
  | true, true => some (if c.roundsUp exponent then below + 1 else below)
  | true, false => some below
  | false, true => some (below + 1)
  | false, false => none

end Cell

/-- A decimal in scientific form: the first digit counts `10 ^ exponent`. -/
structure Scientific where
  digits : List Char
  exponent : Int
deriving DecidableEq

/-- The scientific form of `digits * 10 ^ exponent`, without zeros at its end. -/
def Scientific.of (digits : Nat) (exponent : Int) : Scientific :=
  let written := Nat.toDigits 10 digits
  { digits := (written.reverse.dropWhile (· = '0')).reverse
    exponent := exponent + (written.length - 1 : Nat) }

/-- More digits than these are never needed in the formats of at most 64 bits. -/
def mostDigits : Nat := 17

/-- The shortest decimal that rounds to `significand * 2 ^ exponent`. -/
def shortest (f : BinaryFormat) (significand : Nat) (exponent : Int) : Scientific :=
  let cell := Cell.of f significand exponent
  let magnitude := cell.magnitude
  let found := (List.range mostDigits).findSome? fun (n : Nat) =>
    (cell.nearest? (magnitude - n)).map fun digits => Scientific.of digits (magnitude - n)
  found.getD (Scientific.of (cell.floorPoint (magnitude - mostDigits)) (magnitude - mostDigits))

end Devirt.Decimal

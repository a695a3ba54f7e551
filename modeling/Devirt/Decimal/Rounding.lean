import Devirt.Decimal.BinaryFormat

/-!
# Rounding to a binary format

A fraction is rounded to the nearest number of a format, and one halfway between two numbers to that
with the even significand. Numbers from halfway between the greatest one and the next power of two
on are infinite. All arithmetic is exact.
-/

namespace Devirt.Decimal

/-- The integer nearest to a quotient. Of two equally near it is the even one. -/
def roundQuotient (numerator denominator : Nat) : Nat :=
  let below := numerator / denominator
  match compare (2 * (numerator % denominator)) denominator with
  | .lt => below
  | .eq => below + below % 2
  | .gt => below + 1

/-- The exponent of the greatest power of two that does not exceed a positive quotient. -/
def quotientLog2 (numerator denominator : Nat) : Int :=
  let guess : Int := (numerator.log2 : Int) - denominator.log2
  if numerator * twoTo (-guess).toNat < denominator * twoTo guess.toNat then guess - 1 else guess

namespace BinaryFormat

/-- The exponent of the greatest numbers of a format. -/
def greatestExponent (f : BinaryFormat) : Int :=
  f.leastExponent + (twoTo f.exponentBits - 3 : Nat)

def zero (f : BinaryFormat) (negative : Bool) : Number := .finite negative 0 f.leastExponent

/-- The number nearest to a positive quotient, with a sign. -/
def ofQuotient (f : BinaryFormat) (negative : Bool) (numerator denominator : Nat) : Number :=
  let exponent := max f.leastExponent (quotientLog2 numerator denominator - f.fractionBits)
  let significand :=
    roundQuotient (numerator * twoTo (-exponent).toNat) (denominator * twoTo exponent.toNat)
  let carries := significand = twoTo (f.fractionBits + 1)
  let significand := if carries then twoTo f.fractionBits else significand
  let exponent := if carries then exponent + 1 else exponent
  if f.greatestExponent < exponent then .infinite negative
  else .finite negative significand exponent

/-- The number nearest to `digits * 10 ^ exponent`, with a sign. The powers of two of a format reach
less far than as many powers of ten, so what lies beyond these is infinite or zero. -/
def ofDecimal (f : BinaryFormat) (negative : Bool) (digits : Nat) (exponent : Int) : Number :=
  let magnitude := (Nat.toDigits 10 digits).length + exponent
  let furthest : Int := twoTo f.exponentBits
  if digits = 0 ∨ magnitude < -furthest then f.zero negative
  else if furthest < magnitude then .infinite negative
  else f.ofQuotient negative (digits * tenTo exponent.toNat) (tenTo (-exponent).toNat)

end BinaryFormat

end Devirt.Decimal

import Devirt.Decimal.Power

/-!
# Binary floating-point formats

What the bits of a floating-point number stand for, in exact integers.
-/

namespace Devirt.Decimal

/-- A binary interchange format: a sign bit, then the exponent, then the fraction. -/
structure BinaryFormat where
  exponentBits : Nat
  fractionBits : Nat

/-- What a pattern of bits stands for. A finite number is `significand * 2 ^ exponent`. -/
inductive Number where
  | nan
  | infinite (negative : Bool)
  | finite (negative : Bool) (significand : Nat) (exponent : Int)
deriving DecidableEq

namespace BinaryFormat

def binary32 : BinaryFormat := ⟨8, 23⟩

def binary64 : BinaryFormat := ⟨11, 52⟩

/-- The exponent of the smallest numbers of a format. -/
def leastExponent (f : BinaryFormat) : Int :=
  2 - (twoTo (f.exponentBits - 1) : Nat) - f.fractionBits

/-- The number that a pattern of bits stands for. -/
def decode (f : BinaryFormat) (bits : Nat) : Number :=
  let fraction := bits % twoTo f.fractionBits
  let biased := bits / twoTo f.fractionBits % twoTo f.exponentBits
  let negative := bits / twoTo (f.fractionBits + f.exponentBits) % 2 = 1
  if biased = twoTo f.exponentBits - 1 then
    if fraction = 0 then .infinite negative else .nan
  else if biased = 0 then .finite negative fraction f.leastExponent
  else .finite negative (twoTo f.fractionBits + fraction) (f.leastExponent + (biased - 1 : Nat))

end BinaryFormat

end Devirt.Decimal

import Devirt.Decimal.Digits
import Devirt.Decimal.Rounding

/-!
# Floating-point literals

A literal is a sign and then a name in letters of either case, or digits with a point among them or
at one end of them and a power of ten behind them. It stands for the nearest number.
-/

namespace Devirt.Decimal

/-- The exponent of the power of ten at the end of a literal. Nothing stands for zero. -/
def powerOfTen? : List Char → Option Int
  | [] => some 0
  | c :: rest =>
    let (negative, digits) := splitSign rest
    if c = 'e' ∨ c = 'E' then (numeral? digits).map (signed negative) else none

def BinaryFormat.ofLiteral? (f : BinaryFormat) (cs : List Char) : Option Number := do
  let (negative, unsigned) := splitSign cs
  let name := String.ofList (unsigned.map Char.toLower)
  if name = "nan" then return .nan
  else if name = "inf" ∨ name = "infinity" then return .infinite negative
  else
    let whole := unsigned.takeWhile Char.isDigit
    let afterWhole := unsigned.dropWhile Char.isDigit
    let behindPoint := if afterWhole.head? = some '.' then afterWhole.drop 1 else []
    let fraction := behindPoint.takeWhile Char.isDigit
    let afterFraction :=
      if afterWhole.head? = some '.' then behindPoint.dropWhile Char.isDigit else afterWhole
    let digits ← numeral? (whole ++ fraction)
    let power ← powerOfTen? afterFraction
    return f.ofDecimal negative digits (power - fraction.length)

end Devirt.Decimal

import Devirt.Decimal.Shortest

/-!
# Layout of decimals

Where the point stands, and when a power of ten is written instead of zeros.
-/

namespace Devirt.Decimal

/-- How decimals are laid out. Those with exponents from `positionalFrom` on and below
`scientificFrom` are written without a power of ten. -/
structure Layout where
  positionalFrom : Int
  scientificFrom : Int
  /-- Whether a whole number without a power of ten is written with a point and a zero. -/
  showsPoint : Bool

namespace Layout

/-- A decimal with its point in place and at least one digit in front of it. -/
def positional (l : Layout) (d : Scientific) : List Char :=
  if d.exponent < 0 then
    '0' :: '.' :: List.replicate (-d.exponent - 1).toNat '0' ++ d.digits
  else
    let whole := (d.exponent + 1).toNat
    let padding := List.replicate (whole - d.digits.length) '0'
    let fraction := d.digits.drop whole
    d.digits.take whole ++ padding ++
      (if fraction ≠ [] then '.' :: fraction else if l.showsPoint then ['.', '0'] else [])

/-- A decimal with a power of ten. The point is left out when one digit stands alone. -/
def scientific (d : Scientific) : List Char :=
  let fraction := d.digits.drop 1
  d.digits.take 1 ++ (if fraction.isEmpty then [] else '.' :: fraction) ++
    'e' :: (toString d.exponent).toList

/-- A decimal that is not negative. -/
def render (l : Layout) (d : Scientific) : String :=
  String.ofList <|
    if l.positionalFrom ≤ d.exponent ∧ d.exponent < l.scientificFrom then l.positional d
    else scientific d

def renderNumber (l : Layout) (f : BinaryFormat) : Number → String
  | .nan => "NaN"
  | .infinite negative => if negative then "-inf" else "inf"
  | .finite negative significand exponent =>
    (if negative then "-" else "") ++
      l.render (if significand = 0 then ⟨['0'], 0⟩ else shortest f significand exponent)

end Layout

end Devirt.Decimal

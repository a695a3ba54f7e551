/-!
# Decimal digits

Digits stand for whole numbers, and a sign may stand in front of them.
-/

namespace Devirt.Decimal

def valueOf (digits : List Char) : Nat :=
  digits.foldl (fun n c => 10 * n + (c.toNat - 0x30)) 0

/-- The value of a text of digits, of which there has to be one. -/
def numeral? (cs : List Char) : Option Nat :=
  if cs ≠ [] ∧ cs.all Char.isDigit then some (valueOf cs) else none

/-- Whether a minus sign stands at the front, and the text after the sign there. -/
def splitSign : List Char → Bool × List Char
  | '-' :: rest => (true, rest)
  | '+' :: rest => (false, rest)
  | cs => (false, cs)

def signed (negative : Bool) (n : Nat) : Int := if negative then -(n : Int) else n

end Devirt.Decimal

/-!
# Hexadecimal digits

What they are worth, and the characters whose code points they spell.
-/

namespace Devirt.Text

/-- The value of a hexadecimal digit in letters of either case. -/
def hexDigit? (c : Char) : Option Nat :=
  if c.isDigit then some (c.toNat - 0x30)
  else if 'a' ≤ c ∧ c ≤ 'f' then some (c.toNat - 0x57)
  else if 'A' ≤ c ∧ c ≤ 'F' then some (c.toNat - 0x37)
  else none

def hexValue? (digits : List Char) : Option Nat :=
  digits.foldlM (fun n c => (hexDigit? c).map (16 * n + ·)) 0

/-- The character whose code point has these hexadecimal digits. A surrogate is none. -/
def hexCharacter? (digits : List Char) : Option Char :=
  match hexValue? digits with
  | some codePoint => if codePoint.isValidChar then some (Char.ofNat codePoint) else none
  | none => none

end Devirt.Text

import Devirt.Text.Unprintable
import Devirt.Text.GraphemeExtend

/-!
# Quoted texts

A text is written between double quotes. Quotes, backslashes and five control characters have short
escapes; other characters that would not show on their own are written by their code point.
-/

namespace Devirt.Text

/-- The escapes that have a letter of their own. -/
def shortEscape? : Char → Option Char
  | '\x00' => some '0'
  | '\t' => some 't'
  | '\r' => some 'r'
  | '\n' => some 'n'
  | '"' => some '"'
  | '\\' => some '\\'
  | _ => none

/-- The letters that are blank: the fillers of Hangul. -/
def fillers : List Char := ['\u115f', '\u1160', '\u3164', '\uffa0']

/-- The marks that extend the character before them, but stand in a place of their own: the voicing
marks of half-width Katakana. -/
def spacingMarks : List Char := ['\uff9e', '\uff9f']

/-- Whether a character has a form that shows on its own. -/
def isDistinct (c : Char) : Bool :=
  !isUnprintable c && c ∉ fillers && (!isGraphemeExtend c || c ∈ spacingMarks)

/-- Whether a character stands for itself between quotes when it has no short escape. -/
def isPlain (c : Char) : Bool := if c.toNat < 0x7f then 0x20 ≤ c.toNat else isDistinct c

/-- The escape by code point, in lower-case hexadecimal without padding. -/
def codePointEscape (c : Char) : List Char :=
  ['\\', 'u', '\x7b'] ++ Nat.toDigits 16 c.toNat ++ ['\x7d']

/-- A character as it is written between quotes. -/
def escape (c : Char) : List Char :=
  match shortEscape? c with
  | some letter => ['\\', letter]
  | none => if isPlain c then [c] else codePointEscape c

def quoted (s : String) : String :=
  String.ofList (['"'] ++ s.toList.flatMap escape ++ ['"'])

end Devirt.Text

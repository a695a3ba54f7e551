import Mathlib.Algebra.Group.Nat.Defs
import Mathlib.Data.List.Lex

/-!
# The order of texts by their bytes

Texts are compared character by character. Their bytes show the same order: the first byte of a code point
grows with the number of bytes, and code points with equally many are written as digits to the base 64.
-/

namespace Devirt.Text

/-- The bytes that a text is stored as. -/
def bytes (s : String) : List UInt8 := s.toUTF8.data.toList

/-- The first byte that differs decides, and a proper prefix comes before the longer text. -/
def Before (s t : String) : Prop := List.Lex (· < ·) (bytes s) (bytes t)

theorem bytes_eq (s : String) : bytes s = s.toList.flatMap String.utf8EncodeChar := by
  rw [bytes, String.toUTF8_eq_toByteArray, ← String.utf8Encode_toList, List.utf8Encode,
    List.toList_data_toByteArray]

/-! ## The bytes of a code point -/

/-- How many bytes follow the first one. -/
def trailingCount (v : Nat) : Nat :=
  if v ≤ 0x7f then 0 else if v ≤ 0x7ff then 1 else if v ≤ 0xffff then 2 else 3

/-- The first byte. It tells how many others follow, and holds the bits that these leave over. -/
def leadingByte (v : Nat) : Nat :=
  if v ≤ 0x7f then v
  else if v ≤ 0x7ff then v / 64 % 32 + 0xc0
  else if v ≤ 0xffff then v / 4096 % 16 + 0xe0
  else v / 262144 % 8 + 0xf0

/-- The last bytes, as many as asked for. They hold six bits each. -/
def trailingBytes : Nat → Nat → List UInt8
  | 0, _ => []
  | n + 1, v => UInt8.ofNat (v / 64 ^ n % 64 + 0x80) :: trailingBytes n v

theorem utf8EncodeChar_eq (c : Char) : String.utf8EncodeChar c =
    UInt8.ofNat (leadingByte c.toNat) :: trailingBytes (trailingCount c.toNat) c.toNat := by
  simp only [String.utf8EncodeChar, leadingByte, trailingCount, Char.toNat]
  split_ifs <;> simp [trailingBytes]

theorem leadingByte_lt (v : Nat) : leadingByte v < 256 := by
  rw [leadingByte]
  split_ifs <;> omega

theorem toNat_lt (c : Char) : c.toNat < 0x110000 := by
  have hvalid : c.toNat.isValidChar := c.valid
  rw [Nat.isValidChar] at hvalid
  omega

theorem ofNat_lt_ofNat {a b : Nat} (hab : a < b) (hb : b < 256) : UInt8.ofNat a < UInt8.ofNat b := by
  rw [UInt8.lt_iff_toNat_lt, UInt8.toNat_ofNat', UInt8.toNat_ofNat']
  omega

/-- The smaller of two code points has the smaller first byte, or the other bytes decide between them. -/
theorem leadingByte_lt_or {v w : Nat} (hvw : v < w) (hw : w < 0x110000) :
    leadingByte v < leadingByte w ∨ leadingByte v = leadingByte w ∧
      trailingCount v = trailingCount w ∧ v % 64 ^ trailingCount w < w % 64 ^ trailingCount w := by
  simp only [leadingByte, trailingCount]
  split_ifs <;> omega

/-- Digits to the base 64, the highest first, are in the order of the numbers. -/
theorem lex_trailingBytes {n v w : Nat} {l k : List UInt8} (h : v % 64 ^ n < w % 64 ^ n) :
    List.Lex (· < ·) (trailingBytes n v ++ l) (trailingBytes n w ++ k) := by
  induction n with
  | zero => simp [Nat.mod_one] at h
  | succ n ih =>
      rw [Nat.mod_pow_succ, Nat.mod_pow_succ] at h
      rcases Nat.lt_trichotomy (v / 64 ^ n % 64) (w / 64 ^ n % 64) with hlt | heq | hgt
      · exact .rel (ofNat_lt_ofNat (by omega) (by omega))
      · rw [trailingBytes, trailingBytes, heq]
        rw [heq] at h
        exact .cons (ih (by omega))
      · have hdigit := Nat.mul_le_mul_left (64 ^ n) hgt
        have hrest : w % 64 ^ n < 64 ^ n := Nat.mod_lt _ (Nat.pow_pos (by decide))
        rw [Nat.mul_succ] at hdigit
        omega

theorem lex_utf8EncodeChar {c d : Char} (h : c < d) (l k : List UInt8) :
    List.Lex (· < ·) (String.utf8EncodeChar c ++ l) (String.utf8EncodeChar d ++ k) := by
  rw [utf8EncodeChar_eq, utf8EncodeChar_eq, List.cons_append, List.cons_append]
  have hcd : c.toNat < d.toNat := UInt32.lt_iff_toNat_lt.mp h
  rcases leadingByte_lt_or hcd (toNat_lt d) with hlt | ⟨hlead, hcount, hrest⟩
  · exact .rel (ofNat_lt_ofNat hlt (leadingByte_lt _))
  · rw [hlead, hcount]
    exact .cons (lex_trailingBytes hrest)

/-! ## Texts -/

theorem lex_flatMap {cs ds : List Char} (h : List.Lex (· < ·) cs ds) :
    List.Lex (· < ·) (cs.flatMap String.utf8EncodeChar) (ds.flatMap String.utf8EncodeChar) := by
  induction h with
  | nil =>
      rw [List.flatMap_cons, utf8EncodeChar_eq]
      exact .nil
  | rel h => exact lex_utf8EncodeChar h _ _
  | cons _ ih => exact List.Lex.append_left _ ih _

theorem before_of_lt {s t : String} (h : s < t) : Before s t := by
  rw [Before, bytes_eq, bytes_eq]
  exact lex_flatMap (String.lt_iff.mp h)

/-- Characters and bytes put texts into the same order. -/
theorem lt_iff_before {s t : String} : s < t ↔ Before s t := by
  refine ⟨before_of_lt, fun h => ?_⟩
  -- One of two different texts is less, and by its bytes it comes first.
  by_contra hst
  by_cases hts : t < s
  · exact List.lex_asymm UInt8.lt_asymm h (before_of_lt hts)
  · obtain rfl := String.le_antisymm (String.not_lt.mp hts) (String.not_lt.mp hst)
    exact List.lex_irrefl UInt8.lt_irrefl _ h

/-- The last character of the first plane comes before all that are written with surrogates in UTF-16. -/
example : Before "\uffff" "😀" := lt_iff_before.mp (by decide)

end Devirt.Text

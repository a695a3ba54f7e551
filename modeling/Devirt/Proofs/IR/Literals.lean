import Devirt.IR.Fragment
import Devirt.Proofs.Text.Quoted
import Mathlib

/-!
# The texts of literals

The text of a literal tells its type by the first and the last character, unless it is a floating-point number
or a class. So two other literals have the same text only if they are the same.
-/

namespace Devirt.Constant

/-- A truth value, an integer of either size, a string, or null. -/
def Exact : Constant → Prop
  | boolean _ | int _ | long _ | string _ | null => True
  | float _ | double _ | classOf _ => False

/-! ## The type that a text tells -/

/-- The type of a literal, as the characters at the ends of its text tell it. -/
def tyOfText (cs : List Char) : Ty :=
  if cs.head? = some '"' then .ofName "java.lang.String"
  else if cs.head? = some 'n' then .null
  else if cs.head? = some 't' ∨ cs.head? = some 'f' then .primitive .boolean
  else if cs.getLast? = some 'L' then .primitive .long
  else .primitive .int

theorem tyOfText_number {cs : List Char} (h : ∀ c ∈ cs, c ∉ ['"', 'n', 't', 'f']) :
    tyOfText cs = if cs.getLast? = some 'L' then .primitive .long else .primitive .int := by
  have hhead : ∀ c ∈ ['"', 'n', 't', 'f'], cs.head? ≠ some c := fun c hc hcs =>
    h c (List.mem_of_head? hcs) hc
  rw [tyOfText, if_neg (hhead '"' (by decide)), if_neg (hhead 'n' (by decide)),
    if_neg (not_or.mpr ⟨hhead 't' (by decide), hhead 'f' (by decide)⟩)]

/-- A decimal number consists of digits, but for its sign. -/
theorem eq_minus_or_isDigit_of_mem {i : Int} {c : Char} (hc : c ∈ (toString i).toList) :
    c = '-' ∨ c.isDigit := by
  have hdigits : ∀ n : Nat, c ∈ n.repr.toList → c.isDigit := by
    intro n h
    rw [Nat.toList_repr] at h
    exact Nat.isDigit_of_mem_toDigits (by decide) (by decide) h
  rw [Int.toString_eq_repr, Int.repr_eq_if] at hc
  split at hc
  · exact .inr (hdigits _ hc)
  · rw [String.toList_append, List.mem_append] at hc
    obtain hc | hc := hc
    · exact .inl (List.mem_singleton.mp hc)
    · exact .inr (hdigits _ hc)

/-- The characters that tell a type do not stand in a number. -/
theorem not_mem_toString {c : Char} (h : c ∈ ['"', 'n', 't', 'f'] ++ ['L']) (i : Int) :
    c ∉ (toString i).toList := by
  have hmarks : ∀ c ∈ ['"', 'n', 't', 'f'] ++ ['L'], ¬(c = '-' ∨ c.isDigit) := by simp
  exact fun hc => hmarks c h (eq_minus_or_isDigit_of_mem hc)

theorem tyOfText_toString (i : Int) : tyOfText (toString i).toList = .primitive .int := by
  have hlast : (toString i).toList.getLast? ≠ some 'L' := fun h =>
    not_mem_toString (by decide) i (List.mem_of_getLast? h)
  rw [tyOfText_number fun c hc hmark => not_mem_toString (List.mem_append_left ['L'] hmark) i hc,
    if_neg hlast]

theorem tyOfText_toString_append (i : Int) :
    tyOfText (toString i ++ "L").toList = .primitive .long := by
  have htext : (toString i ++ "L").toList = (toString i).toList ++ ['L'] := String.toList_append
  have hnumber : ∀ c ∈ (toString i).toList ++ ['L'], c ∉ ['"', 'n', 't', 'f'] := by
    refine List.forall_mem_append.mpr ⟨fun c hc hmark => ?_, List.forall_mem_singleton.mpr (by decide)⟩
    exact not_mem_toString (List.mem_append_left ['L'] hmark) i hc
  rw [htext, tyOfText_number hnumber, List.getLast?_concat, if_pos rfl]

/-- Whatever the value, the text tells the type. -/
theorem Exact.tyOfText {c : Constant} (h : c.Exact) : tyOfText c.text.toList = c.ty := by
  cases c with
  | boolean value => cases value <;> rfl
  | int value => exact tyOfText_toString value.toInt
  | long value => exact tyOfText_toString_append value.toInt
  | string value =>
      rw [text, Text.toList_quoted]
      rfl
  | null => rfl
  | float bits | double bits | classOf t => cases h

/-! ## Literals of the same text -/

theorem text_inj {a b : Constant} (ha : a.Exact) (hb : b.Exact) (h : a.text = b.text) : a = b := by
  have hty : a.ty = b.ty := by rw [← ha.tyOfText, ← hb.tyOfText, h]
  cases a with
  | boolean x =>
      cases b with
      | boolean y => cases x <;> cases y <;> first | rfl | exact absurd h (by decide)
      | _ => cases hty
  | int x =>
      cases b with
      | int y => exact congrArg int (Int32.toInt_inj.mp (Int.repr_injective h))
      | _ => cases hty
  | long x =>
      cases b with
      | long y =>
          have hvalue : toString x.toInt = toString y.toInt := String.append_left_inj "L" |>.mp h
          exact congrArg long (Int64.toInt_inj.mp (Int.repr_injective hvalue))
      | _ => cases hty
  | string x =>
      cases b with
      | string y => exact congrArg string (Text.quoted_inj h)
      | _ => cases hty
  | null =>
      cases b with
      | null => rfl
      | _ => cases hty
  | float bits | double bits | classOf t => cases ha

/-- Literals with the same text are the same, apart from floating-point numbers and classes. So no two strings
are written alike, and the text of a string ends at the first quote behind the opening one that no backslash
escapes, whatever follows it. -/
theorem text_unambiguous :
    (∀ a b : Constant, a.Exact → b.Exact → (a.text = b.text ↔ a = b)) ∧
    (∀ s t : String, (string s).text = (string t).text ↔ s = t) ∧
    ∀ (s : String) (rest : List Char), ∃ body : List Char,
      (string s).text.toList = '"' :: body ++ ['"'] ∧
        Text.cutAtQuote? (body ++ '"' :: rest) = some (body, rest) := by
  refine ⟨fun a b ha hb => ⟨text_inj ha hb, congrArg text⟩,
    fun s t => ⟨Text.quoted_inj, congrArg Text.quoted⟩, fun s rest => ?_⟩
  exact ⟨_, Text.toList_quoted s, Text.cutAtQuote?_flatMap_escape s.toList rest⟩

/-- The size of a number, the quotes of a text and the backslashes in it show. -/
theorem text_unambiguous_marks :
    (int 1).text ≠ (long 1).text ∧ (boolean true).text ≠ (string "true").text ∧
      (string "\"").text ≠ (string "\\\"").text := by
  obtain ⟨hiff, hstring, -⟩ := text_unambiguous
  refine ⟨fun h => ?_, fun h => ?_, fun h => ?_⟩
  · exact nomatch (hiff (int 1) (long 1) trivial trivial).mp h
  · exact nomatch (hiff (boolean true) (string "true") trivial trivial).mp h
  · exact absurd ((hstring "\"" "\\\"").mp h) (by decide)

end Devirt.Constant

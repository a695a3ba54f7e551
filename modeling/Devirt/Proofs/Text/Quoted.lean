import Devirt.Text.Hexadecimal
import Devirt.Text.Quoted

/-!
# Reading quoted texts

A character that is written between quotes can be read back whatever follows it, so no two texts are quoted
alike. The quote that closes a text is the first one that no backslash escapes.
-/

namespace Devirt.Text

/-! ## Code points -/

theorem hexDigit?_digitChar : ∀ d < 16, hexDigit? (Nat.digitChar d) = some d := by decide

theorem hexValue?_append_singleton (digits : List Char) (c : Char) :
    hexValue? (digits ++ [c]) = (hexValue? digits).bind fun n => (hexDigit? c).map (16 * n + ·) := by
  simp [hexValue?, List.foldlM_append]

/-- The digits of a number are worth that number. The induction is on the number of digits. -/
theorem hexValue?_toDigits (n : Nat) : hexValue? (Nat.toDigits 16 n) = some n := by
  induction n using Nat.base_induction 16 (by decide) with
  | single d hd =>
      have hdigit := hexValue?_append_singleton [] d.digitChar
      rw [hexDigit?_digitChar d hd] at hdigit
      rw [Nat.toDigits_of_lt_base hd]
      simpa [hexValue?] using hdigit
  | digit m d hd hm ih =>
      rw [← Nat.toDigits_append_toDigits (by decide) hm hd, Nat.toDigits_of_lt_base hd,
        hexValue?_append_singleton, ih, hexDigit?_digitChar d hd]
      rfl

theorem hexCharacter?_toDigits (c : Char) : hexCharacter? (Nat.toDigits 16 c.toNat) = some c := by
  have hvalid : c.toNat.isValidChar := c.valid
  simp only [hexCharacter?, hexValue?_toDigits, if_pos hvalid, Char.ofNat_toNat]

theorem ne_of_mem_toDigits {n : Nat} {c d : Char} (hd : d ∈ Nat.toDigits 16 n)
    (hc : ∀ k, Nat.digitChar k ≠ c) : d ≠ c := by
  induction n using Nat.base_induction 16 (by decide) with
  | single k hk =>
      rw [Nat.toDigits_of_lt_base hk, List.mem_singleton] at hd
      rw [hd]
      exact hc k
  | digit m k hk hm ih =>
      rw [← Nat.toDigits_append_toDigits (by decide) hm hk, Nat.toDigits_of_lt_base hk, List.mem_append,
        List.mem_singleton] at hd
      obtain hd | rfl := hd
      · exact ih hd
      · exact hc k

/-! ## One character -/

/-- What an escape by a letter stands for. -/
def ofShortEscape? : Char → Option Char
  | '0' => some '\x00'
  | 't' => some '\t'
  | 'r' => some '\r'
  | 'n' => some '\n'
  | '"' => some '"'
  | '\\' => some '\\'
  | _ => none

/-- Reads one character as it is written between quotes, and gives what follows it. -/
def readEscaped? : List Char → Option (Char × List Char)
  | [] => none
  | '\\' :: 'u' :: '\x7b' :: rest =>
    (hexCharacter? (rest.takeWhile (· ≠ '\x7d'))).map (·, (rest.dropWhile (· ≠ '\x7d')).tail)
  | '\\' :: letter :: rest => (ofShortEscape? letter).map (·, rest)
  | c :: rest => some (c, rest)

/-- The three ways to write a character between quotes. -/
inductive Written (c : Char) : List Char → Prop where
  | letter {l : Char} (h : shortEscape? c = some l) : Written c ['\\', l]
  | plain (hquote : c ≠ '"') (hbackslash : c ≠ '\\') : Written c [c]
  | codePoint : Written c (codePointEscape c)

theorem written_escape (c : Char) : Written c (escape c) := by
  rw [escape]
  split
  · rename_i l h
    exact .letter h
  · rename_i h
    split
    · refine .plain ?_ ?_ <;> rintro rfl <;> cases h
    · exact .codePoint

theorem readEscaped?_letter {c l : Char} (h : shortEscape? c = some l) (rest : List Char) :
    readEscaped? ('\\' :: l :: rest) = some (c, rest) := by
  unfold shortEscape? at h
  split at h <;> cases h <;> rfl

theorem readEscaped?_codePoint (c : Char) (rest : List Char) :
    readEscaped? (codePointEscape c ++ rest) = some (c, rest) := by
  have hdigits : ∀ d ∈ Nat.toDigits 16 c.toNat, d ≠ '\x7d' := fun d hd =>
    ne_of_mem_toDigits hd fun _ => Nat.digitChar_ne _ (by decide)
  have htext : codePointEscape c ++ rest =
      '\\' :: 'u' :: '\x7b' :: (Nat.toDigits 16 c.toNat ++ '\x7d' :: rest) := by
    simp [codePointEscape]
  rw [htext, readEscaped?, List.takeWhile_append_of_pos (by simpa using hdigits),
    List.dropWhile_append_of_pos (by simpa using hdigits)]
  simp [hexCharacter?_toDigits]

theorem Written.readEscaped? {c : Char} {cs : List Char} (h : Written c cs) (rest : List Char) :
    readEscaped? (cs ++ rest) = some (c, rest) := by
  cases h with
  | letter h => exact readEscaped?_letter h rest
  | plain hquote hbackslash => exact readEscaped?.eq_4 c rest (by simp [hbackslash]) (by simp [hbackslash])
  | codePoint => exact readEscaped?_codePoint c rest

/-! ## Texts -/

/-- Reading one character after the other gives back all of a text. -/
theorem flatMap_escape_inj {cs ds : List Char} (h : cs.flatMap escape = ds.flatMap escape) : cs = ds := by
  have hread : ∀ (c : Char) (cs : List Char),
      readEscaped? ((c :: cs).flatMap escape) = some (c, cs.flatMap escape) := by
    intro c cs
    rw [List.flatMap_cons]
    exact (written_escape c).readEscaped? (cs.flatMap escape)
  induction cs generalizing ds with
  | nil =>
      cases ds with
      | nil => rfl
      | cons d ds => cases (congrArg readEscaped? h).trans (hread d ds)
  | cons c cs ih =>
      cases ds with
      | nil => cases (hread c cs).symm.trans (congrArg readEscaped? h)
      | cons d ds =>
          have hsame := (hread c cs).symm.trans ((congrArg readEscaped? h).trans (hread d ds))
          obtain ⟨rfl, hothers⟩ := Prod.mk.inj (Option.some.inj hsame)
          rw [ih hothers]

theorem toList_quoted (s : String) : (quoted s).toList = '"' :: s.toList.flatMap escape ++ ['"'] := by
  rw [quoted, String.toList_ofList]
  rfl

theorem quoted_inj {s t : String} (h : quoted s = quoted t) : s = t := by
  have htext := congrArg String.toList h
  rw [toList_quoted, toList_quoted] at htext
  have hbody := List.append_cancel_right (List.cons.inj htext).2
  exact String.toList_injective (flatMap_escape_inj hbody)

/-! ## The closing quote -/

/-- What stands before the first quote that no backslash escapes, and what follows that quote. A backslash
escapes the character after it. -/
def cutAtQuote? : List Char → Option (List Char × List Char)
  | [] => none
  | '"' :: rest => some ([], rest)
  | '\\' :: c :: rest => (cutAtQuote? rest).map fun cut => ('\\' :: c :: cut.1, cut.2)
  | c :: rest => (cutAtQuote? rest).map fun cut => (c :: cut.1, cut.2)

theorem cutAtQuote?_append {cs ds body rest : List Char} (hcs : ∀ c ∈ cs, c ≠ '"' ∧ c ≠ '\\')
    (h : cutAtQuote? ds = some (body, rest)) : cutAtQuote? (cs ++ ds) = some (cs ++ body, rest) := by
  induction cs with
  | nil => exact h
  | cons c cs ih =>
      obtain ⟨hquote, hbackslash⟩ := hcs c List.mem_cons_self
      have hcut := ih fun d hd => hcs d (List.mem_cons_of_mem c hd)
      rw [List.cons_append, cutAtQuote?.eq_4 c _ hquote (by simp [hbackslash]), hcut]
      rfl

theorem cutAtQuote?_escaped {ds body rest : List Char} (c : Char)
    (h : cutAtQuote? ds = some (body, rest)) :
    cutAtQuote? ('\\' :: c :: ds) = some ('\\' :: c :: body, rest) := by
  rw [cutAtQuote?, h]
  rfl

/-- The character after the backslash is an ordinary one, and none of the others is a quote or a backslash. -/
theorem cutAtQuote?_codePoint {ds body rest : List Char} (c : Char)
    (h : cutAtQuote? ds = some (body, rest)) :
    cutAtQuote? (codePointEscape c ++ ds) = some (codePointEscape c ++ body, rest) := by
  have hdigits : ∀ d ∈ Nat.toDigits 16 c.toNat, d ≠ '"' ∧ d ≠ '\\' := fun d hd =>
    ⟨ne_of_mem_toDigits hd fun _ => Nat.digitChar_ne _ (by decide),
      ne_of_mem_toDigits hd fun _ => Nat.digitChar_ne _ (by decide)⟩
  have hbraced : ∀ d ∈ '\x7b' :: Nat.toDigits 16 c.toNat ++ ['\x7d'], d ≠ '"' ∧ d ≠ '\\' :=
    List.forall_mem_append.mpr
      ⟨List.forall_mem_cons.mpr ⟨by decide, hdigits⟩, List.forall_mem_singleton.mpr (by decide)⟩
  exact cutAtQuote?_escaped 'u' (cutAtQuote?_append hbraced h)

theorem Written.cutAtQuote? {c : Char} {cs ds body rest : List Char} (hc : Written c cs)
    (h : cutAtQuote? ds = some (body, rest)) : cutAtQuote? (cs ++ ds) = some (cs ++ body, rest) := by
  cases hc with
  | @letter l _ => exact cutAtQuote?_escaped l h
  | plain hquote hbackslash => exact cutAtQuote?_append (by simpa using ⟨hquote, hbackslash⟩) h
  | codePoint => exact cutAtQuote?_codePoint c h

/-- Whatever follows a quoted text, it ends at its first quote that is not escaped. -/
theorem cutAtQuote?_flatMap_escape (cs rest : List Char) :
    cutAtQuote? (cs.flatMap escape ++ '"' :: rest) = some (cs.flatMap escape, rest) := by
  induction cs with
  | nil => rfl
  | cons c cs ih =>
      rw [List.flatMap_cons, List.append_assoc]
      exact (written_escape c).cutAtQuote? ih

end Devirt.Text

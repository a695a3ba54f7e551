import Devirt.Proofs.Descriptor.Reading

/-!
# What the error for a refused descriptor quotes

A descriptor is refused with either the whole of it or the text at which no type begins, from the innermost
component type on. Which of the two depends on how far the grammar goes on the text: over one type, or over the
longest sequence of types behind the opening bracket.
-/

namespace Devirt.Descriptor

/-- The text without its leading array dimensions. -/
def behindBrackets (cs : List Char) : List Char := cs.dropWhile (· = '[')

/-- The text begins with the descriptor of a type. -/
def BeginsWithType (cs : List Char) : Prop := ∃ f : TypeForm, f.text <+: cs

/-- The text begins with the descriptor of a primitive type or of a class. -/
def BeginsWithSimple (cs : List Char) : Prop :=
  (∃ p, (TypeForm.primitive p).text <+: cs) ∨ ∃ n, (TypeForm.named n).text <+: cs

/-- No sequence of descriptors at the beginning of `cs` is longer than that of `fs`, and `rest` follows it. -/
structure LongestTypes (cs : List Char) (fs : List TypeForm) (rest : List Char) : Prop where
  eq_append : fs.flatMap TypeForm.text ++ rest = cs
  longest : ∀ gs : List TypeForm, gs.flatMap TypeForm.text <+: cs → gs.length ≤ fs.length

/-- The text goes on behind a result type. -/
def Overlong (cs : List Char) : Prop :=
  (∃ rest, rest ≠ [] ∧ cs = 'V' :: rest) ∨
    ∃ (f : TypeForm) (rest : List Char), rest ≠ [] ∧ cs = f.text ++ rest

/-- What the error for the text `d` quotes if `d` is no type. -/
inductive FieldQuote (d : List Char) : List Char → Prop where
  | trailing (h : BeginsWithSimple (behindBrackets d)) : FieldQuote d d
  | unreadable (h : ¬BeginsWithSimple (behindBrackets d)) : FieldQuote d (behindBrackets d)

/-- What the error for the text `d` quotes if `d` is no method. Here `cs` is what the opening bracket leaves,
and `fs` are the parameters that can be read. -/
inductive MethodQuote (d : List Char) : List Char → Prop where
  | unopened (h : d.head? ≠ some '(') : MethodQuote d d
  | unclosed {cs : List Char} {fs : List TypeForm} (hopen : d = '(' :: cs) (hfs : LongestTypes cs fs []) :
      MethodQuote d d
  | parameter {cs rest : List Char} {fs : List TypeForm} (hopen : d = '(' :: cs)
      (hfs : LongestTypes cs fs rest) (hne : rest ≠ []) (hclose : rest.head? ≠ some ')') :
      MethodQuote d (behindBrackets rest)
  | noResult {cs : List Char} {fs : List TypeForm} (hopen : d = '(' :: cs)
      (hfs : LongestTypes cs fs [')']) : MethodQuote d d
  | trailing {cs result : List Char} {fs : List TypeForm} (hopen : d = '(' :: cs)
      (hfs : LongestTypes cs fs (')' :: result)) (hlong : Overlong result) : MethodQuote d d
  | result {cs result : List Char} {fs : List TypeForm} (hopen : d = '(' :: cs)
      (hfs : LongestTypes cs fs (')' :: result)) (hne : result ≠ []) (hlong : ¬Overlong result) :
      MethodQuote d (behindBrackets result)

/-! ## Texts that begin with a type -/

theorem behindBrackets_bracket (cs : List Char) : behindBrackets ('[' :: cs) = behindBrackets cs := rfl

theorem behindBrackets_of_ne {c : Char} (cs : List Char) (hc : c ≠ '[') :
    behindBrackets (c :: cs) = c :: cs :=
  List.dropWhile_cons_of_neg (by simpa using hc)

theorem beginsWithType_bracket_iff {cs : List Char} : BeginsWithType ('[' :: cs) ↔ BeginsWithType cs := by
  constructor
  · rintro ⟨f, hf⟩
    cases f with
    | primitive p => exact absurd (List.cons_prefix_cons.mp hf).1 (letter_ne (by decide))
    | named n => exact absurd (List.cons_prefix_cons.mp hf).1 (by decide)
    | array element => exact ⟨element, (List.cons_prefix_cons.mp hf).2⟩
  · rintro ⟨f, hf⟩
    exact ⟨.array f, List.cons_prefix_cons.mpr ⟨rfl, hf⟩⟩

theorem beginsWithType_iff_simple {cs : List Char} (hcs : cs.head? ≠ some '[') :
    BeginsWithType cs ↔ BeginsWithSimple cs := by
  constructor
  · rintro ⟨f, hf⟩
    cases f with
    | primitive p => exact .inl ⟨p, hf⟩
    | named n => exact .inr ⟨n, hf⟩
    | array element =>
        obtain ⟨rest, rfl⟩ := hf
        exact absurd rfl hcs
  · rintro (⟨p, hp⟩ | ⟨n, hn⟩)
    · exact ⟨.primitive p, hp⟩
    · exact ⟨.named n, hn⟩

/-- Array dimensions do not change whether a type can be read. -/
theorem beginsWithType_iff_behindBrackets {cs : List Char} :
    BeginsWithType cs ↔ BeginsWithSimple (behindBrackets cs) := by
  induction cs with
  | nil => exact beginsWithType_iff_simple nofun
  | cons c cs ih =>
      by_cases hc : c = '['
      · subst hc
        rw [beginsWithType_bracket_iff, behindBrackets_bracket, ih]
      · have hhead : (c :: cs).head? ≠ some '[' := fun h => hc (Option.some.inj h)
        rw [behindBrackets_of_ne cs hc, beginsWithType_iff_simple hhead]

/-! ## The longest sequence of types -/

/-- Where no type begins, no sequence of types at the beginning of the text goes any further. -/
theorem isPrefix_of_flatMap_text {fs gs : List TypeForm} {rest : List Char} (hrest : ¬BeginsWithType rest)
    (h : gs.flatMap TypeForm.text <+: fs.flatMap TypeForm.text ++ rest) : gs <+: fs := by
  induction gs generalizing fs with
  | nil => exact List.nil_prefix
  | cons g gs ih =>
      obtain ⟨rest', h⟩ := h
      rw [List.flatMap_cons, List.append_assoc] at h
      cases fs with
      | nil => exact absurd ⟨g, _, h⟩ hrest
      | cons f fs =>
          rw [List.flatMap_cons, List.append_assoc] at h
          obtain ⟨rfl, hothers⟩ := TypeForm.append_inj h
          exact List.cons_prefix_cons.mpr ⟨rfl, ih ⟨rest', hothers⟩⟩

theorem longestTypes_iff {cs rest : List Char} {fs : List TypeForm} :
    LongestTypes cs fs rest ↔ fs.flatMap TypeForm.text ++ rest = cs ∧ ¬BeginsWithType rest := by
  constructor
  · rintro ⟨rfl, hlongest⟩
    refine ⟨rfl, ?_⟩
    rintro ⟨f, rest', rfl⟩
    have hmore := hlongest (fs ++ [f]) ⟨rest', by simp⟩
    rw [List.length_append] at hmore
    exact Nat.not_succ_le_self _ hmore
  · rintro ⟨rfl, hrest⟩
    exact ⟨rfl, fun gs hgs => (isPrefix_of_flatMap_text hrest hgs).length_le⟩

theorem LongestTypes.unique {cs rest rest' : List Char} {fs gs : List TypeForm}
    (hfs : LongestTypes cs fs rest) (hgs : LongestTypes cs gs rest') : fs = gs ∧ rest = rest' := by
  obtain ⟨rfl, hrest⟩ := longestTypes_iff.mp hfs
  obtain ⟨h, hrest'⟩ := longestTypes_iff.mp hgs
  have hle : gs <+: fs := isPrefix_of_flatMap_text hrest ⟨rest', h⟩
  have hge : fs <+: gs := isPrefix_of_flatMap_text hrest' ⟨rest, h.symm⟩
  obtain rfl : fs = gs := hge.eq_of_length_le hle.length_le
  exact ⟨rfl, (List.append_cancel_left h).symm⟩

theorem exists_longestTypes (cs : List Char) : ∃ fs rest, LongestTypes cs fs rest := by
  -- by the length of the text, of which each type takes some
  by_cases hcs : BeginsWithType cs
  · obtain ⟨f, after, rfl⟩ := hcs
    have : after.length < (f.text ++ after).length := by
      obtain ⟨c, cs, hf, -⟩ := f.exists_cons
      rw [hf, List.length_append, List.length_cons]
      omega
    obtain ⟨fs, rest, hfs⟩ := exists_longestTypes after
    obtain ⟨rfl, hrest⟩ := longestTypes_iff.mp hfs
    exact ⟨f :: fs, rest, longestTypes_iff.mpr ⟨by rw [List.flatMap_cons, List.append_assoc], hrest⟩⟩
  · exact ⟨[], cs, longestTypes_iff.mpr ⟨rfl, hcs⟩⟩
termination_by cs.length

/-! ## What the readers refuse -/

/-- The error of the innermost call is passed on through the array dimensions. -/
theorem readType_eq_refuse {cs : List Char} (h : ¬BeginsWithType cs) :
    readType cs = refuse (behindBrackets cs) := by
  induction cs with
  | nil => rfl
  | cons c cs ih =>
      by_cases hc : c = '['
      · subst hc
        rw [readType, if_pos rfl, behindBrackets_bracket, ih (mt beginsWithType_bracket_iff.mpr h)]
        rfl
      · rw [behindBrackets_of_ne cs hc]
        cases hread : readType (c :: cs) with
        | error e =>
            rw [readType, if_neg hc] at hread
            split at hread
            · split at hread
              · cases hread
              · exact hread.symm
            · split at hread
              · cases hread
              · exact hread.symm
        | ok read =>
            obtain ⟨f, hf, -⟩ := eq_text_of_readType hread
            exact absurd ⟨f, _, hf.symm⟩ h

theorem readParameters_eq_refuse {whole rest : List Char} {c : Char} (hc : c ≠ ')')
    (h : ¬BeginsWithType (c :: rest)) :
    readParameters whole (c :: rest) = refuse (behindBrackets (c :: rest)) := by
  have hread := readType_eq_refuse h
  rw [readParameters.eq_3 _ _ _ hc]
  split
  · rename_i herror
    cases hread.symm.trans herror
    rfl
  · rename_i hok
    cases hread.symm.trans hok

/-- Parameters that can be read do not change the error for what follows them. -/
theorem readParameters_append_eq_error {whole rest : List Char} {e : DescriptorError} (fs : List TypeForm)
    (h : readParameters whole rest = .error e) :
    readParameters whole (fs.flatMap TypeForm.text ++ rest) = .error e := by
  induction fs with
  | nil => exact h
  | cons f fs ih =>
      obtain ⟨c, cs, hf, hc, -⟩ := f.exists_cons
      have hread := readType_text f (fs.flatMap TypeForm.text ++ rest)
      rw [List.flatMap_cons, List.append_assoc]
      rw [hf, List.cons_append] at hread ⊢
      rw [readParameters.eq_3 _ _ _ hc]
      split
      · rename_i herror
        cases hread.symm.trans herror
      · rename_i hok
        cases hread.symm.trans hok
        simp only [ih]

theorem LongestTypes.readParameters_eq_ok {cs result whole : List Char} {fs : List TypeForm}
    (hfs : LongestTypes cs fs (')' :: result)) :
    readParameters whole cs = .ok (fs.map TypeForm.ty, result) := by
  rw [← hfs.eq_append, readParameters_text]

theorem LongestTypes.readParameters_eq_refuse_whole {cs whole : List Char} {fs : List TypeForm}
    (hfs : LongestTypes cs fs []) : readParameters whole cs = refuse whole := by
  rw [← hfs.eq_append]
  exact readParameters_append_eq_error fs (readParameters.eq_1 whole)

theorem LongestTypes.readParameters_eq_refuse {cs rest whole : List Char} {fs : List TypeForm}
    (hfs : LongestTypes cs fs rest) (hne : rest ≠ []) (hclose : rest.head? ≠ some ')') :
    readParameters whole cs = refuse (behindBrackets rest) := by
  obtain ⟨rfl, hrest⟩ := longestTypes_iff.mp hfs
  cases rest with
  | nil => exact absurd rfl hne
  | cons c rest =>
      have hc : c ≠ ')' := fun h => hclose (congrArg some h)
      exact readParameters_append_eq_error fs (Descriptor.readParameters_eq_refuse hc hrest)

theorem readResult_eq_refuse {whole cs : List Char} (hne : cs ≠ []) (hlong : ¬Overlong cs)
    (h : ¬∃ r : ResultForm, r.text = cs) : readResult whole cs = refuse (behindBrackets cs) := by
  have htype : ¬BeginsWithType cs := by
    rintro ⟨f, rest, hf⟩
    by_cases hrest : rest = []
    · exact h ⟨.type f, by rw [← hf, hrest, List.append_nil]; rfl⟩
    · exact hlong (.inr ⟨f, rest, hrest, hf.symm⟩)
  cases cs with
  | nil => exact absurd rfl hne
  | cons c cs =>
      have hc : c ≠ 'V' := by
        rintro rfl
        by_cases hcs : cs = []
        · exact h ⟨.void, by rw [hcs]; rfl⟩
        · exact hlong (.inl ⟨cs, hcs, rfl⟩)
      rw [readResult.eq_3 _ _ _ hc, readType_eq_refuse htype]
      rfl

theorem readResult_eq_refuse_whole {cs : List Char} (whole : List Char) (hlong : Overlong cs) :
    readResult whole cs = refuse whole := by
  obtain ⟨rest, hrest, rfl⟩ | ⟨f, rest, hrest, rfl⟩ := hlong
  · rw [readResult, if_neg (mt List.isEmpty_iff.mp hrest)]
  · obtain ⟨c, cs, hf, -, hc⟩ := f.exists_cons
    obtain ⟨r, rest, rfl⟩ := List.exists_cons_of_ne_nil hrest
    have hread := readType_text f (r :: rest)
    rw [hf, List.cons_append] at hread ⊢
    rw [readResult.eq_3 _ _ _ hc, hread]

/-! ## The error for a descriptor -/

theorem FieldQuote.parseField_eq {s : String} {q : List Char} (hs : ¬∃ f : TypeForm, f.text = s.toList)
    (hq : FieldQuote s.toList q) : parseField s = refuse q := by
  rw [parseField]
  cases hq with
  | trailing h =>
      obtain ⟨f, rest, hf⟩ := beginsWithType_iff_behindBrackets.mpr h
      cases rest with
      | nil => exact absurd ⟨f, by rw [← hf, List.append_nil]⟩ hs
      | cons c rest => rw [← hf, readType_text f (c :: rest)]
  | unreadable h =>
      rw [readType_eq_refuse (mt beginsWithType_iff_behindBrackets.mp h)]
      rfl

theorem exists_fieldQuote (d : List Char) : ∃ q, FieldQuote d q := by
  by_cases h : BeginsWithSimple (behindBrackets d)
  · exact ⟨_, .trailing h⟩
  · exact ⟨_, .unreadable h⟩

theorem MethodQuote.parseMethod_eq {s : String} {q : List Char}
    (hs : ¬∃ m : MethodForm, m.text = s.toList) (hq : MethodQuote s.toList q) :
    parseMethod s = refuse q := by
  rw [parseMethod]
  cases hq with
  | unopened h =>
      split
      · rename_i rest hopen
        rw [hopen] at h
        exact absurd rfl h
      · rfl
  | unclosed hopen hfs =>
      rw [hopen]
      simp only [hfs.readParameters_eq_refuse_whole]
      rfl
  | parameter hopen hfs hne hclose =>
      rw [hopen]
      simp only [hfs.readParameters_eq_refuse hne hclose]
      rfl
  | noResult hopen hfs =>
      rw [hopen]
      simp only [hfs.readParameters_eq_ok, readResult]
      rfl
  | trailing hopen hfs hlong =>
      rw [hopen]
      simp only [hfs.readParameters_eq_ok, readResult_eq_refuse_whole _ hlong]
      rfl
  | @result cs result fs hopen hfs hne hlong =>
      have hresult : ¬∃ r : ResultForm, r.text = result := by
        rintro ⟨r, rfl⟩
        exact hs ⟨⟨fs, r⟩, by rw [hopen, ← hfs.eq_append]; rfl⟩
      rw [hopen]
      simp only [hfs.readParameters_eq_ok, readResult_eq_refuse hne hlong hresult]
      rfl

theorem exists_methodQuote (d : List Char) : ∃ q, MethodQuote d q := by
  by_cases hopen : d.head? = some '('
  · obtain ⟨cs, rfl⟩ := List.head?_eq_some_iff.mp hopen
    obtain ⟨fs, rest, hfs⟩ := exists_longestTypes cs
    cases rest with
    | nil => exact ⟨_, .unclosed rfl hfs⟩
    | cons c result =>
        by_cases hc : c = ')'
        · subst hc
          by_cases hlong : Overlong result
          · exact ⟨_, .trailing rfl hfs hlong⟩
          · cases result with
            | nil => exact ⟨_, .noResult rfl hfs⟩
            | cons r result => exact ⟨_, .result rfl hfs (List.cons_ne_nil r result) hlong⟩
        · exact ⟨_, .parameter rfl hfs (List.cons_ne_nil c result) (mt Option.some.inj hc)⟩
  · exact ⟨_, .unopened hopen⟩

theorem parseField_eq_error_iff {s q : String} :
    parseField s = .error ⟨q⟩ ↔ (¬∃ f : TypeForm, f.text = s.toList) ∧ FieldQuote s.toList q.toList := by
  constructor
  · intro h
    have hs : ¬∃ f : TypeForm, f.text = s.toList := by
      rintro ⟨f, hf⟩
      cases h.symm.trans (parseField_eq_ok_iff.mpr ⟨f, hf, rfl⟩)
    obtain ⟨cs, hcs⟩ := exists_fieldQuote s.toList
    cases h.symm.trans (hcs.parseField_eq hs)
    exact ⟨hs, String.toList_ofList.symm ▸ hcs⟩
  · rintro ⟨hs, hq⟩
    rw [hq.parseField_eq hs, refuse, String.ofList_toList]

theorem parseMethod_eq_error_iff {s q : String} :
    parseMethod s = .error ⟨q⟩ ↔
      (¬∃ m : MethodForm, m.text = s.toList) ∧ MethodQuote s.toList q.toList := by
  constructor
  · intro h
    have hs : ¬∃ m : MethodForm, m.text = s.toList := by
      rintro ⟨m, hm⟩
      cases h.symm.trans (parseMethod_eq_ok_iff.mpr ⟨m, hm, rfl⟩)
    obtain ⟨cs, hcs⟩ := exists_methodQuote s.toList
    cases h.symm.trans (hcs.parseMethod_eq hs)
    exact ⟨hs, String.toList_ofList.symm ▸ hcs⟩
  · rintro ⟨hs, hq⟩
    rw [hq.parseMethod_eq hs, refuse, String.ofList_toList]

/-- A text that is no descriptor is refused, and the error quotes what the position of the offending input
tells. The longest sequence of types that a text begins with, on which this depends, exists and is unique. -/
theorem refused_quotes :
    (∀ s q : String, parseField s = .error ⟨q⟩ ↔
      (¬∃ f : TypeForm, f.text = s.toList) ∧ FieldQuote s.toList q.toList) ∧
    (∀ s q : String, parseMethod s = .error ⟨q⟩ ↔
      (¬∃ m : MethodForm, m.text = s.toList) ∧ MethodQuote s.toList q.toList) ∧
    ∀ cs : List Char, ∃! cut : List TypeForm × List Char, LongestTypes cs cut.1 cut.2 := by
  refine ⟨fun s q => parseField_eq_error_iff, fun s q => parseMethod_eq_error_iff, fun cs => ?_⟩
  obtain ⟨fs, rest, hfs⟩ := exists_longestTypes cs
  refine ⟨(fs, rest), hfs, fun cut hcut => ?_⟩
  obtain ⟨hsame, hrests⟩ := hcut.unique hfs
  exact Prod.ext hsame hrests

/-- Behind a type the whole descriptor is quoted, and where no type begins the text from there on. -/
example : parseField "[[IV" = .error ⟨"[[IV"⟩ ∧ parseField "[[LV" = .error ⟨"LV"⟩ := ⟨rfl, rfl⟩

end Devirt.Descriptor

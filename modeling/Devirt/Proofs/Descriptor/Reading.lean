import Devirt.Proofs.Descriptor.Grammar
import Mathlib.Data.List.TakeWhile

/-!
# Reading descriptors

The readers accept the texts of the forms in the grammar and nothing else, and give what the forms denote.
-/

namespace Devirt.Descriptor

/-! ## Types -/

theorem primitive?_eq_some_iff {c : Char} {p : Primitive} : primitive? c = some p ↔ c = letter p := by
  constructor
  · intro h
    unfold primitive? at h
    split at h <;> cases h <;> rfl
  · rintro rfl
    cases p <;> rfl

theorem Name.takeWhile (n : Name) (rest : List Char) :
    (n.chars ++ ';' :: rest).takeWhile (· ≠ ';') = n.chars := by
  rw [List.takeWhile_append_of_pos fun c hc => by
    simpa using fun h : c = ';' => n.unterminated (h ▸ hc)]
  simp

theorem Name.dropWhile (n : Name) (rest : List Char) :
    (n.chars ++ ';' :: rest).dropWhile (· ≠ ';') = ';' :: rest := by
  rw [List.dropWhile_append_of_pos fun c hc => by
    simpa using fun h : c = ';' => n.unterminated (h ▸ hc)]
  simp

/-- What is cut out of a text at its first semicolon is a name, unless it is empty. -/
theorem exists_name {cs name after : List Char} {c : Char} (hname : cs.takeWhile (· ≠ ';') = name)
    (hafter : cs.dropWhile (· ≠ ';') = c :: after) (hne : name ≠ []) :
    ∃ n : Name, n.chars = name ∧ cs = n.chars ++ ';' :: after := by
  have hterminated : c = ';' := by
    have h := List.head?_dropWhile_not (· ≠ ';') cs
    rw [hafter] at h
    simpa using h
  subst hname
  have hunterminated : ';' ∉ cs.takeWhile (· ≠ ';') := by
    intro hmem
    simpa using List.mem_takeWhile_imp hmem
  refine ⟨⟨cs.takeWhile (· ≠ ';'), hne, hunterminated⟩, rfl, ?_⟩
  calc cs
    _ = cs.takeWhile (· ≠ ';') ++ cs.dropWhile (· ≠ ';') := List.takeWhile_append_dropWhile.symm
    _ = cs.takeWhile (· ≠ ';') ++ ';' :: after := by rw [hafter, hterminated]

theorem readType_text (f : TypeForm) (rest : List Char) :
    readType (f.text ++ rest) = .ok (f.ty, rest) := by
  induction f with
  | primitive p => cases p <;> rfl
  | named n =>
      have hname : (TypeForm.named n).text ++ rest = 'L' :: (n.chars ++ ';' :: rest) := by
        simp [TypeForm.text]
      obtain ⟨c, cs, hn⟩ := List.exists_cons_of_ne_nil n.ne_nil
      rw [hname, readType, if_neg (by decide), if_pos rfl, n.takeWhile, n.dropWhile, TypeForm.ty, hn]
  | array element ih =>
      rw [TypeForm.text, List.cons_append, readType, if_pos rfl, ih]
      rfl

theorem eq_text_of_readType {cs rest : List Char} {t : Ty} (h : readType cs = .ok (t, rest)) :
    ∃ f : TypeForm, cs = f.text ++ rest ∧ f.ty = t := by
  induction cs generalizing t rest with
  | nil => cases h
  | cons c cs ih =>
      rw [readType] at h
      split at h
      · rename_i hc
        split at h
        · rename_i element after hread
          cases h
          obtain ⟨f, rfl, rfl⟩ := ih hread
          exact ⟨.array f, by rw [hc]; rfl, rfl⟩
        · cases h
      · split at h
        · rename_i hc
          split at h
          · rename_i initial more semicolon after hname hafter
            cases h
            obtain ⟨n, hn, hcs⟩ := exists_name hname hafter (List.cons_ne_nil initial more)
            refine ⟨.named n, ?_, by rw [TypeForm.ty, hn]⟩
            rw [hc, hcs, TypeForm.text]
            simp
          · cases h
        · split at h
          · rename_i p hp
            cases h
            exact ⟨.primitive p, by rw [primitive?_eq_some_iff.mp hp]; rfl, rfl⟩
          · cases h

theorem parseField_eq_ok_iff {s : String} {t : Ty} :
    parseField s = .ok t ↔ ∃ f : TypeForm, f.text = s.toList ∧ f.ty = t := by
  rw [parseField]
  constructor
  · intro h
    split at h
    · rename_i hread
      cases h
      obtain ⟨f, hf, ht⟩ := eq_text_of_readType hread
      exact ⟨f, by rw [hf, List.append_nil], ht⟩
    · cases h
    · cases h
  · rintro ⟨f, hf, rfl⟩
    have hread : readType s.toList = .ok (f.ty, []) := by
      rw [← hf, ← readType_text f [], List.append_nil]
    rw [hread]

/-! ## Methods -/

theorem readParameters_cons {whole rest after last : List Char} {c : Char} {t : Ty} {ts : List Ty}
    (hc : c ≠ ')') (hread : readType (c :: rest) = .ok (t, after))
    (hrest : readParameters whole after = .ok (ts, last)) :
    readParameters whole (c :: rest) = .ok (t :: ts, last) := by
  rw [readParameters.eq_3 _ _ _ hc]
  split
  · rename_i herror
    cases hread.symm.trans herror
  · rename_i hok
    cases hread.symm.trans hok
    simp only [hrest]

theorem readParameters_text (whole : List Char) (fs : List TypeForm) (rest : List Char) :
    readParameters whole (fs.flatMap TypeForm.text ++ ')' :: rest) =
      .ok (fs.map TypeForm.ty, rest) := by
  induction fs with
  | nil => exact readParameters.eq_2 ..
  | cons f fs ih =>
      obtain ⟨c, cs, hf, hc, -⟩ := f.exists_cons
      have hread := readType_text f (fs.flatMap TypeForm.text ++ ')' :: rest)
      rw [List.flatMap_cons, List.append_assoc]
      rw [hf, List.cons_append] at hread ⊢
      exact readParameters_cons hc hread ih

theorem eq_text_of_readParameters {whole cs rest : List Char} {ts : List Ty}
    (h : readParameters whole cs = .ok (ts, rest)) :
    ∃ fs : List TypeForm, cs = fs.flatMap TypeForm.text ++ ')' :: rest ∧ fs.map TypeForm.ty = ts := by
  -- only the closing bracket and a type with readable parameters behind it give a result
  fun_induction readParameters whole cs generalizing ts rest with
  | case1 => cases h
  | case2 after =>
      cases h
      exact ⟨[], rfl, rfl⟩
  | case3 => cases h
  | case4 c cs _ t after hread _ ts' last hrest ih =>
      cases h
      obtain ⟨f, hf, rfl⟩ := eq_text_of_readType hread
      obtain ⟨fs, hfs, rfl⟩ := ih hrest
      exact ⟨f :: fs, by rw [hf, hfs, List.flatMap_cons, List.append_assoc], rfl⟩
  | case5 => cases h

theorem readResult_eq_ok_iff {whole cs : List Char} {t : Ty} :
    readResult whole cs = .ok t ↔ ∃ r : ResultForm, r.text = cs ∧ r.ty = t := by
  constructor
  · intro h
    unfold readResult at h
    split at h
    · cases h
    · rename_i rest
      split at h
      · rename_i hrest
        cases h
        exact ⟨.void, by rw [List.isEmpty_iff.mp hrest]; rfl, rfl⟩
      · cases h
    · split at h
      · rename_i hread
        cases h
        obtain ⟨f, hf, ht⟩ := eq_text_of_readType hread
        exact ⟨.type f, by rw [hf, List.append_nil]; rfl, ht⟩
      · cases h
      · cases h
  · rintro ⟨r, rfl, rfl⟩
    cases r with
    | void => rfl
    | type f =>
        obtain ⟨c, cs, hf, -, hc⟩ := f.exists_cons
        have hread := readType_text f []
        rw [List.append_nil] at hread
        rw [ResultForm.text]
        rw [hf] at hread ⊢
        rw [readResult.eq_3 _ _ _ hc, hread]
        rfl

theorem parseMethod_eq_ok_iff {s : String} {ts : List Ty} {t : Ty} :
    parseMethod s = .ok (ts, t) ↔ ∃ m : MethodForm, m.text = s.toList ∧ m.types = (ts, t) := by
  rw [parseMethod]
  constructor
  · intro h
    split at h
    · rename_i rest hs
      split at h
      · cases h
      · rename_i parameters after hparameters
        split at h
        · rename_i result hresult
          cases h
          obtain ⟨fs, hfs, rfl⟩ := eq_text_of_readParameters hparameters
          obtain ⟨r, rfl, rfl⟩ := readResult_eq_ok_iff.mp hresult
          exact ⟨⟨fs, r⟩, by rw [hs, hfs]; rfl, rfl⟩
        · cases h
    · cases h
  · rintro ⟨⟨fs, r⟩, hm, htypes⟩
    cases htypes
    rw [← hm]
    have hresult : ∀ whole, readResult whole r.text = .ok r.ty :=
      fun _ => readResult_eq_ok_iff.mpr ⟨r, rfl, rfl⟩
    simp only [MethodForm.text, List.cons_append, readParameters_text, hresult]

/-! ## The grammar -/

/-- The readers accept exactly the descriptors of the grammar and give what they denote. A method descriptor
can be taken apart in one way only, and a descriptor whose class names are in internal form is determined
by what it denotes. -/
theorem parse_grammar :
    (∀ (s : String) (t : Ty), parseField s = .ok t ↔ ∃ f : TypeForm, f.text = s.toList ∧ f.ty = t) ∧
    (∀ (s : String) (ts : List Ty) (t : Ty),
      parseMethod s = .ok (ts, t) ↔ ∃ m : MethodForm, m.text = s.toList ∧ m.types = (ts, t)) ∧
    (∀ m m' : MethodForm, m.text = m'.text → m = m') ∧
    (∀ (s s' : String) (f f' : TypeForm), f.text = s.toList → f'.text = s'.toList →
      Internal f.names → Internal f'.names → parseField s = parseField s' → s = s') ∧
    ∀ (s s' : String) (m m' : MethodForm), m.text = s.toList → m'.text = s'.toList →
      Internal m.names → Internal m'.names → parseMethod s = parseMethod s' → s = s' := by
  refine ⟨fun s t => parseField_eq_ok_iff, fun s ts t => parseMethod_eq_ok_iff,
    fun m m' => MethodForm.text_inj, fun s s' f f' hs hs' hf hf' h => ?_,
    fun s s' m m' hs hs' hm hm' h => ?_⟩
  · have hread : parseField s = .ok f.ty := parseField_eq_ok_iff.mpr ⟨f, hs, rfl⟩
    have hread' : parseField s' = .ok f'.ty := parseField_eq_ok_iff.mpr ⟨f', hs', rfl⟩
    rw [hread, hread', Except.ok.injEq] at h
    obtain rfl : f = f' := TypeForm.ty_inj hf hf' h
    exact String.toList_injective (hs.symm.trans hs')
  · have hread : parseMethod s = .ok m.types := parseMethod_eq_ok_iff.mpr ⟨m, hs, rfl⟩
    have hread' : parseMethod s' = .ok m'.types := parseMethod_eq_ok_iff.mpr ⟨m', hs', rfl⟩
    rw [hread, hread', Except.ok.injEq] at h
    obtain rfl : m = m' := MethodForm.types_inj hm hm' h
    exact String.toList_injective (hs.symm.trans hs')

/-- A class name may contain what has a meaning elsewhere in a descriptor. -/
theorem parse_grammar_brackets :
    let n : Name := ⟨['a', ')', '[', 'V'], by decide, by decide⟩
    let m : MethodForm := ⟨[.array (.named n)], .void⟩
    parseMethod "([La)[V;)V" = .ok ([.array (.ofName "a)[V")], .void) ∧
      (∀ m', m.text = MethodForm.text m' → m = m') ∧
      "([La)[V;)V" = String.ofList m.text ∧ parseField "La)[V;" ≠ parseField "La;" := by
  intro n m
  obtain ⟨-, hmethod, hunique, hfield, hsame⟩ := parse_grammar
  have hn : Internal [n] := List.forall_mem_singleton.mpr ⟨by decide, by decide⟩
  have hread : parseMethod "([La)[V;)V" = .ok m.types := (hmethod ..).mpr ⟨m, by decide, rfl⟩
  have hread' : parseMethod (String.ofList m.text) = .ok m.types :=
    (hmethod ..).mpr ⟨m, String.toList_ofList.symm, rfl⟩
  refine ⟨hread, fun m' => hunique m m', ?_, fun h => ?_⟩
  · exact hsame _ _ m m (by decide) String.toList_ofList.symm hn hn (hread.trans hread'.symm)
  · let n' : Name := ⟨['a'], by decide, by decide⟩
    have hn' : Internal [n'] := List.forall_mem_singleton.mpr ⟨by decide, by decide⟩
    exact absurd (hfield _ _ (.named n) (.named n') (by decide) (by decide) hn hn' h) (by decide)

end Devirt.Descriptor

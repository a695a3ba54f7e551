import Devirt.ClassName

/-!
# Reading names

A dotted name is put together again from the package and the simple name that were read from it, unless
all there is in front of the simple name is one separator. So among names in internal form that do not
start with a separator, no two are read as the same class. In the other direction a class is read back
from its text just if it can be read at all.
-/

namespace Devirt

/-! ## The cut at the last separator -/

/-- A text without separators is left whole, and any other is cut at its last separator. -/
theorem splitLast?_cases (separator : Char) (cs : List Char) :
    (splitLast? separator cs = none ∧ separator ∉ cs) ∨
      ∃ before after, splitLast? separator cs = some (before, after) ∧
        cs = before ++ separator :: after ∧ separator ∉ after := by
  induction cs with
  | nil => exact .inl ⟨rfl, List.not_mem_nil⟩
  | cons c cs ih =>
      obtain ⟨hnone, hcs⟩ | ⟨before, after, hcut, rfl, hafter⟩ := ih
      · by_cases hc : c = separator
        · exact .inr ⟨[], cs, by rw [splitLast?, hnone, if_pos hc], by rw [hc]; rfl, hcs⟩
        · refine .inl ⟨by rw [splitLast?, hnone, if_neg hc], ?_⟩
          exact List.not_mem_cons_of_ne_of_not_mem (Ne.symm hc) hcs
      · exact .inr ⟨c :: before, after, by rw [splitLast?, hcut], rfl, hafter⟩

theorem splitLast?_eq_none_iff {separator : Char} {cs : List Char} :
    splitLast? separator cs = none ↔ separator ∉ cs := by
  obtain ⟨hnone, hcs⟩ | ⟨before, after, hcut, rfl, -⟩ := splitLast?_cases separator cs
  · exact iff_of_true hnone hcs
  · simp [hcut]

theorem splitLast?_append {separator : Char} {after : List Char} (before : List Char)
    (h : separator ∉ after) :
    splitLast? separator (before ++ separator :: after) = some (before, after) := by
  induction before with
  | nil => rw [List.nil_append, splitLast?, splitLast?_eq_none_iff.mpr h, if_pos rfl]
  | cons c before ih => rw [List.cons_append, splitLast?, ih]

theorem splitLast?_eq_some_iff {separator : Char} {cs before after : List Char} :
    splitLast? separator cs = some (before, after) ↔
      cs = before ++ separator :: after ∧ separator ∉ after := by
  constructor
  · intro h
    obtain ⟨hnone, -⟩ | ⟨before', after', hcut, hcs⟩ := splitLast?_cases separator cs
    · cases hnone.symm.trans h
    · cases hcut.symm.trans h
      exact hcs
  · rintro ⟨rfl, h⟩
    exact splitLast?_append before h

namespace ClassName

/-! ## Internal names -/

/-- The text of a class is the dotted name that it was read from. -/
theorem toList_text_ofDotted {cs : List Char} (h : ∀ simple, splitLast? '.' cs ≠ some ([], simple)) :
    (ofDotted cs).text.toList = cs := by
  rw [ofDotted]
  split
  · rename_i package simple hsplit
    cases package with
    | nil => exact absurd hsplit (h simple)
    | cons c package =>
        rw [text, if_neg (by simp)]
        simp [splitLast?_eq_some_iff.mp hsplit]
  · simp [text]

/-- A name in internal form that does not start with a separator. -/
def Internal (cs : List Char) : Prop := '.' ∉ cs ∧ cs.head? ≠ some '/'

theorem dotted_inj {c d : Char} (hc : c ≠ '.') (hd : d ≠ '.') (h : dotted c = dotted d) : c = d := by
  unfold dotted at h
  split at h
  · rename_i hslash
    split at h
    · rename_i hslash'
      rw [hslash, hslash']
    · exact absurd h.symm hd
  · split at h
    · exact absurd h hc
    · exact h

theorem map_dotted_inj {cs ds : List Char} (hcs : '.' ∉ cs) (hds : '.' ∉ ds)
    (h : cs.map dotted = ds.map dotted) : cs = ds := by
  induction cs generalizing ds with
  | nil => exact (List.map_eq_nil_iff.mp h.symm).symm
  | cons c cs ih =>
      obtain ⟨d, ds, rfl, hd, hrest⟩ := List.map_eq_cons_iff.mp h.symm
      simp only [List.mem_cons, not_or] at hcs hds
      rw [dotted_inj (Ne.symm hds.1) (Ne.symm hcs.1) hd, ih hcs.2 hds.2 hrest.symm]

/-- The text of a class is its internal name with dots. -/
theorem Internal.toList_text {cs : List Char} (h : Internal cs) :
    (parse (String.ofList cs)).text.toList = cs.map dotted := by
  rw [parse, String.toList_ofList]
  refine toList_text_ofDotted fun simple hsplit => ?_
  obtain ⟨c, rest, rfl, hc, -⟩ := List.map_eq_cons_iff.mp (splitLast?_eq_some_iff.mp hsplit).1
  obtain ⟨hdot, hslash⟩ := h
  have hc' : c ≠ '/' := fun heq => hslash (congrArg some heq)
  rw [dotted, if_neg hc'] at hc
  exact hdot (hc ▸ List.mem_cons_self)

theorem Internal.parse_inj {cs ds : List Char} (hcs : Internal cs) (hds : Internal ds)
    (h : parse (String.ofList cs) = parse (String.ofList ds)) : cs = ds := by
  refine map_dotted_inj hcs.1 hds.1 ?_
  rw [← hcs.toList_text, h, hds.toList_text]

/-! ## Names that have been read -/

/-- A class as it is read from some name: the separators are dots, and none of them is left in the
simple name. -/
structure Canonical (c : ClassName) : Prop where
  slash_not_mem_package : '/' ∉ c.package.toList
  slash_not_mem_simple : '/' ∉ c.simple.toList
  dot_not_mem_simple : '.' ∉ c.simple.toList

def isSeparator (c : Char) : Bool := c = '.' || c = '/'

/-- How a name is spelled once it has been read: with dots for its separators, and without a separator
in front of it that is its only one. -/
def spelling : List Char → List Char
  | [] => []
  | c :: cs => if isSeparator c ∧ ¬ cs.any isSeparator then cs else (c :: cs).map dotted

theorem dotted_eq_dot_iff {c : Char} : dotted c = '.' ↔ isSeparator c = true := by
  unfold dotted isSeparator
  split <;> simp_all

theorem slash_not_mem_dotted (cs : List Char) : '/' ∉ cs.map dotted := by
  intro h
  obtain ⟨c, -, hc⟩ := List.mem_map.mp h
  unfold dotted at hc
  split at hc
  · exact absurd hc (by decide)
  · contradiction

theorem map_dotted_of_slash_not_mem {cs : List Char} (h : '/' ∉ cs) : cs.map dotted = cs := by
  calc cs.map dotted
    _ = cs.map id := List.map_congr_left fun c hc => if_neg fun heq : c = '/' => h (heq ▸ hc)
    _ = cs := List.map_id cs

theorem dot_mem_dotted_iff {cs : List Char} : '.' ∈ cs.map dotted ↔ cs.any isSeparator = true := by
  simp [List.mem_map, dotted_eq_dot_iff]

theorem ofDotted_of_dot_not_mem {cs : List Char} (h : '.' ∉ cs) :
    ofDotted cs = ⟨"", String.ofList cs⟩ := by
  rw [ofDotted, splitLast?_eq_none_iff.mpr h]

theorem ofDotted_append {after : List Char} (before : List Char) (h : '.' ∉ after) :
    ofDotted (before ++ '.' :: after) = ⟨String.ofList before, String.ofList after⟩ := by
  rw [ofDotted, splitLast?_append before h]

theorem canonical_parse (q : String) : (parse q).Canonical := by
  have hslash := slash_not_mem_dotted q.toList
  rw [parse]
  cases hcut : splitLast? '.' (q.toList.map dotted) with
  | none =>
      have hdot := splitLast?_eq_none_iff.mp hcut
      rw [ofDotted_of_dot_not_mem hdot]
      constructor <;> simp [hslash, hdot]
  | some cut =>
      obtain ⟨before, after⟩ := cut
      obtain ⟨hcs, hdot⟩ := splitLast?_eq_some_iff.mp hcut
      rw [hcs] at hslash ⊢
      simp only [List.mem_append, List.mem_cons, not_or] at hslash
      rw [ofDotted_append before hdot]
      constructor <;> simp [hslash, hdot]

/-- A class is read back from its text if its parts are separated as reading separates them. -/
theorem Canonical.parse_text {c : ClassName} (h : c.Canonical) : parse c.text = c := by
  obtain ⟨package, simple⟩ := c
  obtain ⟨hpackage, hsimple, hdot⟩ := h
  rw [text, parse]
  split
  · rename_i hempty
    subst hempty
    rw [map_dotted_of_slash_not_mem hsimple, ofDotted_of_dot_not_mem hdot, String.ofList_toList]
  · have htext : (package ++ "." ++ simple).toList = package.toList ++ '.' :: simple.toList := by simp
    have hslash : '/' ∉ package.toList ++ '.' :: simple.toList := by simp_all
    rw [htext, map_dotted_of_slash_not_mem hslash, ofDotted_append _ hdot, String.ofList_toList,
      String.ofList_toList]

theorem Canonical.text_inj {c d : ClassName} (hc : c.Canonical) (hd : d.Canonical)
    (h : c.text = d.text) : c = d := by
  rw [← hc.parse_text, h, hd.parse_text]

theorem toList_text_parse (q : String) : (parse q).text.toList = spelling q.toList := by
  rw [parse]
  cases q.toList with
  | nil => rfl
  | cons c cs =>
      rw [spelling]
      split
      · rename_i hlone
        obtain ⟨hc, hcs⟩ := hlone
        have hdot : '.' ∉ cs.map dotted := mt dot_mem_dotted_iff.mp hcs
        have hslash : '/' ∉ cs := fun h => hcs (List.any_eq_true.mpr ⟨'/', h, rfl⟩)
        rw [List.map_cons, dotted_eq_dot_iff.mpr hc, ← List.nil_append ('.' :: _), ofDotted_append [] hdot,
          map_dotted_of_slash_not_mem hslash]
        simp [text]
      · rename_i hlone
        refine toList_text_ofDotted fun simple hsplit => hlone ?_
        obtain ⟨hcut, hdot⟩ := splitLast?_eq_some_iff.mp hsplit
        obtain ⟨hc, rfl⟩ := List.cons.inj hcut
        exact ⟨dotted_eq_dot_iff.mp hc, mt dot_mem_dotted_iff.mpr hdot⟩

/-- What has been read is in canonical form, and classes in canonical form are exactly what can be read.
Writing such a class and reading it again gives the same class. A name is written as it was read, with
dots for its separators, but without a separator in front of it that is its only one. -/
theorem parse_text_inverse :
    (∀ q, (parse q).Canonical ∧ parse (parse q).text = parse q) ∧
    (∀ c : ClassName, c.Canonical → parse c.text = c) ∧
    (∀ c : ClassName, c.Canonical ↔ ∃ q, parse q = c) ∧
    (∀ c d : ClassName, c.Canonical → d.Canonical → c.text = d.text → c = d) ∧
    ∀ q, (parse q).text.toList = spelling q.toList := by
  refine ⟨fun q => ⟨canonical_parse q, (canonical_parse q).parse_text⟩, fun c hc => hc.parse_text,
    fun c => ⟨fun hc => ⟨c.text, hc.parse_text⟩, ?_⟩, fun c d hc hd => hc.text_inj hd,
    toList_text_parse⟩
  rintro ⟨q, rfl⟩
  exact canonical_parse q

/-- A package may end with a separator and a simple name may be empty, but a dot in a simple name is
taken for a separator when the class is read again. -/
theorem parse_text_inverse_edges :
    let c : ClassName := ⟨"a.", ""⟩
    let d : ClassName := ⟨"a", ""⟩
    let e : ClassName := ⟨"", "a."⟩
    parse c.text = c ∧ c.text ≠ d.text ∧ d.text = e.text ∧ ¬ e.Canonical := by
  intro c d e
  obtain ⟨-, hback, hread, hinj, -⟩ := parse_text_inverse
  have hc : c.Canonical := by constructor <;> decide
  have hd : d.Canonical := by constructor <;> decide
  refine ⟨hback c hc, fun h => ?_, by decide, fun he => ?_⟩
  · exact absurd (hinj c d hc hd h) (by decide)
  · exact absurd (hinj d e hd he (by decide)) (by decide)

end ClassName

end Devirt

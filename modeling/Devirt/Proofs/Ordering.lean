import Devirt.Ascending
import Devirt.Signature

/-!
# Orders that tell everything apart

Only equal names, types and signatures compare as equal. An ascending list therefore keeps one of each
element that it is made from.
-/

namespace Devirt

open Std

/-! ## Ascending lists -/

section

variable {α : Type} [Ord α] [LawfulEqOrd α] {a : α} {l : List α}

theorem mem_dropRepeats : a ∈ dropRepeats l ↔ a ∈ l := by
  refine ⟨mem_of_mem_dropRepeats, fun h => ?_⟩
  fun_induction dropRepeats l with
  | case1 => exact h
  | case2 => exact h
  | case3 b c rest hbc ih =>
      obtain rfl : b = c := LawfulEqOrd.eq_of_compare hbc
      rcases List.mem_cons.mp h with rfl | h
      · exact ih List.mem_cons_self
      · exact ih h
  | case4 b c rest _ ih =>
      rcases List.mem_cons.mp h with rfl | h
      · exact List.mem_cons_self
      · exact List.mem_cons_of_mem _ (ih h)

theorem mem_ascending : a ∈ ascending l ↔ a ∈ l := by
  rw [ascending, mem_dropRepeats, List.mem_mergeSort]

omit [LawfulEqOrd α] in
theorem pairwise_mergeSort_compare [TransOrd α] (l : List α) :
    (l.mergeSort fun a b => (compare a b).isLE).Pairwise fun a b => (compare a b).isLE := by
  refine List.pairwise_mergeSort (fun a b c => TransCmp.isLE_trans) (fun a b => ?_) l
  cases hab : (compare a b).isLE with
  | true => rfl
  | false =>
      have hba : compare b a = .lt := OrientedCmp.lt_of_not_isLE (by simp [hab])
      simp [hba]

theorem pairwise_dropRepeats [TransOrd α] (h : l.Pairwise fun a b => (compare a b).isLE) :
    (dropRepeats l).Pairwise fun a b => compare a b = .lt := by
  fun_induction dropRepeats l with
  | case1 => exact .nil
  | case2 a => exact List.pairwise_singleton _ a
  | case3 a b rest hab ih =>
      obtain rfl : a = b := LawfulEqOrd.eq_of_compare hab
      exact ih (List.pairwise_cons.mp h).2
  | case4 a b rest hab ih =>
      obtain ⟨hle, hrest⟩ := List.pairwise_cons.mp h
      have hlt : compare a b = .lt := by
        cases h' : compare a b with
        | lt => rfl
        | eq => exact absurd h' hab
        | gt => simpa [h'] using hle b List.mem_cons_self
      refine List.pairwise_cons.mpr ⟨fun c hc => ?_, ih hrest⟩
      rcases List.mem_cons.mp (mem_of_mem_dropRepeats hc) with rfl | hc
      · exact hlt
      · exact TransCmp.lt_of_lt_of_isLE hlt ((List.pairwise_cons.mp hrest).1 c hc)

/-- An ascending list ascends strictly. -/
theorem pairwise_ascending [TransOrd α] (l : List α) :
    (ascending l).Pairwise fun a b => compare a b = .lt :=
  pairwise_dropRepeats (pairwise_mergeSort_compare l)

theorem ne_of_compare_eq_lt {b : α} (h : compare a b = .lt) : a ≠ b := by
  rintro rfl
  simp at h

theorem nodup_ascending [TransOrd α] (l : List α) : (ascending l).Nodup :=
  (pairwise_ascending l).imp ne_of_compare_eq_lt

/-- Only one list ascends strictly and holds the elements of a list. -/
theorem eq_ascending [TransOrd α] {k : List α} (hk : k.Pairwise fun a b => compare a b = .lt)
    (h : ∀ a, a ∈ k ↔ a ∈ l) : k = ascending l := by
  have hperm : k.Perm (ascending l) :=
    (List.perm_ext_iff_of_nodup (hk.imp ne_of_compare_eq_lt) (nodup_ascending l)).mpr fun a => by
      rw [h, mem_ascending]
  refine List.Perm.eq_of_pairwise (fun a b _ _ hab hba => ?_) hk (pairwise_ascending l) hperm
  rw [OrientedCmp.gt_of_lt hab] at hba
  cases hba

/-- An ascending list shows nothing of its origin but the elements: neither their order nor how often
they came. -/
theorem ascending_congr [TransOrd α] {l' : List α} (h : ∀ a, a ∈ l' ↔ a ∈ l) :
    ascending l' = ascending l :=
  eq_ascending (pairwise_ascending l') fun a => by rw [mem_ascending, h]

theorem ascending_of_perm [TransOrd α] {l' : List α} (h : l'.Perm l) :
    ascending l' = ascending l :=
  ascending_congr fun _ => h.mem_iff

end

/-! ## Names and types -/

instance : TransOrd ClassName := inferInstanceAs (TransCmp (compareLex _ _))

instance : ReflOrd ClassName := inferInstanceAs (ReflCmp (compareLex _ _))

instance : LawfulEqOrd ClassName where
  eq_of_compare {a b} h := by
    obtain ⟨hpackage, hsimple⟩ := compareLex_eq_eq.mp h
    cases a
    cases b
    obtain rfl := LawfulEqOrd.eq_of_compare hpackage
    obtain rfl := LawfulEqOrd.eq_of_compare hsimple
    rfl

theorem ClassName.compare_eq_lt_iff {a b : ClassName} :
    compare a b = .lt ↔ a.package < b.package ∨ a.package = b.package ∧ a.simple < b.simple := by
  have hlt : ∀ s t : String, compare s t = .lt ↔ s < t := fun _ _ => compareOfLessAndEq_eq_lt
  show (compare a.package b.package).then (compare a.simple b.simple) = .lt ↔ _
  rw [Ordering.then_eq_lt, hlt, hlt, Std.compare_eq_iff_eq]

theorem Primitive.eq_of_rank {p q : Primitive} (h : p.rank = q.rank) : p = q := by
  cases p <;> cases q <;> first | rfl | cases h

instance : ReflOrd Primitive := inferInstanceAs (ReflCmp (compareOn _))

instance : LawfulEqOrd Primitive where
  eq_of_compare h := Primitive.eq_of_rank (LawfulEqOrd.eq_of_compare h)

theorem Ty.order_self (t : Ty) : t.order t = .eq := by
  induction t with
  | primitive p => exact ReflOrd.compare_self
  | named c => exact ReflOrd.compare_self
  | array t ih => exact ih
  | void => rfl
  | null => rfl
  | unknown => rfl

theorem Ty.eq_of_order {s t : Ty} (h : s.order t = .eq) : s = t := by
  fun_induction order s t with
  | case1 p q => rw [LawfulEqOrd.eq_of_compare h]
  | case2 c d => rw [LawfulEqOrd.eq_of_compare h]
  | case3 s t ih => rw [ih h]
  | case4 s t hprimitive hnamed harray =>
      -- Types of one rank have one form, and the forms that hold something were compared before.
      have hrank : s.rank = t.rank := LawfulEqOrd.eq_of_compare h
      cases s <;> cases t <;> first | rfl | cases hrank
      · exact (hprimitive _ _ rfl rfl).elim
      · exact (hnamed _ _ rfl rfl).elim
      · exact (harray _ _ rfl rfl).elim

instance : ReflOrd Ty := ⟨fun {t} => t.order_self⟩

instance : LawfulEqOrd Ty where
  eq_of_compare h := Ty.eq_of_order h

/-! ## Signatures -/

instance : ReflOrd SubSignature := inferInstanceAs (ReflCmp (compareLex _ (compareLex _ _)))

instance : LawfulEqOrd SubSignature where
  eq_of_compare {a b} h := by
    obtain ⟨hname, h⟩ := compareLex_eq_eq.mp h
    obtain ⟨hparameters, hresult⟩ := compareLex_eq_eq.mp h
    cases a
    cases b
    obtain rfl := LawfulEqOrd.eq_of_compare hname
    obtain rfl := LawfulEqOrd.eq_of_compare hparameters
    obtain rfl := LawfulEqOrd.eq_of_compare hresult
    rfl

instance : ReflOrd MethodSignature := inferInstanceAs (ReflCmp (compareLex _ _))

instance : LawfulEqOrd MethodSignature where
  eq_of_compare {a b} h := by
    obtain ⟨howner, hsub⟩ := compareLex_eq_eq.mp h
    cases a
    cases b
    obtain rfl := LawfulEqOrd.eq_of_compare howner
    obtain rfl := LawfulEqOrd.eq_of_compare hsub
    rfl

instance : ReflOrd FieldSignature := inferInstanceAs (ReflCmp (compareLex _ (compareLex _ _)))

instance : LawfulEqOrd FieldSignature where
  eq_of_compare {a b} h := by
    obtain ⟨howner, h⟩ := compareLex_eq_eq.mp h
    obtain ⟨hname, hty⟩ := compareLex_eq_eq.mp h
    cases a
    cases b
    obtain rfl := LawfulEqOrd.eq_of_compare howner
    obtain rfl := LawfulEqOrd.eq_of_compare hname
    obtain rfl := LawfulEqOrd.eq_of_compare hty
    rfl

end Devirt

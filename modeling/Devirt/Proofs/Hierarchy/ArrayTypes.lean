import Devirt.Proofs.Hierarchy.Rounds
import Devirt.Proofs.Hierarchy.TypeOrder
import Mathlib.Logic.Function.Iterate

/-!
# Arrays of any depth

The subtype test takes arrays apart one dimension at a time. Between arrays of equal depth the innermost
types decide. A deeper array is below a shallower one only if that holds what all arrays are, and a
shallower one is below a deeper one only if it holds null. None of this depends on how classes are
compared, or on whether that comparison ends.
-/

namespace Devirt

open Relation Devirt.Graph

namespace Ty

variable {s t : Ty} {m n : Nat}

theorem isReference_iterate_array :
    (array^[m] t).isReference = true ↔ 1 ≤ m ∨ t.isReference = true := by
  cases m with
  | zero => simp
  | succ m => simp [Function.iterate_succ_apply', isReference]

theorem iterate_array_inj (hs : s.element? = none) (ht : t.element? = none) :
    array^[m] s = array^[n] t ↔ m = n ∧ s = t := by
  induction m generalizing n with
  | zero =>
      cases n with
      | zero => simp
      | succ n =>
          rw [Function.iterate_succ_apply']
          simp only [Function.iterate_zero, id]
          refine iff_of_false (fun h => ?_) (by simp)
          simp [h, element?] at hs
  | succ m ih =>
      rw [Function.iterate_succ_apply']
      cases n with
      | zero =>
          refine iff_of_false (fun h => ?_) (by simp)
          simp only [Function.iterate_zero, id] at h
          simp [← h, element?] at ht
      | succ n =>
          rw [Function.iterate_succ_apply', array.injEq, ih, Nat.succ.injEq]

end Ty

namespace Hierarchy

/-! ## The test over any comparison of classes -/

/-- The subtype test with a comparison of classes that is free, and that need not end. -/
def isSubtypeOver (subclass : ClassName → ClassName → Part Bool) (sub sup : Ty) : Part Bool :=
  if sub = sup then .some true
  else
    match sub, sup with
    | .null, sup => .some sup.isReference
    | .named sub, .named sup => subclass sub sup
    | .array _, .named sup => .some (isArraySuperclass sup)
    | .array sub, .array sup =>
      if sub.isReference && sup.isReference then isSubtypeOver subclass sub sup else .some false
    | _, _ => .some false

variable {h : Hierarchy} {subclass : ClassName → ClassName → Part Bool} {s t : Ty} {m n : Nat}

theorem isSubtypeOver_self (t : Ty) : isSubtypeOver subclass t t = .some true := by
  unfold isSubtypeOver
  exact if_pos rfl

/-- With the loop of a hierarchy that compares classes, the test is the one of the hierarchy. -/
theorem isSubtypeOver_isSubclassLoop (h : Hierarchy) (s t : Ty) :
    isSubtypeOver h.isSubclassLoop s t = .some (h.isSubtype s t) := by
  fun_induction isSubtypeOver h.isSubclassLoop s t with
  | case1 t => rw [isSubtype_refl]
  | case2 t hne => simp [isSubtype, hne]
  | case3 a b hne => simp [isSubtype, hne, isSubclassLoop_eq]
  | case4 s c hne => simp [isSubtype]
  | case5 s t href hne ih =>
      have hst : s ≠ t := fun heq => hne (congrArg Ty.array heq)
      simp [isSubtype, hst, href, ih]
  | case6 s t href hne =>
      have hst : s ≠ t := fun heq => hne (congrArg Ty.array heq)
      simp [isSubtype, hst, href]
  | case7 s t hne hnull hnamed hclass harray =>
      cases s <;> cases t <;> simp_all [isSubtype]

/-! ## One dimension -/

theorem true_mem_isSubtypeOver_array :
    true ∈ isSubtypeOver subclass (.array s) (.array t) ↔
      s = t ∨ (s.isReference = true ∧ t.isReference = true) ∧ true ∈ isSubtypeOver subclass s t := by
  rw [isSubtypeOver]
  by_cases hst : s = t
  · subst hst
    simp
  · rw [← Bool.and_eq_true]
    by_cases href : (s.isReference && t.isReference) = true
    · simp [hst, href]
    · simp [hst, href]

/-- Above an array there are only arrays and the classes of all arrays. -/
theorem true_mem_isSubtypeOver_of_not_array (ht : t.element? = none) :
    true ∈ isSubtypeOver subclass (.array s) t ↔ ∃ c, t = .named c ∧ isArraySuperclass c = true := by
  cases t with
  | array t => simp [Ty.element?] at ht
  | named c =>
      rw [isSubtypeOver, if_neg (by simp), Part.mem_some_iff, @eq_comm Bool]
      simp
  | primitive p => simp [isSubtypeOver]
  | void => simp [isSubtypeOver]
  | null => simp [isSubtypeOver]
  | unknown => simp [isSubtypeOver]

/-- Below an array there are only arrays and the null type. -/
theorem true_mem_isSubtypeOver_array_of_not_array (hs : s.element? = none) :
    true ∈ isSubtypeOver subclass s (.array t) ↔ s = .null := by
  cases s with
  | array s => simp [Ty.element?] at hs
  | null => simp [isSubtypeOver, Ty.isReference]
  | named c => simp [isSubtypeOver]
  | primitive p => simp [isSubtypeOver]
  | void => simp [isSubtypeOver]
  | unknown => simp [isSubtypeOver]

/-! ## Any number of dimensions -/

/-- What puts `s` with `m` array dimensions below `t` with `n` dimensions, where neither of the two is
an array itself. -/
def ArraysRelated (below : Prop) (s t : Ty) (m n : Nat) : Prop :=
  (m = n ∧ (s = t ∨ below ∧ (1 ≤ m → s.isReference = true ∧ t.isReference = true))) ∨
  (n < m ∧ ∃ c, t = .named c ∧
    (c = .object ∨ c.text = "java.lang.Cloneable" ∨ c.text = "java.io.Serializable")) ∨
  (m < n ∧ s = .null)

theorem isArraySuperclass_iff {c : ClassName} :
    isArraySuperclass c = true ↔
      c = .object ∨ c.text = "java.lang.Cloneable" ∨ c.text = "java.io.Serializable" := by
  simp [isArraySuperclass, ClassName.isObject, arrayInterfaces]

/-- The test passes to one dimension less where both sides are arrays of references. -/
theorem arraysRelated_succ {below : Prop} :
    ArraysRelated below s t (m + 1) (n + 1) ↔
      m = n ∧ s = t ∨
        ((1 ≤ m ∨ s.isReference = true) ∧ (1 ≤ n ∨ t.isReference = true)) ∧
          ArraysRelated below s t m n := by
  have hnull : s = .null → s.isReference = true := by
    rintro rfl
    rfl
  have hnamed : ∀ c, t = .named c → t.isReference = true := by
    rintro c rfl
    rfl
  unfold ArraysRelated
  rcases Nat.lt_trichotomy m n with hlt | rfl | hlt
  · have hn : 1 ≤ n := by omega
    grind
  · grind
  · have hm : 1 ≤ m := by omega
    grind

theorem true_mem_isSubtypeOver_iterate_array (hs : s.element? = none) (ht : t.element? = none) :
    true ∈ isSubtypeOver subclass (Ty.array^[m] s) (Ty.array^[n] t) ↔
      ArraysRelated (true ∈ isSubtypeOver subclass s t) s t m n := by
  induction m generalizing n with
  | zero =>
      cases n with
      | zero =>
          have hself : s = t → true ∈ isSubtypeOver subclass s t := by
            rintro rfl
            rw [isSubtypeOver_self]
            exact Part.mem_some true
          simpa [ArraysRelated] using hself
      | succ n =>
          rw [Function.iterate_succ_apply', Function.iterate_zero, id,
            true_mem_isSubtypeOver_array_of_not_array hs]
          simp [ArraysRelated]
  | succ m ih =>
      cases n with
      | zero =>
          rw [Function.iterate_succ_apply', Function.iterate_zero, id,
            true_mem_isSubtypeOver_of_not_array ht]
          simp [ArraysRelated, isArraySuperclass_iff]
      | succ n =>
          rw [Function.iterate_succ_apply', Function.iterate_succ_apply', true_mem_isSubtypeOver_array,
            Ty.iterate_array_inj hs ht, Ty.isReference_iterate_array, Ty.isReference_iterate_array, ih,
            arraysRelated_succ]

theorem true_mem_isSubtypeOver_isSubclassLoop :
    true ∈ isSubtypeOver h.isSubclassLoop s t ↔ h.isSubtype s t = true := by
  rw [isSubtypeOver_isSubclassLoop, Part.mem_some_iff, eq_comm]

end Hierarchy

/-- Between arrays of equal depth over two types that are no arrays, the two types decide: they are
equal, or one is a subtype of the other and both are references. A deeper array is below a shallower one
if that holds what all arrays are, and a shallower one is below a deeper one if it holds null. This is
so in every hierarchy, and however classes are compared. -/
theorem isSubtype_arrays (s t : Ty) (hs : s.element? = none) (ht : t.element? = none) (m n : Nat) :
    (∀ h : Hierarchy, h.isSubtype (Ty.array^[m] s) (Ty.array^[n] t) = true ↔
      Hierarchy.ArraysRelated (h.isSubtype s t = true) s t m n) ∧
    ∀ subclass, true ∈ Hierarchy.isSubtypeOver subclass (Ty.array^[m] s) (Ty.array^[n] t) ↔
      Hierarchy.ArraysRelated (true ∈ Hierarchy.isSubtypeOver subclass s t) s t m n := by
  refine ⟨fun h => ?_, fun subclass => Hierarchy.true_mem_isSubtypeOver_iterate_array hs ht⟩
  rw [← Hierarchy.true_mem_isSubtypeOver_isSubclassLoop,
    Hierarchy.true_mem_isSubtypeOver_iterate_array hs ht,
    Hierarchy.true_mem_isSubtypeOver_isSubclassLoop]

/-- Two-dimensional arrays of shapes are arrays of what can be cloned, null is an array of numbers, and
an array of short numbers is no array of long ones. -/
theorem isSubtype_arrays_shapes :
    let h := Arrays.whole.hierarchy
    h.isSubtype (.array (.array (.named Arrays.shape))) (.array (.named Arrays.cloneable)) = true ∧
    h.isSubtype .null (.array (.primitive .int)) = true ∧
    ¬ h.isSubtype (.array (.primitive .short)) (.array (.primitive .long)) = true := by
  intro h
  have hclass := (isSubtype_arrays (.named Arrays.shape) (.named Arrays.cloneable) rfl rfl 2 1).1 h
  have hnull := (isSubtype_arrays .null (.primitive .int) rfl rfl 0 1).1 h
  have hnumber := (isSubtype_arrays (.primitive .short) (.primitive .long) rfl rfl 1 1).1 h
  refine ⟨hclass.mpr (Or.inr (Or.inl ⟨by decide, _, rfl, by decide⟩)),
    hnull.mpr (Or.inr (Or.inr ⟨by decide, rfl⟩)), fun hsub => ?_⟩
  rcases hnumber.mp hsub with ⟨_, heq | ⟨_, hreferences⟩⟩ | ⟨hlt, _⟩ | ⟨hlt, _⟩
  · cases heq
  · simp [Ty.isReference] at hreferences
  · omega
  · omega

end Devirt

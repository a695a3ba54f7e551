import Devirt.Proofs.Ordering
import Devirt.Proofs.Text.ByteOrder
import Mathlib.Data.List.Destutter

/-!
# Canonical lists

Names, types and signatures are in a linear order: texts by their bytes, records field by field, and types
by their forms first. So their sets have one list each, whatever order the elements came in and whichever
way they were sorted.
-/

namespace Devirt

open Std

/-! ## What comes before what -/

/-- The package decides, then the simple name. -/
def ClassName.Before (c d : ClassName) : Prop :=
  Prod.Lex Text.Before Text.Before (c.package, c.simple) (d.package, d.simple)

/-- The form that is declared first comes first. Within a form, what a type holds decides. -/
inductive Ty.Before : Ty → Ty → Prop
  | form {s t : Ty} (h : s.ctorIdx < t.ctorIdx) : Before s t
  | primitive {p q : Primitive} (h : p.ctorIdx < q.ctorIdx) : Before (.primitive p) (.primitive q)
  | named {c d : ClassName} (h : c.Before d) : Before (.named c) (.named d)
  | array {s t : Ty} (h : Before s t) : Before (.array s) (.array t)

/-- The name decides, then the parameters one by one, a proper prefix of them first, then the result. -/
def SubSignature.Before (m n : SubSignature) : Prop :=
  Prod.Lex Text.Before (Prod.Lex (List.Lex Ty.Before) Ty.Before)
    (m.name, m.parameters, m.result) (n.name, n.parameters, n.result)

/-- The declaring class decides, then the rest of the signature. -/
def MethodSignature.Before (m n : MethodSignature) : Prop :=
  Prod.Lex ClassName.Before SubSignature.Before (m.owner, m.sub) (n.owner, n.sub)

/-- The declaring class decides, then the name, then the type. -/
def FieldSignature.Before (f g : FieldSignature) : Prop :=
  Prod.Lex ClassName.Before (Prod.Lex Text.Before Ty.Before)
    (f.owner, f.name, f.ty) (g.owner, g.name, g.ty)

/-! ## Comparisons that go by a relation -/

section

variable {α β γ : Type}

/-- A comparison goes by the relation that holds exactly where it answers that the left side is less. -/
def GoesBy (cmp : α → α → Ordering) (r : α → α → Prop) : Prop := ∀ a b, cmp a b = .lt ↔ r a b

theorem GoesBy.isLE_iff {cmp : α → α → Ordering} [LawfulEqCmp cmp] {r : α → α → Prop}
    (h : GoesBy cmp r) {a b : α} : (cmp a b).isLE ↔ r a b ∨ a = b := by
  rw [Ordering.isLE_iff_eq_lt_or_eq_eq, h, LawfulEqCmp.compare_eq_iff_eq]

/-- A record goes by its first part, and by the rest where the first parts are equal. -/
theorem GoesBy.record [Ord β] [LawfulEqOrd β] {first : α → β} {rest : α → γ} {cmp : α → α → Ordering}
    {r : β → β → Prop} {s : γ → γ → Prop} (hfirst : GoesBy compare r)
    (hrest : GoesBy cmp (InvImage s rest)) :
    GoesBy (compareLex (compareOn first) cmp) (InvImage (Prod.Lex r s) fun a => (first a, rest a)) := by
  intro a b
  rw [compareLex, Ordering.then_eq_lt, compareOn, hfirst, hrest, LawfulEqOrd.compare_eq_iff_eq, InvImage,
    InvImage, Prod.lex_def]

theorem GoesBy.list [Ord α] [LawfulEqOrd α] {r : α → α → Prop} (h : GoesBy compare r) :
    GoesBy (compare : List α → List α → Ordering) (List.Lex r) := by
  intro l k
  induction l generalizing k with
  | nil => cases k <;> simp
  | cons a l ih =>
      cases k with
      | nil => simp
      | cons b k =>
          rw [List.compare_cons_cons, Ordering.then_eq_lt, h, ih, LawfulEqOrd.compare_eq_iff_eq,
            List.cons_lex_cons_iff]

end

theorem Text.goesBy : GoesBy compare Text.Before :=
  fun _ _ => compareOfLessAndEq_eq_lt.trans Text.lt_iff_before

theorem ClassName.goesBy : GoesBy compare ClassName.Before :=
  Text.goesBy.record fun _ _ => Text.goesBy _ _

/-! ## Types -/

theorem Primitive.rank_eq_ctorIdx (p : Primitive) : p.rank = p.ctorIdx := by cases p <;> rfl

theorem Primitive.goesBy : GoesBy compare fun p q : Primitive => p.ctorIdx < q.ctorIdx := by
  intro p q
  change compare p.rank q.rank = .lt ↔ p.ctorIdx < q.ctorIdx
  rw [rank_eq_ctorIdx, rank_eq_ctorIdx]
  exact Nat.compare_eq_lt

instance : TransOrd Primitive := inferInstanceAs (TransCmp (compareOn _))

namespace Ty

variable {r s t : Ty}

theorem rank_eq_ctorIdx (t : Ty) : t.rank = t.ctorIdx := by cases t <;> rfl

theorem order_of_rank_lt (h : s.rank < t.rank) : s.order t = .lt := by
  fun_cases order s t with
  | case1 => exact absurd h (Nat.lt_irrefl _)
  | case2 => exact absurd h (Nat.lt_irrefl _)
  | case3 => exact absurd h (Nat.lt_irrefl _)
  | case4 => exact Nat.compare_eq_lt.mpr h

theorem goesBy : GoesBy compare Before := by
  intro s t
  change s.order t = .lt ↔ s.Before t
  refine ⟨fun h => ?_, fun h => ?_⟩
  · fun_induction order s t with
    | case1 p q => exact .primitive ((Primitive.goesBy p q).mp h)
    | case2 c d => exact .named ((ClassName.goesBy c d).mp h)
    | case3 s t ih => exact .array (ih h)
    | case4 s t =>
        refine .form ?_
        rw [← rank_eq_ctorIdx, ← rank_eq_ctorIdx]
        exact Nat.compare_eq_lt.mp h
  · induction h with
    | form h => exact order_of_rank_lt (by rwa [rank_eq_ctorIdx, rank_eq_ctorIdx])
    | primitive h => exact (Primitive.goesBy _ _).mpr h
    | named h => exact (ClassName.goesBy _ _).mpr h
    | array _ ih => exact ih

theorem order_swap (s t : Ty) : s.order t = (t.order s).swap := by
  induction s generalizing t with
  | primitive p =>
      cases t with
      | primitive q => exact OrientedOrd.eq_swap
      | _ => rfl
  | named c =>
      cases t with
      | named d => exact OrientedOrd.eq_swap
      | _ => rfl
  | array s ih =>
      cases t with
      | array t => exact ih t
      | _ => rfl
  | void => cases t <;> rfl
  | null => cases t <;> rfl
  | unknown => cases t <;> rfl

theorem Before.ctorIdx_le (h : s.Before t) : s.ctorIdx ≤ t.ctorIdx := by
  cases h with
  | form h => exact h.le
  | primitive _ => exact le_rfl
  | named _ => exact le_rfl
  | array _ => exact le_rfl

theorem Before.trans (hrs : r.Before s) (hst : s.Before t) : r.Before t := by
  -- The last type has the form of the other two, or a later one that decides alone.
  induction hrs generalizing t with
  | form h => exact .form (h.trans_le hst.ctorIdx_le)
  | primitive h =>
      cases hst with
      | form h' => exact .form h'
      | primitive h' => exact .primitive (h.trans h')
  | named h =>
      cases hst with
      | form h' => exact .form h'
      | named h' =>
          have hlt := TransCmp.lt_trans ((ClassName.goesBy _ _).mpr h) ((ClassName.goesBy _ _).mpr h')
          exact .named ((ClassName.goesBy _ _).mp hlt)
  | array _ ih =>
      cases hst with
      | form h' => exact .form h'
      | array h' => exact .array (ih h')

end Ty

instance : TransOrd Ty where
  eq_swap {s t} := s.order_swap t
  isLE_trans {r s t} hrs hst := by
    rw [Ty.goesBy.isLE_iff] at hrs hst ⊢
    rcases hrs with hrs | rfl
    · rcases hst with hst | rfl
      · exact .inl (hrs.trans hst)
      · exact .inl hrs
    · exact hst

/-! ## Signatures -/

theorem SubSignature.goesBy : GoesBy compare SubSignature.Before :=
  Text.goesBy.record (Ty.goesBy.list.record fun _ _ => Ty.goesBy _ _)

instance : TransOrd SubSignature := inferInstanceAs (TransCmp (compareLex _ (compareLex _ _)))

theorem MethodSignature.goesBy : GoesBy compare MethodSignature.Before :=
  ClassName.goesBy.record fun _ _ => SubSignature.goesBy _ _

instance : TransOrd MethodSignature := inferInstanceAs (TransCmp (compareLex _ _))

theorem FieldSignature.goesBy : GoesBy compare FieldSignature.Before :=
  ClassName.goesBy.record (Text.goesBy.record fun _ _ => Ty.goesBy _ _)

instance : TransOrd FieldSignature := inferInstanceAs (TransCmp (compareLex _ (compareLex _ _)))

/-! ## One list for every collection -/

section

variable {α : Type} [Ord α]

theorem dropRepeats_eq_destutter [LawfulEqOrd α] [DecidableEq α] (l : List α) :
    dropRepeats l = l.destutter (· ≠ ·) := by
  fun_induction dropRepeats l with
  | case1 => rfl
  | case2 a => rfl
  | case3 a b rest hab ih =>
      obtain rfl : a = b := LawfulEqOrd.eq_of_compare hab
      rw [ih, List.destutter_cons', List.destutter_cons', List.destutter'_cons_neg _ (not_not.mpr rfl)]
  | case4 a b rest hab ih =>
      have hne : a ≠ b := fun h => hab (LawfulEqOrd.compare_eq_iff_eq.mpr h)
      rw [ih, List.destutter_cons', List.destutter_cons', List.destutter'_cons_pos _ hne]

theorem dropRepeats_of_sorted [TransOrd α] [LawfulEqOrd α] {l k : List α} (h : k.Perm l)
    (hk : k.Pairwise fun a b => (compare a b).isLE) : dropRepeats k = ascending l :=
  eq_ascending (pairwise_dropRepeats hk) fun _ => mem_dropRepeats.trans h.mem_iff

/-- A comparison is a linear order, in which nothing but equal values is equal. Sorting by it and dropping
the repetitions makes the one ascending list with the same elements. It is the same list for every order
that they come in, and also if they are sorted in another way and equal neighbours are dropped. -/
structure CanonicalOrder [DecidableEq α] (before : α → α → Prop) : Prop where
  lt_iff : ∀ a b : α, compare a b = .lt ↔ before a b
  eq_iff : ∀ a b : α, compare a b = .eq ↔ a = b
  gt_iff : ∀ a b : α, compare a b = .gt ↔ before b a
  total : ∀ a b : α, (compare a b).isLE ∨ (compare b a).isLE
  antisymm : ∀ a b : α, (compare a b).isLE → (compare b a).isLE → a = b
  trans : ∀ a b c : α, (compare a b).isLE → (compare b c).isLE → (compare a c).isLE
  eq_ascending_iff : ∀ l k : List α, k = ascending l ↔ k.Pairwise before ∧ ∀ a, a ∈ k ↔ a ∈ l
  ascending_eq_of_perm : ∀ l k : List α, l.Perm k → ascending l = ascending k
  destutter_sorted : ∀ l k : List α, k.Perm l → k.Pairwise (fun a b => (compare a b).isLE) →
    k.destutter (· ≠ ·) = ascending l

theorem GoesBy.canonicalOrder [TransOrd α] [LawfulEqOrd α] [DecidableEq α] {before : α → α → Prop}
    (h : GoesBy compare before) : CanonicalOrder before where
  lt_iff := h
  eq_iff _ _ := LawfulEqOrd.compare_eq_iff_eq
  gt_iff a b := OrientedCmp.gt_iff_lt.trans (h b a)
  total a b := by
    rw [OrientedOrd.eq_swap (a := b)]
    cases compare a b <;> simp
  antisymm _ _ hab hba := LawfulEqOrd.eq_of_compare (OrientedCmp.isLE_antisymm hab hba)
  trans _ _ _ := TransCmp.isLE_trans
  eq_ascending_iff l k := by
    refine ⟨?_, fun ⟨hk, hmem⟩ => eq_ascending (hk.imp (h _ _).mpr) hmem⟩
    rintro rfl
    exact ⟨(pairwise_ascending l).imp (h _ _).mp, fun _ => mem_ascending⟩
  ascending_eq_of_perm _ _ := ascending_of_perm
  destutter_sorted l k hperm hk := by
    rw [← dropRepeats_eq_destutter]
    exact dropRepeats_of_sorted hperm hk

end

/-- Names, types of any nesting and signatures are in a linear order that tells all of them apart, and
every set of them has one canonical list. -/
theorem canonicalOrder_names_types_signatures :
    CanonicalOrder ClassName.Before ∧ CanonicalOrder Ty.Before ∧ CanonicalOrder SubSignature.Before ∧
    CanonicalOrder MethodSignature.Before ∧ CanonicalOrder FieldSignature.Before :=
  ⟨ClassName.goesBy.canonicalOrder, Ty.goesBy.canonicalOrder, SubSignature.goesBy.canonicalOrder,
    MethodSignature.goesBy.canonicalOrder, FieldSignature.goesBy.canonicalOrder⟩

/-- Arrays stand between classes and the types without values, and are in the order of their elements. -/
example :
    ascending [.void, .array (.array (.primitive .int)), .array (.named .object), .named .object,
      .array (.primitive .long), .primitive .long, .void, .array (.primitive .byte)] =
    [.primitive .long, .named .object, .array (.primitive .byte), .array (.primitive .long),
      .array (.named .object), .array (.array (.primitive .int)), Ty.void] := by
  cbv

end Devirt

import Devirt.Proofs.Hierarchy.Subtyping

/-!
# The chain of superclasses

The chain goes up from class to class and never meets one twice. It depends on nothing but the
superclass edges and on which classes are declared. In a universe nothing ends it but a superclass that
is not declared.
-/

namespace Devirt.Hierarchy

open Devirt.Graph

variable {h h' : Hierarchy} {a b : ClassName} {fresh fresh' : List ClassName}

theorem mem_fresh_of_mem_chain (hb : b ∈ h.chain fresh a) : b ∈ fresh := by
  fun_induction chain h fresh a with
  | case1 => simp at hb
  | case2 fresh a p hp hfresh _ _ ih =>
      rcases List.mem_cons.mp hb with rfl | hb
      · exact hfresh
      · exact without_subset (ih hb)
  | case3 => simp at hb
  | case4 => simp at hb

theorem nodup_chain : (h.chain fresh a).Nodup := by
  fun_induction chain h fresh a with
  | case1 => exact List.nodup_nil
  | case2 fresh a p hp hfresh _ _ ih =>
      refine List.nodup_cons.mpr ⟨fun hmem => ?_, ih⟩
      exact (mem_without.mp (mem_fresh_of_mem_chain hmem)).2 rfl
  | case3 => exact List.nodup_nil
  | case4 => exact List.nodup_nil

theorem nodup_superclasses (h : Hierarchy) (a : ClassName) : (a :: h.superclasses a).Nodup := by
  refine List.nodup_cons.mpr ⟨fun hmem => ?_, nodup_chain⟩
  exact (mem_without.mp (mem_fresh_of_mem_chain hmem)).2 rfl

/-! ## What the chain depends on -/

/-- The chain depends only on the classes that it can come to: on their superclasses, on which of them
are declared, and on which of their superclasses are fresh. -/
theorem chain_congr {s : Set ClassName} (ha : a ∈ s)
    (hsuper : ∀ b ∈ s, h'.superclass? b = h.superclass? b)
    (hcontains : ∀ b ∈ s, h'.contains b = h.contains b)
    (hclosed : ∀ b ∈ s, ∀ p, h.superclass? b = some p → p ∈ s)
    (hfresh : ∀ b ∈ s, ∀ p, h.superclass? b = some p → (p ∈ fresh' ↔ p ∈ fresh)) :
    h'.chain fresh' a = h.chain fresh a := by
  fun_induction chain h fresh a generalizing fresh' with
  | case1 fresh a hnone =>
      rw [chain, hsuper a ha, hnone]
  | case2 fresh a p hp hmem _ hdeclared ih =>
      have hmem' : p ∈ fresh' := (hfresh a ha p hp).mpr hmem
      have hps : p ∈ s := hclosed a ha p hp
      have hrest : ∀ b ∈ s, ∀ q, h.superclass? b = some q →
          (q ∈ without p fresh' ↔ q ∈ without p fresh) := by
        intro b hb q hq
        rw [mem_without, mem_without, hfresh b hb q hq]
      rw [chain, hsuper a ha, hp]
      simp [hmem', hcontains p hps, hdeclared, ih hps hrest]
  | case3 fresh a p hp hmem _ hmissing =>
      rw [chain, hsuper a ha, hp]
      simp [hcontains p (hclosed a ha p hp), hmissing]
  | case4 fresh a p hp hmem =>
      have hmem' : p ∉ fresh' := fun h' => hmem ((hfresh a ha p hp).mp h')
      rw [chain, hsuper a ha, hp]
      simp [hmem']

theorem superclasses_congr {s : Set ClassName} (ha : a ∈ s)
    (hsuper : ∀ b ∈ s, h'.superclass? b = h.superclass? b)
    (hcontains : ∀ b ∈ s, h'.contains b = h.contains b)
    (hclosed : ∀ b ∈ s, ∀ p, h.superclass? b = some p → p ∈ s) :
    h'.superclasses a = h.superclasses a := by
  refine chain_congr ha hsuper hcontains hclosed fun b hb p hp => ?_
  have hp' : h'.superclass? b = some p := by rwa [hsuper b hb]
  rw [mem_without, mem_without]
  exact and_congr_left fun _ => iff_of_true (h'.superclass_mem b p hp') (h.superclass_mem b p hp)

end Devirt.Hierarchy

/-! ## Chains of a universe -/

namespace Devirt.Universe

open Devirt.Graph

variable {u : Universe} {a p : ClassName} {d : ClassDeclaration}

theorem superclass?_of_class? (hd : u.view.class? a = some d) :
    u.hierarchy.superclass? a = d.superclass? := by
  show (u.view.class? a).bind _ = _
  rw [hd]
  rfl

theorem contains_of_class? (hd : u.view.class? a = some d) : u.hierarchy.contains a = true := by
  show (u.view.class? a).isSome = true
  rw [hd]
  rfl

/-- Above a class there is its superclass, and then what is above that. -/
theorem superclasses_eq_cons (hp : u.hierarchy.superclass? a = some p)
    (hdeclared : u.hierarchy.contains p = true) :
    u.hierarchy.superclasses a = p :: u.hierarchy.superclasses p := by
  have hap : u.hierarchy.Below a p := .single (Hierarchy.mem_supertypes_of_superclass? hp)
  have hpa : p ∈ without a u.hierarchy.types := by
    refine mem_without.mpr ⟨u.hierarchy.superclass_mem a p hp, ?_⟩
    rintro rfl
    exact u.not_below_self p hap
  rw [Hierarchy.superclasses, Hierarchy.chain, hp]
  simp only [dif_pos hpa, if_pos hdeclared]
  refine congrArg (p :: ·) ?_
  -- The walk from the superclass does not come back to the class, so it can as well be fresh.
  refine Hierarchy.chain_congr (s := {b | u.hierarchy.Below a b}) hap (fun _ _ => rfl) (fun _ _ => rfl)
    (fun b hb q hq => ?_) fun b hb q hq => ?_
  · exact hb.tail (Hierarchy.mem_supertypes_of_superclass? hq)
  · have hqa : q ≠ a := by
      rintro rfl
      exact u.not_below_self q (hb.tail (Hierarchy.mem_supertypes_of_superclass? hq))
    simp [mem_without, hqa]

theorem superclasses_eq_cons_iff {rest : List ClassName} :
    u.hierarchy.superclasses a = p :: rest ↔
      u.hierarchy.superclass? a = some p ∧ u.hierarchy.contains p = true ∧
        rest = u.hierarchy.superclasses p := by
  constructor
  · intro h
    have hhead : u.hierarchy.superclass? a = some p ∧ u.hierarchy.contains p = true := by
      rw [Hierarchy.superclasses, Hierarchy.chain] at h
      split at h
      · cases h
      · rename_i q hq
        split at h
        · split at h
          · rename_i hdeclared
            cases h
            exact ⟨hq, hdeclared⟩
          · cases h
        · cases h
    rw [superclasses_eq_cons hhead.1 hhead.2] at h
    exact ⟨hhead.1, hhead.2, (List.cons.inj h).2.symm⟩
  · rintro ⟨hp, hdeclared, rfl⟩
    exact superclasses_eq_cons hp hdeclared

end Devirt.Universe

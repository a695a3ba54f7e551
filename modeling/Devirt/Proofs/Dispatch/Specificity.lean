import Devirt.Dispatch.Concrete
import Devirt.Proofs.Hierarchy.Subtyping
import Mathlib.Data.Fintype.Card
import Mathlib.Data.Set.Finite.Basic

/-!
# Maximally specific declarations

A declaration is more specific than another one if its class is a strict subtype. In an ordered
hierarchy this is a strict order, so below every candidate there is one that nothing is more specific
than. A single such candidate is therefore more specific than all others.
-/

namespace Devirt.Hierarchy

variable {h : Hierarchy} {a b c : MethodDeclaration} {candidates : List MethodDeclaration}

def MoreSpecific (h : Hierarchy) (a b : MethodDeclaration) : Prop :=
  a.owner ≠ b.owner ∧ h.isSubclass a.owner b.owner

/-- The members of a set that no other member is more specific than. -/
def maximallySpecific (h : Hierarchy) (s : Set MethodDeclaration) : Set MethodDeclaration :=
  {a ∈ s | ∀ b ∈ s, ¬ h.MoreSpecific b a}

theorem mem_mostSpecific :
    a ∈ h.mostSpecific candidates ↔ a ∈ candidates ∧ ∀ b ∈ candidates, ¬ h.MoreSpecific b a := by
  simp [mostSpecific, MoreSpecific]

theorem mem_of_mem_mostSpecific (ha : a ∈ h.mostSpecific candidates) : a ∈ candidates :=
  (mem_mostSpecific.mp ha).1

theorem mem_of_mostSpecific_eq_singleton (hb : h.mostSpecific candidates = [b]) : b ∈ candidates :=
  mem_of_mem_mostSpecific (hb ▸ List.mem_singleton_self b)

theorem nodup_mostSpecific (hnodup : candidates.Nodup) : (h.mostSpecific candidates).Nodup :=
  hnodup.filter _

theorem not_moreSpecific_self : ¬ h.MoreSpecific a a := fun ha => ha.1 rfl

theorem Ordered.moreSpecific_of_isSubclass (ho : h.Ordered) (hab : h.isSubclass a.owner b.owner)
    (hbc : h.MoreSpecific b c) : h.MoreSpecific a c := by
  refine ⟨fun hac => hbc.1 ?_, ho.isSubclass_trans hab hbc.2⟩
  rw [hac] at hab
  exact ho.isSubclass_antisymm hbc.2 hab

theorem Ordered.moreSpecific_trans (ho : h.Ordered) (hab : h.MoreSpecific a b)
    (hbc : h.MoreSpecific b c) : h.MoreSpecific a c :=
  ho.moreSpecific_of_isSubclass hab.2 hbc

theorem Ordered.not_moreSpecific_of_isSubclass (ho : h.Ordered)
    (hab : h.isSubclass a.owner b.owner) : ¬ h.MoreSpecific b a := fun hba =>
  not_moreSpecific_self (ho.moreSpecific_of_isSubclass hab hba)

/-! ## Coverage -/

theorem Ordered.moreSpecific_wf (ho : h.Ordered) (candidates : List MethodDeclaration) :
    WellFounded fun a b : {a // a ∈ candidates} => h.MoreSpecific a b := by
  have : Finite {a // a ∈ candidates} := (List.finite_toSet candidates).to_subtype
  have : IsTrans {a // a ∈ candidates} fun a b => h.MoreSpecific a b :=
    ⟨fun _ _ _ => ho.moreSpecific_trans⟩
  have : Std.Irrefl fun a b : {a // a ∈ candidates} => h.MoreSpecific a b :=
    ⟨fun _ => not_moreSpecific_self⟩
  exact Finite.wellFounded_of_trans_of_irrefl _

/-- Every candidate has a maximally specific one at its class or below it. -/
theorem Ordered.exists_mostSpecific (ho : h.Ordered) (ha : a ∈ candidates) :
    ∃ b ∈ h.mostSpecific candidates, h.isSubclass b.owner a.owner := by
  refine (ho.moreSpecific_wf candidates).induction
    (C := fun a => ∃ b ∈ h.mostSpecific candidates, h.isSubclass b.owner a.val.owner) ⟨a, ha⟩ ?_
  rintro ⟨a, ha⟩ ih
  by_cases hmin : ∀ b ∈ candidates, ¬ h.MoreSpecific b a
  · exact ⟨a, mem_mostSpecific.mpr ⟨ha, hmin⟩, isSubclass_refl⟩
  · obtain ⟨b, hb, hba⟩ : ∃ b ∈ candidates, h.MoreSpecific b a := by simpa using hmin
    obtain ⟨c, hc, hcb⟩ := ih ⟨b, hb⟩ hba
    exact ⟨c, hc, ho.isSubclass_trans hcb hba.2⟩

theorem Ordered.mostSpecific_ne_nil (ho : h.Ordered) (hne : candidates ≠ []) :
    h.mostSpecific candidates ≠ [] := by
  obtain ⟨a, ha⟩ := List.exists_mem_of_ne_nil _ hne
  obtain ⟨b, hb, _⟩ := ho.exists_mostSpecific ha
  exact List.ne_nil_of_mem hb

/-! ## A least candidate -/

/-- A single maximally specific candidate lies below all others. -/
theorem Ordered.least_of_mostSpecific (ho : h.Ordered) (hb : h.mostSpecific candidates = [b])
    (ha : a ∈ candidates) : h.isSubclass b.owner a.owner := by
  obtain ⟨c, hc, hca⟩ := ho.exists_mostSpecific ha
  rw [hb, List.mem_singleton] at hc
  exact hc ▸ hca

/-- The declarations are told apart by their classes. -/
def ByOwner (s : Set MethodDeclaration) : Prop := ∀ a ∈ s, ∀ b ∈ s, a.owner = b.owner → a = b

theorem Ordered.mostSpecific_eq_singleton (ho : h.Ordered) (hnodup : candidates.Nodup)
    (howner : ByOwner {a | a ∈ candidates}) (hb : b ∈ candidates)
    (hleast : ∀ a ∈ candidates, h.isSubclass b.owner a.owner) : h.mostSpecific candidates = [b] := by
  refine (List.perm_ext_iff_of_nodup (nodup_mostSpecific hnodup) (by simp)).mpr ?_
    |>.eq_singleton
  intro a
  rw [mem_mostSpecific, List.mem_singleton]
  constructor
  · rintro ⟨ha, hmin⟩
    by_contra hne
    exact hmin b hb ⟨fun heq => hne (howner a ha b hb heq.symm), hleast a ha⟩
  · rintro rfl
    exact ⟨hb, fun c hc => ho.not_moreSpecific_of_isSubclass (hleast c hc)⟩

/-! ## Candidates that stand for a larger set -/

/-- Candidates out of a set that reach below each of its members have the same maximally specific
members as the set. -/
theorem Ordered.mem_mostSpecific_of_cover (ho : h.Ordered) {s : Set MethodDeclaration}
    (howner : ByOwner s) (hsub : ∀ b ∈ candidates, b ∈ s)
    (hcover : ∀ c ∈ s, ∃ b ∈ candidates, h.isSubclass b.owner c.owner) :
    a ∈ h.mostSpecific candidates ↔ a ∈ h.maximallySpecific s := by
  rw [mem_mostSpecific]
  constructor
  · rintro ⟨ha, hmin⟩
    refine ⟨hsub a ha, fun c hc hca => ?_⟩
    obtain ⟨b, hb, hbc⟩ := hcover c hc
    exact hmin b hb (ho.moreSpecific_of_isSubclass hbc hca)
  · rintro ⟨ha, hmin⟩
    obtain ⟨b, hb, hba⟩ := hcover a ha
    have heq : b = a := by
      by_contra hne
      exact hmin b (hsub b hb) ⟨fun h => hne (howner b (hsub b hb) a ha h), hba⟩
    exact ⟨heq ▸ hb, fun c hc => hmin c (hsub c hc)⟩

end Devirt.Hierarchy

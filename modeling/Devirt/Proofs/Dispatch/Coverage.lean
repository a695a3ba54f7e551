import Devirt.Proofs.Dispatch.Outcome
import Mathlib.Data.List.Pairwise

/-!
# What the most specific declarations cover

In an ordered hierarchy, declarations on distinct classes have the most specific ones among them below
each of them. No two of these are related. No other selection reaches below everything without holding
related declarations, so the order of the candidates decides about nothing but the order of the result.
-/

namespace Devirt

open Diamond

namespace Hierarchy

variable {h : Hierarchy} {a b c : MethodDeclaration} {candidates selected : List MethodDeclaration}

/-- Neither of the two classes is a subclass of the other one. -/
def Unrelated (h : Hierarchy) (a b : MethodDeclaration) : Prop :=
  ¬ h.isSubclass a.owner b.owner ∧ ¬ h.isSubclass b.owner a.owner

instance : Std.Symm h.Unrelated := ⟨fun _ _ => And.symm⟩

/-- Some of the candidates, in their order. No two of them are related, and the class of every
candidate is the class of one of them or a superclass of it. -/
structure Covers (h : Hierarchy) (selected candidates : List MethodDeclaration) : Prop where
  sublist : selected.Sublist candidates
  unrelated : selected.Pairwise h.Unrelated
  exists_below : ∀ a ∈ candidates, ∃ b ∈ selected, h.isSubclass b.owner a.owner

theorem byOwner_of_nodup (hdistinct : (candidates.map (·.owner)).Nodup) :
    ByOwner {a | a ∈ candidates} := fun _ ha _ hb howner =>
  List.inj_on_of_nodup_map hdistinct ha hb howner

theorem unrelated_of_mem_mostSpecific (hdistinct : (candidates.map (·.owner)).Nodup)
    (ha : a ∈ h.mostSpecific candidates) (hb : b ∈ h.mostSpecific candidates) (hne : a ≠ b) :
    h.Unrelated a b := by
  obtain ⟨hac, hamin⟩ := mem_mostSpecific.mp ha
  obtain ⟨hbc, hbmin⟩ := mem_mostSpecific.mp hb
  have howner : a.owner ≠ b.owner := fun heq => hne (byOwner_of_nodup hdistinct a hac b hbc heq)
  exact ⟨fun hab => hbmin a hac ⟨howner, hab⟩, fun hba => hamin b hbc ⟨howner.symm, hba⟩⟩

theorem Ordered.covers_mostSpecific (ho : h.Ordered)
    (hdistinct : (candidates.map (·.owner)).Nodup) :
    h.Covers (h.mostSpecific candidates) candidates where
  sublist := List.filter_sublist
  unrelated :=
    (nodup_mostSpecific (.of_map _ hdistinct)).imp_of_mem (unrelated_of_mem_mostSpecific hdistinct)
  exists_below _ ha := ho.exists_mostSpecific ha

namespace Covers

variable (hcovers : h.Covers selected candidates)
include hcovers

theorem eq_nil_iff : selected = [] ↔ candidates = [] := by
  constructor
  · rintro rfl
    refine List.eq_nil_iff_forall_not_mem.mpr fun a ha => ?_
    obtain ⟨b, hb, _⟩ := hcovers.exists_below a ha
    cases hb
  · rintro rfl
    exact List.sublist_nil.mp hcovers.sublist

theorem mem_iff_mem_mostSpecific (ho : h.Ordered) (hdistinct : (candidates.map (·.owner)).Nodup) :
    a ∈ selected ↔ a ∈ h.mostSpecific candidates := by
  constructor
  · intro ha
    refine mem_mostSpecific.mpr ⟨hcovers.sublist.subset ha, fun b hb hba => ?_⟩
    -- what is selected below `b` would be related to `a`
    obtain ⟨c, hc, hcb⟩ := hcovers.exists_below b hb
    have hca := ho.moreSpecific_of_isSubclass hcb hba
    have hne : c ≠ a := fun heq => hca.1 (by rw [heq])
    exact (hcovers.unrelated.forall hc ha hne).1 hca.2
  · intro ha
    obtain ⟨hac, hmin⟩ := mem_mostSpecific.mp ha
    obtain ⟨b, hb, hba⟩ := hcovers.exists_below a hac
    have hbc := hcovers.sublist.subset hb
    have howner : b.owner = a.owner := by
      by_contra hne
      exact hmin b hbc ⟨hne, hba⟩
    exact byOwner_of_nodup hdistinct b hbc a hac howner ▸ hb

theorem eq_mostSpecific (ho : h.Ordered) (hdistinct : (candidates.map (·.owner)).Nodup) :
    selected = h.mostSpecific candidates := by
  have hnodup : candidates.Nodup := .of_map _ hdistinct
  refine (hnodup.perm_iff_eq_of_sublist hcovers.sublist List.filter_sublist).mp ?_
  exact (List.perm_ext_iff_of_nodup (hnodup.sublist hcovers.sublist)
    (nodup_mostSpecific hnodup)).mpr fun _ => hcovers.mem_iff_mem_mostSpecific ho hdistinct

end Covers

theorem Ordered.mostSpecific_eq_singleton_iff (ho : h.Ordered)
    (hdistinct : (candidates.map (·.owner)).Nodup) :
    h.mostSpecific candidates = [b] ↔
      b ∈ candidates ∧ ∀ a ∈ candidates, h.isSubclass b.owner a.owner := by
  constructor
  · intro hb
    exact ⟨mem_of_mostSpecific_eq_singleton hb, fun a ha => ho.least_of_mostSpecific hb ha⟩
  · rintro ⟨hb, hleast⟩
    exact ho.mostSpecific_eq_singleton (.of_map _ hdistinct) (byOwner_of_nodup hdistinct) hb hleast

theorem mostSpecific_of_perm {candidates' : List MethodDeclaration}
    (hperm : candidates'.Perm candidates) :
    (h.mostSpecific candidates').Perm (h.mostSpecific candidates) := by
  simp only [mostSpecific, hperm.any_eq]
  exact hperm.filter _

end Hierarchy

/-- Of declarations on distinct classes the most specific ones are, in the order of the candidates, a
selection without related classes that reaches below every candidate, and the only such selection. It
is empty only if there is no candidate, and it is one declaration alone exactly if the class of this one
is a subclass of all others. The candidates may come in any order. -/
theorem mostSpecific_covers (u : Universe) (hroot : u.Rooted) (candidates : List MethodDeclaration)
    (hdistinct : (candidates.map (·.owner)).Nodup) :
    let h := u.hierarchy
    let best := h.mostSpecific candidates
    h.Covers best candidates ∧
    (∀ selected, h.Covers selected candidates → selected = best) ∧
    (best = [] ↔ candidates = []) ∧
    (∀ b, best = [b] ↔ b ∈ candidates ∧ ∀ a ∈ candidates, h.isSubclass b.owner a.owner) ∧
    ∀ candidates', candidates'.Perm candidates → (h.mostSpecific candidates').Perm best := by
  intro h best
  have ho : h.Ordered := hroot.ordered
  have hcovers : h.Covers best candidates := ho.covers_mostSpecific hdistinct
  exact ⟨hcovers, fun _ hselected => hselected.eq_mostSpecific ho hdistinct, hcovers.eq_nil_iff,
    fun _ => ho.mostSpecific_eq_singleton_iff hdistinct, fun _ => Hierarchy.mostSpecific_of_perm⟩

/-- `Left` and `Right` stand below `Top` and are unrelated, so they are selected, and neither of them
alone. -/
theorem mostSpecific_covers_diamond :
    let h := whole.hierarchy
    let candidates := [method (name "Right") 0x0401, method (name "Top") 0x0401,
      method (name "Left") 0x0001]
    let best := [method (name "Right") 0x0401, method (name "Left") 0x0001]
    (candidates.map (·.owner)).Nodup ∧ h.mostSpecific candidates = best ∧
      h.Covers best candidates ∧
      ¬ ∃ b ∈ candidates, ∀ a ∈ candidates, h.isSubclass b.owner a.owner := by
  intro h candidates best
  have hdistinct : (candidates.map (·.owner)).Nodup := by decide
  have hbest : h.mostSpecific candidates = best := by cbv
  obtain ⟨hcovers, -, -, hsingle, -⟩ := mostSpecific_covers whole rooted candidates hdistinct
  refine ⟨hdistinct, hbest, hbest ▸ hcovers, ?_⟩
  rintro ⟨b, hb⟩
  have halone : best = [b] := hbest.symm.trans ((hsingle b).mpr hb)
  simpa [best] using congrArg List.length halone

end Devirt

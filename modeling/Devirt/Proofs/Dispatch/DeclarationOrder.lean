import Devirt.Dispatch.Special
import Devirt.Proofs.Dispatch.SharedClasses
import Devirt.Proofs.Hierarchy.DeclarationOrder

/-!
# Calls and the order of declarations

The resolvers look classes up by name and walk along the edges. Two views that resolve all classes alike
over hierarchies with the same edges therefore answer every query alike, and permuted declarations give
two such views.
-/

namespace Devirt

open Diamond

namespace View

variable {v v' : View}

/-- Two views give the same answer to every query about classes and types, and to every call. Lists are
the same element by element. -/
structure SameAnswers (v v' : View) : Prop where
  class? : ∀ c, v'.class? c = v.class? c
  directSubtypes : ∀ c, v'.hierarchy.directSubtypes c = v.hierarchy.directSubtypes c
  subtypes : ∀ c, v'.hierarchy.subtypes c = v.hierarchy.subtypes c
  superclasses : ∀ c, v'.hierarchy.superclasses c = v.hierarchy.superclasses c
  allInterfaces : ∀ c, v'.hierarchy.allInterfaces c = v.hierarchy.allInterfaces c
  isSubclass : ∀ a b, v'.hierarchy.isSubclass a b = v.hierarchy.isSubclass a b
  isSubtype : ∀ s t, v'.hierarchy.isSubtype s t = v.hierarchy.isSubtype s t
  canOverride : ∀ called target,
    v'.hierarchy.canOverride called target = v.hierarchy.canOverride called target
  receivers : ∀ m, v'.receivers m = v.receivers m
  overrides : ∀ m, v'.overrides m = v.overrides m
  receiversIn : ∀ m classes, v'.receiversIn m classes = v.receiversIn m classes
  partitionReceivers : ∀ m classes, v'.partitionReceivers m classes = v.partitionReceivers m classes
  concreteTarget : ∀ policy m, v'.concreteTarget policy m = v.concreteTarget policy m
  specialTarget : ∀ call container, v'.specialTarget call container = v.specialTarget call container

section

variable (hlike : v.hierarchy.Alike v'.hierarchy) (hclass : ∀ c, v'.class? c = v.class? c)
include hclass

theorem method?_congr (m : MethodSignature) : v'.method? m = v.method? m := by
  rw [method?, method?, hclass]

theorem requireClass_congr (c : ClassName) : v'.requireClass c = v.requireClass c := by
  rw [requireClass, requireClass, hclass]

include hlike

theorem subtypeMethods_congr (m : MethodSignature) : v'.subtypeMethods m = v.subtypeMethods m := by
  simp only [subtypeMethods, hlike.subtypes, requireClass_congr hclass]

theorem receivers_congr (m : MethodSignature) : v'.receivers m = v.receivers m := by
  rw [receivers, receivers, subtypeMethods_congr hlike hclass]

theorem overrides_congr (m : MethodSignature) : v'.overrides m = v.overrides m := by
  rw [overrides, overrides, subtypeMethods_congr hlike hclass]

theorem partitionReceivers_congr (m : MethodSignature) (classes : List ClassName) :
    v'.partitionReceivers m classes = v.partitionReceivers m classes := by
  rw [partitionReceivers, partitionReceivers, receivers_congr hlike hclass]

theorem specialTarget_congr
    (htarget : ∀ m, v'.concreteTarget .discoveryOrder m = v.concreteTarget .discoveryOrder m)
    (call : Call) (container : MethodSignature) :
    v'.specialTarget call container = v.specialTarget call container := by
  simp only [specialTarget, method?_congr hclass, hlike.isSubclass, htarget]

theorem sameAnswers_of_alike
    (htarget : ∀ policy m, v'.concreteTarget policy m = v.concreteTarget policy m) :
    v.SameAnswers v' where
  class? := hclass
  directSubtypes c := by rw [hlike.directSubtypes]
  subtypes := hlike.subtypes
  superclasses := hlike.superclasses
  allInterfaces := hlike.allInterfaces
  isSubclass := hlike.isSubclass
  isSubtype := hlike.isSubtype
  canOverride := hlike.canOverride
  receivers := receivers_congr hlike hclass
  overrides := overrides_congr hlike hclass
  receiversIn m classes := by
    rw [receiversIn, receiversIn, partitionReceivers_congr hlike hclass]
  partitionReceivers := partitionReceivers_congr hlike hclass
  concreteTarget := htarget
  specialTarget := specialTarget_congr hlike hclass (htarget .discoveryOrder)

end

end View

theorem Universe.sameAnswers_of_perm {u u' : Universe} (h : u'.classes.Perm u.classes) :
    u.view.SameAnswers u'.view := by
  have hlike : u.view.hierarchy.Alike u'.view.hierarchy := alike_of_perm h
  have hshares : u.Shares u' Set.univ := shares_of_perm h
  exact View.sameAnswers_of_alike hlike (fun c => hshares.class? c trivial)
    fun policy _ => hshares.concreteTarget trivial policy

/-- Permuted declarations are refused for the same kind of reason, or they freeze to universes that
answer every query alike. Which class is reported may differ. -/
theorem ofClasses_order_irrelevant (ds es : List ClassDeclaration) (h : es.Perm ds) :
    (∃ c c', Universe.ofClasses ds = .error (.duplicateClass c) ∧
      Universe.ofClasses es = .error (.duplicateClass c')) ∨
    (∃ c c', Universe.ofClasses ds = .error (.inheritanceCycle c) ∧
      Universe.ofClasses es = .error (.inheritanceCycle c')) ∨
    ∃ u u', Universe.ofClasses ds = .ok u ∧ Universe.ofClasses es = .ok u' ∧
      u.view.SameAnswers u'.view := by
  cases Universe.freezesAlike_of_perm h with
  | repeated c c' hds hes => exact Or.inl ⟨c, c', hds, hes⟩
  | cyclic c c' hds hes => exact Or.inr (Or.inl ⟨c, c', hds, hes⟩)
  | frozen u u' hds hes hperm =>
      exact Or.inr (Or.inr ⟨u, u', hds, hes, Universe.sameAnswers_of_perm hperm⟩)

/-- Two classes that extend each other: the search reports the one from which it starts. -/
example :
    let left := declare (name "Left") 0x0001 (name "Right") [] none
    let right := declare (name "Right") 0x0001 (name "Left") [] none
    inheritanceCycle? [left, right] = some (name "Left") ∧
      inheritanceCycle? [right, left] = some (name "Right") := by
  cbv

/-- With its declarations reversed, the diamond lists the subtypes of `Right` in the same order, and
`Derived` still runs `Left`. -/
theorem ofClasses_order_irrelevant_diamond :
    Diamond.classes.reverse.Perm Diamond.classes ∧
    ∃ u', Universe.ofClasses Diamond.classes.reverse = .ok u' ∧
      u'.hierarchy.subtypes (name "Right") = [name "Base", name "Derived"] ∧
      u'.view.concreteTarget .strict ⟨name "Derived", run⟩ = .ok (some ⟨name "Left", run⟩) := by
  have hperm : Diamond.classes.reverse.Perm Diamond.classes := List.reverse_perm _
  have hfrozen : ∃ u, Universe.ofClasses Diamond.classes = .ok u ∧ u.classes = Diamond.classes :=
    Universe.exists_ofClasses_of_acyclic whole.nodup whole.acyclic
  obtain ⟨⟨_, nodup, acyclic⟩, hwhole, rfl⟩ := hfrozen
  have hsubtypes : whole.hierarchy.subtypes (name "Right") = [name "Base", name "Derived"] := by
    cbv
  have htarget : whole.view.concreteTarget .strict ⟨name "Derived", run⟩ =
      .ok (some ⟨name "Left", run⟩) := by cbv
  rcases ofClasses_order_irrelevant Diamond.classes Diamond.classes.reverse hperm with
    ⟨_, _, hds, _⟩ | ⟨_, _, hds, _⟩ | ⟨u, u', hds, hes, hsame⟩
  · rw [hwhole] at hds
    cases hds
  · rw [hwhole] at hds
    cases hds
  · rw [hwhole] at hds
    cases hds
    exact ⟨hperm, u', hes, (hsame.subtypes _).trans hsubtypes,
      (hsame.concreteTarget _ _).trans htarget⟩

end Devirt

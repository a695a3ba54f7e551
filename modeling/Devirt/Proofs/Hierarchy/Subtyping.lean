import Devirt.Proofs.Graph.Acyclicity
import Devirt.Proofs.Hierarchy.Lookup

/-!
# Subclasses and the order between them

The walks of a hierarchy are described by paths along its edges. Where these have no cycle, and nothing
lies above the root class, the classes are partially ordered, although everything counts as a subclass
of the root class, declared or not.
-/

namespace Devirt

open Relation Devirt.Graph

namespace Hierarchy

variable {h : Hierarchy} {a b c : ClassName}

/-- A class lies below another one: a path of superclasses and interfaces leads from it to the
other. -/
def Below (h : Hierarchy) (a b : ClassName) : Prop := TransGen (Edge h.supertypes) a b

theorem mem_types_of_mem_supertypes (hb : b ∈ h.supertypes a) : b ∈ h.types := by
  rcases List.mem_append.mp hb with hb | hb
  · exact h.superclass_mem a b (Option.mem_toList.mp hb)
  · exact h.interface_mem a b hb

theorem mem_ancestors : b ∈ h.ancestors a ↔ h.Below a b := by
  have htypes : ∀ a, h.supertypes a ⊆ h.types := fun _ _ => mem_types_of_mem_supertypes
  rw [ancestors, mem_explore_of_closed (fun a _ hb => htypes a hb) (htypes a), Below,
    TransGen.head'_iff]
  rfl

theorem isSubclass_iff : h.isSubclass a b ↔ a = b ∨ b = .object ∨ h.Below a b := by
  simp [isSubclass, ClassName.isObject, mem_ancestors, or_assoc]

theorem isSubclass_refl : h.isSubclass a a := isSubclass_iff.mpr (Or.inl rfl)

theorem Below.isSubclass (hab : h.Below a b) : h.isSubclass a b :=
  isSubclass_iff.mpr (Or.inr (Or.inr hab))

/-! ## Superclasses and interfaces -/

theorem mem_supertypes_of_superclass? (hb : h.superclass? a = some b) : b ∈ h.supertypes a :=
  List.mem_append_left _ (Option.mem_toList.mpr hb)

theorem mem_supertypes_of_mem_interfaces (hb : b ∈ h.interfaces a) : b ∈ h.supertypes a :=
  List.mem_append_right _ hb

theorem below_of_mem_chain {fresh : List ClassName} (hb : b ∈ h.chain fresh a) : h.Below a b := by
  fun_induction chain h fresh a with
  | case1 => simp at hb
  | case2 fresh a p hp hfresh _ _ ih =>
      have hap : Edge h.supertypes a p := mem_supertypes_of_superclass? hp
      rcases List.mem_cons.mp hb with rfl | hb
      · exact .single hap
      · exact .head hap (ih hb)
  | case3 => simp at hb
  | case4 => simp at hb

theorem below_of_mem_superclasses (hb : b ∈ h.superclasses a) : h.Below a b :=
  below_of_mem_chain hb

/-- An interface lies above a class: the class, or one of its superclasses, names an interface that
leads to it. -/
def HasInterface (h : Hierarchy) (a i : ClassName) : Prop :=
  ∃ b ∈ a :: h.superclasses a, ∃ j ∈ h.interfaces b, ReflTransGen (Edge h.interfaces) j i

theorem flatMap_interfaces_subset (h : Hierarchy) (l : List ClassName) :
    l.flatMap h.interfaces ⊆ h.types := by
  intro i hi
  obtain ⟨c, _, hc⟩ := List.mem_flatMap.mp hi
  exact h.interface_mem c i hc

theorem mem_allInterfaces : b ∈ h.allInterfaces a ↔ h.HasInterface a b := by
  rw [allInterfaces, mem_explore_of_closed h.interface_mem (h.flatMap_interfaces_subset _)]
  simp only [HasInterface, List.mem_flatMap]
  constructor
  · rintro ⟨j, ⟨c, hc, hj⟩, hpath⟩
    exact ⟨c, hc, j, hj, hpath⟩
  · rintro ⟨c, hc, j, hj, hpath⟩
    exact ⟨j, ⟨c, hc, hj⟩, hpath⟩

theorem below_of_interface_path (hb : b ∈ h.interfaces a)
    (hpath : ReflTransGen (Edge h.interfaces) b c) : h.Below a c := by
  have hpath := ReflTransGen.mono (fun _ _ => mem_supertypes_of_mem_interfaces) _ _ hpath
  exact .head' (mem_supertypes_of_mem_interfaces hb) hpath

theorem isSubclass_of_interface_path (hpath : ReflTransGen (Edge h.interfaces) a b) :
    h.isSubclass a b := by
  rcases hpath.cases_head with rfl | ⟨c, hac, hcb⟩
  · exact isSubclass_refl
  · exact (below_of_interface_path hac hcb).isSubclass

theorem HasInterface.below (hi : h.HasInterface a b) : h.Below a b := by
  obtain ⟨c, hc, j, hj, hpath⟩ := hi
  have hcb := below_of_interface_path hj hpath
  rcases List.mem_cons.mp hc with rfl | hc
  · exact hcb
  · exact (below_of_mem_superclasses hc).trans hcb

theorem HasInterface.tail (hi : h.HasInterface a b) (hc : c ∈ h.interfaces b) :
    h.HasInterface a c := by
  obtain ⟨d, hd, j, hj, hpath⟩ := hi
  exact ⟨d, hd, j, hj, hpath.tail hc⟩

/-! ## The order -/

/-- A hierarchy without cycles and with nothing above the root class. -/
structure Ordered (h : Hierarchy) : Prop where
  acyclic : ∀ a, ¬ h.Below a a
  rooted : h.supertypes .object = []

theorem Ordered.not_below (ho : h.Ordered) : ¬ h.Below .object a := by
  intro hbelow
  obtain ⟨b, hb, _⟩ := TransGen.head'_iff.mp hbelow
  rw [Edge, ho.rooted] at hb
  simp at hb

theorem Ordered.eq_object (ho : h.Ordered) (hsub : h.isSubclass .object a) : a = .object := by
  rcases isSubclass_iff.mp hsub with h | h | h
  · exact h.symm
  · exact h
  · exact absurd h ho.not_below

theorem Ordered.isSubclass_trans (ho : h.Ordered) (hab : h.isSubclass a b)
    (hbc : h.isSubclass b c) : h.isSubclass a c := by
  rcases isSubclass_iff.mp hab with rfl | rfl | hab
  · exact hbc
  · obtain rfl := ho.eq_object hbc
    exact isSubclass_iff.mpr (Or.inr (Or.inl rfl))
  · rcases isSubclass_iff.mp hbc with rfl | rfl | hbc
    · exact hab.isSubclass
    · exact isSubclass_iff.mpr (Or.inr (Or.inl rfl))
    · exact isSubclass_iff.mpr (Or.inr (Or.inr (hab.trans hbc)))

theorem Ordered.isSubclass_antisymm (ho : h.Ordered) (hab : h.isSubclass a b)
    (hba : h.isSubclass b a) : a = b := by
  rcases isSubclass_iff.mp hab with hab | rfl | hab
  · exact hab
  · exact ho.eq_object hba
  · rcases isSubclass_iff.mp hba with hba | rfl | hba
    · exact hba.symm
    · exact absurd hab ho.not_below
    · exact absurd (hab.trans hba) (ho.acyclic a)

end Hierarchy

/-! ## Universes -/

namespace Universe

variable {u : Universe}

theorem supertypes_hierarchy (u : Universe) (a : ClassName) :
    u.hierarchy.supertypes a = ((Hierarchy.find? u.classes a).map (·.supertypes)).getD [] :=
  Hierarchy.supertypes_ofClasses u.classes a

theorem mem_supertypes {a b} :
    b ∈ u.hierarchy.supertypes a ↔ ∃ d ∈ u.classes, d.name = a ∧ b ∈ d.supertypes :=
  Hierarchy.mem_supertypes_ofClasses u.nodup

theorem mem_interfaces {a b} :
    b ∈ u.hierarchy.interfaces a ↔ ∃ d ∈ u.classes, d.name = a ∧ b ∈ d.interfaces := by
  show b ∈ ((Hierarchy.find? u.classes a).map (·.interfaces)).getD [] ↔ _
  constructor
  · intro hb
    cases hd : Hierarchy.find? u.classes a with
    | none => simp [hd] at hb
    | some d =>
        rw [hd] at hb
        exact ⟨d, List.mem_of_find?_eq_some hd, Hierarchy.name_of_find? hd, hb⟩
  · rintro ⟨d, hd, rfl, hb⟩
    rw [Hierarchy.find?_of_mem u.nodup hd]
    exact hb

/-- A class that has supertypes is declared. -/
theorem mem_names_of_mem_supertypes {a b} (hb : b ∈ u.hierarchy.supertypes a) :
    a ∈ u.classes.map (·.name) := by
  obtain ⟨d, hd, rfl, _⟩ := mem_supertypes.mp hb
  exact List.mem_map_of_mem hd

theorem mem_names_of_below {a b} (hab : u.hierarchy.Below a b) : a ∈ u.classes.map (·.name) := by
  obtain ⟨c, hac, _⟩ := TransGen.head'_iff.mp hab
  exact mem_names_of_mem_supertypes hac

/-- On the way to a declared class there are only declared classes. -/
theorem path_within_names {a b} (hab : u.hierarchy.Below a b) (hb : b ∈ u.classes.map (·.name)) :
    TransGen (EdgeWithin u.hierarchy.supertypes (u.classes.map (·.name))) a b := by
  induction hab using TransGen.head_induction_on with
  | single hab => exact .single ⟨hab, hb⟩
  | head hac hcb ih => exact .head ⟨hac, mem_names_of_below hcb⟩ ih

theorem not_below_self (u : Universe) (a : ClassName) : ¬ u.hierarchy.Below a a := by
  intro hcycle
  have ha := mem_names_of_below hcycle
  exact not_cycle_of_cycle?_eq_none u.acyclic ha (path_within_names hcycle ha)

/-- The root class, if it is declared, has neither a superclass nor interfaces. -/
def Rooted (u : Universe) : Prop := ∀ d ∈ u.classes, d.name = .object → d.supertypes = []

theorem Rooted.ordered (hroot : u.Rooted) : u.hierarchy.Ordered where
  acyclic := u.not_below_self
  rooted := by
    rw [supertypes_hierarchy]
    cases hd : Hierarchy.find? u.classes .object with
    | none => rfl
    | some d => exact hroot d (List.mem_of_find?_eq_some hd) (Hierarchy.name_of_find? hd)

end Universe

end Devirt

import Devirt.Proofs.Hierarchy.Superclasses

/-!
# The interfaces above a class

A class has the interfaces that edges between interfaces lead to from the class itself or from a
superclass of it, be they declared or not. So it has its own ones and those of its superclass.
-/

namespace Devirt

open Relation Devirt.Graph

theorem Hierarchy.mem_allInterfaces_iff {h : Hierarchy} {a i : ClassName} :
    i ∈ h.allInterfaces a ↔ ∃ c ∈ a :: h.superclasses a, TransGen (Edge h.interfaces) c i := by
  rw [mem_allInterfaces]
  refine exists_congr fun c => and_congr_right fun _ => ?_
  rw [TransGen.head'_iff]
  rfl

namespace Universe

variable {u : Universe} {a p i : ClassName}

theorem not_mem_allInterfaces_self (u : Universe) (a : ClassName) : a ∉ u.hierarchy.allInterfaces a :=
  fun ha => u.not_below_self a (Hierarchy.mem_allInterfaces.mp ha).below

/-- Next to its own interfaces a class has those of its superclass, if that is declared. -/
theorem mem_allInterfaces_iff_of_superclass? (hp : u.hierarchy.superclass? a = some p)
    (hdeclared : u.hierarchy.contains p = true) :
    i ∈ u.hierarchy.allInterfaces a ↔
      TransGen (Edge u.hierarchy.interfaces) a i ∨ i ∈ u.hierarchy.allInterfaces p := by
  rw [Hierarchy.mem_allInterfaces_iff, Hierarchy.mem_allInterfaces_iff,
    superclasses_eq_cons hp hdeclared, List.exists_mem_cons_iff]

end Universe

/-- The interfaces above a class are exactly the types that one or more edges between interfaces lead to
from the class or from a superclass of it. Each is found once, none is the class itself, and the class
is a subclass of each. What is found from a declared superclass is found from the class as well. -/
theorem allInterfaces_exact (u : Universe) (t : ClassName) :
    let h := u.hierarchy
    let listed := h.allInterfaces t
    (∀ i, i ∈ listed ↔ ∃ c ∈ t :: h.superclasses t, TransGen (Edge h.interfaces) c i) ∧
    listed.Nodup ∧ t ∉ listed ∧
    (∀ i ∈ listed, h.isSubclass t i = true) ∧
    ∀ p, h.superclass? t = some p → h.contains p = true → h.allInterfaces p ⊆ listed := by
  intro h listed
  refine ⟨fun i => Hierarchy.mem_allInterfaces_iff, nodup_explore, u.not_mem_allInterfaces_self t,
    fun i hi => ?_, fun p hp hdeclared i hi => ?_⟩
  · exact (Hierarchy.mem_allInterfaces.mp hi).below.isSubclass
  · exact (Universe.mem_allInterfaces_iff_of_superclass? hp hdeclared).mpr (Or.inr hi)

end Devirt

import Devirt.Proofs.Graph.Rounds
import Devirt.Proofs.Hierarchy.Superclasses

/-!
# The walks of a hierarchy as loops

Each walk of a hierarchy is a loop that decides from round to round whether it goes on, and that only
keeps what it has met. The loops end on every hierarchy, on those with cycles as well, and have the
answers of the walks.
-/

namespace Devirt

open Relation StateTransition Devirt.Graph

/-! ## The superclass loop -/

/-- The loop that passes from class to superclass, between two rounds. -/
structure Climb where
  current : ClassName
  passed : List ClassName

namespace Climb

variable {h : Hierarchy} {bottom a p : ClassName} {passed fresh : List ClassName}

/-- One round, unless there is no superclass, or the loop stops before it: it is not declared, it is
where the loop began, or it was passed. -/
def round (h : Hierarchy) (bottom : ClassName) (w : Climb) : Option Climb :=
  match h.superclass? w.current with
  | none => none
  | some p =>
    if !h.contains p || p = bottom || p ∈ w.passed then none else some ⟨p, w.passed ++ [p]⟩

theorem round_of_root (h' : h.superclass? a = none) : round h bottom ⟨a, passed⟩ = none := by
  simp only [round, h']

theorem round_of_undeclared (hp : h.superclass? a = some p) (hcontains : ¬ h.contains p = true) :
    round h bottom ⟨a, passed⟩ = none := by
  simp [round, hp, hcontains]

theorem round_of_met (hp : h.superclass? a = some p) (hmet : p ∈ bottom :: passed) :
    round h bottom ⟨a, passed⟩ = none := by
  rcases List.mem_cons.mp hmet with hbottom | hpassed
  · simp [round, hp, hbottom]
  · simp [round, hp, hpassed]

theorem round_of_unmet (hp : h.superclass? a = some p) (hcontains : h.contains p = true)
    (hmet : p ∉ bottom :: passed) : round h bottom ⟨a, passed⟩ = some ⟨p, passed ++ [p]⟩ := by
  simp only [List.mem_cons, not_or] at hmet
  simp [round, hp, hcontains, hmet]

/-- The loop ends, after it has passed the chain. -/
theorem eval_round (hunseen : Unseen h.types (bottom :: passed) fresh) :
    (eval (round h bottom) ⟨a, passed⟩).map (·.passed) = .some (passed ++ h.chain fresh a) := by
  fun_induction Hierarchy.chain h fresh a generalizing passed with
  | case1 fresh a hroot =>
      rw [eval_of_end (round_of_root hroot), Part.map_some, List.append_nil]
  | case2 fresh a p hp hfresh _ hcontains ih =>
      have hround := round_of_unmet hp hcontains (hunseen.not_mem_seen hfresh)
      have hunseen' : Unseen h.types (bottom :: (passed ++ [p])) (without p fresh) :=
        (hunseen.visit p).perm (List.perm_append_singleton p (bottom :: passed))
      rw [eval_of_round hround, ih hunseen', List.append_assoc, List.singleton_append]
  | case3 fresh a p hp _ _ hcontains =>
      rw [eval_of_end (round_of_undeclared hp hcontains), Part.map_some, List.append_nil]
  | case4 fresh a p hp hfresh =>
      have hmet := hunseen.mem_seen (h.superclass_mem a p hp) hfresh
      rw [eval_of_end (round_of_met hp hmet), Part.map_some, List.append_nil]

end Climb

/-! ## The loops and the walks -/

namespace Hierarchy

variable (h : Hierarchy) (a b : ClassName)

def subtypesLoop : Part (List ClassName) :=
  (eval (BreadthFirst.round h.directSubtypes) ⟨h.directSubtypes a, [a], []⟩).map (·.visited)

def superclassesLoop : Part (List ClassName) :=
  (eval (Climb.round h a) ⟨a, []⟩).map (·.passed)

/-- The superclass loop comes first. Its classes fill the queue. -/
def allInterfacesLoop : Part (List ClassName) :=
  (h.superclassesLoop a).bind fun above =>
    (eval (BreadthFirst.round h.interfaces) ⟨(a :: above).flatMap h.interfaces, [], []⟩).map
      (·.visited)

/-- There is no loop if the classes are the same, or the upper one is the root class. -/
def isSubclassLoop : Part Bool :=
  if a = b ∨ b = .object then .some true
  else (eval (TargetSearch.round h.supertypes b) ⟨[a], [], false⟩).map (·.found)

theorem subtypesLoop_eq : h.subtypesLoop a = .some (h.subtypes a) :=
  BreadthFirst.eval_round h.subtype_mem (h.subtype_mem a) .singleton_seen

theorem superclassesLoop_eq : h.superclassesLoop a = .some (h.superclasses a) :=
  Climb.eval_round .singleton_seen

theorem allInterfacesLoop_eq : h.allInterfacesLoop a = .some (h.allInterfaces a) := by
  rw [allInterfacesLoop, superclassesLoop_eq, Part.bind_some]
  exact BreadthFirst.eval_round h.interface_mem (h.flatMap_interfaces_subset _) .nothing_seen

theorem isSubclassLoop_eq : h.isSubclassLoop a b = .some (h.isSubclass a b) := by
  unfold isSubclassLoop
  split
  · rename_i hend
    rw [isSubclass_iff.mpr (hend.imp_right Or.inl)]
  · rename_i hloop
    obtain ⟨found, heval, hfound⟩ :=
      TargetSearch.eval_round_singleton a b fun _ _ => h.mem_types_of_mem_supertypes
    have hsame : found = h.isSubclass a b := by
      rw [Bool.eq_iff_iff, hfound, isSubclass_iff, ← or_assoc, or_iff_right hloop]
      rfl
    rw [heval, hsame]

end Hierarchy

end Devirt

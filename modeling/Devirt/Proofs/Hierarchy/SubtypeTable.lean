import Devirt.Proofs.Hierarchy.Subtypes
import Devirt.Proofs.KeyedTable

/-!
# The table of direct subtypes

Every declaration is filed under each class that it names, and the list under each class is then sorted.
What stands under a class is exactly what names it, whether or not the class is declared, and however
often and in whatever order the declarations name it.
-/

namespace Devirt

open KeyedTable

theorem ClassDeclaration.mem_supertypes {d : ClassDeclaration} {t : ClassName} :
    t ∈ d.supertypes ↔ d.superclass? = some t ∨ t ∈ d.interfaces := by
  rw [supertypes, List.mem_append, Option.mem_toList]

namespace Hierarchy

/-- The classes filed under their supertypes, in the order of the declarations. -/
def filedSubtypes (classes : List ClassDeclaration) : List (ClassName × List ClassName) :=
  classes.foldl (fun table d => d.supertypes.foldl (fun table t => push t d.name table) table) []

def subtypeTable (classes : List ClassDeclaration) : List (ClassName × List ClassName) :=
  (filedSubtypes classes).map fun e => (e.1, ascending e.2)

/-- Every edge of some declarations, with the class that it leads to in front. -/
def edges (classes : List ClassDeclaration) : List (ClassName × ClassName) :=
  classes.flatMap fun d => d.supertypes.map fun t => (t, d.name)

theorem filedSubtypes_eq (classes : List ClassDeclaration) :
    filedSubtypes classes = (edges classes).foldl (fun table e => push e.1 e.2 table) [] := by
  rw [filedSubtypes, edges, List.foldl_flatMap]
  simp only [List.foldl_map]

theorem getD_lookup_filedSubtypes (classes : List ClassDeclaration) (t : ClassName) :
    ((filedSubtypes classes).lookup t).getD [] =
      ((edges classes).filter (·.1 = t)).map Prod.snd := by
  rw [filedSubtypes_eq, getD_lookup_foldl_push]
  rfl

theorem mem_filedSubtypes {classes : List ClassDeclaration} {s t : ClassName} :
    s ∈ ((filedSubtypes classes).lookup t).getD [] ↔
      ∃ d ∈ classes, d.name = s ∧ t ∈ d.supertypes := by
  simp only [getD_lookup_filedSubtypes, edges, List.mem_map, List.mem_filter, List.mem_flatMap,
    decide_eq_true_eq]
  constructor
  · rintro ⟨_, ⟨⟨d, hd, t', ht', rfl⟩, rfl⟩, rfl⟩
    exact ⟨d, hd, rfl, ht'⟩
  · rintro ⟨d, hd, rfl, ht⟩
    exact ⟨(t, d.name), ⟨⟨d, hd, t, ht, rfl⟩, rfl⟩, rfl⟩

theorem getD_lookup_subtypeTable (classes : List ClassDeclaration) (t : ClassName) :
    ((subtypeTable classes).lookup t).getD [] = subtypesIn classes t := by
  have hsorted : ((subtypeTable classes).lookup t).getD [] =
      ascending (((filedSubtypes classes).lookup t).getD []) := by
    rw [subtypeTable, lookup_map_snd]
    cases (filedSubtypes classes).lookup t with
    | none => simp [ascending, dropRepeats]
    | some children => rfl
  rw [hsorted, subtypesIn]
  refine ascending_congr fun s => mem_filedSubtypes.trans ?_
  rw [← mem_subtypesIn, subtypesIn, mem_ascending]

end Hierarchy

/-- The direct subtypes of a class, declared or not, are exactly the declared classes that name it as
their superclass or among their interfaces. They ascend strictly, by package and then by simple name, so
none is listed twice. The list is the one that stands under the class once all declarations are filed
under what they name and every list is sorted. -/
theorem directSubtypes_exact (u : Universe) (t : ClassName) :
    let listed := u.hierarchy.directSubtypes t
    (∀ s, s ∈ listed ↔
      ∃ d, u.view.class? s = some d ∧ (d.superclass? = some t ∨ t ∈ d.interfaces)) ∧
    (listed.Pairwise fun a b => a.package < b.package ∨ a.package = b.package ∧ a.simple < b.simple) ∧
    listed.Nodup ∧
    listed = ((Hierarchy.subtypeTable u.classes).lookup t).getD [] := by
  intro listed
  refine ⟨fun s => ?_, ?_, nodup_ascending _, (Hierarchy.getD_lookup_subtypeTable _ t).symm⟩
  · refine Hierarchy.mem_subtypesIn.trans (exists_congr fun d => ?_)
    show d ∈ u.classes ∧ d.name = s ∧ t ∈ d.supertypes ↔ Hierarchy.find? u.classes s = some d ∧ _
    rw [Hierarchy.find?_eq_some_iff u.nodup, and_assoc, ClassDeclaration.mem_supertypes]
  · exact (pairwise_ascending _).imp ClassName.compare_eq_lt_iff.mp

/-- `B` names `Base` three times and is listed once, behind `A`, which is declared after it. -/
example :
    let base : ClassName := ⟨"q", "Base"⟩
    let b : ClassDeclaration :=
      { name := ⟨"p", "B"⟩, modifiers := ⟨0⟩, superclass? := some base, interfaces := [base, base] }
    let a : ClassDeclaration :=
      { name := ⟨"p", "A"⟩, modifiers := ⟨0⟩, superclass? := none, interfaces := [base] }
    Hierarchy.subtypeTable [b, a] = [(base, [⟨"p", "A"⟩, ⟨"p", "B"⟩])] := by
  cbv

end Devirt

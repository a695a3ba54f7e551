import Devirt.Proofs.Hierarchy.Subtyping
import Devirt.Proofs.Ordering

/-!
# Walking down and walking up

The subtypes of a class are what the edges downwards lead to. In a universe every edge downwards is one
upwards and the other way round, so the walk down from a class finds exactly the classes from which the
walk up finds it.
-/

namespace Devirt

open Relation Devirt.Graph

namespace Hierarchy

variable {h : Hierarchy} {a b : ClassName}

/-- The walk down from a class finds everything below it. It never comes back to where it started. -/
theorem mem_subtypes :
    b ∈ h.subtypes a ↔ b ≠ a ∧ ReflTransGen (Edge h.directSubtypes) a b := by
  rw [subtypes, mem_explore]
  constructor
  · rintro ⟨c, hac, hc, hpath⟩
    have hb := (mem_without.mp (mem_of_path hpath hc)).2
    exact ⟨hb, .head hac (ReflTransGen.mono (fun _ _ => EdgeWithin.edge) _ _ hpath)⟩
  · rintro ⟨hne, hpath⟩
    rw [← edgeWithin_of_closed h.subtype_mem] at hpath
    rcases path_around a hpath with hba | ⟨haa, _⟩ | hleave
    · exact absurd hba hne
    · exact absurd rfl haa
    · exact hleave

theorem mem_subtypesIn {classes : List ClassDeclaration} :
    b ∈ subtypesIn classes a ↔ ∃ d ∈ classes, d.name = b ∧ a ∈ d.supertypes := by
  simp only [subtypesIn, mem_ascending, List.mem_map, List.mem_filter, decide_eq_true_eq]
  constructor
  · rintro ⟨d, ⟨hd, ha⟩, hname⟩
    exact ⟨d, hd, hname, ha⟩
  · rintro ⟨d, hd, hname, ha⟩
    exact ⟨d, ⟨hd, ha⟩, hname⟩

end Hierarchy

namespace Universe

variable {u : Universe} {a b : ClassName}

/-- The edges downwards are the edges upwards, reversed. -/
theorem mem_directSubtypes : b ∈ u.hierarchy.directSubtypes a ↔ a ∈ u.hierarchy.supertypes b :=
  Hierarchy.mem_subtypesIn.trans (Hierarchy.mem_supertypes_ofClasses u.nodup).symm

theorem edge_directSubtypes :
    Edge u.hierarchy.directSubtypes = Function.swap (Edge u.hierarchy.supertypes) := by
  funext a b
  exact propext mem_directSubtypes

theorem mem_subtypes_iff_below : b ∈ u.hierarchy.subtypes a ↔ u.hierarchy.Below b a := by
  rw [Hierarchy.mem_subtypes, edge_directSubtypes, reflTransGen_swap, reflTransGen_iff_eq_or_transGen]
  constructor
  · rintro ⟨hne, rfl | hbelow⟩
    · exact absurd rfl hne
    · exact hbelow
  · intro hbelow
    refine ⟨?_, Or.inr hbelow⟩
    rintro rfl
    exact u.not_below_self b hbelow

theorem mem_names_of_mem_subtypes (hb : b ∈ u.hierarchy.subtypes a) :
    b ∈ u.classes.map (·.name) :=
  mem_names_of_below (mem_subtypes_iff_below.mp hb)

theorem subtypes_subset (hb : b ∈ u.hierarchy.subtypes a) :
    u.hierarchy.subtypes b ⊆ u.hierarchy.subtypes a := by
  intro c hc
  rw [mem_subtypes_iff_below] at hb hc ⊢
  exact TransGen.trans hc hb

/-- The subtypes of a class are its direct subtypes and their subtypes. -/
theorem exists_subtype_iff {P : ClassName → Prop} :
    (∃ c ∈ u.hierarchy.subtypes a, P c) ↔
      ∃ b ∈ u.hierarchy.directSubtypes a, P b ∨ ∃ c ∈ u.hierarchy.subtypes b, P c := by
  simp only [mem_subtypes_iff_below, mem_directSubtypes]
  constructor
  · rintro ⟨c, hca, hc⟩
    obtain ⟨b, hcb, hba⟩ := TransGen.tail'_iff.mp hca
    rcases reflTransGen_iff_eq_or_transGen.mp hcb with rfl | hcb
    · exact ⟨b, hba, Or.inl hc⟩
    · exact ⟨b, hba, Or.inr ⟨c, hcb, hc⟩⟩
  · rintro ⟨b, hba, hb | ⟨c, hcb, hc⟩⟩
    · exact ⟨b, .single hba, hb⟩
    · exact ⟨c, .tail hcb hba, hc⟩

end Universe

/-- A class counts as a subclass of another one exactly if the two are the same, the other one is the
root class, or the walk down from the other one finds it. None of the classes has to be declared. -/
theorem isSubclass_iff_mem_subtypes (u : Universe) (s t : ClassName) :
    u.hierarchy.isSubclass s t = true ↔
      s = t ∨ t = .object ∨ s ∈ u.hierarchy.subtypes t := by
  rw [Hierarchy.isSubclass_iff, Universe.mem_subtypes_iff_below]

end Devirt

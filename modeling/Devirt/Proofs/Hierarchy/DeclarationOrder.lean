import Devirt.Proofs.Hierarchy.SharedClasses
import Devirt.Proofs.Hierarchy.TypeOrder

/-!
# The order of declarations

Declarations keep the order in which they came, and the search for a cycle goes along it. The edges of the
hierarchy do not show it: a class is found under its name, and the classes that name it are sorted. So
no walk shows it either.
-/

namespace Devirt

open Relation Devirt.Graph

namespace Hierarchy

variable {h h' : Hierarchy} {a : ClassName} {s t : Ty}

/-- Two hierarchies have the same edges, in the same order at every class. -/
structure Alike (h h' : Hierarchy) : Prop where
  contains : h'.contains = h.contains
  superclass? : h'.superclass? = h.superclass?
  interfaces : h'.interfaces = h.interfaces
  directSubtypes : h'.directSubtypes = h.directSubtypes
  mem_types : ∀ a, a ∈ h'.types ↔ a ∈ h.types

namespace Alike

variable (hlike : h.Alike h')
include hlike

theorem supertypes : h'.supertypes = h.supertypes := by
  funext a
  rw [Hierarchy.supertypes, Hierarchy.supertypes, hlike.superclass?, hlike.interfaces]

theorem subtypes (a : ClassName) : h'.subtypes a = h.subtypes a := by
  rw [Hierarchy.subtypes, Hierarchy.subtypes, hlike.directSubtypes]
  refine explore_congr (s := Set.univ) (fun _ _ => rfl) (fun _ _ _ _ => trivial) (fun b _ => ?_)
    fun _ _ => trivial
  rw [mem_without, mem_without, hlike.mem_types]

theorem superclasses (a : ClassName) : h'.superclasses a = h.superclasses a :=
  superclasses_congr (s := Set.univ) trivial (fun b _ => by rw [hlike.superclass?])
    (fun b _ => by rw [hlike.contains]) fun _ _ _ _ => trivial

theorem allInterfaces (a : ClassName) : h'.allInterfaces a = h.allInterfaces a := by
  rw [Hierarchy.allInterfaces, Hierarchy.allInterfaces, hlike.superclasses, hlike.interfaces]
  exact explore_congr (s := Set.univ) (fun _ _ => rfl) (fun _ _ _ _ => trivial)
    (fun b _ => hlike.mem_types b) fun _ _ => trivial

theorem ancestors (a : ClassName) : h'.ancestors a = h.ancestors a := by
  rw [Hierarchy.ancestors, Hierarchy.ancestors, hlike.supertypes]
  exact explore_congr (s := Set.univ) (fun _ _ => rfl) (fun _ _ _ _ => trivial)
    (fun b _ => hlike.mem_types b) fun _ _ => trivial

theorem isSubclass (a b : ClassName) : h'.isSubclass a b = h.isSubclass a b := by
  rw [Hierarchy.isSubclass, Hierarchy.isSubclass, hlike.ancestors]

theorem symm : h'.Alike h where
  contains := hlike.contains.symm
  superclass? := hlike.superclass?.symm
  interfaces := hlike.interfaces.symm
  directSubtypes := hlike.directSubtypes.symm
  mem_types a := (hlike.mem_types a).symm

theorem subtypeOf (hst : h.SubtypeOf s t) : h'.SubtypeOf s t := by
  induction hst with
  | refl t => exact .refl t
  | null href => exact .null href
  | subclass hab => exact .subclass (by rwa [hlike.isSubclass])
  | arrayClass hc => exact .arrayClass hc
  | array hs ht _ ih => exact .array hs ht ih

theorem isSubtype (s t : Ty) : h'.isSubtype s t = h.isSubtype s t := by
  rw [Bool.eq_iff_iff, isSubtype_iff, isSubtype_iff]
  exact ⟨hlike.symm.subtypeOf, hlike.subtypeOf⟩

theorem canOverride (m n : MethodSignature) : h'.canOverride m n = h.canOverride m n := by
  rw [Hierarchy.canOverride, Hierarchy.canOverride, hlike.isSubtype]

end Alike

end Hierarchy

/-! ## Permuted declarations -/

variable {ds es : List ClassDeclaration}

theorem Hierarchy.subtypesIn_of_perm (h : es.Perm ds) (a : ClassName) :
    subtypesIn es a = subtypesIn ds a :=
  ascending_of_perm ((h.filter _).map _)

theorem Hierarchy.alike_of_perm (hnodup : (ds.map (·.name)).Nodup) (h : es.Perm ds) :
    (Hierarchy.ofClasses ds).Alike (Hierarchy.ofClasses es) where
  contains := by
    funext c
    show (find? es c).isSome = (find? ds c).isSome
    rw [find?_of_perm hnodup h]
  superclass? := by
    funext c
    show (find? es c).bind _ = (find? ds c).bind _
    rw [find?_of_perm hnodup h]
  interfaces := by
    funext c
    show ((find? es c).map _).getD [] = ((find? ds c).map _).getD []
    rw [find?_of_perm hnodup h]
  directSubtypes := by
    funext c
    exact subtypesIn_of_perm h c
  mem_types a := by
    show a ∈ es.flatMap _ ↔ a ∈ ds.flatMap _
    rw [List.mem_flatMap, List.mem_flatMap]
    exact exists_congr fun d => and_congr_left fun _ => h.mem_iff

theorem inherits_of_perm (h : es.Perm ds) : Inherits es = Inherits ds := by
  funext a b
  rw [Inherits, Inherits, (h.map (·.name)).mem_iff]
  simp only [h.mem_iff]

theorem nodup_names_of_perm (h : es.Perm ds) :
    (es.map (·.name)).Nodup ↔ (ds.map (·.name)).Nodup :=
  (h.map (·.name)).nodup_iff

namespace Universe

/-- Permuted declarations freeze alike, or they are refused for the same kind of reason. -/
inductive FreezesAlike (ds es : List ClassDeclaration) : Prop
  | repeated (c c' : ClassName) : ofClasses ds = .error (.duplicateClass c) →
      ofClasses es = .error (.duplicateClass c') → FreezesAlike ds es
  | cyclic (c c' : ClassName) : ofClasses ds = .error (.inheritanceCycle c) →
      ofClasses es = .error (.inheritanceCycle c') → FreezesAlike ds es
  | frozen (u u' : Universe) : ofClasses ds = .ok u → ofClasses es = .ok u' →
      u'.classes.Perm u.classes → FreezesAlike ds es

theorem freezesAlike_of_perm (h : es.Perm ds) : FreezesAlike ds es := by
  cases freezing ds with
  | repeated c hc houtcome =>
      have hrepeated : ¬ (es.map (·.name)).Nodup := fun hnodup =>
        hc.not_nodup ((nodup_names_of_perm h).mp hnodup)
      obtain ⟨c', hc'⟩ := (nodup_or_firstRepeat (es.map (·.name))).resolve_left hrepeated
      exact .repeated c c' houtcome (ofClasses_of_firstRepeat hc')
  | cyclic c hnodup hcycle houtcome =>
      rw [← inherits_of_perm h] at hcycle
      obtain ⟨c', hc'⟩ :=
        exists_inheritanceCycle_iff.mpr ⟨(nodup_names_of_perm h).mpr hnodup, c, hcycle⟩
      exact .cyclic c c' houtcome hc'
  | frozen u hnodup hacyclic houtcome hclasses =>
      rw [← inherits_of_perm h] at hacyclic
      obtain ⟨u', hu'⟩ :=
        exists_ofClasses_iff.mpr ⟨(nodup_names_of_perm h).mpr hnodup, hacyclic⟩
      refine .frozen u u' houtcome hu' ?_
      rwa [hclasses, (ofClasses_eq_ok hu').1]

variable {u u' : Universe}

theorem alike_of_perm (h : u'.classes.Perm u.classes) : u.hierarchy.Alike u'.hierarchy :=
  Hierarchy.alike_of_perm u.nodup h

/-- Universes of permuted declarations share all classes. -/
theorem shares_of_perm (h : u'.classes.Perm u.classes) : u.Shares u' Set.univ where
  class? c _ := Hierarchy.find?_of_perm u.nodup h c
  closed _ _ _ _ := trivial

end Universe

end Devirt

import Devirt.Proofs.Hierarchy.Freezing
import Devirt.Proofs.Hierarchy.Subtypes
import Devirt.Proofs.Hierarchy.Superclasses

/-!
# Classes that two universes share

Every walk upwards sees only what lies above its class. Where two universes have the same declarations
of some classes, and no supertype of these is left out, the walks from them are the same in both. A
class that is added and that nobody names is such a case: all other classes are shared.
-/

namespace Devirt

open Relation Devirt.Graph

namespace Universe

variable {u u' : Universe} {s : Set ClassName} {a b : ClassName} {d : ClassDeclaration}
  {es : List ClassDeclaration}

/-- Two universes resolve some classes alike, and whatever these name is one of them again. -/
structure Shares (u u' : Universe) (s : Set ClassName) : Prop where
  class? : ∀ c ∈ s, u'.view.class? c = u.view.class? c
  closed : ∀ c ∈ s, ∀ b ∈ u.hierarchy.supertypes c, b ∈ s

namespace Shares

variable (h : u.Shares u' s)
include h

theorem method? {m : MethodSignature} (hm : m.owner ∈ s) : u'.view.method? m = u.view.method? m := by
  rw [View.method?, View.method?, h.class? m.owner hm]

theorem supertypes (ha : a ∈ s) : u'.hierarchy.supertypes a = u.hierarchy.supertypes a := by
  have hclass : Hierarchy.find? u'.classes a = Hierarchy.find? u.classes a := h.class? a ha
  rw [supertypes_hierarchy, supertypes_hierarchy, hclass]

theorem symm : u'.Shares u s where
  class? c hc := (h.class? c hc).symm
  closed c hc b hb := by
    rw [h.supertypes hc] at hb
    exact h.closed c hc b hb

theorem mem_names_iff (ha : a ∈ s) : a ∈ u'.classes.map (·.name) ↔ a ∈ u.classes.map (·.name) := by
  show a ∈ u'.view.classes.map (·.name) ↔ a ∈ u.view.classes.map (·.name)
  rw [View.mem_names_iff, View.mem_names_iff, h.class? a ha]

theorem superclasses (ha : a ∈ s) :
    u'.hierarchy.superclasses a = u.hierarchy.superclasses a := by
  refine Hierarchy.superclasses_congr ha (fun c hc => ?_) (fun c hc => ?_) fun c hc p hp => ?_
  · show (u'.view.class? c).bind _ = (u.view.class? c).bind _
    rw [h.class? c hc]
  · show (u'.view.class? c).isSome = (u.view.class? c).isSome
    rw [h.class? c hc]
  · exact h.closed c hc p (Hierarchy.mem_supertypes_of_superclass? hp)

theorem mem_of_below (hab : u.hierarchy.Below a b) (ha : a ∈ s) : b ∈ s := by
  induction hab with
  | single hab => exact h.closed a ha _ hab
  | tail _ hlast ih => exact h.closed _ ih _ hlast

theorem below (hab : u.hierarchy.Below a b) (ha : a ∈ s) : u'.hierarchy.Below a b := by
  induction hab with
  | single hab =>
      rw [Edge, ← h.supertypes ha] at hab
      exact .single hab
  | tail hac hlast ih =>
      rw [Edge, ← h.supertypes (h.mem_of_below hac ha)] at hlast
      exact ih.tail hlast

theorem below_iff (ha : a ∈ s) : u'.hierarchy.Below a b ↔ u.hierarchy.Below a b :=
  ⟨fun hab => h.symm.below hab ha, fun hab => h.below hab ha⟩

theorem isSubclass (ha : a ∈ s) : u'.hierarchy.isSubclass a b = u.hierarchy.isSubclass a b := by
  rw [Bool.eq_iff_iff, Hierarchy.isSubclass_iff, Hierarchy.isSubclass_iff, h.below_iff ha]

theorem mem_subtypes_iff (ha : a ∈ s) : a ∈ u'.hierarchy.subtypes b ↔ a ∈ u.hierarchy.subtypes b := by
  rw [mem_subtypes_iff_below, mem_subtypes_iff_below, h.below_iff ha]

end Shares

/-! ## A new leaf -/

/-- A declaration of a class that a universe neither declares nor names, and that does not name
itself. -/
structure NewLeaf (u : Universe) (d : ClassDeclaration) : Prop where
  undeclared : d.name ∉ u.classes.map (·.name)
  unnamed : ∀ e ∈ u.classes, d.name ∉ e.supertypes
  not_self : d.name ∉ d.supertypes

namespace NewLeaf

variable (hleaf : u.NewLeaf d)
include hleaf

theorem nodup (hes : es.Perm (d :: u.classes)) : (es.map (·.name)).Nodup := by
  rw [(hes.map (·.name)).nodup_iff, List.map_cons, List.nodup_cons]
  exact ⟨hleaf.undeclared, u.nodup⟩

/-- No edge leads to the leaf, and the edges of the other classes are those of the universe. -/
theorem edge (hes : es.Perm (d :: u.classes)) (hab : Inherits es a b) :
    b ≠ d.name ∧ (a ≠ d.name → Edge u.hierarchy.supertypes a b) := by
  obtain ⟨⟨e, he, rfl, hb⟩, _⟩ := hab
  rcases List.mem_cons.mp (hes.mem_iff.mp he) with rfl | he
  · exact ⟨fun hself => hleaf.not_self (hself ▸ hb), fun hne => absurd rfl hne⟩
  · exact ⟨fun hname => hleaf.unnamed e he (hname ▸ hb), fun _ => mem_supertypes.mpr ⟨e, he, rfl, hb⟩⟩

theorem below_of_path (hes : es.Perm (d :: u.classes)) (hab : TransGen (Inherits es) a b)
    (ha : a ≠ d.name) : b ≠ d.name ∧ u.hierarchy.Below a b := by
  induction hab with
  | single hab =>
      obtain ⟨hb, hedge⟩ := hleaf.edge hes hab
      exact ⟨hb, .single (hedge ha)⟩
  | tail _ hlast ih =>
      obtain ⟨hb, hedge⟩ := hleaf.edge hes hlast
      exact ⟨hb, ih.2.tail (hedge ih.1)⟩

theorem exists_ofClasses (hes : es.Perm (d :: u.classes)) :
    ∃ u', ofClasses es = .ok u' ∧ u'.classes = es := by
  have hacyclic : ∀ a, ¬ TransGen (Inherits es) a a := by
    intro a hcycle
    -- The last edge of a cycle leads back to its start, so that is not the leaf.
    obtain ⟨_, _, hlast⟩ := TransGen.tail'_iff.mp hcycle
    have ha : a ≠ d.name := (hleaf.edge hes hlast).1
    exact u.not_below_self a (hleaf.below_of_path hes hcycle ha).2
  obtain ⟨u', hu'⟩ := exists_ofClasses_iff.mpr ⟨hleaf.nodup hes, hacyclic⟩
  exact ⟨u', hu', (ofClasses_eq_ok hu').1⟩

theorem not_mem_subtypes : d.name ∉ u.hierarchy.subtypes a := fun hmem =>
  hleaf.undeclared (mem_names_of_mem_subtypes hmem)

variable (hes : u'.classes.Perm (d :: u.classes))
include hes

theorem shares : u.Shares u' {c | c ≠ d.name} where
  class? c hc := by
    refine Option.ext fun e => ?_
    show Hierarchy.find? u'.classes c = some e ↔ Hierarchy.find? u.classes c = some e
    rw [Hierarchy.find?_eq_some_iff u'.nodup, Hierarchy.find?_eq_some_iff u.nodup, hes.mem_iff,
      List.mem_cons]
    refine and_congr_left fun hname => or_iff_right ?_
    rintro rfl
    exact hc hname.symm
  closed c _ b hb hname := by
    obtain ⟨e, he, _, hb⟩ := mem_supertypes.mp hb
    exact hleaf.unnamed e he (hname ▸ hb)

omit hleaf in
theorem class?_leaf : u'.view.class? d.name = some d :=
  (Hierarchy.find?_eq_some_iff u'.nodup).mpr ⟨hes.mem_iff.mpr List.mem_cons_self, rfl⟩

/-- The leaf lies below what it names and below everything above that. -/
theorem mem_subtypes_iff : d.name ∈ u'.hierarchy.subtypes a ↔
    ∃ p ∈ d.supertypes, p = a ∨ p ∈ u.hierarchy.subtypes a := by
  have hsuper : u'.hierarchy.supertypes d.name = d.supertypes := by
    have hd : Hierarchy.find? u'.classes d.name = some d := class?_leaf hes
    rw [supertypes_hierarchy, hd]
    rfl
  have hold : ∀ p ∈ d.supertypes, p ∈ u'.hierarchy.subtypes a ↔ p ∈ u.hierarchy.subtypes a :=
    fun p hp => (hleaf.shares hes).mem_subtypes_iff fun hname => hleaf.not_self (hname ▸ hp)
  rw [mem_subtypes_iff_below, Hierarchy.Below, TransGen.head'_iff]
  constructor
  · rintro ⟨p, hp, hpath⟩
    rw [Edge, hsuper] at hp
    refine ⟨p, hp, (reflTransGen_iff_eq_or_transGen.mp hpath).imp Eq.symm fun hbelow => ?_⟩
    exact (hold p hp).mp (mem_subtypes_iff_below.mpr hbelow)
  · rintro ⟨p, hp, hpath⟩
    refine ⟨p, by rwa [Edge, hsuper], reflTransGen_iff_eq_or_transGen.mpr ?_⟩
    exact hpath.imp Eq.symm fun hmem => mem_subtypes_iff_below.mp ((hold p hp).mpr hmem)

/-- A walk down meets the leaf besides the classes that it met before, or the same classes. -/
theorem exists_subtype_iff {P P' : ClassName → Prop} (hP : ∀ c, c ≠ d.name → (P' c ↔ P c)) :
    (∃ c ∈ u'.hierarchy.subtypes a, P' c) ↔
      (∃ c ∈ u.hierarchy.subtypes a, P c) ∨ d.name ∈ u'.hierarchy.subtypes a ∧ P' d.name := by
  have hshares := hleaf.shares hes
  constructor
  · rintro ⟨c, hc, hPc⟩
    by_cases hname : c = d.name
    · subst hname
      exact Or.inr ⟨hc, hPc⟩
    · exact Or.inl ⟨c, (hshares.mem_subtypes_iff hname).mp hc, (hP c hname).mp hPc⟩
  · rintro (⟨c, hc, hPc⟩ | ⟨hmem, hPd⟩)
    · have hname : c ≠ d.name := fun hname => hleaf.not_mem_subtypes (hname ▸ hc)
      exact ⟨c, (hshares.mem_subtypes_iff hname).mpr hc, (hP c hname).mpr hPc⟩
    · exact ⟨d.name, hmem, hPd⟩

end NewLeaf

end Universe

end Devirt

import Devirt.Proofs.Hierarchy.Freezing
import Devirt.Proofs.Hierarchy.Superclasses
import Mathlib.Data.List.Forall2

/-!
# Universes with other interface lists

Classes can name their interfaces in another order, and further ones besides. As long as each of these
lies above its class already, the declarations freeze again, and the classes keep their superclasses,
their methods and the order between them.
-/

namespace Devirt

open Relation Devirt.Graph

/-! ## Declarations -/

namespace ClassDeclaration

variable {c d e : ClassDeclaration}

/-- Two declarations of a class agree on everything but its interfaces. -/
structure Resembles (d e : ClassDeclaration) : Prop where
  name : e.name = d.name
  modifiers : e.modifiers = d.modifiers
  superclass? : e.superclass? = d.superclass?
  methods : e.methods = d.methods

/-- The second declaration names all interfaces of the first. -/
structure Widens (d e : ClassDeclaration) : Prop extends Resembles d e where
  interfaces : d.interfaces ⊆ e.interfaces

/-- The second declaration names the interfaces of the first in another order. -/
structure Reorders (d e : ClassDeclaration) : Prop extends Resembles d e where
  interfaces : e.interfaces.Perm d.interfaces

theorem Resembles.refl (d : ClassDeclaration) : Resembles d d := ⟨rfl, rfl, rfl, rfl⟩

theorem Resembles.symm (h : Resembles d e) : Resembles e d :=
  ⟨h.name.symm, h.modifiers.symm, h.superclass?.symm, h.methods.symm⟩

theorem Resembles.method? (h : Resembles d e) (sub : SubSignature) :
    e.method? sub = d.method? sub := by
  rw [ClassDeclaration.method?, h.methods, ClassDeclaration.method?]

theorem Resembles.isAbstract (h : Resembles d e) : e.isAbstract = d.isAbstract := by
  simp only [ClassDeclaration.isAbstract, isInterface, h.modifiers]

theorem Resembles.mem_supertypes (h : Resembles d e) {b} (hb : b ∈ e.supertypes) :
    b ∈ d.supertypes ∨ b ∈ e.interfaces := by
  rcases List.mem_append.mp hb with hb | hb
  · rw [h.superclass?] at hb
    exact Or.inl (List.mem_append_left _ hb)
  · exact Or.inr hb

theorem Widens.supertypes (h : Widens d e) : d.supertypes ⊆ e.supertypes := by
  intro b hb
  rcases List.mem_append.mp hb with hb | hb
  · rw [← h.superclass?] at hb
    exact List.mem_append_left _ hb
  · exact List.mem_append_right _ (h.interfaces hb)

theorem Reorders.widens (h : Reorders d e) : Widens d e := ⟨h.toResembles, h.interfaces.symm.subset⟩

theorem Reorders.symm (h : Reorders d e) : Reorders e d :=
  ⟨h.toResembles.symm, h.interfaces.symm⟩

end ClassDeclaration

/-! ## Lists of declarations -/

section

variable {ds es : List ClassDeclaration}

theorem map_name_of_widens (h : List.Forall₂ ClassDeclaration.Widens ds es) :
    es.map (·.name) = ds.map (·.name) := by
  induction h with
  | nil => rfl
  | cons hd _ ih => rw [List.map_cons, List.map_cons, hd.name, ih]

/-- What the wider declarations resolve is what the others resolve, with more interfaces. -/
theorem find?_of_widens (h : List.Forall₂ ClassDeclaration.Widens ds es) (c : ClassName) :
    (Hierarchy.find? ds c = none ∧ Hierarchy.find? es c = none) ∨
      ∃ d e, Hierarchy.find? ds c = some d ∧ Hierarchy.find? es c = some e ∧ d.Widens e := by
  induction h with
  | nil => exact Or.inl ⟨rfl, rfl⟩
  | @cons d e ds es hd _ ih =>
      by_cases hc : d.name = c
      · exact Or.inr ⟨d, e, by simp [Hierarchy.find?, hc], by simp [Hierarchy.find?, hd.name, hc], hd⟩
      · simpa [Hierarchy.find?, hd.name, hc] using ih

theorem exists_related {R : ClassDeclaration → ClassDeclaration → Prop} (h : List.Forall₂ R ds es)
    {d} (hd : d ∈ ds) : ∃ e ∈ es, R d e := by
  induction h with
  | nil => simp at hd
  | @cons d' e' _ _ hd' _ ih =>
      rcases List.mem_cons.mp hd with rfl | hd
      · exact ⟨e', List.mem_cons_self, hd'⟩
      · obtain ⟨e, he, hde⟩ := ih hd
        exact ⟨e, List.mem_cons_of_mem _ he, hde⟩

theorem exists_related_left {R : ClassDeclaration → ClassDeclaration → Prop}
    (h : List.Forall₂ R ds es) {e} (he : e ∈ es) : ∃ d ∈ ds, R d e :=
  exists_related (R := flip R) (List.Forall₂.flip (R := flip R) h) he

end

namespace Universe

variable {u u' : Universe} {a b i : ClassName} {es : List ClassDeclaration}

/-! ## Wider universes -/

/-- The second universe declares the classes of the first, and they name all their interfaces again. -/
def Widens (u u' : Universe) : Prop := List.Forall₂ ClassDeclaration.Widens u.classes u'.classes

namespace Widens

variable (h : u.Widens u')
include h

theorem class?_cases (c : ClassName) :
    (u.view.class? c = none ∧ u'.view.class? c = none) ∨
      ∃ d e, u.view.class? c = some d ∧ u'.view.class? c = some e ∧ d.Widens e :=
  find?_of_widens h c

theorem class?_eq_none {c} (hc : u.view.class? c = none) : u'.view.class? c = none := by
  rcases h.class?_cases c with ⟨_, he⟩ | ⟨d, _, hd, _⟩
  · exact he
  · simp [hc] at hd

theorem exists_class? {c d} (hd : u.view.class? c = some d) :
    ∃ e, u'.view.class? c = some e ∧ d.Widens e := by
  rcases h.class?_cases c with ⟨hc, _⟩ | ⟨d', e, hd', he, hde⟩
  · simp [hd] at hc
  · obtain rfl : d' = d := Option.some.inj (hd'.symm.trans hd)
    exact ⟨e, he, hde⟩

theorem names : u'.classes.map (·.name) = u.classes.map (·.name) := map_name_of_widens h

theorem method? (m : MethodSignature) : u'.view.method? m = u.view.method? m := by
  rcases h.class?_cases m.owner with ⟨hd, he⟩ | ⟨d, e, hd, he, hde⟩
  · simp only [View.method?, hd, he]
  · simp only [View.method?, hd, he, Option.bind_some, hde.method?]

theorem superclasses (a : ClassName) : u'.hierarchy.superclasses a = u.hierarchy.superclasses a := by
  have hsuper : ∀ c, u'.hierarchy.superclass? c = u.hierarchy.superclass? c := by
    intro c
    show (u'.view.class? c).bind _ = (u.view.class? c).bind _
    rcases h.class?_cases c with ⟨hd, he⟩ | ⟨d, e, hd, he, hde⟩
    · rw [hd, he]
    · rw [hd, he, Option.bind_some, Option.bind_some, hde.superclass?]
  have hcontains : ∀ c, u'.hierarchy.contains c = u.hierarchy.contains c := by
    intro c
    show (u'.view.class? c).isSome = (u.view.class? c).isSome
    rcases h.class?_cases c with ⟨hd, he⟩ | ⟨d, e, hd, he, _⟩
    · rw [hd, he]
    · rw [hd, he, Option.isSome_some, Option.isSome_some]
  exact Hierarchy.superclasses_congr (s := Set.univ) trivial (fun c _ => hsuper c)
    (fun c _ => hcontains c) fun _ _ _ _ => trivial

theorem interfaces_subset (a : ClassName) : u.hierarchy.interfaces a ⊆ u'.hierarchy.interfaces a := by
  intro i hi
  obtain ⟨d, hd, rfl, hid⟩ := mem_interfaces.mp hi
  obtain ⟨e, he, hde⟩ := exists_related h hd
  exact mem_interfaces.mpr ⟨e, he, hde.name, hde.interfaces hid⟩

theorem below (hab : u.hierarchy.Below a b) : u'.hierarchy.Below a b := by
  refine TransGen.mono (fun a b hedge => ?_) a b hab
  obtain ⟨d, hd, rfl, hb⟩ := mem_supertypes.mp hedge
  obtain ⟨e, he, hde⟩ := exists_related h hd
  exact mem_supertypes.mpr ⟨e, he, hde.name, hde.supertypes hb⟩

theorem hasInterface (hi : u.hierarchy.HasInterface a i) : u'.hierarchy.HasInterface a i := by
  obtain ⟨b, hb, j, hj, hpath⟩ := hi
  rw [← h.superclasses] at hb
  have hedge : ∀ x y, Edge u.hierarchy.interfaces x y → Edge u'.hierarchy.interfaces x y :=
    fun x _ hy => h.interfaces_subset x hy
  exact ⟨b, hb, j, h.interfaces_subset b hj, ReflTransGen.mono hedge _ _ hpath⟩

end Widens

/-! ## Restated universes -/

/-- Declarations that name the interfaces of a universe again, and nothing but what lies above. -/
structure Restates (u : Universe) (es : List ClassDeclaration) : Prop where
  widens : List.Forall₂ ClassDeclaration.Widens u.classes es
  above : ∀ e ∈ es, ∀ i ∈ e.interfaces, u.hierarchy.Below e.name i

theorem restates_of_reorders (h : List.Forall₂ ClassDeclaration.Reorders u.classes es) :
    u.Restates es where
  widens := h.imp fun _ _ hd => hd.widens
  above e he i hi := by
    obtain ⟨d, hd, hde⟩ := exists_related_left h he
    have hi := hde.interfaces.subset hi
    have hsuper : i ∈ u.hierarchy.supertypes e.name :=
      mem_supertypes.mpr ⟨d, hd, hde.name.symm, List.mem_append_right _ hi⟩
    exact .single hsuper

namespace Restates

theorem below_of_mem_supertypes (h : u.Restates es) {e} (he : e ∈ es) (hb : b ∈ e.supertypes) :
    u.hierarchy.Below e.name b := by
  obtain ⟨d, hd, hde⟩ := exists_related_left h.widens he
  rcases hde.mem_supertypes hb with hb | hb
  · have hsuper : b ∈ u.hierarchy.supertypes e.name := mem_supertypes.mpr ⟨d, hd, hde.name.symm, hb⟩
    exact .single hsuper
  · exact h.above e he b hb

theorem exists_ofClasses (h : u.Restates es) : ∃ u', ofClasses es = .ok u' ∧ u'.classes = es := by
  have hacyclic : ∀ a, ¬ TransGen (Inherits es) a a := by
    intro a hcycle
    -- Every edge stays above its class, so a cycle would have been one of the universe.
    refine u.not_below_self a (TransGen.closed ?_ a a hcycle)
    rintro _ b ⟨⟨e, he, rfl, hb⟩, _⟩
    exact h.below_of_mem_supertypes he hb
  have hnodup : (es.map (·.name)).Nodup := by
    rw [map_name_of_widens h.widens]
    exact u.nodup
  obtain ⟨u', hu'⟩ := exists_ofClasses_iff.mpr ⟨hnodup, hacyclic⟩
  exact ⟨u', hu', (ofClasses_eq_ok hu').1⟩

variable (h : u.Restates u'.classes)
include h

theorem isSubclass (a b : ClassName) : u'.hierarchy.isSubclass a b = u.hierarchy.isSubclass a b := by
  have hwidens : u.Widens u' := h.widens
  have hbelow : u'.hierarchy.Below a b ↔ u.hierarchy.Below a b := by
    refine ⟨TransGen.closed (fun a b hedge => ?_) a b, hwidens.below⟩
    obtain ⟨e, he, rfl, hb⟩ := mem_supertypes.mp hedge
    exact h.below_of_mem_supertypes he hb
  rw [Bool.eq_iff_iff, Hierarchy.isSubclass_iff, Hierarchy.isSubclass_iff, hbelow]

theorem rooted (hroot : u.Rooted) : u'.Rooted := by
  rintro e he hobject
  refine List.eq_nil_iff_forall_not_mem.mpr fun b hb => ?_
  have hbelow := h.below_of_mem_supertypes he hb
  rw [hobject] at hbelow
  exact hroot.ordered.not_below hbelow

end Restates

end Universe

/-! ## One interface more -/

/-- Class `z` names the interface `t` at the end of its list. -/
def ClassDeclaration.naming (z t : ClassName) (d : ClassDeclaration) : ClassDeclaration :=
  if d.name = z then { d with interfaces := d.interfaces ++ [t] } else d

section

variable {u u' : Universe} {z t i : ClassName} {d : ClassDeclaration}

theorem resembles_naming : d.Resembles (d.naming z t) := by
  unfold ClassDeclaration.naming
  split
  · exact ⟨rfl, rfl, rfl, rfl⟩
  · exact .refl d

theorem mem_interfaces_naming :
    i ∈ (d.naming z t).interfaces ↔ i ∈ d.interfaces ∨ d.name = z ∧ i = t := by
  unfold ClassDeclaration.naming
  split
  · rename_i hname
    simp [hname]
  · rename_i hname
    simp [hname]

theorem widens_naming : d.Widens (d.naming z t) :=
  ⟨resembles_naming, fun _ hi => mem_interfaces_naming.mpr (Or.inl hi)⟩

namespace Universe

theorem restates_naming (ht : u.hierarchy.HasInterface z t) :
    u.Restates (u.classes.map (·.naming z t)) where
  widens := List.forall₂_map_right_iff.mpr (List.forall₂_same.mpr fun _ _ => widens_naming)
  above := by
    intro e he i hi
    obtain ⟨d, hd, rfl⟩ := List.mem_map.mp he
    rw [resembles_naming.name]
    rcases mem_interfaces_naming.mp hi with hi | ⟨rfl, rfl⟩
    · have hsuper : i ∈ u.hierarchy.supertypes d.name :=
        mem_supertypes.mpr ⟨d, hd, rfl, List.mem_append_right _ hi⟩
      exact .single hsuper
    · exact ht.below

/-- An interface that lay above a class already leads nowhere new from there. -/
theorem hasInterface_naming (ht : u.hierarchy.HasInterface z t)
    (hclasses : u'.classes = u.classes.map (·.naming z t)) :
    u'.hierarchy.HasInterface z i ↔ u.hierarchy.HasInterface z i := by
  have hwidens : u.Widens u' := by
    rw [Widens, hclasses]
    exact (restates_naming ht).widens
  have hedge : ∀ {a j}, j ∈ u'.hierarchy.interfaces a →
      j ∈ u.hierarchy.interfaces a ∨ a = z ∧ j = t := by
    intro a j hj
    obtain ⟨e, he, rfl, hje⟩ := mem_interfaces.mp hj
    rw [hclasses] at he
    obtain ⟨d, hd, rfl⟩ := List.mem_map.mp he
    rw [resembles_naming.name]
    exact (mem_interfaces_naming.mp hje).imp_left fun hjd => mem_interfaces.mpr ⟨d, hd, rfl, hjd⟩
  refine ⟨?_, hwidens.hasInterface⟩
  rintro ⟨b, hb, j, hj, hpath⟩
  rw [hwidens.superclasses] at hb
  -- By induction on the path, all that it passes lay above `z` before.
  induction hpath with
  | refl =>
      rcases hedge hj with hj | ⟨_, rfl⟩
      · exact ⟨b, hb, j, hj, .refl⟩
      · exact ht
  | tail _ hlast ih =>
      rcases hedge hlast with hlast | ⟨_, rfl⟩
      · exact ih.tail hlast
      · exact ht

end Universe

end

end Devirt

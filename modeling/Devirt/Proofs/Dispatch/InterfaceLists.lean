import Devirt.Proofs.Dispatch.StrictRule

/-!
# Strict calls and the lists of interfaces

Interfaces can be listed in another order, and one that lies above a class anyway can be named once
more. Such lists lead to the same declarations, so the same ones are best. But a further edge can lead
past a declaration at which the search turned back, to a default method behind it. If no declaration
is best alone, this turns a method that stays abstract into an ambiguous one.
-/

namespace Devirt

open Relation Devirt.Graph Diamond

namespace Universe

variable {u u' : Universe} {m : MethodSignature} {a i z t : ClassName} {sub : SubSignature}
  {start start' : ClassDeclaration}

/-! ## Searching a wider universe -/

namespace Widens

variable (h : u.Widens u')
include h

theorem searchStep_subset (c : ClassName) : u.view.searchStep sub c ⊆ u'.view.searchStep sub c := by
  rcases h.class?_cases c with ⟨hd, _⟩ | ⟨d, e, hd, he, hde⟩
  · simp [View.searchStep, hd]
  · simp only [View.searchStep, hd, he, hde.method?]
    split
    · simp
    · exact hde.interfaces

theorem chain_interfaces_subset (hstart : u.view.class? a = some start)
    (hstart' : u'.view.class? a = some start') :
    (u.view.chain start).flatMap (·.interfaces) ⊆
      (u'.view.chain start').flatMap (·.interfaces) := by
  intro j hj
  obtain ⟨d, hd, hjd⟩ := List.mem_flatMap.mp hj
  obtain ⟨b, hb, hd⟩ := (View.mem_chain hstart).mp hd
  obtain ⟨e, he, hde⟩ := h.exists_class? hd
  have hb : b ∈ a :: u'.hierarchy.superclasses a := by rwa [h.superclasses]
  exact List.mem_flatMap.mpr ⟨e, (View.mem_chain hstart').mpr ⟨b, hb, he⟩, hde.interfaces hjd⟩

theorem found_subset (hstart : u.view.class? a = some start)
    (hstart' : u'.view.class? a = some start') :
    u.view.found (u.view.chain start) sub ⊆ u'.view.found (u'.view.chain start') sub := by
  intro d hd
  obtain ⟨i, hi, hd⟩ := View.mem_found.mp hd
  obtain ⟨j, hj, hjn, hpath⟩ := mem_explore.mp hi
  have hnames : u'.view.classes.map (·.name) = u.view.classes.map (·.name) := h.names
  have hpath : ReflTransGen (EdgeWithin (u'.view.searchStep sub) (u.view.classes.map (·.name))) j i :=
    ReflTransGen.mono (fun a b hab => ⟨h.searchStep_subset a hab.1, hab.2⟩) _ _ hpath
  rw [← hnames] at hjn hpath
  rw [← h.method?] at hd
  refine View.mem_found.mpr ⟨i, mem_explore.mpr ⟨j, ?_, hjn, hpath⟩, hd⟩
  exact h.chain_interfaces_subset hstart hstart' hj

/-- A search through wider lists meets a default method whenever the other one does. -/
theorem no_default (hdefaults : (u'.view.searchFor m).defaults = []) :
    (u.view.searchFor m).defaults = [] := by
  rcases h.class?_cases m.owner with ⟨hstart, _⟩ | ⟨start, start', hstart, hstart', _⟩
  · rw [View.searchFor_of_unresolved hstart]
  · rw [View.searchFor_of_class? hstart'] at hdefaults
    rw [View.searchFor_of_class? hstart]
    refine List.eq_nil_iff_forall_not_mem.mpr fun d hd => ?_
    obtain ⟨hfound, hconcrete⟩ := View.mem_defaults.mp hd
    have hd' := View.mem_defaults.mpr ⟨h.found_subset hstart hstart' hfound, hconcrete⟩
    simp [hdefaults] at hd'

theorem findSome?_chain (hstart : u.view.class? a = some start)
    (hstart' : u'.view.class? a = some start') :
    (u'.view.chain start').findSome? (·.method? sub) =
      (u.view.chain start).findSome? (·.method? sub) := by
  rw [View.findSome?_chain hstart, View.findSome?_chain hstart']
  show (a :: u'.hierarchy.superclasses a).findSome? _ = (a :: u.hierarchy.superclasses a).findSome? _
  simp only [h.superclasses, h.method?]

theorem interfaceDeclarations_eq
    (hinterfaces : ∀ i, u'.hierarchy.HasInterface m.owner i ↔ u.hierarchy.HasInterface m.owner i) :
    u'.interfaceDeclarations m = u.interfaceDeclarations m := by
  ext d
  simp only [interfaceDeclarations, Set.mem_ofPred_eq, hinterfaces, h.method?]

end Widens

/-! ## When the outcome stays the same -/

theorem classOutcome_eq_of_resembles {d : MethodDeclaration} (h : start.Resembles start') :
    View.classOutcome start' d = View.classOutcome start d := by
  simp only [View.classOutcome, h.isAbstract, h.name]

/-- The lists of the second universe let the search meet a default method that it missed before, and
no declaration is best alone. -/
structure Uncovers (u u' : Universe) (m : MethodSignature) : Prop where
  undeclared : ∀ c ∈ m.owner :: u.hierarchy.superclasses m.owner, u.view.method? ⟨c, m.sub⟩ = none
  missed : (u.view.searchFor m).defaults = []
  met : (u'.view.searchFor m).defaults ≠ []
  several : ∀ d, u.best m ≠ {d}

namespace Restates

variable (h : u.Restates u'.classes)
include h

theorem best_eq (hsame : u'.interfaceDeclarations m = u.interfaceDeclarations m) :
    u'.best m = u.best m := by
  ext d
  simp only [best, Hierarchy.maximallySpecific, Hierarchy.MoreSpecific, hsame, h.isSubclass]

/-- What happens where a missed default method is met. -/
theorem outcomeKind_of_uncovers (hroot : u.Rooted)
    (hsame : u'.interfaceDeclarations m = u.interfaceDeclarations m) (hu : u.Uncovers u' m) :
    ∃ start, u.view.class? m.owner = some start ∧
      outcomeKind (u.view.concreteTarget .strict m) = .unimplemented start ∧
      outcomeKind (u'.view.concreteTarget .strict m) =
        .ambiguousDefaultMethod (MethodDeclaration.signature '' u.best m) := by
  have hwidens : u.Widens u' := h.widens
  rcases hwidens.class?_cases m.owner with ⟨_, hstart'⟩ | ⟨start, start', hstart, hstart', _⟩
  · exact absurd (by rw [View.searchFor_of_unresolved hstart']) hu.met
  · have hnone := (View.chain_declares_nothing hstart).mpr hu.undeclared
    have hnone' : (u'.view.chain start').findSome? (·.method? m.sub) = none := by
      rw [hwidens.findSome?_chain hstart hstart', hnone]
    have hbest := h.best_eq hsame
    have hne : u.interfaceDeclarations m ≠ ∅ := by
      intro hempty
      rw [← hsame, interfaceDeclarations_eq_empty_iff hstart'] at hempty
      refine hu.met ?_
      rw [View.searchFor_of_class? hstart']
      exact (List.append_eq_nil_iff.mp hempty).1
    refine ⟨start, hstart, outcomeKind_of_no_default hstart hnone hne hu.missed, ?_⟩
    rw [← hbest]
    exact outcomeKind_of_several hstart' hnone' (h.rooted hroot) (hbest ▸ hu.several) hu.met

theorem outcomeKind_eq_of_searched (hroot : u.Rooted)
    (hsame : u'.interfaceDeclarations m = u.interfaceDeclarations m)
    (hstart : u.view.class? m.owner = some start)
    (hnone : (u.view.chain start).findSome? (·.method? m.sub) = none) (hu : ¬ u.Uncovers u' m) :
    outcomeKind (u'.view.concreteTarget .strict m) =
      outcomeKind (u.view.concreteTarget .strict m) := by
  have hwidens : u.Widens u' := h.widens
  have hroot' : u'.Rooted := h.rooted hroot
  obtain ⟨start', hstart', hresembles⟩ := hwidens.exists_class? hstart
  have hnone' : (u'.view.chain start').findSome? (·.method? m.sub) = none := by
    rw [hwidens.findSome?_chain hstart hstart', hnone]
  have hunimplemented : OutcomeKind.unimplemented start' = .unimplemented start := by
    simp only [OutcomeKind.unimplemented, hresembles.isAbstract]
  have hbest := h.best_eq hsame
  by_cases hempty : u.interfaceDeclarations m = ∅
  · rw [outcomeKind_of_nothing hstart hnone hempty,
      outcomeKind_of_nothing hstart' hnone' (hsame.trans hempty)]
  by_cases hsingle : ∃ d, u.best m = {d}
  · obtain ⟨d, hd⟩ := hsingle
    rw [outcomeKind_of_single hstart hnone hroot hd,
      outcomeKind_of_single hstart' hnone' hroot' (hbest.trans hd), hunimplemented]
  have hseveral : ∀ d, u.best m ≠ {d} := not_exists.mp hsingle
  -- Only here does it count whether a search met a default method.
  by_cases hmissed : (u.view.searchFor m).defaults = []
  · have hmissed' : (u'.view.searchFor m).defaults = [] := by
      by_contra hmet
      exact hu ⟨(View.chain_declares_nothing hstart).mp hnone, hmissed, hmet, hseveral⟩
    rw [outcomeKind_of_no_default hstart hnone hempty hmissed,
      outcomeKind_of_no_default hstart' hnone' (hsame ▸ hempty) hmissed', hunimplemented]
  · have hmet' : (u'.view.searchFor m).defaults ≠ [] := fun hmissed' =>
      hmissed (hwidens.no_default hmissed')
    rw [outcomeKind_of_several hstart hnone hroot hseveral hmissed,
      outcomeKind_of_several hstart' hnone' hroot' (hbest ▸ hseveral) hmet', hbest]

theorem outcomeKind_eq (hroot : u.Rooted)
    (hsame : u'.interfaceDeclarations m = u.interfaceDeclarations m) (hu : ¬ u.Uncovers u' m) :
    outcomeKind (u'.view.concreteTarget .strict m) =
      outcomeKind (u.view.concreteTarget .strict m) := by
  have hwidens : u.Widens u' := h.widens
  cases u.view.stage m with
  | unresolved hstart =>
      rw [View.concreteTarget_of_unresolved hstart,
        View.concreteTarget_of_unresolved (hwidens.class?_eq_none hstart)]
  | declared start d hstart hd =>
      obtain ⟨start', hstart', hresembles⟩ := hwidens.exists_class? hstart
      have hd' : (u'.view.chain start').findSome? (·.method? m.sub) = some d := by
        rw [hwidens.findSome?_chain hstart hstart', hd]
      rw [View.concreteTarget_of_declared hstart hd, View.concreteTarget_of_declared hstart' hd',
        classOutcome_eq_of_resembles hresembles.toResembles]
  | searched start hstart hnone => exact h.outcomeKind_eq_of_searched hroot hsame hstart hnone hu

theorem outcomeKind_eq_iff (hroot : u.Rooted)
    (hsame : u'.interfaceDeclarations m = u.interfaceDeclarations m) :
    outcomeKind (u'.view.concreteTarget .strict m) = outcomeKind (u.view.concreteTarget .strict m) ↔
      ¬ u.Uncovers u' m := by
  refine ⟨fun heq hu => ?_, h.outcomeKind_eq hroot hsame⟩
  obtain ⟨start, _, hkind, hkind'⟩ := h.outcomeKind_of_uncovers hroot hsame hu
  rw [hkind, hkind'] at heq
  exact OutcomeKind.unimplemented_ne_ambiguous heq.symm

end Restates

end Universe

/-! ## Another order -/

/-- The order in which classes and interfaces list their interfaces does not matter to a strict call:
the same target or nothing to run, or an error of the same kind, with the same candidates. -/
theorem strict_interface_order (u : Universe) (hroot : u.Rooted) (classes : List ClassDeclaration)
    (h : List.Forall₂ ClassDeclaration.Reorders u.classes classes) :
    ∃ u', Universe.ofClasses classes = .ok u' ∧ u'.classes = classes ∧
      ∀ m, outcomeKind (u'.view.concreteTarget .strict m) =
        outcomeKind (u.view.concreteTarget .strict m) := by
  have hrestates : u.Restates classes := Universe.restates_of_reorders h
  obtain ⟨u', hu', rfl⟩ := hrestates.exists_ofClasses
  have hwidens : u.Widens u' := hrestates.widens
  -- The lists of either universe are as wide as those of the other one.
  have hnarrows : u'.Widens u :=
    List.Forall₂.flip (h.imp fun _ _ hd => hd.symm.widens)
  refine ⟨u', hu', rfl, fun m => hrestates.outcomeKind_eq hroot ?_ fun hu => ?_⟩
  · exact hwidens.interfaceDeclarations_eq fun i => ⟨hnarrows.hasInterface, hwidens.hasInterface⟩
  · exact hu.met (hnarrows.no_default hu.missed)

/-- All interfaces of the diamond listed the other way round, a call of `Derived` still runs `Left`. -/
theorem strict_interface_order_diamond :
    ∃ u', Universe.ofClasses (classes.map fun d => { d with interfaces := d.interfaces.reverse }) =
        .ok u' ∧
      u'.view.concreteTarget .strict ⟨name "Derived", run⟩ = .ok (some ⟨name "Left", run⟩) := by
  have hreorders : List.Forall₂ ClassDeclaration.Reorders whole.classes
      (classes.map fun d => { d with interfaces := d.interfaces.reverse }) :=
    List.forall₂_map_right_iff.mpr
      (List.forall₂_same.mpr fun d _ => ⟨⟨rfl, rfl, rfl, rfl⟩, d.interfaces.reverse_perm⟩)
  obtain ⟨u', hu', _, hkind⟩ := strict_interface_order whole rooted _ hreorders
  have htarget : whole.view.concreteTarget .strict ⟨name "Derived", run⟩ =
      .ok (some ⟨name "Left", run⟩) := by cbv
  refine ⟨u', hu', outcomeKind_eq_target_iff.mp ?_⟩
  rw [hkind, htarget]
  rfl

/-! ## An interface named again -/

/-- A class can name an interface that lies above it once more. A strict call of its methods ends as
before, unless the search now meets a default method that it missed, and no declaration is best alone.
Then nothing was implemented before, and now the best declarations are candidates. -/
theorem strict_redundant_interface (u : Universe) (hroot : u.Rooted) (z t : ClassName)
    (ht : t ∈ u.hierarchy.allInterfaces z) :
    ∃ u', Universe.ofClasses (u.classes.map (·.naming z t)) = .ok u' ∧
      ∀ m : MethodSignature, m.owner = z →
        (outcomeKind (u'.view.concreteTarget .strict m) =
            outcomeKind (u.view.concreteTarget .strict m) ↔ ¬ u.Uncovers u' m) ∧
        (u.Uncovers u' m → ∃ start, u.view.class? z = some start ∧
          outcomeKind (u.view.concreteTarget .strict m) = .unimplemented start ∧
          outcomeKind (u'.view.concreteTarget .strict m) =
            .ambiguousDefaultMethod (MethodDeclaration.signature '' u.best m)) := by
  have hinterface : u.hierarchy.HasInterface z t := Hierarchy.mem_allInterfaces.mp ht
  have hrestates := Universe.restates_naming hinterface
  obtain ⟨u', hu', hclasses⟩ := hrestates.exists_ofClasses
  rw [← hclasses] at hrestates
  have hwidens : u.Widens u' := hrestates.widens
  refine ⟨u', hu', fun m hm => ?_⟩
  obtain rfl := hm
  have hsame : u'.interfaceDeclarations m = u.interfaceDeclarations m :=
    hwidens.interfaceDeclarations_eq fun _ => Universe.hasInterface_naming hinterface hclasses
  exact ⟨hrestates.outcomeKind_eq_iff hroot hsame, hrestates.outcomeKind_of_uncovers hroot hsame⟩

/-- `Derived` can name `Left`, which it inherits through `Base`. -/
theorem strict_redundant_interface_diamond :
    ∃ u', Universe.ofClasses (whole.classes.map (·.naming (name "Derived") (name "Left"))) = .ok u' ∧
      u'.view.concreteTarget .strict ⟨name "Derived", run⟩ = .ok (some ⟨name "Left", run⟩) := by
  have hleft : name "Left" ∈ whole.hierarchy.allInterfaces (name "Derived") := by
    have hall : whole.hierarchy.allInterfaces (name "Derived") =
        [name "Top", name "Right", name "Left"] := by cbv
    simp [hall]
  obtain ⟨u', hu', hkind⟩ := strict_redundant_interface whole rooted _ _ hleft
  have hmet : (whole.view.searchFor ⟨name "Derived", run⟩).defaults =
      [method (name "Left") 0x0001] := by cbv
  have hcovered : ¬ whole.Uncovers u' ⟨name "Derived", run⟩ := by
    intro hu
    have hmissed := hu.missed
    simp [hmet] at hmissed
  have htarget : whole.view.concreteTarget .strict ⟨name "Derived", run⟩ =
      .ok (some ⟨name "Left", run⟩) := by cbv
  refine ⟨u', hu', outcomeKind_eq_target_iff.mp ?_⟩
  rw [(hkind _ rfl).1.mpr hcovered, htarget]
  rfl

namespace Diamond

/-- Both sides leave the method of `Top` abstract again, and `Leaf` is abstract as well. -/
def redeclaring : List ClassDeclaration :=
  [declare (name "Top") 0x0601 .object [] (some 0x0001),
    declare (name "Left") 0x0601 .object [name "Top"] (some 0x0401),
    declare (name "Right") 0x0601 .object [name "Top"] (some 0x0401),
    declare (name "Leaf") 0x0401 .object [name "Left", name "Right"] none]

def redeclared : Universe := ⟨redeclaring, by decide, by cbv⟩

end Diamond

/-- Nothing runs for `Leaf`, as the search meets abstract declarations only. Once `Leaf` names `Top`, it
meets the method of `Top` as well, and the same two declarations are candidates. -/
theorem strict_redundant_interface_ambiguous :
    let m : MethodSignature := ⟨name "Leaf", run⟩
    redeclared.Rooted ∧ name "Top" ∈ redeclared.hierarchy.allInterfaces m.owner ∧
    redeclared.view.concreteTarget .strict m = .ok none ∧
    ∃ u', Universe.ofClasses (redeclared.classes.map (·.naming m.owner (name "Top"))) = .ok u' ∧
      u'.view.concreteTarget .strict m =
        .error (.ambiguousDefaultMethod m [⟨name "Left", run⟩, ⟨name "Right", run⟩]) := by
  intro m
  have hrooted : redeclared.Rooted := by
    unfold Universe.Rooted
    decide
  have hall : redeclared.hierarchy.allInterfaces m.owner =
      [name "Left", name "Right", name "Top"] := by cbv
  have htop : name "Top" ∈ redeclared.hierarchy.allInterfaces m.owner := by simp [hall]
  have hrestates := Universe.restates_naming (Hierarchy.mem_allInterfaces.mp htop)
  obtain ⟨⟨_, nodup, acyclic⟩, hu', rfl⟩ := hrestates.exists_ofClasses
  exact ⟨hrooted, htop, by cbv, ⟨_, nodup, acyclic⟩, hu', by cbv⟩

end Devirt

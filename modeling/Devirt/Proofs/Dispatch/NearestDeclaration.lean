import Devirt.Proofs.Dispatch.InterfaceLists

/-!
# Methods that a class declares or inherits from a superclass

The nearest declaration among a class and its superclasses decides a call. What the interfaces declare
is not even looked at, so universes that differ in their interfaces alone, or in classes off the chain,
agree on the call.
-/

namespace Devirt

open Diamond

namespace Universe

variable {u u' : Universe} {m : MethodSignature} {start start' : ClassDeclaration}
  {d : MethodDeclaration} {a : ClassName} {policy : DiamondPolicy}

/-- The declaration of the first class that declares a method, among its class and the superclasses of
that. -/
def nearest? (u : Universe) (m : MethodSignature) : Option MethodDeclaration :=
  (m.owner :: u.hierarchy.superclasses m.owner).findSome? fun c => u.view.method? ⟨c, m.sub⟩

theorem concreteTarget_of_nearest? (hstart : u.view.class? m.owner = some start)
    (hd : u.nearest? m = some d) :
    u.view.concreteTarget policy m = View.classOutcome start d :=
  View.concreteTarget_of_declared hstart ((View.findSome?_chain hstart).trans hd)

/-! ## Universes with the same chain -/

/-- A class and its superclasses are declared in both universes, and nothing but their interfaces is
different. -/
def SharesChain (u u' : Universe) (a : ClassName) : Prop :=
  ∀ c ∈ a :: u.hierarchy.superclasses a,
    ∃ d e, u.view.class? c = some d ∧ u'.view.class? c = some e ∧ d.Resembles e

/-- The other universe can declare further superclasses, but only behind the shared ones. -/
theorem SharesChain.superclasses_isPrefix (h : u.SharesChain u' a) :
    u.hierarchy.superclasses a <+: u'.hierarchy.superclasses a := by
  induction hchain : u.hierarchy.superclasses a generalizing a with
  | nil => exact List.nil_prefix
  | cons p rest ih =>
      obtain ⟨hp, hdeclared, rfl⟩ := superclasses_eq_cons_iff.mp hchain
      obtain ⟨d, e, hd, he, hde⟩ := h a List.mem_cons_self
      have hrest : u.SharesChain u' p := by
        intro c hc
        rw [← hchain] at hc
        exact h c (List.mem_cons_of_mem _ hc)
      obtain ⟨_, e', _, he', _⟩ := hrest p List.mem_cons_self
      have hp' : u'.hierarchy.superclass? a = some p := by
        rw [superclass?_of_class? he, hde.superclass?, ← superclass?_of_class? hd, hp]
      rw [superclasses_eq_cons hp' (contains_of_class? he'), List.cons_prefix_cons]
      exact ⟨rfl, ih hrest rfl⟩

theorem SharesChain.nearest? (h : u.SharesChain u' m.owner) (hd : u.nearest? m = some d) :
    u'.nearest? m = some d := by
  have hprefix : m.owner :: u.hierarchy.superclasses m.owner <+:
      m.owner :: u'.hierarchy.superclasses m.owner :=
    List.cons_prefix_cons.mpr ⟨rfl, h.superclasses_isPrefix⟩
  refine hprefix.findSome?_eq_some ?_
  rw [Universe.nearest?, ← List.head?_filterMap] at hd
  rw [← List.head?_filterMap, ← hd]
  refine congrArg List.head? (List.filterMap_congr fun c hc => ?_)
  obtain ⟨e, e', he, he', hresembles⟩ := h c hc
  rw [View.method?_of_class? he, View.method?_of_class? he', hresembles.method?]

end Universe

/-- The first class that declares a method, out of its class and the superclasses of that, decides the
call under both policies. An implementation is run. An abstract declaration is an error, unless an
abstract class or an interface inherits it. Another universe answers in the same way if the class and its
superclasses are declared in it with the same superclasses, modifiers and methods, whatever interfaces
they name and whatever these declare. -/
theorem concreteTarget_nearest (u : Universe) (m : MethodSignature) (start : ClassDeclaration)
    (hstart : u.view.class? m.owner = some start) (d : MethodDeclaration)
    (hd : u.nearest? m = some d) :
    (∀ policy, u.view.concreteTarget policy m =
      if d.isAbstract = false then .ok (some d.signature)
      else if start.isAbstract ∧ d.owner ≠ m.owner then .ok none
      else .error (.abstractMethod d.signature)) ∧
    ∀ u' : Universe, u.SharesChain u' m.owner → ∀ policy policy',
      u'.view.concreteTarget policy' m = u.view.concreteTarget policy m := by
  refine ⟨fun policy => ?_, fun u' hshares policy policy' => ?_⟩
  · have hname : start.name = m.owner := View.name_of_class? hstart
    rw [Universe.concreteTarget_of_nearest? hstart hd, View.classOutcome, hname]
    simp only [Bool.not_eq_true', Bool.and_eq_true, decide_eq_true_eq]
  · obtain ⟨e, start', he, hstart', hresembles⟩ := hshares m.owner List.mem_cons_self
    obtain rfl : e = start := Option.some.inj (he.symm.trans hstart)
    rw [Universe.concreteTarget_of_nearest? hstart hd,
      Universe.concreteTarget_of_nearest? hstart' (hshares.nearest? hd),
      Universe.classOutcome_eq_of_resembles hresembles]

namespace Diamond

/-- `Upper` leaves its method abstract. `Middle`, which is abstract as well, and `Lower` extend it. -/
def unimplementing (interfaces : List ClassName) : List ClassDeclaration :=
  [declare (name "Upper") 0x0401 .object [] (some 0x0401),
    declare (name "Middle") 0x0401 (name "Upper") interfaces none,
    declare (name "Lower") 0x0001 (name "Middle") [] none]

def unoffered : Universe := ⟨unimplementing [], by decide, by cbv⟩

/-- `Middle` is offered an implementation by an interface. -/
def offered : Universe :=
  ⟨unimplementing [name "Offer"] ++ [declare (name "Offer") 0x0601 .object [] (some 0x0001)],
    by decide, by cbv⟩

end Diamond

/-- Nothing runs for `Middle`, and `Lower` is refused, whether or not an interface offers an
implementation. -/
theorem concreteTarget_nearest_unimplemented :
    let m : MethodSignature := ⟨name "Middle", run⟩
    let upper := method (name "Upper") 0x0401
    unoffered.nearest? m = some upper ∧ unoffered.nearest? ⟨name "Lower", run⟩ = some upper ∧
    unoffered.SharesChain offered m.owner ∧
    ∀ policy, unoffered.view.concreteTarget policy m = .ok none ∧
      offered.view.concreteTarget policy m = .ok none ∧
      unoffered.view.concreteTarget policy ⟨name "Lower", run⟩ =
        .error (.abstractMethod ⟨name "Upper", run⟩) := by
  intro m upper
  have hmiddle : unoffered.view.class? m.owner =
      some (declare (name "Middle") 0x0401 (name "Upper") [] none) := by cbv
  have hlower : unoffered.view.class? (name "Lower") =
      some (declare (name "Lower") 0x0001 (name "Middle") [] none) := by cbv
  have hnearest : unoffered.nearest? m = some upper := by cbv
  have hnearest' : unoffered.nearest? ⟨name "Lower", run⟩ = some upper := by cbv
  have hchain : m.owner :: unoffered.hierarchy.superclasses m.owner =
      [name "Middle", name "Upper"] := by cbv
  have hshares : unoffered.SharesChain offered m.owner := by
    rw [Universe.SharesChain, hchain]
    simp only [List.forall_mem_cons]
    refine ⟨⟨_, _, hmiddle, rfl, ⟨rfl, rfl, rfl, rfl⟩⟩, ⟨_, _, rfl, rfl, ⟨rfl, rfl, rfl, rfl⟩⟩, ?_⟩
    simp
  obtain ⟨htarget, hother⟩ := concreteTarget_nearest unoffered m _ hmiddle upper hnearest
  obtain ⟨htarget', _⟩ :=
    concreteTarget_nearest unoffered ⟨name "Lower", run⟩ _ hlower upper hnearest'
  have hnone : ∀ policy, unoffered.view.concreteTarget policy m = .ok none := fun policy =>
    (htarget policy).trans (by decide)
  exact ⟨hnearest, hnearest', hshares, fun policy => ⟨hnone policy,
    (hother offered hshares policy policy).trans (hnone policy),
    (htarget' policy).trans (by decide)⟩⟩

end Devirt

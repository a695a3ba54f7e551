import Devirt.Proofs.Dispatch.Outcome
import Devirt.Proofs.Hierarchy.Superclasses

/-!
# Subclasses that add nothing

A class that names no interface and does not declare a method has the chain of its superclass with
itself in front, and the search through interfaces is the same from both. So a call on it has the target
that the call on its superclass has. What differs is how the two end without a target: an abstract class
may inherit an abstract method.
-/

namespace Devirt

open Relation Diamond

/-! ## Outcomes that agree -/

/-- Two calls, of `m` and of `m'`, have the same target, are ambiguous between the same candidates, or
have no implementation, or none of these holds of either. Every error is about the call itself. -/
structure Agree (m m' : MethodSignature) (o o' : Except DispatchError (Option MethodSignature)) :
    Prop where
  target : ∀ t, o = .ok (some t) ↔ o' = .ok (some t)
  ambiguous : ∀ n candidates, o = .error (.ambiguousDefaultMethod n candidates) ↔
    n = m ∧ o' = .error (.ambiguousDefaultMethod m' candidates)
  nothing : ∀ n, o = .error (.noConcreteImplementation n) ↔
    n = m ∧ o' = .error (.noConcreteImplementation m')

section

variable {m m' m'' : MethodSignature} {o o' o'' : Except DispatchError (Option MethodSignature)}
  {start start' : ClassDeclaration} {d : MethodDeclaration} {h : Hierarchy} {policy : DiamondPolicy}

theorem Agree.trans (h : Agree m m' o o') (h' : Agree m' m'' o' o'') : Agree m m'' o o'' where
  target t := (h.target t).trans (h'.target t)
  ambiguous n candidates := by
    rw [h.ambiguous, h'.ambiguous]
    simp
  nothing n := by
    rw [h.nothing, h'.nothing]
    simp

/-- An outcome without a target, since all that is inherited is abstract. -/
inductive Unimplemented : Except DispatchError (Option MethodSignature) → Prop
  | inherited : Unimplemented (.ok none)
  | refused (n : MethodSignature) : Unimplemented (.error (.abstractMethod n))

theorem Unimplemented.agree (h : Unimplemented o) (h' : Unimplemented o') : Agree m m' o o' := by
  cases h <;> cases h' <;> exact ⟨by simp, by simp, by simp⟩

theorem agree_target (t : Option MethodSignature) : Agree m m' (.ok t) (.ok t) :=
  ⟨by simp, by simp, by simp⟩

theorem unimplemented_abstractOutcome : Unimplemented (View.abstractOutcome start d) := by
  unfold View.abstractOutcome
  split
  · exact .inherited
  · exact .refused _

theorem unimplemented_classOutcome (habstract : d.isAbstract = true) :
    Unimplemented (View.classOutcome start d) := by
  simp only [View.classOutcome, habstract, Bool.not_true, Bool.false_eq_true, if_false]
  split
  · exact .inherited
  · exact .refused _

theorem agree_classOutcome :
    Agree m m' (View.classOutcome start d) (View.classOutcome start' d) := by
  cases habstract : d.isAbstract with
  | false =>
      rw [classOutcome_of_concrete habstract, classOutcome_of_concrete habstract]
      exact agree_target _
  | true =>
      exact (unimplemented_classOutcome habstract).agree (unimplemented_classOutcome habstract)

theorem agree_ambiguous (candidates : List MethodSignature) :
    Agree m m' (.error (.ambiguousDefaultMethod m candidates))
      (.error (.ambiguousDefaultMethod m' candidates)) :=
  ⟨by simp, by simp [eq_comm], by simp⟩

theorem agree_nothing :
    Agree m m' (.error (.noConcreteImplementation m)) (.error (.noConcreteImplementation m')) :=
  ⟨by simp, by simp, by simp [eq_comm]⟩

theorem agree_chooseDefault {ds : List MethodDeclaration} :
    Agree m m' (View.chooseDefault h policy m ds) (View.chooseDefault h policy m' ds) := by
  unfold View.chooseDefault
  dsimp only
  split
  · exact agree_ambiguous _
  · exact agree_target _

theorem agree_defaultOutcome {search : DefaultSearch} :
    Agree m m' (View.defaultOutcome h policy start m search)
      (View.defaultOutcome h policy start' m' search) := by
  unfold View.defaultOutcome
  cases policy with
  | discoveryOrder => exact agree_chooseDefault
  | strict =>
      dsimp only
      split
      · exact agree_chooseDefault
      · split
        · exact unimplemented_abstractOutcome.agree unimplemented_abstractOutcome
        · exact agree_chooseDefault
      · exact agree_ambiguous _

/-- What a search found decides the call, from whichever class it was made. -/
theorem agree_searchOutcome {search : DefaultSearch} :
    Agree m m' (View.searchOutcome h policy start m search)
      (View.searchOutcome h policy start' m' search) := by
  cases search.finding with
  | nothing hdefaults habstracts =>
      rw [DefaultSearch.searchOutcome_of_nothing hdefaults habstracts,
        DefaultSearch.searchOutcome_of_nothing hdefaults habstracts]
      exact agree_nothing
  | onlyAbstract d hdefaults hd =>
      rw [DefaultSearch.searchOutcome_of_onlyAbstract hdefaults hd,
        DefaultSearch.searchOutcome_of_onlyAbstract hdefaults hd]
      exact unimplemented_abstractOutcome.agree unimplemented_abstractOutcome
  | defaults hdefaults =>
      rw [DefaultSearch.searchOutcome_of_defaults hdefaults,
        DefaultSearch.searchOutcome_of_defaults hdefaults]
      exact agree_defaultOutcome

end

/-! ## Calls from two classes -/

namespace View

variable {v : View} {m m' : MethodSignature} {start start' : ClassDeclaration}

/-- Two calls agree if the first declaration on their chains is the same and the searches through
interfaces are. -/
theorem agree_of_chains (policy : DiamondPolicy) (hsub : m'.sub = m.sub)
    (hstart : v.class? m.owner = some start) (hstart' : v.class? m'.owner = some start')
    (hdeclared : (v.chain start).findSome? (·.method? m.sub) =
      (v.chain start').findSome? (·.method? m.sub))
    (hinterfaces : (v.chain start).flatMap (·.interfaces) = (v.chain start').flatMap (·.interfaces)) :
    Agree m m' (v.concreteTarget policy m) (v.concreteTarget policy m') := by
  have hsearch : v.searchDefaults (v.chain start) m.sub = v.searchDefaults (v.chain start') m.sub := by
    rw [searchDefaults, searchDefaults, searchedInterfaces, searchedInterfaces, hinterfaces]
  cases hd : (v.chain start').findSome? (·.method? m.sub) with
  | some d =>
      rw [concreteTarget_of_declared hstart (hdeclared.trans hd),
        concreteTarget_of_declared hstart' (hsub ▸ hd)]
      exact agree_classOutcome
  | none =>
      rw [concreteTarget_of_searched hstart (hdeclared.trans hd),
        concreteTarget_of_searched hstart' (hsub ▸ hd), hsub, hsearch]
      exact agree_searchOutcome

/-- A call agrees with itself: what its errors are about is the call. -/
theorem agree_self (v : View) (policy : DiamondPolicy) (m : MethodSignature) :
    Agree m m (v.concreteTarget policy m) (v.concreteTarget policy m) := by
  cases hstart : v.class? m.owner with
  | none =>
      rw [concreteTarget_of_unresolved hstart]
      exact ⟨by simp, by simp, by simp⟩
  | some start => exact agree_of_chains policy rfl hstart hstart rfl rfl

end View

/-! ## Subclasses -/

namespace Universe

variable {u : Universe} {sub : SubSignature} {s p : ClassName}

/-- A class adds nothing to its declared superclass as far as a method is concerned: it names no
interface and does not declare the method. -/
structure AddsNothing (u : Universe) (sub : SubSignature) (s p : ClassName) : Prop where
  superclass : u.hierarchy.superclass? s = some p
  declared : u.hierarchy.contains p = true
  interfaces : u.hierarchy.interfaces s = []
  undeclared : u.view.method? ⟨s, sub⟩ = none

theorem chain_of_superclass {d e : ClassDeclaration} (hd : u.view.class? s = some d)
    (he : u.view.class? p = some e) (hp : u.hierarchy.superclass? s = some p) :
    u.view.chain d = d :: u.view.chain e := by
  have hsuper := superclasses_eq_cons hp (contains_of_class? he)
  rw [View.chain, View.chain, View.name_of_class? hd, View.name_of_class? he]
  show d :: (u.hierarchy.superclasses s).filterMap u.view.class? = _
  rw [hsuper, List.filterMap_cons_some he]
  rfl

theorem AddsNothing.agree (h : u.AddsNothing sub s p) (policy : DiamondPolicy) :
    Agree ⟨s, sub⟩ ⟨p, sub⟩ (u.view.concreteTarget policy ⟨s, sub⟩)
      (u.view.concreteTarget policy ⟨p, sub⟩) := by
  obtain ⟨d, (hd : u.view.class? s = some d), _⟩ := Option.bind_eq_some_iff.mp h.superclass
  obtain ⟨e, (he : u.view.class? p = some e)⟩ := Option.isSome_iff_exists.mp h.declared
  have hchain := chain_of_superclass hd he h.superclass
  have hundeclared : d.method? sub = none := (View.method?_of_class? hd).symm.trans h.undeclared
  have hinterfaces : d.interfaces = [] := (u.view_agrees s d hd).trans h.interfaces
  refine View.agree_of_chains policy rfl hd he ?_ ?_
  · rw [hchain, List.findSome?_cons, hundeclared]
  · rw [hchain, List.flatMap_cons, hinterfaces, List.nil_append]

/-- The same along a chain of subclasses, each of which adds nothing to the one above it. -/
theorem agree_of_addsNothing (h : ReflTransGen (u.AddsNothing sub) s p) (policy : DiamondPolicy) :
    Agree ⟨s, sub⟩ ⟨p, sub⟩ (u.view.concreteTarget policy ⟨s, sub⟩)
      (u.view.concreteTarget policy ⟨p, sub⟩) := by
  induction h with
  | refl => exact View.agree_self u.view policy ⟨s, sub⟩
  | tail _ hstep ih => exact ih.trans (hstep.agree policy)

end Universe

/-- A class below `p` that adds nothing, and whose superclasses below `p` add nothing either, inherits
what `p` has: the same target, the same candidates between which a call is ambiguous, or nothing. -/
theorem concreteTarget_adds_nothing (u : Universe) (policy : DiamondPolicy) (sub : SubSignature)
    (s p : ClassName) (h : ReflTransGen (u.AddsNothing sub) s p) :
    let ofSubclass := u.view.concreteTarget policy ⟨s, sub⟩
    let ofSuperclass := u.view.concreteTarget policy ⟨p, sub⟩
    (∀ t, ofSubclass = .ok (some t) ↔ ofSuperclass = .ok (some t)) ∧
    (∀ n candidates, ofSubclass = .error (.ambiguousDefaultMethod n candidates) ↔
      n = ⟨s, sub⟩ ∧ ofSuperclass = .error (.ambiguousDefaultMethod ⟨p, sub⟩ candidates)) ∧
    (∀ n, ofSubclass = .error (.noConcreteImplementation n) ↔
      n = ⟨s, sub⟩ ∧ ofSuperclass = .error (.noConcreteImplementation ⟨p, sub⟩)) :=
  have hagree := Universe.agree_of_addsNothing h policy
  ⟨hagree.target, hagree.ambiguous, hagree.nothing⟩

namespace Diamond

/-- `Stream` inherits a method from two interfaces. `Buffered` extends it, and the abstract `Pooled`
extends that. -/
def inheriting : List ClassDeclaration :=
  [declare (name "Reads") 0x0601 .object [] (some 0x0001),
    declare (name "Writes") 0x0601 .object [] (some 0x0001),
    declare (name "Stream") 0x0001 .object [name "Reads", name "Writes"] none,
    declare (name "Buffered") 0x0001 (name "Stream") [] none,
    declare (name "Pooled") 0x0401 (name "Buffered") [] none]

def inherited : Universe := ⟨inheriting, by decide, by cbv⟩

end Diamond

/-- A call of `Pooled` is ambiguous where a call of `Stream` is, and else has the same target. -/
theorem concreteTarget_adds_nothing_inherited :
    let pooled : MethodSignature := ⟨name "Pooled", run⟩
    let candidates : List MethodSignature := [⟨name "Reads", run⟩, ⟨name "Writes", run⟩]
    ReflTransGen (inherited.AddsNothing run) (name "Pooled") (name "Stream") ∧
    inherited.view.concreteTarget .discoveryOrder pooled = .ok (some ⟨name "Reads", run⟩) ∧
    inherited.view.concreteTarget .strict pooled =
      .error (.ambiguousDefaultMethod pooled candidates) := by
  intro pooled candidates
  have hpooled : inherited.AddsNothing run (name "Pooled") (name "Buffered") :=
    ⟨by cbv, by cbv, by cbv, by cbv⟩
  have hbuffered : inherited.AddsNothing run (name "Buffered") (name "Stream") :=
    ⟨by cbv, by cbv, by cbv, by cbv⟩
  have hchain : ReflTransGen (inherited.AddsNothing run) (name "Pooled") (name "Stream") :=
    .tail (.single hpooled) hbuffered
  obtain ⟨htarget, _, _⟩ := concreteTarget_adds_nothing inherited .discoveryOrder run _ _ hchain
  obtain ⟨_, hambiguous, _⟩ := concreteTarget_adds_nothing inherited .strict run _ _ hchain
  exact ⟨hchain, (htarget _).mpr (by cbv), (hambiguous _ _).mpr ⟨rfl, by cbv⟩⟩

end Devirt

import Devirt.Dispatch.Special
import Devirt.Proofs.Dispatch.Target

/-!
# Targets of special calls

A special call keeps its method as it is or is resolved from the class that it names, and resolution
only goes up. In an ordered hierarchy a call into a strict superclass therefore never comes back to the
class that makes it, nor to one below.
-/

namespace Devirt

open Diamond

/-- Above a strict superclass of a class there is nothing at or below that class. -/
theorem Hierarchy.Ordered.not_isSubclass_of_above {h : Hierarchy} {a b c : ClassName}
    (ho : h.Ordered) (hne : a ≠ b) (hab : h.isSubclass a b) (hbc : h.isSubclass b c) :
    ¬ h.isSubclass c a := fun hca =>
  hne (ho.isSubclass_antisymm hab (ho.isSubclass_trans hbc hca))

namespace View

variable {v : View} {call : Call} {container t : MethodSignature}

/-- The special calls that are not resolved: calls of constructors, of methods that are private in the
class they name, and of classes that are not above the container. -/
inductive KeepsMethod (v : View) (call : Call) (container : MethodSignature) : Prop
  | constructor : call.method.sub.isConstructor → KeepsMethod v call container
  | privateMethod (d) : v.method? call.method = some d → d.isPrivate → KeepsMethod v call container
  | unrelated : ¬ v.hierarchy.isSubclass container.owner call.method.owner →
      KeepsMethod v call container

theorem specialTarget_of_other_kind (hkind : call.kind ≠ .special) :
    v.specialTarget call container = .error (.notSpecialCall call.method) := by
  simp [specialTarget, hkind]

theorem specialTarget_of_kept (hkind : call.kind = .special) (hkept : v.KeepsMethod call container) :
    v.specialTarget call container = .ok (some call.method) := by
  simp only [specialTarget, hkind]
  cases hkept with
  | constructor hconstructor => simp [hconstructor]
  | privateMethod d hd hprivate => simp [hd, hprivate]
  | unrelated hunrelated => simp [hunrelated]

theorem specialTarget_of_resolved (hkind : call.kind = .special)
    (hresolved : ¬ v.KeepsMethod call container) :
    v.specialTarget call container = v.concreteTarget .discoveryOrder call.method := by
  have hconstructor : ¬ call.method.sub.isConstructor := fun h => hresolved (.constructor h)
  have hprivate : ¬ (v.method? call.method).any (·.isPrivate) := by
    intro h
    obtain ⟨d, hd, hprivate⟩ := (Option.any_eq_true _ _).mp h
    exact hresolved (.privateMethod d hd hprivate)
  have hrelated : v.hierarchy.isSubclass container.owner call.method.owner :=
    Classical.not_not.mp fun h => hresolved (.unrelated h)
  simp [specialTarget, hkind, hconstructor, hprivate, hrelated]

/-- A special call runs a method of the class that it names or of a class above. -/
theorem isSubclass_of_specialTarget (hv : v.Agrees)
    (ht : v.specialTarget call container = .ok (some t)) :
    v.hierarchy.isSubclass call.method.owner t.owner := by
  by_cases hkind : call.kind = .special
  · by_cases hkept : v.KeepsMethod call container
    · rw [specialTarget_of_kept hkind hkept] at ht
      cases ht
      exact Hierarchy.isSubclass_refl
    · rw [specialTarget_of_resolved hkind hkept] at ht
      obtain ⟨_, _, _, _, howner⟩ := concreteTarget_declared hv ht
      exact Hierarchy.isSubclass_of_inherited howner
  · rw [specialTarget_of_other_kind hkind] at ht
    cases ht

end View

/-- A special call of a method of a strict superclass runs a method at or above that superclass, and
never one of the calling class or of a class below it. Constructors, private methods and methods of
classes outside the lineage of the calling class are kept as they are. Calls of other kinds are refused
whatever there is to look up. -/
theorem specialTarget_above_container (u : Universe) (hroot : u.Rooted) (call : Call)
    (container : MethodSignature) :
    (call.kind = .special → container.owner ≠ call.method.owner →
      u.hierarchy.isSubclass container.owner call.method.owner →
      ∀ t, u.view.specialTarget call container = .ok (some t) →
        u.hierarchy.isSubclass call.method.owner t.owner ∧
        t.owner ≠ container.owner ∧ ¬ u.hierarchy.isSubclass t.owner container.owner) ∧
    (call.kind = .special → call.method.sub.isConstructor →
      u.view.specialTarget call container = .ok (some call.method)) ∧
    (call.kind = .special → ∀ d, u.view.method? call.method = some d → d.isPrivate →
      u.view.specialTarget call container = .ok (some call.method)) ∧
    (call.kind = .special → ¬ u.hierarchy.isSubclass container.owner call.method.owner →
      u.view.specialTarget call container = .ok (some call.method)) ∧
    (call.kind ≠ .special →
      ∀ v : View, v.specialTarget call container = .error (.notSpecialCall call.method)) := by
  refine ⟨fun _ hne habove t ht => ?_,
    fun hkind h => View.specialTarget_of_kept hkind (.constructor h),
    fun hkind d hd h => View.specialTarget_of_kept hkind (.privateMethod d hd h),
    fun hkind h => View.specialTarget_of_kept hkind (.unrelated h),
    fun hkind _ => View.specialTarget_of_other_kind hkind⟩
  have hup : u.hierarchy.isSubclass call.method.owner t.owner :=
    View.isSubclass_of_specialTarget u.view_agrees ht
  have hnot : ¬ u.hierarchy.isSubclass t.owner container.owner :=
    hroot.ordered.not_isSubclass_of_above hne habove hup
  refine ⟨hup, fun heq => hnot ?_, hnot⟩
  rw [heq]
  exact Hierarchy.isSubclass_refl

namespace Diamond

def callOf (kind : CallKind) (m : MethodSignature) : Call :=
  ⟨kind, some ⟨"this", .named m.owner⟩, m, []⟩

def construct : SubSignature := ⟨SubSignature.constructorName, [], .void⟩

/-- `Lower` declares a method that is private in `Upper`. -/
def concealing : List ClassDeclaration :=
  [declare (name "Upper") 0x0001 .object [] (some 0x0002),
    declare (name "Lower") 0x0001 (name "Upper") [] (some 0x0001)]

def concealed : Universe := ⟨concealing, by decide, by cbv⟩

theorem concealed_rooted : concealed.Rooted := by
  unfold Universe.Rooted
  decide

end Diamond

/-- From `Derived` a call of the method of `Base` runs `Left`, and a constructor of `Base` is kept. `Base`
is not below `Derived`, so from there the method of `Derived` is kept as well. -/
theorem specialTarget_above_container_diamond :
    let derived : MethodSignature := ⟨name "Derived", run⟩
    let base : MethodSignature := ⟨name "Base", run⟩
    let secret : MethodSignature := ⟨name "Upper", run⟩
    whole.view.specialTarget (callOf .special base) derived = .ok (some ⟨name "Left", run⟩) ∧
    whole.hierarchy.isSubclass (name "Base") (name "Left") ∧
    ¬ whole.hierarchy.isSubclass (name "Left") (name "Derived") ∧
    whole.view.specialTarget (callOf .special ⟨name "Base", construct⟩) derived =
      .ok (some ⟨name "Base", construct⟩) ∧
    whole.view.specialTarget (callOf .special derived) base = .ok (some derived) ∧
    concealed.view.specialTarget (callOf .special secret) ⟨name "Lower", run⟩ = .ok (some secret) ∧
    concealed.view.specialTarget (callOf .virtual secret) ⟨name "Lower", run⟩ =
      .error (.notSpecialCall secret) := by
  intro derived base secret
  have habove : whole.hierarchy.isSubclass derived.owner base.owner = true := by cbv
  have hbelow : whole.hierarchy.isSubclass base.owner derived.owner = false := by cbv
  have htarget : whole.view.specialTarget (callOf .special base) derived =
      .ok (some ⟨name "Left", run⟩) := by cbv
  have hsecret : concealed.view.method? secret = some (method (name "Upper") 0x0002) := by cbv
  obtain ⟨hup, _, hnot⟩ := (specialTarget_above_container whole rooted (callOf .special base) derived).1
    rfl (by decide) habove _ htarget
  have hconstruct := (specialTarget_above_container whole rooted
    (callOf .special ⟨name "Base", construct⟩) derived).2.1 rfl (by decide)
  have hunrelated := (specialTarget_above_container whole rooted (callOf .special derived) base).2.2.2.1
    rfl (by simp [callOf, hbelow])
  have hprivate := (specialTarget_above_container concealed concealed_rooted
    (callOf .special secret) ⟨name "Lower", run⟩).2.2.1 rfl _ hsecret (by decide)
  have hvirtual := (specialTarget_above_container concealed concealed_rooted
    (callOf .virtual secret) ⟨name "Lower", run⟩).2.2.2.2 (by decide) concealed.view
  exact ⟨htarget, hup, hnot, hconstruct, hunrelated, hprivate, hvirtual⟩

end Devirt

import Devirt.Proofs.Dispatch.Target
import Devirt.Proofs.Hierarchy.Superclasses

/-!
# Calls past hidden superclasses

The chain of a call passes over the superclasses that the view does not resolve. So a call can run a
method of a class above a hidden one, although the hidden class may declare the method itself.
-/

namespace Devirt

open Diamond

namespace View

variable {v : View} {m t : MethodSignature} {policy : DiamondPolicy} {before after : List ClassName}
  {c : ClassName}

/-- As far as the view knows, `c` is the nearest superclass to declare the method, past `before`, and
it implements it. -/
structure NearestImplementation (v : View) (m : MethodSignature) (before : List ClassName)
    (c : ClassName) : Prop where
  resolved : ∃ start, v.class? m.owner = some start
  above : ∃ after, v.hierarchy.superclasses m.owner = before ++ c :: after
  undeclared : ∀ b ∈ m.owner :: before, v.method? ⟨b, m.sub⟩ = none
  implemented : ∃ d, v.method? ⟨c, m.sub⟩ = some d ∧ d.isAbstract = false

/-- A call passes a hidden class: one of the superclasses before the nearest implementation is not
resolved. -/
def PassesHidden (v : View) (m : MethodSignature) : Prop :=
  ∃ before c, v.NearestImplementation m before c ∧ ∃ b ∈ before, v.class? b = none

theorem NearestImplementation.concreteTarget (h : v.NearestImplementation m before c) :
    v.concreteTarget policy m = .ok (some ⟨c, m.sub⟩) := by
  obtain ⟨start, hstart⟩ := h.resolved
  obtain ⟨after, habove⟩ := h.above
  obtain ⟨d, hd, hconcrete⟩ := h.implemented
  have hchain : (v.chain start).findSome? (·.method? m.sub) = some d := by
    rw [findSome?_chain hstart, habove, List.findSome?_eq_some_iff]
    exact ⟨m.owner :: before, c, after, rfl, hd, h.undeclared⟩
  rw [concreteTarget_of_declared hstart hchain, classOutcome_of_concrete hconcrete,
    signature_of_method? hd]

theorem declared_of_target_in_superclass (ht : v.concreteTarget policy m = .ok (some t))
    (habove : t.owner ∈ v.hierarchy.superclasses m.owner) :
    ∃ start d, v.class? m.owner = some start ∧
      (v.chain start).findSome? (·.method? m.sub) = some d ∧ d.isAbstract = false ∧
      d.signature = t := by
  cases v.stage m with
  | unresolved hstart => simp [concreteTarget_of_unresolved hstart] at ht
  | declared start d hstart hd =>
      rw [concreteTarget_of_declared hstart hd] at ht
      obtain ⟨hconcrete, hsignature⟩ := eq_of_classOutcome_eq_some ht
      exact ⟨start, d, hstart, hd, hconcrete, hsignature⟩
  | searched start hstart hnone =>
      -- The search finds interfaces that declare the method, and no superclass does.
      rw [concreteTarget_of_searched hstart hnone] at ht
      obtain ⟨d, hd, rfl⟩ := mem_of_searchOutcome_eq_some ht
      obtain ⟨i, _, hmethod⟩ := mem_found.mp (mem_defaults.mp hd).1
      rw [signature_of_method? hmethod] at habove
      have hundeclared := (chain_declares_nothing hstart).mp hnone i (List.mem_cons_of_mem _ habove)
      simp [hundeclared] at hmethod

theorem nearestImplementation_of_target (ht : v.concreteTarget policy m = .ok (some t))
    (habove : v.hierarchy.superclasses m.owner = before ++ t.owner :: after) :
    v.NearestImplementation m before t.owner := by
  have hmem : t.owner ∈ v.hierarchy.superclasses m.owner := by simp [habove]
  obtain ⟨start, d, hstart, hchain, hconcrete, rfl⟩ := declared_of_target_in_superclass ht hmem
  rw [findSome?_chain hstart, List.findSome?_eq_some_iff] at hchain
  obtain ⟨nearer, c, farther, hsplit, hd, hundeclared⟩ := hchain
  obtain rfl : d.owner = c := owner_of_method? hd
  -- No class occurs twice in the chain, so the two ways to cut it at the target are the same.
  have hnodup := Hierarchy.nodup_superclasses v.hierarchy m.owner
  rw [habove, ← List.cons_append, List.nodup_middle, List.nodup_cons, List.mem_append,
    not_or] at hnodup
  rw [habove, ← List.cons_append] at hsplit
  obtain ⟨rfl, _, _⟩ :=
    (List.append_cons_inj_of_notMem hnodup.1.1 hnodup.1.2).mp hsplit
  exact ⟨⟨start, hstart⟩, ⟨after, habove⟩, hundeclared, d, hd, hconcrete⟩

end View

/-- Whatever a view of a universe hides, and under both policies, a call looks past a superclass that
the view does not resolve exactly if the nearest implementation lies behind one. Every other target in
a superclass has only resolved superclasses before it. -/
theorem resolved_before_target_iff (u : Universe) (hidden : ClassName → Bool)
    (policy : DiamondPolicy) (m : MethodSignature) :
    let v := u.view.hide hidden
    (∀ t, v.concreteTarget policy m = .ok (some t) →
      ∀ before after, u.hierarchy.superclasses m.owner = before ++ t.owner :: after →
        ∀ c ∈ before, ∃ d, v.class? c = some d) ↔
      ¬ v.PassesHidden m := by
  intro v
  constructor
  · rintro hresolved ⟨before, c, hnearest, b, hb, hunresolved⟩
    obtain ⟨after, habove⟩ := hnearest.above
    obtain ⟨d, hd⟩ := hresolved _ hnearest.concreteTarget before after habove b hb
    simp [hunresolved] at hd
  · intro hpasses t ht before after habove c hc
    have hnearest : v.NearestImplementation m before t.owner :=
      View.nearestImplementation_of_target ht habove
    refine Option.ne_none_iff_exists'.mp fun hunresolved => ?_
    exact hpasses ⟨before, t.owner, hnearest, c, hc, hunresolved⟩

namespace Diamond

/-- `Middle` overrides the method of `Upper`, and `Lower` inherits it. -/
def overriding : List ClassDeclaration :=
  [declare (name "Upper") 0x0001 .object [] (some 0x0001),
    declare (name "Middle") 0x0001 (name "Upper") [] (some 0x0001),
    declare (name "Lower") 0x0001 (name "Middle") [] none]

def overridden : Universe := ⟨overriding, by decide, by cbv⟩

end Diamond

/-- With `Middle` hidden, a call of `Lower` runs the method of `Upper` that `Middle` overrides. -/
theorem target_behind_hidden_override :
    let v := overridden.view.hide (· == name "Middle")
    overridden.hierarchy.superclasses (name "Lower") = [name "Middle", name "Upper"] ∧
    v.class? (name "Middle") = none ∧
    ∀ policy,
      overridden.view.concreteTarget policy ⟨name "Lower", run⟩ = .ok (some ⟨name "Middle", run⟩) ∧
      v.concreteTarget policy ⟨name "Lower", run⟩ = .ok (some ⟨name "Upper", run⟩) := by
  refine ⟨by cbv, by cbv, fun policy => ?_⟩
  cases policy with
  | discoveryOrder => exact ⟨by cbv, by cbv⟩
  | strict => exact ⟨by cbv, by cbv⟩

end Devirt

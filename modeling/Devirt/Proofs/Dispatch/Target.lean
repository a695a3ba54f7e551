import Devirt.Proofs.Dispatch.Outcome

/-!
# Targets of virtual calls

What a call runs is an implementation that its class inherits: the class itself, a superclass or an
interface declares it, and the view resolves the declaration. Calling the target again leads to the
target itself.
-/

namespace Devirt

open Diamond

namespace View

variable {v : View} {m t : MethodSignature} {policy : DiamondPolicy}

theorem mem_of_chooseDefault_eq_some {h : Hierarchy} {ds}
    (ht : chooseDefault h policy m ds = .ok (some t)) : ∃ d ∈ ds, d.signature = t := by
  unfold chooseDefault at ht
  dsimp only at ht
  split at ht
  · simp at ht
  · simp only [Except.ok.injEq, Option.map_eq_some_iff] at ht
    obtain ⟨d, hd, hsignature⟩ := ht
    exact ⟨d, Hierarchy.mem_of_mem_mostSpecific (List.mem_of_mem_head? hd), hsignature⟩

theorem mem_of_defaultOutcome_eq_some {h : Hierarchy} {start} {search : DefaultSearch}
    (ht : defaultOutcome h policy start m search = .ok (some t)) :
    ∃ d ∈ search.defaults, d.signature = t := by
  cases policy with
  | discoveryOrder =>
      simp only [defaultOutcome] at ht
      exact mem_of_chooseDefault_eq_some ht
  | strict =>
      simp only [defaultOutcome] at ht
      split at ht
      · exact mem_of_chooseDefault_eq_some ht
      · split at ht
        · exact absurd ht abstractOutcome_ne_some
        · exact mem_of_chooseDefault_eq_some ht
      · simp at ht

theorem mem_of_searchOutcome_eq_some {h : Hierarchy} {start} {search : DefaultSearch}
    (ht : searchOutcome h policy start m search = .ok (some t)) :
    ∃ d ∈ search.defaults, d.signature = t := by
  cases search.finding with
  | nothing hdefaults habstracts =>
      rw [DefaultSearch.searchOutcome_of_nothing hdefaults habstracts] at ht
      simp at ht
  | onlyAbstract d hdefaults hd =>
      rw [DefaultSearch.searchOutcome_of_onlyAbstract hdefaults hd] at ht
      exact absurd ht abstractOutcome_ne_some
  | defaults hdefaults =>
      rw [DefaultSearch.searchOutcome_of_defaults hdefaults] at ht
      exact mem_of_defaultOutcome_eq_some ht

/-- Where the target of a call is declared: in the class, above it among the superclasses, or in an
interface. -/
theorem concreteTarget_declared (hv : v.Agrees) (ht : v.concreteTarget policy m = .ok (some t)) :
    ∃ d, v.method? t = some d ∧ d.isAbstract = false ∧ t.sub = m.sub ∧
      (t.owner ∈ m.owner :: v.hierarchy.superclasses m.owner ∨
        v.hierarchy.HasInterface m.owner t.owner) := by
  cases v.stage m with
  | unresolved hstart => simp [concreteTarget_of_unresolved hstart] at ht
  | declared start d hstart hd =>
      rw [concreteTarget_of_declared hstart hd] at ht
      obtain ⟨hconcrete, rfl⟩ := eq_of_classOutcome_eq_some ht
      obtain ⟨b, hb, hmethod⟩ := declared_in_chain hstart hd
      rw [signature_of_method? hmethod]
      exact ⟨d, hmethod, hconcrete, rfl, Or.inl hb⟩
  | searched start hstart hnone =>
      rw [concreteTarget_of_searched hstart hnone] at ht
      obtain ⟨d, hd, rfl⟩ := mem_of_searchOutcome_eq_some ht
      obtain ⟨hfound, hconcrete⟩ := mem_defaults.mp hd
      obtain ⟨i, hi, hmethod⟩ := mem_found.mp hfound
      have hreach := reaches_of_mem_searchedInterfaces hv hi
      rw [signature_of_method? hmethod]
      exact ⟨d, hmethod, hconcrete, rfl, Or.inr (hasInterface_of_reaches hv hstart hreach)⟩

/-! ## Methods that a class declares itself -/

theorem concreteTarget_of_method? {d} (hd : v.method? m = some d) :
    ∃ start, v.class? m.owner = some start ∧ v.concreteTarget policy m = classOutcome start d := by
  obtain ⟨start, hstart, hd⟩ := method?_eq_some_iff.mp hd
  refine ⟨start, hstart, concreteTarget_of_declared hstart ?_⟩
  rw [chain, List.findSome?_cons, hd]

/-- An implementation is the target of its own call. -/
theorem concreteTarget_self {d} (hd : v.method? m = some d) (hconcrete : d.isAbstract = false) :
    v.concreteTarget policy m = .ok (some m) := by
  obtain ⟨start, _, htarget⟩ := concreteTarget_of_method? hd
  rw [htarget, classOutcome_of_concrete hconcrete, signature_of_method? hd]

theorem concrete_of_target {d} (hd : v.method? m = some d)
    (ht : v.concreteTarget policy m = .ok (some t)) : d.isAbstract = false := by
  obtain ⟨start, _, htarget⟩ := concreteTarget_of_method? hd
  rw [htarget] at ht
  exact (eq_of_classOutcome_eq_some ht).1

end View

theorem Hierarchy.isSubclass_of_inherited {h : Hierarchy} {a b}
    (hb : b ∈ a :: h.superclasses a ∨ h.HasInterface a b) : h.isSubclass a b := by
  rcases hb with hb | hb
  · rcases List.mem_cons.mp hb with rfl | hb
    · exact isSubclass_refl
    · exact (below_of_mem_superclasses hb).isSubclass
  · exact hb.below.isSubclass

/-- However much a view of a universe hides, the target of a call is an implementation that the view
resolves, declared under the same sub-signature by the class of the call, one of its superclasses or
one of its interfaces. It is its own target under every policy. -/
theorem concreteTarget_inherited (u : Universe) (hidden : ClassName → Bool)
    (policy : DiamondPolicy) (m t : MethodSignature)
    (ht : (u.view.hide hidden).concreteTarget policy m = .ok (some t)) :
    let v := u.view.hide hidden
    t.sub = m.sub ∧
    (∃ c d, v.class? t.owner = some c ∧ c.method? m.sub = some d ∧ d.isAbstract = false ∧
      d.signature = t) ∧
    (t.owner = m.owner ∨ t.owner ∈ u.hierarchy.superclasses m.owner ∨
      t.owner ∈ u.hierarchy.allInterfaces m.owner) ∧
    u.hierarchy.isSubclass m.owner t.owner ∧
    ∀ policy', v.concreteTarget policy' t = .ok (some t) := by
  intro v
  obtain ⟨d, hd, hconcrete, hsub, howner⟩ :=
    View.concreteTarget_declared (u.view_agrees.hide hidden) ht
  obtain ⟨c, hc, hcd⟩ := View.method?_eq_some_iff.mp hd
  refine ⟨hsub, ⟨c, d, hc, hsub ▸ hcd, hconcrete, View.signature_of_method? hd⟩, ?_,
    Hierarchy.isSubclass_of_inherited howner, fun _ => View.concreteTarget_self hd hconcrete⟩
  rw [Hierarchy.mem_allInterfaces]
  rwa [List.mem_cons, or_assoc] at howner

/-- With `Right` hidden, the target of `Derived` is still found in `Left`, an interface of `Base`. -/
theorem concreteTarget_inherited_diamond :
    let v := whole.view.hide (· == name "Right")
    v.concreteTarget .strict ⟨name "Derived", run⟩ = .ok (some ⟨name "Left", run⟩) ∧
    whole.hierarchy.isSubclass (name "Derived") (name "Left") ∧
    v.concreteTarget .discoveryOrder ⟨name "Left", run⟩ = .ok (some ⟨name "Left", run⟩) := by
  intro v
  have ht : v.concreteTarget .strict ⟨name "Derived", run⟩ = .ok (some ⟨name "Left", run⟩) := by
    cbv
  obtain ⟨_, _, _, hsubclass, htarget⟩ := concreteTarget_inherited whole _ .strict _ _ ht
  exact ⟨ht, hsubclass, htarget .discoveryOrder⟩

end Devirt

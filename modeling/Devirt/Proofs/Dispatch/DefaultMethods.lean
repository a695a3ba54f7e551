import Devirt.Proofs.Dispatch.StrictRule
import Devirt.Proofs.Dispatch.Target
import Devirt.Proofs.Dispatch.Trails

/-!
# Which default methods are called

Where no class declares a method, a call runs the declaration that its policy prefers among those of
the interfaces. The search asks whether a declaration is abstract, and nothing else about it: static
and private methods of interfaces count as default methods.
-/

namespace Devirt

open Diamond

namespace Universe

variable {u : Universe} {policy : DiamondPolicy} {m : MethodSignature} {d : MethodDeclaration}
  {start : ClassDeclaration}

/-- What a policy prefers: the first maximally specific default method in breadth-first order, or the
only best declaration, if it is implemented. -/
def Prefers (u : Universe) (policy : DiamondPolicy) (m : MethodSignature) (d : MethodDeclaration) :
    Prop :=
  match policy with
  | .discoveryOrder => u.IsFirstBestDefault m d
  | .strict => u.best m = {d} ∧ d.isAbstract = false

/-! ## Preferred declarations -/

theorem interfaceDeclarations_of_unresolved (hstart : u.view.class? m.owner = none) :
    u.interfaceDeclarations m = ∅ := by
  refine Set.eq_empty_iff_forall_notMem.mpr ?_
  rintro d ⟨i, hi, _⟩
  obtain ⟨start, hstart'⟩ : ∃ start, u.view.class? m.owner = some start :=
    View.mem_names_iff.mp (mem_names_of_below hi.below)
  simp [hstart] at hstart'

theorem Prefers.mem_interfaceDeclarations (h : u.Prefers policy m d) :
    d ∈ u.interfaceDeclarations m := by
  cases policy with
  | strict =>
      have hd : d ∈ u.best m := by
        rw [h.1]
        rfl
      exact hd.1
  | discoveryOrder => exact metDefaults_subset_interfaceDeclarations h.mem_metDefaults

theorem Prefers.method? (h : u.Prefers policy m d) : u.view.method? d.signature = some d := by
  obtain ⟨i, _, hd⟩ := h.mem_interfaceDeclarations
  rwa [View.signature_of_method? hd]

/-- The search takes the declaration that dispatch by order of discovery prefers. -/
theorem prefers_discoveryOrder_iff :
    u.Prefers .discoveryOrder m d ↔
      (u.hierarchy.mostSpecific (u.view.searchFor m).defaults).head? = some d := by
  cases hstart : u.view.class? m.owner with
  | none =>
      rw [View.searchFor_of_unresolved hstart]
      refine iff_of_false (fun hd => ?_) (by simp [Hierarchy.mostSpecific])
      have hmem := hd.mem_interfaceDeclarations
      simp [interfaceDeclarations_of_unresolved hstart] at hmem
  | some start =>
      rw [View.searchFor_of_class? hstart]
      exact (head?_mostSpecific_defaults_eq_some_iff hstart).symm

theorem Prefers.mem_defaults (h : u.Prefers .discoveryOrder m d) :
    d ∈ (u.view.searchFor m).defaults :=
  Hierarchy.mem_of_mem_mostSpecific (List.mem_of_mem_head? (prefers_discoveryOrder_iff.mp h))

theorem Prefers.isAbstract (h : u.Prefers policy m d) : d.isAbstract = false := by
  cases policy with
  | strict => exact h.2
  | discoveryOrder => exact (u.view.searchFor_sound m).defaults_concrete d h.mem_defaults

/-! ## Preferred declarations are run -/

section

variable (hstart : u.view.class? m.owner = some start)
  (hnone : (u.view.chain start).findSome? (·.method? m.sub) = none)
include hstart hnone

theorem discoveryOrder_target_iff {t} :
    u.view.concreteTarget .discoveryOrder m = .ok (some t) ↔
      ∃ d, u.Prefers .discoveryOrder m d ∧ d.signature = t := by
  rw [concreteTarget_of_searchFor hstart hnone]
  by_cases hdefaults : (u.view.searchFor m).defaults = []
  · refine iff_of_false (fun ht => ?_) ?_
    · obtain ⟨d, hd, _⟩ := View.mem_of_searchOutcome_eq_some ht
      simp [hdefaults] at hd
    · rintro ⟨d, hd, _⟩
      have hmem := hd.mem_defaults
      simp [hdefaults] at hmem
  · rw [DefaultSearch.searchOutcome_of_defaults hdefaults,
      DefaultSearch.defaultOutcome_discoveryOrder, Except.ok.injEq, Option.map_eq_some_iff]
    exact exists_congr fun _ => and_congr_left fun _ => prefers_discoveryOrder_iff.symm

theorem strict_target_iff (hroot : u.Rooted) {t} :
    u.view.concreteTarget .strict m = .ok (some t) ↔
      ∃ d, u.Prefers .strict m d ∧ d.signature = t := by
  rw [← outcomeKind_eq_target_iff]
  by_cases hsingle : ∃ d, u.best m = {d}
  · obtain ⟨best, hbest⟩ := hsingle
    rw [outcomeKind_of_single hstart hnone hroot hbest]
    cases habstract : best.isAbstract with
    | true =>
        refine iff_of_false OutcomeKind.unimplemented_ne_target ?_
        rintro ⟨d, ⟨hd, hconcrete⟩, _⟩
        obtain rfl := Set.singleton_injective (hbest.symm.trans hd)
        simp [habstract] at hconcrete
    | false =>
        simp only [Bool.false_eq_true, if_false, OutcomeKind.value.injEq, Option.some.injEq]
        constructor
        · intro ht
          exact ⟨best, ⟨hbest, habstract⟩, ht⟩
        · rintro ⟨d, ⟨hd, _⟩, ht⟩
          obtain rfl := Set.singleton_injective (hbest.symm.trans hd)
          exact ht
  · refine iff_of_false (outcomeKind_ne_target hstart hnone hroot (not_exists.mp hsingle)) ?_
    rintro ⟨d, ⟨hd, _⟩, _⟩
    exact hsingle ⟨d, hd⟩

end

/-- Where no class declares a method, a call runs the preferred declaration. -/
theorem target_iff_prefers (hroot : u.Rooted)
    (hundeclared : ∀ c ∈ m.owner :: u.hierarchy.superclasses m.owner,
      u.view.method? ⟨c, m.sub⟩ = none) {t} :
    u.view.concreteTarget policy m = .ok (some t) ↔ ∃ d, u.Prefers policy m d ∧ d.signature = t := by
  cases hstart : u.view.class? m.owner with
  | none =>
      rw [View.concreteTarget_of_unresolved hstart]
      refine iff_of_false (by simp) ?_
      rintro ⟨d, hd, _⟩
      have hmem := hd.mem_interfaceDeclarations
      simp [interfaceDeclarations_of_unresolved hstart] at hmem
  | some start =>
      have hnone := (View.chain_declares_nothing hstart).mpr hundeclared
      cases policy with
      | discoveryOrder => exact discoveryOrder_target_iff hstart hnone
      | strict => exact strict_target_iff hstart hnone hroot

end Universe

/-- Where no class declares a method, a call runs the declaration that its policy prefers, which is an
implementation in an interface above its class. So the target is neither static nor private exactly if
the preferred declaration is neither. -/
theorem target_neither_static_nor_private_iff (u : Universe) (hroot : u.Rooted)
    (policy : DiamondPolicy) (m : MethodSignature)
    (hundeclared : ∀ c ∈ m.owner :: u.hierarchy.superclasses m.owner,
      u.view.method? ⟨c, m.sub⟩ = none) :
    (∀ t, u.view.concreteTarget policy m = .ok (some t) ↔
      ∃ d, u.Prefers policy m d ∧ d.signature = t) ∧
    (∀ d, u.Prefers policy m d → d ∈ u.interfaceDeclarations m ∧ d.isAbstract = false) ∧
    ((∀ t d, u.view.concreteTarget policy m = .ok (some t) → u.view.method? t = some d →
        d.isStatic = false ∧ d.isPrivate = false) ↔
      ∀ d, u.Prefers policy m d → d.isStatic = false ∧ d.isPrivate = false) := by
  have htarget : ∀ {t}, u.view.concreteTarget policy m = .ok (some t) ↔
      ∃ d, u.Prefers policy m d ∧ d.signature = t :=
    Universe.target_iff_prefers hroot hundeclared
  refine ⟨fun _ => htarget, fun d hd => ⟨hd.mem_interfaceDeclarations, hd.isAbstract⟩, ?_⟩
  constructor
  · intro hgenuine d hd
    exact hgenuine d.signature d (htarget.mpr ⟨d, hd, rfl⟩) hd.method?
  · intro hgenuine t d ht hdeclared
    obtain ⟨e, he, rfl⟩ := htarget.mp ht
    obtain rfl : e = d := Option.some.inj (he.method?.symm.trans hdeclared)
    exact hgenuine e he

/-- `Derived` runs the method of `Left`, which is public and nothing else. -/
theorem target_neither_static_nor_private_diamond :
    let m : MethodSignature := ⟨name "Derived", run⟩
    (∀ c ∈ m.owner :: whole.hierarchy.superclasses m.owner, whole.view.method? ⟨c, m.sub⟩ = none) ∧
    whole.view.concreteTarget .discoveryOrder m = .ok (some ⟨name "Left", run⟩) ∧
    ∀ d, whole.view.method? ⟨name "Left", run⟩ = some d →
      d.isStatic = false ∧ d.isPrivate = false := by
  intro m
  have hundeclared : ∀ c ∈ m.owner :: whole.hierarchy.superclasses m.owner,
      whole.view.method? ⟨c, m.sub⟩ = none := by
    have hchain : m.owner :: whole.hierarchy.superclasses m.owner =
        [name "Derived", name "Base"] := by cbv
    rw [hchain]
    decide
  have hfirst : (whole.hierarchy.mostSpecific (whole.view.searchFor m).defaults).head? =
      some (method (name "Left") 0x0001) := by cbv
  have hprefers : whole.Prefers .discoveryOrder m (method (name "Left") 0x0001) :=
    Universe.prefers_discoveryOrder_iff.mpr hfirst
  obtain ⟨htarget, _, hgenuine⟩ :=
    target_neither_static_nor_private_iff whole rooted .discoveryOrder m hundeclared
  have hleft : whole.view.concreteTarget .discoveryOrder m = .ok (some ⟨name "Left", run⟩) :=
    (htarget _).mpr ⟨_, hprefers, rfl⟩
  refine ⟨hundeclared, hleft, fun d => hgenuine.mpr (fun e he => ?_) _ d hleft⟩
  obtain rfl : e = method (name "Left") 0x0001 :=
    Option.some.inj ((Universe.prefers_discoveryOrder_iff.mp he).symm.trans hfirst)
  decide

namespace Diamond

/-- The methods of `Tools` and `Inner` are not meant to be inherited: one is static, one private. -/
def uninherited : List ClassDeclaration :=
  [declare (name "Tools") 0x0601 .object [] (some 0x0009),
    declare (name "Inner") 0x0601 .object [] (some 0x0002),
    declare (name "Worker") 0x0001 .object [name "Tools"] none,
    declare (name "Owner") 0x0001 .object [name "Inner"] none]

def helpers : Universe := ⟨uninherited, by decide, by cbv⟩

end Diamond

/-- A call of `Worker` runs the static method of `Tools`, and a call of `Owner` the private one of
`Inner`. -/
theorem static_and_private_targets :
    helpers.Rooted ∧
    (∀ c ∈ [name "Worker", name "Owner"], ∀ b ∈ c :: helpers.hierarchy.superclasses c,
      helpers.view.method? ⟨b, run⟩ = none) ∧
    (∃ d, helpers.view.method? ⟨name "Tools", run⟩ = some d ∧ d.isStatic = true) ∧
    (∃ d, helpers.view.method? ⟨name "Inner", run⟩ = some d ∧ d.isPrivate = true) ∧
    ∀ policy,
      helpers.view.concreteTarget policy ⟨name "Worker", run⟩ = .ok (some ⟨name "Tools", run⟩) ∧
      helpers.view.concreteTarget policy ⟨name "Owner", run⟩ = .ok (some ⟨name "Inner", run⟩) := by
  have hrooted : helpers.Rooted := by
    unfold Universe.Rooted
    decide
  have hworker : helpers.hierarchy.superclasses (name "Worker") = [] := by cbv
  have howner : helpers.hierarchy.superclasses (name "Owner") = [] := by cbv
  have hundeclared : ∀ c ∈ [name "Worker", name "Owner"], ∀ b ∈ c :: helpers.hierarchy.superclasses c,
      helpers.view.method? ⟨b, run⟩ = none := by
    simp only [List.forall_mem_cons, hworker, howner]
    decide
  have hstatic : helpers.view.method? ⟨name "Tools", run⟩ = some (method (name "Tools") 0x0009) := by
    cbv
  have hprivate : helpers.view.method? ⟨name "Inner", run⟩ = some (method (name "Inner") 0x0002) := by
    cbv
  refine ⟨hrooted, hundeclared, ⟨_, hstatic, by decide⟩, ⟨_, hprivate, by decide⟩, fun policy => ?_⟩
  cases policy with
  | discoveryOrder => exact ⟨by cbv, by cbv⟩
  | strict => exact ⟨by cbv, by cbv⟩

end Devirt

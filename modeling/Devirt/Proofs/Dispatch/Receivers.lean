import Devirt.Dispatch.Receivers
import Devirt.Proofs.Dispatch.Target
import Devirt.Proofs.Hierarchy.Subtypes

/-!
# Sets of targets and single targets

The sets of possible targets are found by a walk down to the subtypes, and the target of a single call
by a walk up. They fit together: no target that a call on a subtype can reach is missing from the sets.
-/

namespace Devirt

open Devirt.Graph

theorem MethodSignature.onClass_owner {m t : MethodSignature} (hsub : t.sub = m.sub) :
    m.onClass t.owner = t := by
  rw [onClass, ← hsub]

/-- In a universe every subtype is declared. -/
theorem Universe.class?_of_mem_subtypes {u : Universe} {a s : ClassName}
    (hs : s ∈ u.hierarchy.subtypes a) : ∃ d, u.view.class? s = some d :=
  View.mem_names_iff.mp (mem_names_of_mem_subtypes hs)

namespace View

variable {v : View} {m : MethodSignature}

/-- The class of a method does not declare it abstract. -/
def Receives (v : View) (m : MethodSignature) : Prop :=
  ∀ d, v.method? m = some d → d.isAbstract = false

/-- The class of a method implements it. -/
def Implements (v : View) (m : MethodSignature) : Prop :=
  ∃ d, v.method? m = some d ∧ d.isAbstract = false

theorem implements_iff : v.Implements m ↔ v.Receives m ∧ ∃ d, v.method? m = some d := by
  constructor
  · rintro ⟨d, hd, hconcrete⟩
    refine ⟨fun e he => ?_, d, hd⟩
    obtain rfl : d = e := Option.some.inj (hd.symm.trans he)
    exact hconcrete
  · rintro ⟨hreceives, d, hd⟩
    exact ⟨d, hd, hreceives d hd⟩

theorem subtypeMethods_eq_ok
    (hdeclared : ∀ s ∈ v.hierarchy.subtypes m.owner, ∃ d, v.class? s = some d) :
    v.subtypeMethods m =
      .ok ((v.hierarchy.subtypes m.owner).map fun s => (s, v.method? (m.onClass s))) := by
  unfold subtypeMethods
  generalize v.hierarchy.subtypes m.owner = subtypes at hdeclared ⊢
  induction subtypes with
  | nil => rfl
  | cons s rest ih =>
      obtain ⟨d, hd⟩ := hdeclared s List.mem_cons_self
      have hrest := ih fun s hs => hdeclared s (List.mem_cons_of_mem _ hs)
      have hmethod : v.method? (m.onClass s) = d.method? m.sub := method?_of_class? hd
      rw [List.mapM_cons, hrest]
      simp [requireClass, hd, hmethod, bind, Except.bind, pure, Except.pure]

/-- A subtype receives a call unless it declares the method abstract. -/
theorem exists_receivers
    (hdeclared : ∀ s ∈ v.hierarchy.subtypes m.owner, ∃ d, v.class? s = some d) :
    ∃ all, v.receivers m = .ok all ∧ ∀ r, r ∈ all ↔ ∃ s ∈ v.hierarchy.subtypes m.owner,
      m.onClass s = r ∧ v.Receives (m.onClass s) := by
  refine ⟨_, by rw [receivers, subtypeMethods_eq_ok hdeclared]; rfl, fun r => ?_⟩
  simp only [mem_ascending, List.mem_filterMap, List.mem_map]
  constructor
  · rintro ⟨_, ⟨s, hs, rfl⟩, hr⟩
    dsimp only at hr
    split at hr
    · rename_i hall
      refine ⟨s, hs, Option.some.inj hr, fun d hd => ?_⟩
      simpa [hd] using hall
    · cases hr
  · rintro ⟨s, hs, rfl, hall⟩
    refine ⟨_, ⟨s, hs, rfl⟩, if_pos ?_⟩
    cases hd : v.method? (m.onClass s) with
    | none => rfl
    | some d => simp [hall d hd]

/-- A subtype overrides a method if it declares an implementation. -/
theorem exists_overrides
    (hdeclared : ∀ s ∈ v.hierarchy.subtypes m.owner, ∃ d, v.class? s = some d) :
    ∃ own, v.overrides m = .ok own ∧ ∀ r, r ∈ own ↔ ∃ s ∈ v.hierarchy.subtypes m.owner,
      m.onClass s = r ∧ v.Implements (m.onClass s) := by
  refine ⟨_, by rw [overrides, subtypeMethods_eq_ok hdeclared]; rfl, fun r => ?_⟩
  simp only [mem_ascending, List.mem_filterMap, List.mem_map, Option.map_eq_some_iff,
    Option.filter_eq_some_iff]
  constructor
  · rintro ⟨_, ⟨s, hs, rfl⟩, d, ⟨hd, hconcrete⟩, rfl⟩
    exact ⟨s, hs, (signature_of_method? hd).symm, d, hd, by simpa using hconcrete⟩
  · rintro ⟨s, hs, rfl, d, hd, hconcrete⟩
    exact ⟨_, ⟨s, hs, rfl⟩, d, ⟨hd, by simp [hconcrete]⟩, signature_of_method? hd⟩

/-- A subtype overrides a method exactly if the call on it runs its own method. -/
theorem concreteTarget_eq_self_iff (hv : v.Agrees) {policy : DiamondPolicy} :
    v.concreteTarget policy m = .ok (some m) ↔ v.Implements m := by
  constructor
  · intro ht
    obtain ⟨d, hd, hconcrete, _⟩ := concreteTarget_declared hv ht
    exact ⟨d, hd, hconcrete⟩
  · rintro ⟨d, hd, hconcrete⟩
    exact concreteTarget_self hd hconcrete

end View

theorem Universe.exists_receivers (u : Universe) (m : MethodSignature) :
    ∃ all, u.view.receivers m = .ok all ∧ ∀ r, r ∈ all ↔ ∃ s ∈ u.hierarchy.subtypes m.owner,
      m.onClass s = r ∧ u.view.Receives (m.onClass s) :=
  View.exists_receivers fun _ => u.class?_of_mem_subtypes

theorem Universe.exists_overrides (u : Universe) (m : MethodSignature) :
    ∃ own, u.view.overrides m = .ok own ∧ ∀ r, r ∈ own ↔ ∃ s ∈ u.hierarchy.subtypes m.owner,
      m.onClass s = r ∧ u.view.Implements (m.onClass s) :=
  View.exists_overrides fun _ => u.class?_of_mem_subtypes

/-- The sets of targets fit the targets of single calls, under either policy. A subtype on which the
call finds a target is among the receivers. The overrides are the calls on subtypes that are their own
targets, and they hold every target that is declared in a subtype. -/
theorem receivers_concreteTarget (u : Universe) (policy : DiamondPolicy) (m : MethodSignature) :
    ∃ all own, u.view.receivers m = .ok all ∧ u.view.overrides m = .ok own ∧
      (∀ s ∈ u.hierarchy.subtypes m.owner, ∀ t,
        u.view.concreteTarget policy (m.onClass s) = .ok (some t) → m.onClass s ∈ all) ∧
      (∀ r, r ∈ own ↔ ∃ s ∈ u.hierarchy.subtypes m.owner, m.onClass s = r ∧
        u.view.concreteTarget policy (m.onClass s) = .ok (some (m.onClass s))) ∧
      ∀ s ∈ u.hierarchy.subtypes m.owner, ∀ t,
        u.view.concreteTarget policy (m.onClass s) = .ok (some t) →
        t.owner ∈ u.hierarchy.subtypes m.owner → t ∈ own := by
  have hdeclared : ∀ s ∈ u.hierarchy.subtypes m.owner, ∃ d, u.view.class? s = some d :=
    fun _ => u.class?_of_mem_subtypes
  obtain ⟨all, hall, hreceiver⟩ := View.exists_receivers (v := u.view) hdeclared
  obtain ⟨own, hown, hoverride⟩ := View.exists_overrides (v := u.view) hdeclared
  refine ⟨all, own, hall, hown, fun s hs t ht => ?_, fun r => ?_, fun s hs t ht htarget => ?_⟩
  · exact (hreceiver _).mpr ⟨s, hs, rfl, fun d hd => View.concrete_of_target hd ht⟩
  · rw [hoverride]
    simp only [View.concreteTarget_eq_self_iff u.view_agrees]
    rfl
  · obtain ⟨d, hd, hconcrete, hsub, _⟩ := View.concreteTarget_declared u.view_agrees ht
    have hsame : m.onClass t.owner = t := MethodSignature.onClass_owner hsub
    exact (hoverride t).mpr ⟨t.owner, htarget, hsame, d, hsame ▸ hd, hconcrete⟩

end Devirt

import Devirt.Proofs.Dispatch.Receivers

/-!
# How the sets of targets fit each other

The sets of possible targets go through the same subtypes in the same order. So they fail together,
at the first subtype that the view does not resolve, and otherwise one is a part of the other. In a
universe they are put together from the sets of the direct subtypes.
-/

namespace Devirt

open Diamond

namespace View

variable {v : View} {m : MethodSignature} {classes : List ClassName} {c : ClassName}
  {e : DispatchError} {all : List MethodSignature}

/-! ## Unresolved subtypes -/

/-- The first of some classes that the view does not resolve. -/
def firstUnresolved? (v : View) (names : List ClassName) : Option ClassName :=
  names.find? fun c => (v.class? c).isNone

theorem exists_firstUnresolved? {names : List ClassName} (hc : c ∈ names)
    (hunresolved : v.class? c = none) : ∃ a, v.firstUnresolved? names = some a :=
  Option.isSome_iff_exists.mp (List.find?_isSome.mpr ⟨c, hc, by simp [hunresolved]⟩)

theorem subtypeMethods_eq_error
    (hc : v.firstUnresolved? (v.hierarchy.subtypes m.owner) = some c) :
    v.subtypeMethods m = .error (.classNotInView c) := by
  unfold subtypeMethods
  generalize v.hierarchy.subtypes m.owner = subtypes at hc ⊢
  induction subtypes with
  | nil => cases hc
  | cons s rest ih =>
      rw [firstUnresolved?, List.find?_cons] at hc
      rw [List.mapM_cons]
      cases hs : v.class? s with
      | none =>
          simp only [hs, Option.isNone_none, Option.some.injEq] at hc
          subst hc
          simp [requireClass, hs, bind, Except.bind]
      | some d =>
          simp only [hs, Option.isNone_some] at hc
          rw [ih hc]
          simp [requireClass, hs, bind, Except.bind, pure, Except.pure]

/-- All sets of possible targets are refused for one reason. -/
structure RefusesSets (v : View) (m : MethodSignature) (classes : List ClassName)
    (e : DispatchError) : Prop where
  receivers : v.receivers m = .error e
  overrides : v.overrides m = .error e
  receiversIn : v.receiversIn m classes = .error e
  partitionReceivers : v.partitionReceivers m classes = .error e

theorem refusesSets (h : v.subtypeMethods m = .error e) : v.RefusesSets m classes e := by
  have hreceivers : v.receivers m = .error e := by rw [receivers, h]; rfl
  have hpartition : v.partitionReceivers m classes = .error e := by
    rw [partitionReceivers, hreceivers]
    rfl
  exact ⟨hreceivers, by rw [overrides, h]; rfl, by rw [receiversIn, hpartition]; rfl, hpartition⟩

/-! ## Sets of targets -/

/-- The sets of possible targets, and what each of them holds. -/
structure TargetSets (v : View) (m : MethodSignature) (classes : List ClassName)
    (all own : List MethodSignature) (parts : Partition) : Prop where
  receivers : v.receivers m = .ok all
  overrides : v.overrides m = .ok own
  receiversIn : v.receiversIn m classes = .ok parts.kept
  partitionReceivers : v.partitionReceivers m classes = .ok parts
  mem_receivers : ∀ r, r ∈ all ↔
    ∃ s ∈ v.hierarchy.subtypes m.owner, m.onClass s = r ∧ v.Receives (m.onClass s)
  mem_overrides : ∀ r, r ∈ own ↔ r ∈ all ∧ ∃ d, v.method? r = some d
  mem_kept : ∀ r, r ∈ parts.kept ↔ r ∈ all ∧ r.owner ∈ classes
  mem_either : ∀ r, r ∈ all ↔ r ∈ parts.kept ∨ r ∈ parts.excluded
  disjoint : parts.kept.Disjoint parts.excluded

theorem partitionReceivers_of_receivers (h : v.receivers m = .ok all) :
    v.partitionReceivers m classes =
      .ok ⟨all.filter fun r => classes.contains r.owner,
        all.filter fun r => !classes.contains r.owner⟩ := by
  simp [partitionReceivers, h, bind, Except.bind, pure, Except.pure, List.partition_eq_filter_filter,
    Function.comp_def]

theorem exists_targetSets
    (hdeclared : ∀ s ∈ v.hierarchy.subtypes m.owner, ∃ d, v.class? s = some d) :
    ∃ all own parts, v.TargetSets m classes all own parts := by
  obtain ⟨all, hall, hreceiver⟩ := exists_receivers hdeclared
  obtain ⟨own, hown, hoverride⟩ := exists_overrides hdeclared
  have hpartition : v.partitionReceivers m classes = .ok _ := partitionReceivers_of_receivers hall
  refine ⟨all, own, _, ⟨hall, hown, by rw [receiversIn, hpartition]; rfl, hpartition, hreceiver,
    fun r => ?_, fun r => by simp, fun r => ?_, fun r hkept hexcluded => ?_⟩⟩
  · rw [hoverride, hreceiver]
    constructor
    · rintro ⟨s, hs, rfl, himplements⟩
      obtain ⟨hreceives, hd⟩ := implements_iff.mp himplements
      exact ⟨⟨s, hs, rfl, hreceives⟩, hd⟩
    · rintro ⟨⟨s, hs, rfl, hreceives⟩, hd⟩
      exact ⟨s, hs, rfl, implements_iff.mpr ⟨hreceives, hd⟩⟩
  · by_cases hr : r.owner ∈ classes <;> simp [hr]
  · have hinside : r.owner ∈ classes := by simpa using (List.mem_filter.mp hkept).2
    have houtside : r.owner ∉ classes := by simpa using (List.mem_filter.mp hexcluded).2
    exact houtside hinside

end View

/-- In every view of a universe the sets of possible targets agree. If some subtype is not resolved, all
of them are refused with the first such subtype. Otherwise the receivers are the subtypes that do not
declare the method abstract, the overrides are those receivers that declare it, and the receivers inside
and outside some classes are a partition of all. With nothing hidden they are never refused. -/
theorem targetSets_agree (u : Universe) (hidden : ClassName → Bool) (m : MethodSignature)
    (classes : List ClassName) :
    let v := u.view.hide hidden
    let subtypes := u.hierarchy.subtypes m.owner
    ((∃ s ∈ subtypes, v.class? s = none) → ∃ c, v.firstUnresolved? subtypes = some c ∧
      v.RefusesSets m classes (.classNotInView c)) ∧
    ((∀ s ∈ subtypes, ∃ d, v.class? s = some d) →
      ∃ all own parts, v.TargetSets m classes all own parts) ∧
    ∃ all own parts, u.view.TargetSets m classes all own parts := by
  intro v subtypes
  refine ⟨?_, View.exists_targetSets (v := v),
    View.exists_targetSets fun _ => u.class?_of_mem_subtypes⟩
  rintro ⟨s, hs, hunresolved⟩
  obtain ⟨c, hc⟩ := View.exists_firstUnresolved? hs hunresolved
  exact ⟨c, hc, View.refusesSets (View.subtypeMethods_eq_error hc)⟩

/-- Of the hidden subtypes of `Right`, the walk down comes to `Base` before it comes to `Derived`. -/
example : (whole.view.hide ([name "Derived", name "Base"].contains ·)).receivers ⟨name "Right", run⟩ =
    .error (.classNotInView (name "Base")) := by
  cbv

/-! ## Direct subtypes -/

/-- In a universe the sets are those of the direct subtypes, together with these subtypes themselves as
far as they receive the call or implement the method. So the sets of a subtype are never larger. -/
theorem targetSets_decompose (u : Universe) (m : MethodSignature) :
    ∃ all own : ClassName → List MethodSignature,
      (∀ s, u.view.receivers (m.onClass s) = .ok (all s) ∧
        u.view.overrides (m.onClass s) = .ok (own s)) ∧
      u.view.receivers m = .ok (all m.owner) ∧ u.view.overrides m = .ok (own m.owner) ∧
      (∀ r, r ∈ all m.owner ↔ ∃ s ∈ u.hierarchy.directSubtypes m.owner,
        (m.onClass s = r ∧ u.view.Receives (m.onClass s)) ∨ r ∈ all s) ∧
      (∀ r, r ∈ own m.owner ↔ ∃ s ∈ u.hierarchy.directSubtypes m.owner,
        (m.onClass s = r ∧ u.view.Implements (m.onClass s)) ∨ r ∈ own s) ∧
      ∀ s ∈ u.hierarchy.subtypes m.owner, all s ⊆ all m.owner ∧ own s ⊆ own m.owner := by
  choose all hall hreceiver using fun a => u.exists_receivers (m.onClass a)
  choose own hown hoverride using fun a => u.exists_overrides (m.onClass a)
  refine ⟨all, own, fun s => ⟨hall s, hown s⟩, hall m.owner, hown m.owner, fun r => ?_, fun r => ?_,
    fun s hs => ⟨fun r hr => ?_, fun r hr => ?_⟩⟩
  · simp only [hreceiver]
    exact Universe.exists_subtype_iff
  · simp only [hoverride]
    exact Universe.exists_subtype_iff
  · obtain ⟨t, ht, hreceives⟩ := (hreceiver s r).mp hr
    exact (hreceiver m.owner r).mpr ⟨t, Universe.subtypes_subset hs ht, hreceives⟩
  · obtain ⟨t, ht, himplements⟩ := (hoverride s r).mp hr
    exact (hoverride m.owner r).mpr ⟨t, Universe.subtypes_subset hs ht, himplements⟩

end Devirt

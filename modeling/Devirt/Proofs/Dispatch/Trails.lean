import Devirt.Proofs.Dispatch.DiscoveryOrder
import Devirt.Proofs.Dispatch.Strict
import Devirt.Proofs.Graph.Trails

/-!
# The first default method

Which default method comes first is a matter of the interface lists alone. They order the paths to the
interfaces, shorter ones first and then by the places that a path takes in the lists. The first maximally
specific default method in this order is the one that a search takes.
-/

namespace Devirt

open Devirt.Graph

/-- A trail to an interface gives the places at which a path to it continues: first one in the interface
lists of the class of a method and of its superclasses, taken as one list, and then one in the list of
each interface. No earlier interface on the path declares the method, and all of them are declared. -/
inductive Universe.Trail (u : Universe) (m : MethodSignature) : List Nat → ClassName → Prop
  | listed {k : Nat} {i : ClassName} :
      ((m.owner :: u.hierarchy.superclasses m.owner).flatMap u.hierarchy.interfaces)[k]? = some i →
      i ∈ u.classes.map (·.name) → Trail u m [k] i
  | passed {t : List Nat} {k : Nat} {i j : ClassName} : Trail u m t i →
      u.view.method? ⟨i, m.sub⟩ = none → (u.hierarchy.interfaces i)[k]? = some j →
      j ∈ u.classes.map (·.name) → Trail u m (t ++ [k]) j

namespace Universe

/-- One interface is met before another in breadth-first order: to each trail to the other, one to it is
shorter, or as long and lexicographically smaller. -/
def MetBefore (u : Universe) (m : MethodSignature) (i j : ClassName) : Prop :=
  ∀ t, u.Trail m t j → ∃ s, u.Trail m s i ∧ List.Shortlex (· < ·) s t

/-- The default methods in the interfaces that trails lead to. -/
def metDefaults (u : Universe) (m : MethodSignature) : Set MethodDeclaration :=
  {d | ∃ i t, u.Trail m t i ∧ u.view.method? ⟨i, m.sub⟩ = some d ∧ d.isAbstract = false}

/-- A default method is the first maximally specific one: of those that nothing is more specific than, it
is met before all others. -/
def IsFirstBestDefault (u : Universe) (m : MethodSignature) (d : MethodDeclaration) : Prop :=
  d ∈ u.hierarchy.maximallySpecific (u.metDefaults m) ∧
    ∀ e ∈ u.hierarchy.maximallySpecific (u.metDefaults m), e ≠ d → u.MetBefore m d.owner e.owner

variable {u : Universe} {m : MethodSignature} {start : ClassDeclaration} {i j : ClassName}
  {t : List Nat} {d : MethodDeclaration}

/-! ## Where trails lead -/

theorem Trail.hasInterface (h : u.Trail m t i) : u.hierarchy.HasInterface m.owner i := by
  induction h with
  | listed hk _ =>
      obtain ⟨c, hc, hi⟩ := List.mem_flatMap.mp (List.mem_of_getElem? hk)
      exact ⟨c, hc, _, hi, .refl⟩
  | passed _ _ hk _ ih =>
      obtain ⟨c, hc, i, hi, hpath⟩ := ih
      exact ⟨c, hc, i, hi, hpath.tail (List.mem_of_getElem? hk)⟩

theorem metDefaults_subset_interfaceDeclarations : u.metDefaults m ⊆ u.interfaceDeclarations m := by
  rintro d ⟨i, _, htrail, hd, _⟩
  exact ⟨i, htrail.hasInterface, hd⟩

theorem IsFirstBestDefault.mem_metDefaults (h : u.IsFirstBestDefault m d) : d ∈ u.metDefaults m :=
  h.1.1

/-- Of two interfaces, only one is met before the other. By induction on trails in their order. -/
theorem MetBefore.asymm (hij : u.MetBefore m i j) (hi : u.Trail m t i) : ¬ u.MetBefore m j i := by
  intro hji
  have hnone : ∀ t, ¬ u.Trail m t i ∧ ¬ u.Trail m t j := by
    intro t
    induction t using (List.Shortlex.wf Nat.lt_wfRel.wf).induction with
    | _ t ih =>
        constructor
        · intro hti
          obtain ⟨s, hs, hst⟩ := hji t hti
          exact (ih s hst).2 hs
        · intro htj
          obtain ⟨s, hs, hst⟩ := hij t htj
          exact (ih s hst).1 hs
  exact (hnone t).1 hi

/-! ## Trails and the search -/

section

variable (hstart : u.view.class? m.owner = some start)
include hstart

theorem trail_iff : u.Trail m t i ↔ Graph.Trail (u.view.searchStep m.sub) (u.view.classes.map (·.name))
      ((u.view.chain start).flatMap (·.interfaces)) t i := by
  rw [flatMap_interfaces_chain hstart]
  constructor
  · intro h
    induction h with
    | listed hk hdeclared => exact .queued hk hdeclared
    | passed _ hnone hk hdeclared ih => exact ih.step (getElem?_searchStep.mpr ⟨hnone, hk⟩) hdeclared
  · intro h
    induction h with
    | queued hk hdeclared => exact .listed hk hdeclared
    | step _ hk hdeclared ih =>
        obtain ⟨hnone, hk⟩ := getElem?_searchStep.mp hk
        exact .passed ih hnone hk hdeclared

theorem mem_searchedInterfaces_iff_trail :
    i ∈ u.view.searchedInterfaces (u.view.chain start) m.sub ↔ ∃ t, u.Trail m t i := by
  rw [View.searchedInterfaces, mem_explore_iff_trail]
  exact exists_congr fun _ => (trail_iff hstart).symm

theorem pairwise_metBefore_searchedInterfaces :
    (u.view.searchedInterfaces (u.view.chain start) m.sub).Pairwise (u.MetBefore m) := by
  refine pairwise_explore_trail.imp fun {i j} hij t ht => ?_
  obtain ⟨s, hs, hst⟩ := hij t ((trail_iff hstart).mp ht)
  exact ⟨s, (trail_iff hstart).mpr hs, hst⟩

theorem mem_defaults_iff_metDefaults :
    d ∈ (u.view.searchDefaults (u.view.chain start) m.sub).defaults ↔ d ∈ u.metDefaults m := by
  rw [View.mem_defaults, View.mem_found]
  constructor
  · rintro ⟨⟨i, hi, hd⟩, hconcrete⟩
    obtain ⟨t, ht⟩ := (mem_searchedInterfaces_iff_trail hstart).mp hi
    exact ⟨i, t, ht, hd, hconcrete⟩
  · rintro ⟨i, t, ht, hd, hconcrete⟩
    exact ⟨⟨i, (mem_searchedInterfaces_iff_trail hstart).mpr ⟨t, ht⟩, hd⟩, hconcrete⟩

theorem pairwise_metBefore_found :
    (u.view.found (u.view.chain start) m.sub).Pairwise fun d e => u.MetBefore m d.owner e.owner := by
  refine List.pairwise_filterMap.mpr ?_
  refine (pairwise_metBefore_searchedInterfaces hstart).imp fun {i j} hij d hd e he => ?_
  rwa [View.owner_of_method? hd, View.owner_of_method? he]

theorem mem_mostSpecific_defaults_iff :
    d ∈ u.hierarchy.mostSpecific (u.view.searchDefaults (u.view.chain start) m.sub).defaults ↔
      d ∈ u.hierarchy.maximallySpecific (u.metDefaults m) := by
  simp only [Hierarchy.mem_mostSpecific, Hierarchy.maximallySpecific, mem_defaults_iff_metDefaults hstart]
  rfl

end

end Universe

/-! ## The choice of the first -/

/-- A relation that holds in one direction only tells the first element of a list in its order. -/
theorem head?_eq_some_iff_of_pairwise {α : Type} {r : α → α → Prop} {l : List α} {a : α}
    (hasymm : ∀ b ∈ l, ∀ c, r b c → ¬ r c b) (hl : l.Pairwise r) :
    l.head? = some a ↔ a ∈ l ∧ ∀ b ∈ l, b ≠ a → r a b := by
  cases l with
  | nil => simp
  | cons x l =>
      obtain ⟨hx, -⟩ := List.pairwise_cons.mp hl
      rw [List.head?_cons, Option.some.injEq]
      constructor
      · rintro rfl
        refine ⟨List.mem_cons_self, fun b hb hne => ?_⟩
        exact hx b ((List.mem_cons.mp hb).resolve_left hne)
      · rintro ⟨ha, hfirst⟩
        rcases List.mem_cons.mp ha with rfl | ha
        · rfl
        · by_contra hne
          exact hasymm x List.mem_cons_self a (hx a ha) (hfirst x List.mem_cons_self hne)

namespace Universe

variable {u : Universe} {m : MethodSignature} {start : ClassDeclaration} {d : MethodDeclaration}

/-- The default method that a search takes is the first best one. -/
theorem head?_mostSpecific_defaults_eq_some_iff (hstart : u.view.class? m.owner = some start) :
    (u.hierarchy.mostSpecific (u.view.searchDefaults (u.view.chain start) m.sub).defaults).head? =
      some d ↔ u.IsFirstBestDefault m d := by
  have hpairwise : (u.hierarchy.mostSpecific
      (u.view.searchDefaults (u.view.chain start) m.sub).defaults).Pairwise fun d e =>
        u.MetBefore m d.owner e.owner :=
    ((pairwise_metBefore_found hstart).filter _).filter _
  rw [head?_eq_some_iff_of_pairwise ?_ hpairwise]
  · simp only [mem_mostSpecific_defaults_iff hstart]
    rfl
  · intro b hb e hbe
    obtain ⟨i, t, ht, hd, _⟩ :=
      (mem_defaults_iff_metDefaults hstart).mp (Hierarchy.mem_of_mem_mostSpecific hb)
    have howner : b.owner = i := View.owner_of_method? hd
    subst howner
    exact hbe.asymm ht

end Universe

end Devirt

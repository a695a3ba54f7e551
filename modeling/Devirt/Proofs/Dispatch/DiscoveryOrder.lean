import Devirt.Proofs.Dispatch.Outcome
import Devirt.Proofs.Graph.Levels

/-!
# Dispatch by order of discovery

Where no class declares a method, the interfaces above the class are visited nearest first, and the
visits turn back at each interface that declares the method. Of the default methods that are met, the
first one is taken that no other one is more specific than.
-/

namespace Devirt

open Devirt.Graph Diamond

/-! ## The first maximally specific declaration -/

theorem Hierarchy.head?_mostSpecific_eq_some_iff {h : Hierarchy}
    {candidates : List MethodDeclaration} {d : MethodDeclaration} :
    (h.mostSpecific candidates).head? = some d ↔
      ∃ before after, candidates = before ++ d :: after ∧
        (∀ e ∈ candidates, ¬ h.MoreSpecific e d) ∧
        ∀ e ∈ before, ∃ f ∈ candidates, h.MoreSpecific f e := by
  rw [mostSpecific, List.head?_filter, List.find?_eq_some_iff_append]
  simp only [MoreSpecific, Bool.not_eq_true', List.any_eq_false, Bool.and_eq_true,
    decide_eq_true_eq, Bool.not_eq_false', List.any_eq_true]
  constructor
  · rintro ⟨hbest, before, after, hsplit, hbefore⟩
    exact ⟨before, after, hsplit, hbest, hbefore⟩
  · rintro ⟨before, after, hsplit, hbest, hbefore⟩
    exact ⟨hbest, before, after, hsplit, hbefore⟩

/-! ## Paths to interfaces -/

/-- An interface is met after `n` edges: it is declared, and a path leads to it from the interface list
of the class of a method or of one of its superclasses, on which no earlier interface declares the
method. -/
inductive Universe.Meets (u : Universe) (m : MethodSignature) : Nat → ClassName → Prop
  | listed {c i : ClassName} : c ∈ m.owner :: u.hierarchy.superclasses m.owner →
      i ∈ u.hierarchy.interfaces c → i ∈ u.classes.map (·.name) → Meets u m 0 i
  | passed {n : Nat} {i j : ClassName} : Meets u m n i → u.view.method? ⟨i, m.sub⟩ = none →
      j ∈ u.hierarchy.interfaces i → j ∈ u.classes.map (·.name) → Meets u m (n + 1) j

namespace Universe

variable {u : Universe} {m : MethodSignature} {start : ClassDeclaration} {a i j : ClassName} {n : Nat}

theorem interfaces_of_unresolved (h : u.view.class? a = none) : u.hierarchy.interfaces a = [] := by
  have hfind : Hierarchy.find? u.classes a = none := h
  show ((Hierarchy.find? u.classes a).map (·.interfaces)).getD [] = []
  rw [hfind]
  rfl

theorem flatMap_interfaces_filterMap (names : List ClassName) :
    (names.filterMap u.view.class?).flatMap (·.interfaces) = names.flatMap u.hierarchy.interfaces := by
  induction names with
  | nil => rfl
  | cons a rest ih =>
      cases ha : u.view.class? a with
      | none =>
          rw [List.filterMap_cons_none ha, List.flatMap_cons, interfaces_of_unresolved ha, ih]
          rfl
      | some d =>
          rw [List.filterMap_cons_some ha, List.flatMap_cons, List.flatMap_cons,
            u.view_agrees a d ha, ih]
          rfl

/-- A search starts from the interface lists of the class and its superclasses, in this order. -/
theorem flatMap_interfaces_chain (hstart : u.view.class? a = some start) :
    (u.view.chain start).flatMap (·.interfaces) =
      (a :: u.hierarchy.superclasses a).flatMap u.hierarchy.interfaces := by
  have hname := View.name_of_class? hstart
  rw [← flatMap_interfaces_filterMap, List.filterMap_cons_some hstart, View.chain, hname]
  rfl

theorem getElem?_searchStep {k : Nat} :
    (u.view.searchStep m.sub i)[k]? = some j ↔
      u.view.method? ⟨i, m.sub⟩ = none ∧ (u.hierarchy.interfaces i)[k]? = some j := by
  cases hi : u.view.class? i with
  | none => simp [View.searchStep, hi, interfaces_of_unresolved hi]
  | some d =>
      have hinterfaces : d.interfaces = u.hierarchy.interfaces i := u.view_agrees i d hi
      cases hd : d.method? m.sub with
      | none => simp [View.searchStep, View.method?, hi, hd, hinterfaces]
      | some e => simp [View.searchStep, View.method?, hi, hd]

theorem mem_searchStep :
    j ∈ u.view.searchStep m.sub i ↔
      u.view.method? ⟨i, m.sub⟩ = none ∧ j ∈ u.hierarchy.interfaces i := by
  simp only [List.mem_iff_getElem?, getElem?_searchStep, exists_and_left]

theorem meets_iff_reachedIn (hstart : u.view.class? m.owner = some start) :
    u.Meets m n i ↔ ReachedIn (u.view.searchStep m.sub) (u.view.classes.map (·.name))
      ((u.view.chain start).flatMap (·.interfaces)) n i := by
  rw [flatMap_interfaces_chain hstart]
  constructor
  · intro h
    induction h with
    | listed hc hi hdeclared => exact .queued (List.mem_flatMap.mpr ⟨_, hc, hi⟩) hdeclared
    | passed _ hnone hj hdeclared ih => exact ih.step (mem_searchStep.mpr ⟨hnone, hj⟩) hdeclared
  · intro h
    induction h with
    | queued hi hdeclared =>
        obtain ⟨c, hc, hi⟩ := List.mem_flatMap.mp hi
        exact .listed hc hi hdeclared
    | step _ hj hdeclared ih =>
        obtain ⟨hnone, hj⟩ := mem_searchStep.mp hj
        exact .passed ih hnone hj hdeclared

end Universe

/-! ## The order of the visits -/

namespace Universe

variable {u : Universe} {m : MethodSignature} {start : ClassDeclaration} {i : ClassName}
  (hstart : u.view.class? m.owner = some start)
include hstart

theorem mem_searchedInterfaces_iff :
    i ∈ u.view.searchedInterfaces (u.view.chain start) m.sub ↔ ∃ n, u.Meets m n i := by
  rw [View.searchedInterfaces, mem_explore_iff_reachedIn]
  exact exists_congr fun _ => (meets_iff_reachedIn hstart).symm

theorem pairwise_searchedInterfaces :
    (u.view.searchedInterfaces (u.view.chain start) m.sub).Pairwise fun i j =>
      ∀ k n, IsLeast {n | u.Meets m n i} k → IsLeast {n | u.Meets m n j} n → k ≤ n :=
  pairwise_explore_isLeast fun _ _ => meets_iff_reachedIn hstart

/-- First come the declared interfaces of the lists that a search starts from. -/
theorem exists_searchedInterfaces_eq_append :
    ∃ later, u.view.searchedInterfaces (u.view.chain start) m.sub =
        (((m.owner :: u.hierarchy.superclasses m.owner).flatMap u.hierarchy.interfaces).filter
          (· ∈ u.classes.map (·.name))).eraseDups ++ later ∧
      ∀ i ∈ later, ¬ u.Meets m 0 i := by
  rw [← flatMap_interfaces_chain hstart]
  obtain ⟨later, hsplit, hlater⟩ := @exists_explore_eq_level_append _
    (u.view.searchStep m.sub) (u.view.classes.map (·.name))
    ((u.view.chain start).flatMap (·.interfaces)) _
  exact ⟨later, hsplit, fun i hi hzero => hlater i hi ((meets_iff_reachedIn hstart).mp hzero)⟩

end Universe

/-! ## The outcome -/

section

variable {v : View} {m : MethodSignature} {chain : List ClassDeclaration} {sub : SubSignature}
  {h : Hierarchy} {start : ClassDeclaration}

/-- Where no default method is found, all that is found is abstract. -/
theorem View.abstracts_eq_found (hdefaults : (v.searchDefaults chain sub).defaults = []) :
    (v.searchDefaults chain sub).abstracts = v.found chain sub := by
  refine List.filter_eq_self.mpr fun d hd => ?_
  by_contra hconcrete
  have hdefault := View.mem_defaults.mpr ⟨hd, by simpa using hconcrete⟩
  simp [hdefaults] at hdefault

theorem DefaultSearch.exists_first_best_default (search : DefaultSearch) (ho : h.Ordered)
    (hdefaults : search.defaults ≠ []) :
    ∃ before d after, search.defaults = before ++ d :: after ∧
      View.searchOutcome h .discoveryOrder start m search = .ok (some d.signature) ∧
      (∀ e ∈ search.defaults, ¬ h.MoreSpecific e d) ∧
      ∀ e ∈ before, ∃ f ∈ search.defaults, h.MoreSpecific f e := by
  obtain ⟨d, hd⟩ : ∃ d, (h.mostSpecific search.defaults).head? = some d :=
    Option.isSome_iff_exists.mp (List.isSome_head?.mpr (ho.mostSpecific_ne_nil hdefaults))
  obtain ⟨before, after, hsplit, hbest, hbefore⟩ := Hierarchy.head?_mostSpecific_eq_some_iff.mp hd
  refine ⟨before, d, after, hsplit, ?_, hbest, hbefore⟩
  rw [searchOutcome_of_defaults hdefaults, defaultOutcome_discoveryOrder, hd]
  rfl

end

/-- Dispatch by order of discovery takes the first maximally specific default method. Where no class
declares a method, exactly the interfaces are visited to which a path leads past no declaration of it,
each once, and none before one that is nearer. The declared interfaces that the class and its superclasses
list come first, in the order of the lists. Of the default methods in the order of the visits, that one
is the target that no other one is more specific than, while every one before it has a more specific one.
If there is none, the first abstract declaration decides the call, and without a declaration there is no
implementation. -/
theorem concreteTarget_discoveryOrder (u : Universe) (hroot : u.Rooted) (m : MethodSignature)
    (start : ClassDeclaration) (hstart : u.view.class? m.owner = some start)
    (hnone : ∀ c ∈ m.owner :: u.hierarchy.superclasses m.owner, u.view.method? ⟨c, m.sub⟩ = none) :
    let listed := (m.owner :: u.hierarchy.superclasses m.owner).flatMap u.hierarchy.interfaces
    let visited := u.view.searchedInterfaces (u.view.chain start) m.sub
    let found := visited.filterMap fun i => u.view.method? ⟨i, m.sub⟩
    let defaults := found.filter (!·.isAbstract)
    let target := u.view.concreteTarget .discoveryOrder m
    (∀ i, i ∈ visited ↔ ∃ n, u.Meets m n i) ∧
    visited.Nodup ∧
    (visited.Pairwise fun i j =>
      ∀ k n, IsLeast {n | u.Meets m n i} k → IsLeast {n | u.Meets m n j} n → k ≤ n) ∧
    (∃ later, visited = (listed.filter (· ∈ u.classes.map (·.name))).eraseDups ++ later ∧
      ∀ i ∈ later, ¬ u.Meets m 0 i) ∧
    (defaults ≠ [] → ∃ before d after, defaults = before ++ d :: after ∧
      target = .ok (some d.signature) ∧
      (∀ e ∈ defaults, ¬ u.hierarchy.MoreSpecific e d) ∧
      ∀ e ∈ before, ∃ f ∈ defaults, u.hierarchy.MoreSpecific f e) ∧
    (defaults = [] → ∀ d, found.head? = some d →
      target = if start.isAbstract then .ok none else .error (.abstractMethod d.signature)) ∧
    (found = [] → target = .error (.noConcreteImplementation m)) := by
  intro listed visited found defaults target
  let search := u.view.searchDefaults (u.view.chain start) m.sub
  have htarget : target = View.searchOutcome u.hierarchy .discoveryOrder start m search :=
    View.concreteTarget_of_searched hstart ((View.chain_declares_nothing hstart).mpr hnone)
  rw [htarget]
  refine ⟨fun i => Universe.mem_searchedInterfaces_iff hstart, nodup_explore,
    Universe.pairwise_searchedInterfaces hstart,
    Universe.exists_searchedInterfaces_eq_append hstart,
    search.exists_first_best_default hroot.ordered, fun hdefaults d hd => ?_, fun hfound => ?_⟩
  · have habstracts : search.abstracts = found := View.abstracts_eq_found hdefaults
    exact DefaultSearch.searchOutcome_of_onlyAbstract hdefaults (habstracts ▸ hd)
  · exact DefaultSearch.searchOutcome_eq_noConcrete_iff.mpr
      ⟨rfl, View.candidates_eq_nil_iff.mpr hfound⟩

namespace Diamond

def heir : ClassDeclaration :=
  declare (name "Heir") 0x0001 .object [name "First", name "Second", name "Third"] none

/-- `First` and `Second` implement the method, and so does `Third`, which extends `First`. -/
def competing : List ClassDeclaration :=
  [declare (name "First") 0x0601 .object [] (some 0x0001),
    declare (name "Second") 0x0601 .object [] (some 0x0001),
    declare (name "Third") 0x0601 .object [name "First"] (some 0x0001), heir]

def contested : Universe := ⟨competing, by decide, by cbv⟩

end Diamond

/-- A call of `Heir` runs `Second`, and not `First` before it, as `Third` is more specific than that. -/
theorem concreteTarget_discoveryOrder_contested :
    let m : MethodSignature := ⟨name "Heir", run⟩
    let defaults := [name "First", name "Second", name "Third"].map (method · 0x0001)
    contested.Rooted ∧ contested.view.class? m.owner = some heir ∧
    (∀ c ∈ m.owner :: contested.hierarchy.superclasses m.owner,
      contested.view.method? ⟨c, m.sub⟩ = none) ∧
    contested.view.concreteTarget .discoveryOrder m = .ok (some ⟨name "Second", run⟩) ∧
    ∃ before d after, defaults = before ++ d :: after ∧ d.signature = ⟨name "Second", run⟩ ∧
      (∀ e ∈ defaults, ¬ contested.hierarchy.MoreSpecific e d) ∧
      ∀ e ∈ before, ∃ f ∈ defaults, contested.hierarchy.MoreSpecific f e := by
  intro m defaults
  have hrooted : contested.Rooted := by
    unfold Universe.Rooted
    decide
  have hstart : contested.view.class? m.owner = some heir := by cbv
  have hnone : ∀ c ∈ m.owner :: contested.hierarchy.superclasses m.owner,
      contested.view.method? ⟨c, m.sub⟩ = none := by
    have hchain : m.owner :: contested.hierarchy.superclasses m.owner = [name "Heir"] := by cbv
    rw [hchain]
    decide
  have hdefaults : ((contested.view.searchedInterfaces (contested.view.chain heir) m.sub).filterMap
      fun i => contested.view.method? ⟨i, m.sub⟩).filter (!·.isAbstract) = defaults := by cbv
  have htarget : contested.view.concreteTarget .discoveryOrder m =
      .ok (some ⟨name "Second", run⟩) := by cbv
  obtain ⟨_, _, _, _, hbest, _⟩ := concreteTarget_discoveryOrder contested hrooted m _ hstart hnone
  rw [hdefaults, htarget] at hbest
  obtain ⟨before, d, after, hsplit, hd, hbest, hbefore⟩ := hbest (by decide)
  have hsignature : d.signature = ⟨name "Second", run⟩ := (Option.some.inj (Except.ok.inj hd)).symm
  exact ⟨hrooted, hstart, hnone, htarget, before, d, after, hsplit, hsignature, hbest, hbefore⟩

end Devirt

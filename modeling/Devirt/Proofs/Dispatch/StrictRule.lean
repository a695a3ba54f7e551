import Devirt.Proofs.Dispatch.Strict
import Devirt.Proofs.Hierarchy.InterfaceLists

/-!
# What a strict call depends on

Where no class declares a method, the kind of outcome of a strict call depends on the maximally specific
declarations above its class and, unless there is exactly one, on whether the search met a default
method. A search can turn back before it meets one, so this is the one point at which the interface
lists matter beyond what they lead to.
-/

namespace Devirt

open Relation Devirt.Graph

/-! ## Kinds of outcomes -/

/-- An outcome without what its error names, except for the candidates of an ambiguous call, which come
in no order. -/
inductive OutcomeKind where
  | value (target : Option MethodSignature)
  | classNotInView
  | abstractMethod
  | noConcreteImplementation
  | ambiguousDefaultMethod (candidates : Set MethodSignature)
  | notSpecialCall

def outcomeKind : Except DispatchError (Option MethodSignature) → OutcomeKind
  | .ok target => .value target
  | .error (.classNotInView _) => .classNotInView
  | .error (.abstractMethod _) => .abstractMethod
  | .error (.noConcreteImplementation _) => .noConcreteImplementation
  | .error (.ambiguousDefaultMethod _ candidates) => .ambiguousDefaultMethod {s | s ∈ candidates}
  | .error (.notSpecialCall _) => .notSpecialCall

/-- The kind of outcome where all that is inherited is abstract. -/
def OutcomeKind.unimplemented (start : ClassDeclaration) : OutcomeKind :=
  if start.isAbstract then .value none else .abstractMethod

theorem outcomeKind_eq_target_iff {outcome t} :
    outcomeKind outcome = .value (some t) ↔ outcome = .ok (some t) := by
  match outcome with
  | .ok target => simp [outcomeKind]
  | .error (.classNotInView _) => simp [outcomeKind]
  | .error (.abstractMethod _) => simp [outcomeKind]
  | .error (.noConcreteImplementation _) => simp [outcomeKind]
  | .error (.ambiguousDefaultMethod _ _) => simp [outcomeKind]
  | .error (.notSpecialCall _) => simp [outcomeKind]

theorem outcomeKind_abstractOutcome {start : ClassDeclaration} {d : MethodDeclaration} :
    outcomeKind (View.abstractOutcome start d) = .unimplemented start := by
  unfold View.abstractOutcome OutcomeKind.unimplemented
  split <;> rfl

theorem OutcomeKind.unimplemented_ne_target {start : ClassDeclaration} {t} :
    unimplemented start ≠ .value (some t) := by
  unfold unimplemented
  split <;> simp

theorem OutcomeKind.unimplemented_ne_ambiguous {start : ClassDeclaration} {candidates} :
    unimplemented start ≠ .ambiguousDefaultMethod candidates := by
  unfold unimplemented
  split <;> simp

/-! ## The search of a call -/

namespace View

variable {v : View} {m : MethodSignature}

/-- The search that a call makes where no class declares its method. -/
def searchFor (v : View) (m : MethodSignature) : DefaultSearch :=
  match v.class? m.owner with
  | some start => v.searchDefaults (v.chain start) m.sub
  | none => ⟨[], []⟩

theorem searchFor_of_class? {start} (hstart : v.class? m.owner = some start) :
    v.searchFor m = v.searchDefaults (v.chain start) m.sub := by
  simp only [searchFor, hstart]

theorem searchFor_of_unresolved (hstart : v.class? m.owner = none) : v.searchFor m = ⟨[], []⟩ := by
  simp only [searchFor, hstart]

theorem searchFor_sound (v : View) (m : MethodSignature) : (v.searchFor m).Sound := by
  cases hstart : v.class? m.owner with
  | some start =>
      rw [searchFor_of_class? hstart]
      exact v.searchDefaults_sound _ _
  | none =>
      rw [searchFor_of_unresolved hstart]
      exact ⟨by simp, by simp, List.nodup_nil, by simp [Hierarchy.ByOwner, DefaultSearch.candidates]⟩

end View

/-! ## Kinds of strict calls -/

namespace Universe

variable {u u' : Universe} {m : MethodSignature} {start : ClassDeclaration}

/-- The maximally specific declarations of a method above its class. -/
def best (u : Universe) (m : MethodSignature) : Set MethodDeclaration :=
  u.hierarchy.maximallySpecific (u.interfaceDeclarations m)

section

variable (hstart : u.view.class? m.owner = some start)
  (hnone : (u.view.chain start).findSome? (·.method? m.sub) = none)
include hstart hnone

theorem concreteTarget_of_searchFor (policy : DiamondPolicy) :
    u.view.concreteTarget policy m =
      View.searchOutcome u.hierarchy policy start m (u.view.searchFor m) := by
  rw [View.searchFor_of_class? hstart]
  exact View.concreteTarget_of_searched hstart hnone

theorem outcomeKind_of_nothing (hempty : u.interfaceDeclarations m = ∅) :
    outcomeKind (u.view.concreteTarget .strict m) = .noConcreteImplementation := by
  have hcandidates := (interfaceDeclarations_eq_empty_iff hstart).mp hempty
  rw [← View.searchFor_of_class? hstart] at hcandidates
  rw [concreteTarget_of_searchFor hstart hnone,
    DefaultSearch.searchOutcome_eq_noConcrete_iff.mpr ⟨rfl, hcandidates⟩]
  rfl

/-- Without a default method the search ends at an abstract declaration, however many are best. -/
theorem outcomeKind_of_no_default (hne : u.interfaceDeclarations m ≠ ∅)
    (hdefaults : (u.view.searchFor m).defaults = []) :
    outcomeKind (u.view.concreteTarget .strict m) = .unimplemented start := by
  have hcandidates : (u.view.searchFor m).candidates ≠ [] := by
    rw [View.searchFor_of_class? hstart]
    exact (interfaceDeclarations_eq_empty_iff hstart).not.mp hne
  obtain ⟨d, _, houtcome⟩ :=
    DefaultSearch.exists_searchOutcome_of_no_default hdefaults hcandidates
  rw [concreteTarget_of_searchFor hstart hnone, houtcome, outcomeKind_abstractOutcome]

theorem outcomeKind_of_single (hroot : u.Rooted) {d} (hbest : u.best m = {d}) :
    outcomeKind (u.view.concreteTarget .strict m) =
      if d.isAbstract then .unimplemented start else .value (some d.signature) := by
  have hsound := u.view.searchFor_sound m
  have hsingle := (maximallySpecific_eq_singleton_iff hroot hstart).mp hbest
  rw [← View.searchFor_of_class? hstart] at hsingle
  have hmem := Hierarchy.mem_of_mostSpecific_eq_singleton hsingle
  by_cases hdefaults : (u.view.searchFor m).defaults = []
  · have hne : u.interfaceDeclarations m ≠ ∅ := by
      intro hempty
      have hd : d ∈ u.best m := by rw [hbest]; rfl
      simpa [hempty] using hd.1
    rw [outcomeKind_of_no_default hstart hnone hne hdefaults,
      if_pos (hsound.abstract_of_no_default hdefaults hmem)]
  · rw [concreteTarget_of_searchFor hstart hnone,
      DefaultSearch.searchOutcome_of_defaults hdefaults,
      hsound.defaultOutcome_of_singleton hroot.ordered hsingle]
    split
    · exact outcomeKind_abstractOutcome
    · rfl

theorem outcomeKind_of_several (hroot : u.Rooted) (hbest : ∀ d, u.best m ≠ {d})
    (hdefaults : (u.view.searchFor m).defaults ≠ []) :
    outcomeKind (u.view.concreteTarget .strict m) =
      .ambiguousDefaultMethod (MethodDeclaration.signature '' u.best m) := by
  have hseveral : ∀ d, u.hierarchy.mostSpecific (u.view.searchFor m).candidates ≠ [d] := by
    intro d hone
    rw [View.searchFor_of_class? hstart] at hone
    exact hbest d ((maximallySpecific_eq_singleton_iff hroot hstart).mpr hone)
  obtain ⟨signatures, houtcome, _, _, hmem⟩ :=
    (u.view.searchFor_sound m).defaultOutcome_of_not_singleton hroot.ordered hdefaults hseveral
  rw [concreteTarget_of_searchFor hstart hnone, DefaultSearch.searchOutcome_of_defaults hdefaults]
  refine (congrArg outcomeKind houtcome).trans (congrArg _ (Set.ext fun s => ?_))
  refine (hmem s).trans (exists_congr fun d => and_congr_left fun _ => ?_)
  rw [View.searchFor_of_class? hstart]
  exact mem_mostSpecific_candidates hroot hstart

theorem outcomeKind_ne_target (hroot : u.Rooted) (hbest : ∀ d, u.best m ≠ {d}) {t} :
    outcomeKind (u.view.concreteTarget .strict m) ≠ .value (some t) := by
  by_cases hempty : u.interfaceDeclarations m = ∅
  · rw [outcomeKind_of_nothing hstart hnone hempty]
    simp
  by_cases hdefaults : (u.view.searchFor m).defaults = []
  · rw [outcomeKind_of_no_default hstart hnone hempty hdefaults]
    exact OutcomeKind.unimplemented_ne_target
  · rw [outcomeKind_of_several hstart hnone hroot hbest hdefaults]
    simp

end

end Universe

end Devirt

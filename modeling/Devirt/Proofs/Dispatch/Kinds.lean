import Devirt.Proofs.Dispatch.Outcome

/-!
# What the kinds of outcomes say

A call has no target only for the reason that its outcome gives: the class is not resolved, nobody
declares the method, everything that is inherited is abstract, or several declarations compete. In
particular the search never ends without a declaration that is maximally specific, so a call on a
concrete class either has a target or is refused.
-/

namespace Devirt

open Diamond

/-! ## Outcomes of a search -/

namespace DefaultSearch

variable {search : DefaultSearch} {h : Hierarchy} {start : ClassDeclaration} {m : MethodSignature}
  {policy : DiamondPolicy}

/-- The outcomes that a search can have, with what each says about the search. -/
inductive Ending (search : DefaultSearch) (start : ClassDeclaration) (m : MethodSignature) :
    Except DispatchError (Option MethodSignature) → Prop
  | nothing : search.candidates = [] →
      Ending search start m (.error (.noConcreteImplementation m))
  | target (d : MethodDeclaration) : d ∈ search.defaults →
      Ending search start m (.ok (some d.signature))
  | inherited : start.isAbstract = true → Ending search start m (.ok none)
  | unimplemented (d : MethodDeclaration) : d ∈ search.candidates → d.isAbstract = true →
      Ending search start m (.error (.abstractMethod d.signature))
  | ambiguous (signatures : List MethodSignature) :
      Ending search start m (.error (.ambiguousDefaultMethod m signatures))

theorem ending_of_abstract {d} (hd : d ∈ search.candidates) (habstract : d.isAbstract = true) :
    search.Ending start m (View.abstractOutcome start d) := by
  unfold View.abstractOutcome
  split
  · rename_i hstart
    exact .inherited hstart
  · exact .unimplemented d hd habstract

theorem Sound.defaultOutcome_ending (hs : search.Sound) (ho : h.Ordered)
    (hdefaults : search.defaults ≠ []) :
    search.Ending start m (View.defaultOutcome h policy start m search) := by
  cases policy with
  | discoveryOrder =>
      obtain ⟨d, hd, houtcome⟩ : ∃ d ∈ search.defaults,
          View.defaultOutcome h .discoveryOrder start m search = .ok (some d.signature) :=
        exists_default_target ho hdefaults
      rw [houtcome]
      exact .target d hd
  | strict =>
      cases competition ho hdefaults with
      | implemented best hbest hconcrete =>
          rw [hs.defaultOutcome_of_implemented ho hbest hconcrete]
          have hmem := Hierarchy.mem_of_mostSpecific_eq_singleton hbest
          exact .target best (hs.mem_defaults hmem hconcrete)
      | unimplemented best hbest habstract =>
          rw [defaultOutcome_of_unimplemented hbest habstract]
          exact ending_of_abstract (Hierarchy.mem_of_mostSpecific_eq_singleton hbest) habstract
      | several a b rest hbest =>
          rw [defaultOutcome_of_several hbest]
          exact .ambiguous _

theorem Sound.searchOutcome_ending (hs : search.Sound) (ho : h.Ordered) :
    search.Ending start m (View.searchOutcome h policy start m search) := by
  cases search.finding with
  | nothing hdefaults habstracts =>
      rw [searchOutcome_of_nothing hdefaults habstracts]
      exact .nothing (by rw [candidates, hdefaults, habstracts, List.nil_append])
  | onlyAbstract d hdefaults hd =>
      rw [searchOutcome_of_onlyAbstract hdefaults hd]
      have hmem : d ∈ search.abstracts := List.mem_of_mem_head? hd
      exact ending_of_abstract (List.mem_append_right _ hmem) (hs.abstracts_abstract d hmem)
  | defaults hdefaults =>
      rw [searchOutcome_of_defaults hdefaults]
      exact hs.defaultOutcome_ending ho hdefaults

end DefaultSearch

/-! ## Outcomes of a call -/

namespace View

variable {v : View} {m : MethodSignature} {policy : DiamondPolicy}

/-- The outcomes that a call can have, with what each says about the call. -/
inductive Verdict (v : View) (m : MethodSignature) :
    Except DispatchError (Option MethodSignature) → Prop
  | unresolved : v.class? m.owner = none → Verdict v m (.error (.classNotInView m.owner))
  | nothing (start : ClassDeclaration) : v.class? m.owner = some start →
      (v.chain start).findSome? (·.method? m.sub) = none → v.found (v.chain start) m.sub = [] →
      Verdict v m (.error (.noConcreteImplementation m))
  | target (d : MethodDeclaration) : v.method? d.signature = some d → d.sub = m.sub →
      d.isAbstract = false → Verdict v m (.ok (some d.signature))
  | inherited (start : ClassDeclaration) : v.class? m.owner = some start →
      start.isAbstract = true → start.method? m.sub = none → Verdict v m (.ok none)
  | unimplemented (d : MethodDeclaration) : v.method? d.signature = some d → d.sub = m.sub →
      d.isAbstract = true → Verdict v m (.error (.abstractMethod d.signature))
  | ambiguous (signatures : List MethodSignature) :
      Verdict v m (.error (.ambiguousDefaultMethod m signatures))

theorem method?_signature {c d} (hd : v.method? ⟨c, m.sub⟩ = some d) :
    v.method? d.signature = some d ∧ d.sub = m.sub := by
  have hsignature := signature_of_method? hd
  exact ⟨hsignature ▸ hd, by rw [MethodDeclaration.sub, hsignature]⟩

/-- Where the nearest declaration of the chain is above the start, the start declares nothing. -/
theorem method?_of_declared_above {start d}
    (hd : (v.chain start).findSome? (·.method? m.sub) = some d) (howner : d.owner ≠ start.name) :
    start.method? m.sub = none := by
  cases hown : start.method? m.sub with
  | none => rfl
  | some e =>
      rw [chain, List.findSome?_cons, hown] at hd
      cases hd
      exact absurd (start.methods_owner d (List.mem_of_find?_eq_some hown)) howner

theorem verdict_of_declared {start d} (hstart : v.class? m.owner = some start)
    (hd : (v.chain start).findSome? (·.method? m.sub) = some d) :
    v.Verdict m (classOutcome start d) := by
  obtain ⟨c, _, hmethod⟩ := declared_in_chain hstart hd
  obtain ⟨hsignature, hsub⟩ := method?_signature hmethod
  unfold classOutcome
  split
  · rename_i hconcrete
    exact .target d hsignature hsub (by simpa using hconcrete)
  · rename_i habstract
    split
    · rename_i habove
      rw [Bool.and_eq_true, decide_eq_true_eq] at habove
      exact .inherited start hstart habove.1 (method?_of_declared_above hd habove.2)
    · exact .unimplemented d hsignature hsub (by simpa using habstract)

theorem verdict_of_ending {start outcome} (hstart : v.class? m.owner = some start)
    (hnone : (v.chain start).findSome? (·.method? m.sub) = none)
    (hending : (v.searchDefaults (v.chain start) m.sub).Ending start m outcome) :
    v.Verdict m outcome := by
  cases hending with
  | nothing hempty => exact .nothing start hstart hnone (candidates_eq_nil_iff.mp hempty)
  | target d hd =>
      obtain ⟨hfound, hconcrete⟩ := mem_defaults.mp hd
      obtain ⟨i, _, hmethod⟩ := mem_found.mp hfound
      obtain ⟨hsignature, hsub⟩ := method?_signature hmethod
      exact .target d hsignature hsub hconcrete
  | inherited habstract =>
      have hown := List.findSome?_eq_none_iff.mp hnone start List.mem_cons_self
      exact .inherited start hstart habstract hown
  | unimplemented d hd habstract =>
      obtain ⟨i, _, hmethod⟩ := mem_found.mp (mem_candidates.mp hd)
      obtain ⟨hsignature, hsub⟩ := method?_signature hmethod
      exact .unimplemented d hsignature hsub habstract
  | ambiguous signatures => exact .ambiguous signatures

theorem verdict (ho : v.hierarchy.Ordered) (policy : DiamondPolicy) (m : MethodSignature) :
    v.Verdict m (v.concreteTarget policy m) := by
  cases v.stage m with
  | unresolved hstart =>
      rw [concreteTarget_of_unresolved hstart]
      exact .unresolved hstart
  | declared start d hstart hd =>
      rw [concreteTarget_of_declared hstart hd]
      exact verdict_of_declared hstart hd
  | searched start hstart hnone =>
      rw [concreteTarget_of_searched hstart hnone]
      have hsound := v.searchDefaults_sound (v.chain start) m.sub
      exact verdict_of_ending hstart hnone (hsound.searchOutcome_ending ho)

theorem concreteTarget_eq_classNotInView_iff (ho : v.hierarchy.Ordered) {c} :
    v.concreteTarget policy m = .error (.classNotInView c) ↔
      c = m.owner ∧ v.class? m.owner = none := by
  constructor
  · intro htarget
    have hverdict := verdict ho policy m
    rw [htarget] at hverdict
    cases hverdict with
    | unresolved hstart => exact ⟨rfl, hstart⟩
  · rintro ⟨rfl, hstart⟩
    exact concreteTarget_of_unresolved hstart

theorem concreteTarget_eq_noConcrete_iff (ho : v.hierarchy.Ordered) (hv : v.Agrees) {n} :
    v.concreteTarget policy m = .error (.noConcreteImplementation n) ↔
      n = m ∧ ∃ start, v.class? m.owner = some start ∧
        (∀ c ∈ m.owner :: v.hierarchy.superclasses m.owner, v.method? ⟨c, m.sub⟩ = none) ∧
        ∀ i, v.Reaches (v.chain start) i → v.method? ⟨i, m.sub⟩ = none := by
  constructor
  · intro htarget
    have hverdict := verdict ho policy m
    rw [htarget] at hverdict
    cases hverdict with
    | nothing start hstart hnone hfound =>
        exact ⟨rfl, start, hstart, (chain_declares_nothing hstart).mp hnone,
          (found_eq_nil_iff hv).mp hfound⟩
  · rintro ⟨rfl, start, hstart, hnone, hinterfaces⟩
    rw [concreteTarget_of_searched hstart ((chain_declares_nothing hstart).mpr hnone),
      DefaultSearch.searchOutcome_eq_noConcrete_iff, candidates_eq_nil_iff]
    exact ⟨rfl, (found_eq_nil_iff hv).mpr hinterfaces⟩

theorem abstract_of_concreteTarget_eq_none (ho : v.hierarchy.Ordered)
    (htarget : v.concreteTarget policy m = .ok none) :
    ∃ start, v.class? m.owner = some start ∧ start.isAbstract = true ∧
      start.method? m.sub = none := by
  have hverdict := verdict ho policy m
  rw [htarget] at hverdict
  cases hverdict with
  | inherited start hstart habstract hown => exact ⟨start, hstart, habstract, hown⟩

theorem method?_of_concreteTarget_eq_abstract (ho : v.hierarchy.Ordered) {d}
    (htarget : v.concreteTarget policy m = .error (.abstractMethod d)) :
    d.sub = m.sub ∧ ∃ e, v.method? d = some e ∧ e.isAbstract = true := by
  have hverdict := verdict ho policy m
  rw [htarget] at hverdict
  cases hverdict with
  | unimplemented e he hsub habstract => exact ⟨hsub, e, he, habstract⟩

end View

/-- The outcome of a call means what it says, however much a view of a universe hides. A class is not in
the view exactly if it is the class of the call and is not resolved. There is no implementation exactly
if neither a resolved class of the chain declares the method nor an interface that resolved interfaces
lead to. There is silently no target only for an abstract class that does not declare the method
itself. An abstract method that is reported is one that the view resolves as abstract. -/
theorem concreteTarget_kinds (u : Universe) (hroot : u.Rooted) (hidden : ClassName → Bool)
    (policy : DiamondPolicy) (m : MethodSignature) :
    let v := u.view.hide hidden
    let target := v.concreteTarget policy m
    (∀ c, target = .error (.classNotInView c) ↔ c = m.owner ∧ v.class? m.owner = none) ∧
    (∀ n, target = .error (.noConcreteImplementation n) ↔
      n = m ∧ ∃ start, v.class? m.owner = some start ∧
        (∀ c ∈ m.owner :: u.hierarchy.superclasses m.owner, v.method? ⟨c, m.sub⟩ = none) ∧
        ∀ i, v.Reaches (v.chain start) i → v.method? ⟨i, m.sub⟩ = none) ∧
    (target = .ok none → ∃ start, v.class? m.owner = some start ∧ start.isAbstract = true ∧
      start.method? m.sub = none) ∧
    ∀ d, target = .error (.abstractMethod d) →
      d.sub = m.sub ∧ ∃ e, v.method? d = some e ∧ e.isAbstract = true := by
  intro v target
  have ho : v.hierarchy.Ordered := hroot.ordered
  have hv : v.Agrees := u.view_agrees.hide hidden
  exact ⟨fun _ => View.concreteTarget_eq_classNotInView_iff ho,
    fun _ => View.concreteTarget_eq_noConcrete_iff ho hv,
    View.abstract_of_concreteTarget_eq_none ho,
    fun _ => View.method?_of_concreteTarget_eq_abstract ho⟩

/-- With `Left` hidden, all that `Derived` inherits is the abstract method of `Top`. -/
theorem concreteTarget_kinds_diamond :
    let v := whole.view.hide (· == name "Left")
    v.concreteTarget .strict ⟨name "Derived", run⟩ = .error (.abstractMethod ⟨name "Top", run⟩) ∧
    ∃ e, v.method? ⟨name "Top", run⟩ = some e ∧ e.isAbstract = true := by
  intro v
  have htarget : v.concreteTarget .strict ⟨name "Derived", run⟩ =
      .error (.abstractMethod ⟨name "Top", run⟩) := by cbv
  have hkinds := concreteTarget_kinds whole rooted (· == name "Left") .strict ⟨name "Derived", run⟩
  exact ⟨htarget, (hkinds.2.2.2 _ htarget).2⟩

end Devirt

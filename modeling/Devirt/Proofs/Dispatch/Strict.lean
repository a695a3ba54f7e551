import Devirt.Proofs.Dispatch.Outcome

/-!
# The strict policy

Strict dispatch chooses among all declarations that lie above a class, although the search behind it
turns back at the first one on every branch. It refuses some calls that dispatch by order of discovery
accepts, and never chooses another target.
-/

namespace Devirt

open Relation Devirt.Graph Diamond

/-! ## All inherited declarations -/

/-- Every declaration of a method in an interface above its class, whether or not the way to it leads
past another one. -/
def Universe.interfaceDeclarations (u : Universe) (m : MethodSignature) : Set MethodDeclaration :=
  {d | ∃ i, u.hierarchy.HasInterface m.owner i ∧ u.view.method? ⟨i, m.sub⟩ = some d}

namespace Universe

variable {u : Universe} {m : MethodSignature} {start : ClassDeclaration}

theorem interface_path_within {i j} (hpath : ReflTransGen (Edge u.hierarchy.interfaces) j i)
    (hi : i ∈ u.classes.map (·.name)) : j ∈ u.classes.map (·.name) ∧
      ReflTransGen (EdgeWithin u.hierarchy.interfaces (u.classes.map (·.name))) j i := by
  induction hpath using ReflTransGen.head_induction_on with
  | refl => exact ⟨hi, .refl⟩
  | head hab _ ih =>
      have ha := mem_names_of_mem_supertypes (Hierarchy.mem_supertypes_of_mem_interfaces hab)
      exact ⟨ha, .head ⟨hab, ih.1⟩ ih.2⟩

/-- Nothing is hidden in a universe, so every declared interface above a class is reached. -/
theorem reaches_of_hasInterface {a i} (hstart : u.view.class? a = some start)
    (hi : u.hierarchy.HasInterface a i) (hdeclared : i ∈ u.classes.map (·.name)) :
    u.view.Reaches (u.view.chain start) i := by
  obtain ⟨b, hb, j, hj, hpath⟩ := hi
  obtain ⟨hjn, hpath⟩ := interface_path_within hpath hdeclared
  have hbn := mem_names_of_mem_supertypes (Hierarchy.mem_supertypes_of_mem_interfaces hj)
  obtain ⟨d, hd⟩ := (View.mem_names_iff (v := u.view)).mp hbn
  have hjd : j ∈ d.interfaces := by
    rw [u.view_agrees b d hd]
    exact hj
  exact ⟨j, List.mem_flatMap.mpr ⟨d, (View.mem_chain hstart).mpr ⟨b, hb, hd⟩, hjd⟩, hjn, hpath⟩

theorem byOwner_interfaceDeclarations : Hierarchy.ByOwner (u.interfaceDeclarations m) := by
  rintro a ⟨i, _, ha⟩ b ⟨j, _, hb⟩
  exact View.byOwner_declarations a (View.mem_declarations ha) b (View.mem_declarations hb)

theorem exists_found_of_inherited (hstart : u.view.class? m.owner = some start) {d}
    (hd : d ∈ u.interfaceDeclarations m) :
    ∃ e ∈ u.view.found (u.view.chain start) m.sub, u.hierarchy.isSubclass e.owner d.owner := by
  obtain ⟨i, hi, hd⟩ := hd
  obtain ⟨c, hc, _⟩ := View.method?_eq_some_iff.mp hd
  have hreach := reaches_of_hasInterface hstart hi (View.mem_names_iff.mpr ⟨c, hc⟩)
  exact View.exists_found u.view_agrees hreach hd

theorem found_subset_interfaceDeclarations (hstart : u.view.class? m.owner = some start) {d}
    (hd : d ∈ u.view.found (u.view.chain start) m.sub) : d ∈ u.interfaceDeclarations m := by
  obtain ⟨i, hi, hd⟩ := View.mem_found.mp hd
  have hreach := View.reaches_of_mem_searchedInterfaces u.view_agrees hi
  exact ⟨i, View.hasInterface_of_reaches u.view_agrees hstart hreach, hd⟩

theorem interfaceDeclarations_eq_empty_iff (hstart : u.view.class? m.owner = some start) :
    u.interfaceDeclarations m = ∅ ↔
      (u.view.searchDefaults (u.view.chain start) m.sub).candidates = [] := by
  rw [View.candidates_eq_nil_iff]
  constructor
  · intro hempty
    refine List.eq_nil_iff_forall_not_mem.mpr fun d hd => ?_
    simpa [hempty] using found_subset_interfaceDeclarations hstart hd
  · intro hnil
    refine Set.eq_empty_iff_forall_notMem.mpr fun d hd => ?_
    obtain ⟨e, he, _⟩ := exists_found_of_inherited hstart hd
    simp [hnil] at he

/-- The competition among the declarations that were found has the winners of the competition among
all declarations. -/
theorem mem_mostSpecific_candidates (hroot : u.Rooted) (hstart : u.view.class? m.owner = some start)
    {d} : d ∈ u.hierarchy.mostSpecific
        (u.view.searchDefaults (u.view.chain start) m.sub).candidates ↔
      d ∈ u.hierarchy.maximallySpecific (u.interfaceDeclarations m) := by
  refine hroot.ordered.mem_mostSpecific_of_cover byOwner_interfaceDeclarations ?_ ?_
  · intro b hb
    exact found_subset_interfaceDeclarations hstart (View.mem_candidates.mp hb)
  · intro c hc
    obtain ⟨b, hb, hbc⟩ := exists_found_of_inherited hstart hc
    exact ⟨b, View.mem_candidates.mpr hb, hbc⟩

theorem maximallySpecific_eq_singleton_iff (hroot : u.Rooted)
    (hstart : u.view.class? m.owner = some start) {b} :
    u.hierarchy.maximallySpecific (u.interfaceDeclarations m) = {b} ↔
      u.hierarchy.mostSpecific
        (u.view.searchDefaults (u.view.chain start) m.sub).candidates = [b] := by
  constructor
  · intro hbest
    have hnodup := Hierarchy.nodup_mostSpecific (h := u.hierarchy)
      (u.view.searchDefaults_sound (u.view.chain start) m.sub).nodup
    refine ((List.perm_ext_iff_of_nodup hnodup (by simp)).mpr fun d => ?_).eq_singleton
    rw [mem_mostSpecific_candidates hroot hstart, hbest]
    simp
  · intro hbest
    ext d
    rw [← mem_mostSpecific_candidates hroot hstart, hbest]
    simp

end Universe

/-- Strict dispatch follows the rule of the maximally specific declaration. Where no class declares a
method, `all` are the declarations in all interfaces above its class, and `best` the maximally specific
ones. There is no implementation exactly if there is no declaration. If the search found some default
method, the only best declaration decides, and several are ambiguous. If it found none, then no best
declaration is implemented. -/
theorem concreteTarget_strict (u : Universe) (hroot : u.Rooted) (m : MethodSignature)
    (start : ClassDeclaration) (hstart : u.view.class? m.owner = some start)
    (hnone : ∀ c ∈ m.owner :: u.hierarchy.superclasses m.owner, u.view.method? ⟨c, m.sub⟩ = none) :
    let all := u.interfaceDeclarations m
    let best := u.hierarchy.maximallySpecific all
    let search := u.view.searchDefaults (u.view.chain start) m.sub
    let target := u.view.concreteTarget .strict m
    (∀ n, target = .error (.noConcreteImplementation n) ↔ n = m ∧ all = ∅) ∧
    (search.defaults ≠ [] → ∀ d, best = {d} →
      target =
        if d.isAbstract then
          if start.isAbstract then .ok none else .error (.abstractMethod d.signature)
        else .ok (some d.signature)) ∧
    (search.defaults ≠ [] → (∀ d, best ≠ {d}) →
      ∃ candidates, target = .error (.ambiguousDefaultMethod m candidates) ∧
        candidates.Nodup ∧ 2 ≤ candidates.length ∧
        ∀ s, s ∈ candidates ↔ ∃ d ∈ best, d.signature = s) ∧
    (search.defaults = [] → all ≠ ∅ →
      (∀ d ∈ best, d.isAbstract) ∧
      ∃ d ∈ all, d.isAbstract ∧
        target = if start.isAbstract then .ok none else .error (.abstractMethod d.signature)) := by
  intro all best search target
  have htarget : target = View.searchOutcome u.hierarchy .strict start m search :=
    View.concreteTarget_of_searched hstart ((View.chain_declares_nothing hstart).mpr hnone)
  have hsound : search.Sound := u.view.searchDefaults_sound _ _
  have hempty : all = ∅ ↔ search.candidates = [] :=
    Universe.interfaceDeclarations_eq_empty_iff hstart
  have hbest : ∀ {d}, d ∈ u.hierarchy.mostSpecific search.candidates ↔ d ∈ best :=
    Universe.mem_mostSpecific_candidates hroot hstart
  have hsingle : ∀ {d}, best = {d} ↔ u.hierarchy.mostSpecific search.candidates = [d] :=
    Universe.maximallySpecific_eq_singleton_iff hroot hstart
  rw [htarget]
  refine ⟨fun n => ?_, fun hdefaults d hd => ?_, fun hdefaults hd => ?_, fun hdefaults hall => ?_⟩
  · rw [DefaultSearch.searchOutcome_eq_noConcrete_iff, hempty]
  · rw [DefaultSearch.searchOutcome_of_defaults hdefaults,
      hsound.defaultOutcome_of_singleton hroot.ordered (hsingle.mp hd)]
    rfl
  · rw [DefaultSearch.searchOutcome_of_defaults hdefaults]
    simp only [← hbest]
    exact hsound.defaultOutcome_of_not_singleton hroot.ordered hdefaults
      fun d hone => hd d (hsingle.mpr hone)
  · refine ⟨fun d hd => ?_, ?_⟩
    · exact hsound.abstract_of_no_default hdefaults
        (Hierarchy.mem_of_mem_mostSpecific (hbest.mpr hd))
    · obtain ⟨d, hd, houtcome⟩ :=
        DefaultSearch.exists_searchOutcome_of_no_default hdefaults (hempty.not.mp hall)
      exact ⟨d, Universe.found_subset_interfaceDeclarations hstart (View.mem_candidates.mp hd),
        hsound.abstract_of_no_default hdefaults hd, houtcome⟩

/-- `Derived` reaches `Top` directly and through `Left`, whose default method hides it. -/
theorem concreteTarget_strict_diamond :
    let m : MethodSignature := ⟨name "Derived", run⟩
    (∀ c ∈ m.owner :: whole.hierarchy.superclasses m.owner, whole.view.method? ⟨c, m.sub⟩ = none) ∧
    whole.hierarchy.maximallySpecific (whole.interfaceDeclarations m) =
      {method (name "Left") 0x0001} ∧
    whole.view.concreteTarget .strict m = .ok (some ⟨name "Left", run⟩) := by
  intro m
  have hstart : whole.view.class? m.owner =
      some (declare (name "Derived") 0x0001 (name "Base") [name "Top"] none) := by cbv
  have hnone : ∀ c ∈ m.owner :: whole.hierarchy.superclasses m.owner,
      whole.view.method? ⟨c, m.sub⟩ = none := by
    have hchain : m.owner :: whole.hierarchy.superclasses m.owner =
        [name "Derived", name "Base"] := by cbv
    rw [hchain]
    decide
  have hbest : whole.hierarchy.maximallySpecific (whole.interfaceDeclarations m) =
      {method (name "Left") 0x0001} :=
    (Universe.maximallySpecific_eq_singleton_iff rooted hstart).mpr (by cbv)
  have hdefaults : (whole.view.searchDefaults (whole.view.chain
      (declare (name "Derived") 0x0001 (name "Base") [name "Top"] none)) m.sub).defaults =
        [method (name "Left") 0x0001] := by cbv
  have hstrict := concreteTarget_strict whole rooted m _ hstart hnone
  exact ⟨hnone, hbest, hstrict.2.1 (by simp [hdefaults]) _ hbest⟩

/-! ## Strict dispatch and dispatch by order of discovery -/

/-- An outcome of a call refines another one: the two agree, or the other one is a target and the call
is refused. -/
def Refines (strict free : Except DispatchError (Option MethodSignature)) : Prop :=
  strict = free ∨ (∃ t, free = .ok (some t)) ∧ ∀ t, strict ≠ .ok (some t)

namespace Refines

variable {strict free : Except DispatchError (Option MethodSignature)}

theorem error (h : Refines strict free) {e} (he : free = .error e) : strict = .error e := by
  rcases h with hsame | ⟨⟨t, ht⟩, _⟩
  · exact hsame.trans he
  · simp [ht] at he

theorem none (h : Refines strict free) (hnone : free = .ok none) : strict = .ok none := by
  rcases h with hsame | ⟨⟨t, ht⟩, _⟩
  · exact hsame.trans hnone
  · simp [ht] at hnone

theorem target (h : Refines strict free) {t} (ht : strict = .ok (some t)) :
    free = .ok (some t) := by
  rcases h with hsame | ⟨_, hrefused⟩
  · exact hsame.symm.trans ht
  · exact absurd ht (hrefused t)

end Refines

namespace DefaultSearch

variable {search : DefaultSearch} {h : Hierarchy} {start : ClassDeclaration} {m : MethodSignature}

theorem Sound.defaultOutcome_refines (hs : search.Sound) (ho : h.Ordered)
    (hdefaults : search.defaults ≠ []) :
    Refines (View.defaultOutcome h .strict start m search)
      (View.defaultOutcome h .discoveryOrder start m search) := by
  obtain ⟨d, _, hfree⟩ : ∃ d ∈ search.defaults,
      View.defaultOutcome h .discoveryOrder start m search = .ok (some d.signature) :=
    exists_default_target ho hdefaults
  cases competition ho hdefaults with
  | implemented best hbest hconcrete =>
      left
      rw [hs.defaultOutcome_of_implemented ho hbest hconcrete, defaultOutcome_discoveryOrder,
        hs.mostSpecific_defaults ho hbest hconcrete]
      rfl
  | unimplemented best hbest habstract =>
      refine Or.inr ⟨⟨d.signature, hfree⟩, fun t => ?_⟩
      rw [defaultOutcome_of_unimplemented hbest habstract]
      exact abstractOutcome_ne_some
  | several a b rest hbest =>
      refine Or.inr ⟨⟨d.signature, hfree⟩, fun t => ?_⟩
      rw [defaultOutcome_of_several hbest]
      simp

theorem Sound.searchOutcome_refines (hs : search.Sound) (ho : h.Ordered) :
    Refines (View.searchOutcome h .strict start m search)
      (View.searchOutcome h .discoveryOrder start m search) := by
  cases search.finding with
  | nothing hdefaults habstracts =>
      left
      rw [searchOutcome_of_nothing hdefaults habstracts,
        searchOutcome_of_nothing hdefaults habstracts]
  | onlyAbstract d hdefaults hd =>
      left
      rw [searchOutcome_of_onlyAbstract hdefaults hd, searchOutcome_of_onlyAbstract hdefaults hd]
  | defaults hdefaults =>
      rw [searchOutcome_of_defaults hdefaults, searchOutcome_of_defaults hdefaults]
      exact hs.defaultOutcome_refines ho hdefaults

/-- Where a single implemented declaration has won the competition, the choice among the default
methods is not ambiguous any more. -/
theorem Sound.length_mostSpecific_defaults (hs : search.Sound) (ho : h.Ordered)
    (hdefaults : search.defaults ≠ []) (hlength : (h.mostSpecific search.candidates).length ≤ 1)
    (hconcrete : ∀ d, (h.mostSpecific search.candidates).head? = some d → d.isAbstract = false) :
    (h.mostSpecific search.defaults).length ≤ 1 := by
  cases competition ho hdefaults with
  | implemented best hbest himplemented =>
      rw [hs.mostSpecific_defaults ho hbest himplemented]
      simp
  | unimplemented best hbest habstract =>
      have himplemented := hconcrete best (by rw [hbest]; rfl)
      simp [habstract] at himplemented
  | several a b rest hbest =>
      rw [hbest, List.length_cons, List.length_cons] at hlength
      omega

end DefaultSearch

theorem View.concreteTarget_refines {v : View} (ho : v.hierarchy.Ordered) (m : MethodSignature) :
    Refines (v.concreteTarget .strict m) (v.concreteTarget .discoveryOrder m) := by
  cases v.stage m with
  | unresolved hstart =>
      left
      rw [concreteTarget_of_unresolved hstart, concreteTarget_of_unresolved hstart]
  | declared start d hstart hd =>
      left
      rw [concreteTarget_of_declared hstart hd, concreteTarget_of_declared hstart hd]
  | searched start hstart hnone =>
      rw [concreteTarget_of_searched hstart hnone, concreteTarget_of_searched hstart hnone]
      exact (v.searchDefaults_sound (v.chain start) m.sub).searchOutcome_refines ho

/-- However much a view of a universe hides, strict dispatch fails where dispatch by order of discovery
fails, finds nothing to run where that finds nothing, and finds no other target. A strict call that
has come past the competition of all declarations is left with at most one default method that is
maximally specific. -/
theorem strict_refines_discoveryOrder (u : Universe) (hroot : u.Rooted)
    (hidden : ClassName → Bool) (m : MethodSignature) :
    let v := u.view.hide hidden
    (∀ e, v.concreteTarget .discoveryOrder m = .error e → v.concreteTarget .strict m = .error e) ∧
    (v.concreteTarget .discoveryOrder m = .ok none → v.concreteTarget .strict m = .ok none) ∧
    (∀ t, v.concreteTarget .strict m = .ok (some t) →
      v.concreteTarget .discoveryOrder m = .ok (some t)) ∧
    ∀ start, v.class? m.owner = some start →
      (v.chain start).findSome? (·.method? m.sub) = none →
      let search := v.searchDefaults (v.chain start) m.sub
      let competing := v.hierarchy.mostSpecific (search.defaults ++ search.abstracts)
      search.defaults ≠ [] → competing.length ≤ 1 →
      (∀ d, competing.head? = some d → d.isAbstract = false) →
      (v.hierarchy.mostSpecific search.defaults).length ≤ 1 := by
  intro v
  have ho : v.hierarchy.Ordered := hroot.ordered
  have hrefines := View.concreteTarget_refines ho m
  refine ⟨fun _ => hrefines.error, hrefines.none, fun _ => hrefines.target, ?_⟩
  intro start _ _ search competing hdefaults hlength hconcrete
  have hsound : search.Sound := v.searchDefaults_sound _ _
  exact hsound.length_mostSpecific_defaults ho hdefaults hlength hconcrete

/-- Strict dispatch to `Left` is dispatch to `Left` in the order of discovery, with `Right` hidden. -/
theorem strict_refines_discoveryOrder_diamond :
    let v := whole.view.hide (· == name "Right")
    v.concreteTarget .strict ⟨name "Derived", run⟩ = .ok (some ⟨name "Left", run⟩) ∧
    v.concreteTarget .discoveryOrder ⟨name "Derived", run⟩ = .ok (some ⟨name "Left", run⟩) := by
  intro v
  have hstrict : v.concreteTarget .strict ⟨name "Derived", run⟩ = .ok (some ⟨name "Left", run⟩) := by
    cbv
  exact ⟨hstrict, (strict_refines_discoveryOrder whole rooted _ _).2.2.1 _ hstrict⟩

end Devirt
